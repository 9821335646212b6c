import PageLang.Node.Data
import PageLang.Proofs.Json.Text

/-!
# Reading back values of a known shape

A value is `Readable` when its containers do not nest too deep and its numbers survive being
written. What is written of a readable value is drafted as the value itself (`Draft.whole`), so
that

> reading its text, compact or spread over lines, is reading its parts (`Readable.readText_eq`).

The rest of this module says what the readers of lists, maps, records and tagged records make of a
whole value that has the shape they want.
-/

namespace PageLang.Json

/-! ## Numbers and nesting -/

mutual

/-- The values in a value that are no containers. -/
def scalars : Json → List Json
  | .arr items => itemScalars items
  | .obj members => memberScalars members
  | j => [j]

/-- The values in items that are no containers. -/
def itemScalars : List Json → List Json
  | [] => []
  | item :: items => item.scalars ++ itemScalars items

/-- The values in members that are no containers. -/
def memberScalars : List (String × Json) → List Json
  | [] => []
  | (_, value) :: members => value.scalars ++ memberScalars members

end

mutual

/-- How many containers lie inside one another at most. -/
def nesting : Json → Nat
  | .arr items => itemNesting items + 1
  | .obj members => memberNesting members + 1
  | _ => 0

/-- The deepest nesting among items. -/
def itemNesting : List Json → Nat
  | [] => 0
  | item :: items => max item.nesting (itemNesting items)

/-- The deepest nesting among the values of members. -/
def memberNesting : List (String × Json) → Nat
  | [] => 0
  | (_, value) :: members => max value.nesting (memberNesting members)

end

/-- Writing and reading give the number again. -/
def ReadsBack (x : Float) : Prop := parse (compact (.float x)) = .ok (.float x)

/-- A scalar that comes through writing and reading: a fractional number that reads back, a whole
number that is a natural number of 64 bits, as every number of a line is, or anything else. -/
def Survives : Json → Prop
  | .float x => ReadsBack x
  | .int n => 0 ≤ n ∧ n ≤ maxWord
  | _ => True

/-- A value that can be read back: not nested too deep, and with scalars that come through. -/
structure Readable (j : Json) : Prop where
  nesting : j.nesting ≤ maxDepth
  scalars : ∀ s ∈ j.scalars, s.Survives

/-! ## Whole values -/

/-- A value as a draft in which nothing is wrong. -/
def Draft.whole : Json → Draft := Draft.ofJson .int .float

/-- Members as drafts in which nothing is wrong. -/
def Draft.wholeMembers : List (String × Json) → List (Except Fault String × Draft) :=
  Draft.ofMembers .int .float

mutual

/-- The draft of a value depends on how its own numbers are drafted. -/
theorem Draft.ofJson_congr {f f' : Int → Draft} {g g' : Float → Draft} (j : Json)
    (hf : ∀ n, .int n ∈ j.scalars → f n = f' n) (hg : ∀ x, .float x ∈ j.scalars → g x = g' x) :
    Draft.ofJson f g j = Draft.ofJson f' g' j := by
  match j with
  | .null => rfl
  | .bool b => rfl
  | .int n => exact hf n List.mem_cons_self
  | .float x => exact hg x List.mem_cons_self
  | .str s => rfl
  | .arr items => rw [Draft.ofJson, Draft.ofJson, Draft.ofItems_congr items hf hg]
  | .obj members => rw [Draft.ofJson, Draft.ofJson, Draft.ofMembers_congr members hf hg]

theorem Draft.ofItems_congr {f f' : Int → Draft} {g g' : Float → Draft} (items : List Json)
    (hf : ∀ n, .int n ∈ itemScalars items → f n = f' n)
    (hg : ∀ x, .float x ∈ itemScalars items → g x = g' x) :
    Draft.ofItems f g items = Draft.ofItems f' g' items := by
  match items with
  | [] => rfl
  | item :: items =>
    rw [Draft.ofItems, Draft.ofItems,
      Draft.ofJson_congr item (fun n hn => hf n (List.mem_append_left _ hn))
        (fun x hx => hg x (List.mem_append_left _ hx)),
      Draft.ofItems_congr items (fun n hn => hf n (List.mem_append_right _ hn))
        (fun x hx => hg x (List.mem_append_right _ hx))]

theorem Draft.ofMembers_congr {f f' : Int → Draft} {g g' : Float → Draft}
    (members : List (String × Json)) (hf : ∀ n, .int n ∈ memberScalars members → f n = f' n)
    (hg : ∀ x, .float x ∈ memberScalars members → g x = g' x) :
    Draft.ofMembers f g members = Draft.ofMembers f' g' members := by
  match members with
  | [] => rfl
  | (key, value) :: members =>
    rw [Draft.ofMembers, Draft.ofMembers,
      Draft.ofJson_congr value (fun n hn => hf n (List.mem_append_left _ hn))
        (fun x hx => hg x (List.mem_append_left _ hx)),
      Draft.ofMembers_congr members (fun n hn => hf n (List.mem_append_right _ hn))
        (fun x hx => hg x (List.mem_append_right _ hx))]

end

/-- A number reads back just when its numeral is scanned as it. -/
theorem readsBack_iff {x : Float} : ReadsBack x ↔ Draft.writtenFloat x = .float x := by
  have hparse : parse (compact (.float x)) = Draft.toJson 0 (Draft.writtenFloat x) :=
    readText_compact _ _
  rw [ReadsBack, hparse]
  constructor
  · intro hread
    rw [Draft.writtenFloat] at hread ⊢
    split at hread
    · next hx =>
      rw [if_pos hx]
      -- Of all that may be scanned only a fractional number is parsed as one.
      cases hnumber : (scanNumber (floatText x)).read with
      | error f =>
        rw [hnumber] at hread
        cases hread
      | ok n =>
        rw [hnumber] at hread
        cases n with
        | int n => cases hread
        | float y =>
          cases hread
          rfl
    · cases hread
  · intro heq
    rw [heq]
    rfl

/-- A natural number that fits into a word is read back as it is. -/
theorem writtenInt_eq {n : Int} (hn : 0 ≤ n) (hmax : n ≤ maxWord) :
    Draft.writtenInt n = .int n := by
  obtain ⟨k, rfl⟩ := Int.eq_ofNat_of_zero_le hn
  rw [Draft.writtenInt, read_intNumeral (Int.ofNat_le.mp hmax)]
  rfl

/-- A readable value is drafted whole: none of its numbers is changed by writing. -/
theorem Readable.written_eq {j : Json} (h : j.Readable) : Draft.written j = Draft.whole j := by
  refine Draft.ofJson_congr j (fun n hn => ?_) (fun x hx => ?_)
  · have hn' : 0 ≤ n ∧ n ≤ maxWord := h.scalars (.int n) hn
    exact writtenInt_eq hn'.1 hn'.2
  · exact readsBack_iff.mp (h.scalars (.float x) hx)

instance (x : Float) : Decidable (ReadsBack x) :=
  match hdraft : Draft.writtenFloat x with
  | .float y => decidable_of_iff (y = x) (by rw [readsBack_iff, hdraft, Draft.float.injEq])
  | .null | .bool _ | .int _ | .str _ | .arr _ _ | .obj _ _ | .broken _ | .unreadable _ _ _ =>
    .isFalse (by rw [readsBack_iff, hdraft]; nofun)

instance (j : Json) : Decidable j.Survives :=
  match j with
  | .float x => inferInstanceAs (Decidable (ReadsBack x))
  | .int n => inferInstanceAs (Decidable (0 ≤ n ∧ n ≤ maxWord))
  | .null | .bool _ | .str _ | .arr _ | .obj _ => .isTrue trivial

instance (j : Json) : Decidable j.Readable :=
  decidable_of_iff (j.nesting ≤ maxDepth ∧ ∀ s ∈ j.scalars, s.Survives)
    ⟨fun h => ⟨h.1, h.2⟩, fun h => ⟨h.nesting, h.scalars⟩⟩

/-- What a reader makes of a text of a readable value. -/
theorem Readable.readText_eq {α : Type} {j : Json} (h : j.Readable) (read : Reader α) :
    readText read (compact j) = read 0 (.whole j)
      ∧ readText read (pretty j) = read 0 (.whole j) := by
  rw [readText_compact, readText_pretty, h.written_eq]
  exact ⟨rfl, rfl⟩

/-! ## Depth -/

/-- A value that lies `depth` containers deep does not nest too deep. -/
def Fits (depth : Nat) (j : Json) : Prop := depth + j.nesting ≤ maxDepth

/-- An item nests no deeper than all items together. -/
theorem nesting_le_itemNesting {item : Json} {items : List Json} (h : item ∈ items) :
    item.nesting ≤ itemNesting items := by
  induction items with
  | nil => cases h
  | cons j items ih =>
    rw [itemNesting]
    rcases List.mem_cons.mp h with rfl | h
    · exact Nat.le_max_left ..
    · exact Nat.le_trans (ih h) (Nat.le_max_right ..)

/-- A value nests no deeper than all members together. -/
theorem nesting_le_memberNesting {key : String} {value : Json} {members : List (String × Json)}
    (h : (key, value) ∈ members) : value.nesting ≤ memberNesting members := by
  induction members with
  | nil => cases h
  | cons member members ih =>
    obtain ⟨k, v⟩ := member
    rw [memberNesting]
    rcases List.mem_cons.mp h with heq | h
    · cases heq
      exact Nat.le_max_left ..
    · exact Nat.le_trans (ih h) (Nat.le_max_right ..)

namespace Fits

variable {depth : Nat} {items : List Json} {members : List (String × Json)}

/-- Where an array fits, there is one level more. -/
theorem deeper_arr (h : Fits depth (.arr items)) : deeper depth = .ok (depth + 1) := by
  rw [Fits, Json.nesting] at h
  exact if_pos (by omega)

/-- Where an object fits, there is one level more. -/
theorem deeper_obj (h : Fits depth (.obj members)) : deeper depth = .ok (depth + 1) := by
  rw [Fits, Json.nesting] at h
  exact if_pos (by omega)

/-- The items of an array that fits fit one level deeper. -/
theorem item (h : Fits depth (.arr items)) {j : Json} (hj : j ∈ items) : Fits (depth + 1) j := by
  have hle := nesting_le_itemNesting hj
  rw [Fits, Json.nesting] at h
  rw [Fits]
  omega

/-- The values of an object that fits fit one level deeper. -/
theorem member (h : Fits depth (.obj members)) (key : String) {value : Json}
    (hmem : (key, value) ∈ members) : Fits (depth + 1) value := by
  have hle := nesting_le_memberNesting hmem
  rw [Fits, Json.nesting] at h
  rw [Fits]
  omega

end Fits

/-! ## Values read whole -/

namespace Draft

mutual

/-- A value that fits is read back from its draft. -/
theorem toJson_whole {depth : Nat} (j : Json) (h : Fits depth j) :
    toJson depth (whole j) = .ok j := by
  match j with
  | .null => rfl
  | .bool b => rfl
  | .int n => rfl
  | .float x => rfl
  | .str s => rfl
  | .arr items =>
    show toJson depth (.arr (ofItems .int .float items) none) = _
    rw [toJson, h.deeper_arr]
    show (do let items ← itemsToJson (depth + 1) _; _) = _
    rw [itemsToJson_whole items fun j hj => h.item hj]
    rfl
  | .obj members =>
    show toJson depth (.obj (ofMembers .int .float members) none) = _
    rw [toJson, h.deeper_obj]
    show (do let members ← membersToJson (depth + 1) _; _) = _
    rw [membersToJson_whole members fun key _ hmem => h.member key hmem]
    rfl

/-- So are the items of an array. -/
theorem itemsToJson_whole {depth : Nat} (items : List Json) (h : ∀ j ∈ items, Fits depth j) :
    itemsToJson depth (ofItems .int .float items) = .ok items := by
  match items with
  | [] => rfl
  | item :: items =>
    have hitem := toJson_whole item (h item List.mem_cons_self)
    have hitems := itemsToJson_whole items fun j hj => h j (List.mem_cons_of_mem item hj)
    rw [whole] at hitem
    rw [ofItems, itemsToJson, hitem, hitems]
    rfl

/-- So are the members of an object. -/
theorem membersToJson_whole {depth : Nat} (members : List (String × Json))
    (h : ∀ key value, (key, value) ∈ members → Fits depth value) :
    membersToJson depth (ofMembers .int .float members) = .ok members := by
  match members with
  | [] => rfl
  | (key, value) :: members =>
    have hvalue := toJson_whole value (h key value List.mem_cons_self)
    have hmembers := membersToJson_whole members fun k v hmem => h k v (List.mem_cons_of_mem _ hmem)
    rw [whole] at hvalue
    rw [ofMembers, membersToJson, hvalue, hmembers]
    rfl

end

end Draft

/-- A readable value is parsed as itself. -/
theorem Readable.parse_eq {j : Json} (h : j.Readable) : parse (compact j) = .ok j := by
  rw [parse, (h.readText_eq _).1]
  exact Draft.toJson_whole j (by rw [Fits, Nat.zero_add]; exact h.nesting)

/-! ## Lists and maps -/

namespace Draft

variable {α σ : Type} {depth : Nat}

theorem ofItems_eq_map (items : List Json) : ofItems .int .float items = items.map whole := by
  induction items with
  | nil => rfl
  | cons item items ih =>
    rw [ofItems, ih]
    rfl

/-- A list is read back if each of its items is. -/
theorem listItems_map {read : Draft → Except Fault α} {f : α → Json} {as : List α}
    (h : ∀ a ∈ as, read (whole (f a)) = .ok a) :
    listItems read ((as.map f).map whole) = .ok as := by
  induction as with
  | nil => rfl
  | cons a as ih =>
    rw [List.map_cons, List.map_cons, listItems, h a List.mem_cons_self,
      ih fun b hb => h b (List.mem_cons_of_mem a hb)]
    rfl

/-- A list is read back if its items are. -/
theorem list_whole {read : Reader α} {f : α → Json} {as : List α}
    (hfits : Fits depth (.arr (as.map f))) (h : ∀ a ∈ as, Fits (depth + 1) (f a) →
      read (depth + 1) (whole (f a)) = .ok a) :
    list read depth (whole (.arr (as.map f))) = .ok as := by
  show list read depth (.arr (ofItems .int .float (as.map f)) none) = _
  rw [list, hfits.deeper_arr, ofItems_eq_map]
  show (do let as ← listItems (read (depth + 1)) _; _) = _
  rw [listItems_map fun a ha => h a ha (hfits.item (List.mem_map_of_mem ha))]
  rfl

/-- Members are read one after the other. -/
theorem foldMembers_cons (step : σ → String → Draft → Except Fault σ) (s : σ) (key : String)
    (value : Json) (members : List (String × Json)) :
    foldMembers step s (wholeMembers ((key, value) :: members))
      = (do foldMembers step (← step s key (whole value)) (wholeMembers members)) :=
  rfl

/-- Entries with new keys go to the end of the map one after the other. -/
theorem foldMembers_insert {read : Draft → Except Fault α} {f : α → Json} {m : OrderedMap α}
    {entries : List (String × α)} (hnodup : ((m.entries ++ entries).map Prod.fst).Nodup)
    (h : ∀ e ∈ entries, read (whole (f e.2)) = .ok e.2) :
    ∃ m', foldMembers (fun m key value => do .ok (m.insert key (← read value))) m
        (wholeMembers (entries.map fun e => (e.1, f e.2))) = .ok m'
      ∧ m'.entries = m.entries ++ entries := by
  induction entries generalizing m with
  | nil => exact ⟨m, rfl, (List.append_nil _).symm⟩
  | cons e entries ih =>
    obtain ⟨key, a⟩ := e
    -- The key is new, so that its entry goes to the end.
    have hkey : key ∉ m.entries.map Prod.fst := by
      intro hmem
      rw [List.map_append, List.nodup_append] at hnodup
      exact hnodup.2.2 key hmem key List.mem_cons_self rfl
    have hinsert : (m.insert key a).entries = m.entries ++ [(key, a)] :=
      OrderedMap.insertEntry_of_not_mem hkey
    obtain ⟨m', hfold, hm'⟩ := ih (m := m.insert key a)
      (by rw [hinsert, List.append_assoc]; exact hnodup) fun e he => h e (List.mem_cons_of_mem _ he)
    refine ⟨m', ?_, ?_⟩
    · rw [List.map_cons, foldMembers_cons, h (key, a) List.mem_cons_self]
      exact hfold
    · rw [hm', hinsert, List.append_assoc]
      rfl

/-- A map is read back, its entries in their order, if its values are. -/
theorem map_whole {read : Reader α} {f : α → Json} {m : OrderedMap α}
    (hfits : Fits depth (m.toJson f)) (h : ∀ e ∈ m.entries, Fits (depth + 1) (f e.2) →
      read (depth + 1) (whole (f e.2)) = .ok e.2) :
    map read depth (whole (m.toJson f)) = .ok m := by
  have hread : ∀ e ∈ m.entries, read (depth + 1) (whole (f e.2)) = .ok e.2 := by
    intro e he
    have hmem : (e.1, f e.2) ∈ m.entries.map fun e => (e.1, f e.2) := List.mem_map_of_mem he
    exact h e he (hfits.member e.1 hmem)
  obtain ⟨m', hfold, hentries⟩ := foldMembers_insert (m := ∅) (by exact m.keys_nodup) hread
  show map read depth (.obj (wholeMembers _) none) = _
  rw [map, hfits.deeper_obj]
  show (do let m ← foldMembers _ ∅ _; _) = _
  rw [hfold, OrderedMap.ext_entries (m := m') (n := m) hentries]
  rfl

end Draft

/-! ## Records -/

namespace Draft

variable {σ : Type} {depth : Nat} {s s' : σ}

/-- The members that are present, as drafts. -/
def present (members : List (String × Option Json)) : List (Except Fault String × Draft) :=
  wholeMembers (members.filterMap fun m => m.2.map (m.1, ·))

/-- A member that is present is read as a step. -/
theorem foldMembers_member {step : σ → String → Draft → Except Fault σ} {name : String}
    {value : Json} {members : List (String × Option Json)}
    (h : step s name (whole value) = .ok s') :
    foldMembers step s (present ((name, some value) :: members)) = foldMembers step s'
      (present members) := by
  show foldMembers step s
      (wholeMembers ((name, value) :: members.filterMap fun m => m.2.map (m.1, ·))) = _
  rw [foldMembers_cons, h]
  rfl

/-- A member that may be left out sets its field if it is there. -/
theorem foldMembers_once {β : Type} {step : σ → String → Draft → Except Fault σ} {name : String}
    {value : Option Json} {members : List (String × Option Json)}
    {read : Draft → Except Fault β} {b : β} (field : Option β → σ)
    (hstep : ∀ d, step (field none) name d = do return field (← once none (read d)))
    (h : ∀ j ∈ value, read (whole j) = .ok b) :
    foldMembers step (field none) (present ((name, value) :: members))
      = foldMembers step (field (value.map fun _ => b)) (present members) := by
  match value with
  | none => rfl
  | some j =>
    refine foldMembers_member ?_
    rw [hstep, h j rfl]
    rfl

/-- A record is read member by member. -/
theorem record_whole {names : List String} {step : Nat → σ → String → Draft → Except Fault σ}
    {members : List (String × Option Json)} (hfits : Fits depth (.object members)) :
    record names step s depth (whole (.object members)) = foldMembers (step (depth + 1)) s
      (present members) := by
  show record names step s depth (.obj (present members) none) = _
  rw [record, hfits.deeper_obj]
  show (do let s ← foldMembers (step (depth + 1)) s (present members); checkCut none; .ok s) = _
  cases foldMembers (step (depth + 1)) s (present members) with
  | ok s => rfl
  | error f => rfl

end Draft

/-- The fields of a record that fits fit one level deeper. -/
theorem Fits.field {depth : Nat} {members : List (String × Option Json)}
    (h : Fits depth (.object members)) (name : String) {value : Option Json}
    (hmem : (name, value) ∈ members) {j : Json} (hj : j ∈ value) : Fits (depth + 1) j :=
  h.member name (List.mem_filterMap.mpr ⟨(name, value), hmem, congrArg (Option.map (name, ·)) hj⟩)

theorem eq_of_mem_unlessEmpty {α : Type} {items : List α} {value j : Json}
    (h : j ∈ unlessEmpty items value) : j = value := by
  cases items with
  | nil => cases h
  | cons item items =>
    cases h
    rfl

/-- The default of a member that is left out when there is nothing in it. -/
theorem getD_unlessEmpty {α β : Type} {items : List α} {j : Json} {a b : β}
    (h : items = [] → a = b) : ((unlessEmpty items j).map fun _ => a).getD b = a := by
  cases items with
  | nil => exact (h rfl).symm
  | cons item items => rfl

/-! ## Tagged records -/

namespace Draft

variable {κ : Type} {depth : Nat} {ofName : String → Option κ} {kind : κ}

/-- Behind the kind, the members of a tagged record are kept as they are. -/
theorem foldMembers_taggedMember {members before : List (String × Json)}
    (hmembers : "type" ∉ members.map Prod.fst) (hfits : ∀ key value, (key, value) ∈ members →
      Fits depth value) :
    foldMembers (taggedMember ofName depth) (some kind, before) (wholeMembers members)
      = .ok (some kind, before ++ members) := by
  induction members generalizing before with
  | nil =>
    rw [List.append_nil]
    rfl
  | cons member members ih =>
    obtain ⟨key, value⟩ := member
    rw [List.map_cons, List.mem_cons, not_or] at hmembers
    have hstep : taggedMember ofName depth (some kind, before) key (whole value)
        = .ok (some kind, before ++ [(key, value)]) := by
      rw [taggedMember, if_neg fun heq => hmembers.1 heq.symm,
        toJson_whole value (hfits key value List.mem_cons_self)]
      rfl
    rw [foldMembers_cons, hstep]
    show foldMembers _ _ (wholeMembers members) = _
    rw [ih hmembers.2 fun k v hmem => hfits k v (List.mem_cons_of_mem _ hmem), List.append_assoc]
    rfl

/-- A tagged record gives its kind and its other members. -/
theorem tagged_whole {name : String} {members : List (String × Json)}
    (hname : ofName name = some kind) (hmembers : "type" ∉ members.map Prod.fst)
    (hfits : Fits depth (.obj (("type", .str name) :: members))) :
    tagged ofName depth (whole (.obj (("type", .str name) :: members)))
      = .ok (kind, .obj members) := by
  have htype : taggedMember ofName (depth + 1) (none, []) "type" (whole (.str name))
      = .ok (some kind, []) := by
    show (do .ok (← once none (do kindNamed ofName (← string (depth + 1) (.str name))), [])) = _
    rw [string]
    show (do .ok (← once none (kindNamed ofName name), [])) = _
    rw [kindNamed, hname]
    rfl
  -- The name of the kind is the first member, and the others are gathered after it.
  have hfold : foldMembers (taggedMember ofName (depth + 1)) (none, [])
      (wholeMembers (("type", .str name) :: members)) = .ok (some kind, members) := by
    rw [foldMembers_cons, htype]
    exact foldMembers_taggedMember hmembers fun key _ hmem =>
      hfits.member key (List.mem_cons_of_mem _ hmem)
  show tagged ofName depth (.obj (wholeMembers _) none) = _
  rw [tagged, hfits.deeper_obj]
  show (foldMembers (taggedMember ofName (depth + 1)) (none, []) _ >>= _) = _
  rw [hfold]
  rfl

end Draft

end PageLang.Json
