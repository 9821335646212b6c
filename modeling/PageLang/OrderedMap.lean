/-!
# Maps in insertion order

A map from strings that remembers the order in which its keys were first inserted. Overwriting a key
changes its value and keeps its place. That no key occurs twice is part of the type.
-/

namespace PageLang

/-- A finite map from strings, its entries in the order of their first insertion. -/
structure OrderedMap (α : Type) where
  entries : List (String × α)
  keys_nodup : (entries.map Prod.fst).Nodup

namespace OrderedMap

variable {α β : Type}

/-- The entries after `key` got `value`: in its old place if it had one, else at the end. -/
def insertEntry (key : String) (value : α) : List (String × α) → List (String × α)
  | [] => [(key, value)]
  | (k, v) :: rest => if k = key then (key, value) :: rest else (k, v) :: insertEntry key value rest

/-- A new key goes to the end, a known one keeps its place. -/
theorem fst_insertEntry (key : String) (value : α) (entries : List (String × α)) :
    (insertEntry key value entries).map Prod.fst =
      if key ∈ entries.map Prod.fst then entries.map Prod.fst else entries.map Prod.fst
        ++ [key] := by
  induction entries with
  | nil => simp [insertEntry]
  | cons e rest ih =>
    obtain ⟨k, v⟩ := e
    by_cases h : k = key
    · simp [insertEntry, h]
    · have h' : ¬ key = k := fun e => h e.symm
      by_cases hm : key ∈ rest.map Prod.fst <;> simp_all [insertEntry]

/-- No key is there twice. -/
theorem nodup_insertEntry (key : String) (value : α) {entries : List (String × α)}
    (h : (entries.map Prod.fst).Nodup) : ((insertEntry key value entries).map Prod.fst).Nodup := by
  rw [fst_insertEntry]
  split
  · exact h
  · next hm => exact List.nodup_append.2 ⟨h, by simp, fun a ha b hb => by
      rw [List.mem_singleton.1 hb]; exact fun e => hm (e ▸ ha)⟩

/-- A new entry is appended. -/
theorem insertEntry_of_not_mem {key : String} {value : α} {entries : List (String × α)}
    (h : key ∉ entries.map Prod.fst) :
    insertEntry key value entries = entries ++ [(key, value)] := by
  induction entries with
  | nil => rfl
  | cons e rest ih =>
    obtain ⟨k, v⟩ := e
    rw [List.map_cons, List.mem_cons, not_or] at h
    rw [insertEntry, if_neg fun heq => h.1 heq.symm, ih h.2, List.cons_append]

/-- The map without entries. -/
def empty : OrderedMap α := ⟨[], List.nodup_nil⟩

instance : EmptyCollection (OrderedMap α) := ⟨empty⟩

instance : Inhabited (OrderedMap α) := ⟨empty⟩

/-- The map after `key` got `value`. -/
def insert (m : OrderedMap α) (key : String) (value : α) : OrderedMap α :=
  ⟨insertEntry key value m.entries, nodup_insertEntry key value m.keys_nodup⟩

/-- The map that the entries give when inserted one after the other. -/
def ofList (entries : List (String × α)) : OrderedMap α :=
  entries.foldl (fun m e => m.insert e.1 e.2) empty

/-- The keys in order. -/
def keys (m : OrderedMap α) : List String := m.entries.map Prod.fst

/-- The value of a key. -/
def get? (m : OrderedMap α) (key : String) : Option α := m.entries.lookup key

/-- Whether a key has a value. -/
def contains (m : OrderedMap α) (key : String) : Bool := (m.get? key).isSome

/-- How many entries there are. -/
def size (m : OrderedMap α) : Nat := m.entries.length

/-- Whether there are no entries. -/
def isEmpty (m : OrderedMap α) : Bool := m.entries.isEmpty

/-- The map without a key; the others keep their order. -/
def erase (m : OrderedMap α) (key : String) : OrderedMap α where
  entries := m.entries.filter (·.1 ≠ key)
  keys_nodup := (List.filter_sublist.map Prod.fst).nodup m.keys_nodup

/-- The map with a function applied to every value. -/
def mapValues (f : α → β) (m : OrderedMap α) : OrderedMap β where
  entries := m.entries.map fun e => (e.1, f e.2)
  keys_nodup := by simpa [Function.comp_def] using m.keys_nodup

/-- A map is determined by its entries. -/
@[ext]
theorem ext_entries {m n : OrderedMap α} (h : m.entries = n.entries) : m = n := by
  cases m; cases n; congr

/-- A new key goes to the end of the keys. -/
@[simp]
theorem keys_insert (m : OrderedMap α) (key : String) (value : α) :
    (m.insert key value).keys = if key ∈ m.keys then m.keys else m.keys ++ [key] :=
  fst_insertEntry key value m.entries

/-- The keys grow by the one inserted. -/
theorem mem_keys_insert {m : OrderedMap α} {key k : String} {value : α} :
    k ∈ (m.insert key value).keys ↔ k = key ∨ k ∈ m.keys := by
  rw [keys_insert]
  split
  · next hmem =>
    refine ⟨.inr, ?_⟩
    rintro (rfl | h)
    · exact hmem
    · exact h
  · rw [List.mem_append, List.mem_singleton, or_comm]

/-- Mapping values keeps the keys and their order. -/
@[simp]
theorem keys_mapValues (f : α → β) (m : OrderedMap α) : (m.mapValues f).keys = m.keys := by
  simp [keys, mapValues, Function.comp_def]

/-- A value is found mapped. -/
@[simp]
theorem get?_mapValues (f : α → β) (m : OrderedMap α) (key : String) :
    (m.mapValues f).get? key = (m.get? key).map f := by
  show (m.entries.map fun e => (e.1, f e.2)).lookup key = (m.entries.lookup key).map f
  induction m.entries with
  | nil => rfl
  | cons e rest ih =>
    obtain ⟨k, v⟩ := e
    rw [List.map_cons, List.lookup_cons, List.lookup_cons]
    cases key == k with
    | true => rfl
    | false => exact ih

/-- The value last inserted is found; the others stay. -/
theorem lookup_insertEntry (key k : String) (value : α) (entries : List (String × α)) :
    (insertEntry key value entries).lookup k = if k
      = key then some value else entries.lookup k := by
  have lookup (k' : String) (v : α) (rest : List (String × α)) :
      ((k', v) :: rest).lookup k = if k = k' then some v else rest.lookup k := by
    by_cases h : k = k'
    · simp [h]
    · rw [List.lookup_cons, beq_false_of_ne h, if_neg h]
  induction entries with
  | nil => rw [insertEntry, lookup]
  | cons e rest ih =>
    obtain ⟨k', v⟩ := e
    by_cases hk : k' = key
    · rw [insertEntry, if_pos hk, lookup, lookup, hk]
      split <;> rfl
    · rw [insertEntry, if_neg hk, lookup, lookup, ih]
      by_cases h : k = k'
      · rw [if_pos h, if_pos h, if_neg (h ▸ hk)]
      · rw [if_neg h, if_neg h]

theorem mapValues_mapValues {γ : Type} (g : β → γ) (f : α → β) (m : OrderedMap α) :
    (m.mapValues f).mapValues g = m.mapValues (g ∘ f) := by
  apply ext_entries
  show (m.entries.map fun e => (e.1, f e.2)).map (fun e => (e.1, g e.2)) = m.entries.map fun e =>
      (e.1, (g ∘ f) e.2)
  rw [List.map_map]
  rfl

/-- Values can be mapped before they are inserted. -/
theorem mapValues_insert (f : α → β) (m : OrderedMap α) (key : String) (value : α) :
    (m.insert key value).mapValues f = (m.mapValues f).insert key (f value) := by
  apply ext_entries
  show (insertEntry key value m.entries).map (fun e => (e.1, f e.2))
    = insertEntry key (f value) (m.entries.map fun e => (e.1, f e.2))
  induction m.entries with
  | nil => rfl
  | cons e rest ih =>
    obtain ⟨k, v⟩ := e
    rw [List.map_cons, insertEntry, insertEntry, ← ih]
    split <;> rfl

/-- An inserted key has the inserted value, and every other key has the value it had. -/
@[simp]
theorem get?_insert (m : OrderedMap α) (key k : String) (value : α) :
    (m.insert key value).get? k = if k = key then some value else m.get? k :=
  lookup_insertEntry key k value m.entries

/-- A map contains its keys. -/
theorem contains_iff {m : OrderedMap α} {key : String} :
    m.contains key = true ↔ key ∈ m.keys := by
  unfold contains get? keys
  rw [List.lookup_isSome_iff, List.mem_map]
  constructor
  · rintro ⟨e, he, hkey⟩
    exact ⟨e, he, (eq_of_beq hkey).symm⟩
  · rintro ⟨e, he, rfl⟩
    exact ⟨e, he, BEq.rfl⟩

/-- What is found is an entry. -/
theorem mem_entries_of_get? {m : OrderedMap α} {key : String} {value : α}
    (h : m.get? key = some value) : (key, value) ∈ m.entries := by
  obtain ⟨before, after, hentries, -⟩ := List.lookup_eq_some_iff.mp h
  rw [hentries]
  exact List.mem_append_right _ (List.mem_cons_self ..)

/-- Inserting adds no entry but the new one. -/
theorem mem_insertEntry {key : String} {value : α} {entries : List (String × α)} {e : String × α}
    (h : e ∈ insertEntry key value entries) : e = (key, value) ∨ e ∈ entries := by
  induction entries with
  | nil => exact .inl (List.mem_singleton.mp h)
  | cons d rest ih =>
    obtain ⟨k, v⟩ := d
    rw [insertEntry] at h
    split at h
    · exact (List.mem_cons.mp h).imp_right (List.mem_cons_of_mem _)
    · rcases List.mem_cons.mp h with rfl | h
      · exact .inr (List.mem_cons_self ..)
      · exact (ih h).imp_right (List.mem_cons_of_mem _)

/-- Every entry of a map is one it was made from. -/
theorem mem_of_mem_ofList {entries : List (String × α)} {e : String × α}
    (h : e ∈ (ofList entries).entries) : e ∈ entries := by
  suffices hfold : ∀ m : OrderedMap α, e ∈ (entries.foldl (fun m e => m.insert e.1 e.2) m).entries →
      e ∈ m.entries ∨ e ∈ entries from (hfold empty h).resolve_left List.not_mem_nil
  clear h
  induction entries with
  | nil => exact fun m h => .inl h
  | cons d rest ih =>
    intro m h
    rcases ih (m.insert d.1 d.2) h with h | h
    · rcases mem_insertEntry h with rfl | h
      · exact .inr (List.mem_cons_self ..)
      · exact .inl h
    · exact .inr (List.mem_cons_of_mem _ h)

/-- The keys of a map are those it was made from. -/
theorem mem_keys_ofList {entries : List (String × α)} {key : String} :
    key ∈ (ofList entries).keys ↔ key ∈ entries.map Prod.fst := by
  suffices hfold : ∀ m : OrderedMap α, key ∈ (entries.foldl (fun m e => m.insert e.1 e.2) m).keys
      ↔ key ∈ m.keys ∨ key ∈ entries.map Prod.fst
        from (hfold empty).trans (or_iff_right List.not_mem_nil)
  induction entries with
  | nil => exact fun m => (or_iff_left List.not_mem_nil).symm
  | cons e rest ih =>
    intro m
    rw [List.foldl_cons, ih, mem_keys_insert, List.map_cons, List.mem_cons, or_assoc, or_left_comm]

/-- When a key is inserted several times, the last value counts. -/
theorem get?_ofList (entries : List (String × α)) (key : String) :
    (ofList entries).get? key = entries.reverse.lookup key := by
  suffices hfold : ∀ m : OrderedMap α, (entries.foldl (fun m e => m.insert e.1 e.2) m).get? key
      = (entries.reverse.lookup key).or (m.get? key) from (hfold empty).trans Option.or_none
  induction entries with
  | nil => exact fun m => rfl
  | cons e rest ih =>
    intro m
    have hlookup : ([e] : List (String × α)).lookup key = if key = e.1 then some e.2 else none := by
      by_cases h : key = e.1
      · rw [List.lookup_cons, beq_iff_eq.mpr h, if_pos h]
      · rw [List.lookup_cons, beq_false_of_ne h, if_neg h]
        rfl
    rw [List.foldl_cons, ih, List.reverse_cons, List.lookup_append, hlookup, get?_insert,
      Option.or_assoc]
    split <;> rfl

/-- Keys stand in the order of their first insertion. -/
theorem keys_ofList (entries : List (String × α)) :
    (ofList entries).keys = (entries.map Prod.fst).eraseDups := by
  suffices hfold : ∀ m : OrderedMap α, (entries.foldl (fun m e => m.insert e.1 e.2) m).keys
      = m.keys ++ ((entries.map Prod.fst).filter (· ∉ m.keys)).eraseDups by
    have hempty : (empty : OrderedMap α).keys = [] := rfl
    rw [ofList, hfold, hempty, List.nil_append, List.filter_eq_self.mpr (by simp)]
  induction entries with
  | nil => exact fun m => (List.append_nil _).symm
  | cons e rest ih =>
    intro m
    rw [List.foldl_cons, ih, keys_insert, List.map_cons]
    by_cases hmem : e.1 ∈ m.keys
    · rw [if_pos hmem, List.filter_cons_of_neg (by simpa using hmem)]
    · have hfilter : (rest.map Prod.fst).filter (· ∉ m.keys ++ [e.1])
          = ((rest.map Prod.fst).filter (· ∉ m.keys)).filter fun k => !k == e.1 := by
        rw [List.filter_filter]
        refine List.filter_congr fun k _ => ?_
        by_cases hk : k = e.1 <;> simp [hk]
      rw [if_neg hmem, List.filter_cons_of_pos (by simpa using hmem), List.eraseDups_cons, hfilter,
        List.append_assoc, List.singleton_append]

instance [DecidableEq α] : DecidableEq (OrderedMap α) := fun m n =>
  decidable_of_iff (m.entries = n.entries) ⟨ext_entries, fun h => h ▸ rfl⟩

instance [Repr α] : Repr (OrderedMap α) := ⟨fun m => reprPrec m.entries⟩

end OrderedMap

end PageLang
