import PageLang.Json.Basic
import PageLang.Json.Draft
import PageLang.OrderedMap

/-!
# Values of a wanted shape

Readers go through a draft in the order of the text and stop at the first fault. A record is
written as an object, whose members nobody asks for are skipped, or as an array of its fields in
their order. A member that is asked for must not occur twice, while a later entry of a map
replaces an earlier one. Containers nest at most `maxDepth` deep, except inside what is skipped.
-/

namespace PageLang.Json

/-- How deep containers may nest. -/
def maxDepth : Nat := 127

/-- The depth inside one more container. -/
def deeper (depth : Nat) : Except Fault Nat :=
  if depth < maxDepth then .ok (depth + 1) else .error .malformed

/-- The fault that ended a container, if there was one. -/
def checkCut : Option Fault → Except Fault Unit
  | none => .ok ()
  | some f => .error f

/-- How a value is made of a draft that lies a number of containers deep. -/
abbrev Reader (α : Type) := Nat → Draft → Except Fault α

/-- Reads a text whole: nothing but blanks may follow the value. -/
def readText {α : Type} (read : Reader α) (text : String) : Except Fault α := do
  let (d, rest) := draft text.toList
  let a ← read 0 d
  match rest with
  | some rest => if skipSpacing rest = [] then .ok a else .error .malformed
  | none => .ok a

namespace Draft

variable {α σ : Type}

/-- What is wrong with a draft that is not of the wanted shape. A container is refused at its
opening bracket, any other token once it has been read. -/
def refusal : Draft → Fault
  | .broken f => f
  | .unreadable _ f _ => f
  | _ => .mismatch

/-- A string. -/
def string : Reader String
  | _, .str s => .ok s
  | _, d => .error d.refusal

/-- A natural number, written without point and exponent. -/
def natural : Reader Nat
  | _, .int n => if n < 0 then .error .mismatch else .ok n.toNat
  | _, d => .error d.refusal

/-- One of several named alternatives, written as its name or as an object of the name and `null`.
Any other value is refused at its first character. -/
def alternative (ofName : String → Option α) : Reader α
  | _, .str s => match ofName s with
    | some a => .ok a
    | none => .error .mismatch
  | _, .broken f => .error f
  | _, .unreadable .string f _ => .error f
  | depth, .obj [] cut => do
    let _ ← deeper depth
    .error (cut.getD .malformed)
  | depth, .obj ((key, value) :: more) cut => do
    let _ ← deeper depth
    let some a := ofName (← key) | .error .mismatch
    match value, more, cut with
    | .null, [], none => .ok a
    | .null, [], some f => .error f
    | .null, _ :: _, _ => .error .malformed
    | d, _, _ => .error d.refusal
  | _, _ => .error .malformed

/-- The members of an object one after the other. -/
def foldMembers (step : σ → String → Draft → Except Fault σ) (s : σ) :
    List (Except Fault String × Draft) → Except Fault σ
  | [] => .ok s
  | (key, value) :: members => do foldMembers step (← step s (← key) value) members

/-- The items of an array as the fields of the given names. -/
def foldItems (step : σ → String → Draft → Except Fault σ) (s : σ) :
    List String → List Draft → Except Fault σ
  | name :: names, item :: items => do foldItems step (← step s name item) names items
  | [], _ :: _ => .error .malformed
  | _, [] => .ok s

/-- A record with fields of the given names, read field by field into `s`. -/
def record (names : List String) (step : Nat → σ → String → Draft → Except Fault σ) (s : σ) :
    Reader σ
  | depth, .obj members cut => do
    let s ← foldMembers (step (← deeper depth)) s members
    checkCut cut
    .ok s
  | depth, .arr items cut => do
    let s ← foldItems (step (← deeper depth)) s names items
    checkCut cut
    .ok s
  | _, d => .error d.refusal

/-- The items of an array. -/
def listItems (read : Draft → Except Fault α) : List Draft → Except Fault (List α)
  | [] => .ok []
  | item :: items => do
    let a ← read item
    let as ← listItems read items
    .ok (a :: as)

/-- An array. -/
def list (read : Reader α) : Reader (List α)
  | depth, .arr items cut => do
    let as ← listItems (read (← deeper depth)) items
    checkCut cut
    .ok as
  | _, d => .error d.refusal

/-- An object as a map. -/
def map (read : Reader α) : Reader (OrderedMap α)
  | depth, .obj members cut => do
    let depth ← deeper depth
    let m ← foldMembers (fun m key value => do .ok (m.insert key (← read depth value))) ∅ members
    checkCut cut
    .ok m
  | _, d => .error d.refusal

/-- A field that must not have been read before. -/
def once (field : Option α) (value : Except Fault α) : Except Fault (Option α) :=
  match field with
  | some _ => .error .mismatch
  | none => some <$> value

/-- A field without which there is no record. -/
def required : Option α → Except Fault α
  | some a => .ok a
  | none => .error .mismatch

mutual

/-- What goes wrong when a value is skipped. -/
def skip : Draft → Except Fault Unit
  | .broken f => .error f
  | .unreadable _ _ (some f) => .error f
  | .arr items cut => do
    skipItems items
    checkCut cut
  | .obj members cut => do
    skipMembers members
    checkCut cut
  | _ => .ok ()

/-- What goes wrong when items are skipped. -/
def skipItems : List Draft → Except Fault Unit
  | [] => .ok ()
  | item :: items => do
    skip item
    skipItems items

/-- What goes wrong when members are skipped. -/
def skipMembers : List (Except Fault String × Draft) → Except Fault Unit
  | [] => .ok ()
  | (_, value) :: members => do
    skip value
    skipMembers members

end

mutual

/-- The whole value that a draft stands for, `depth` containers deep. -/
def toJson (depth : Nat) : Draft → Except Fault Json
  | .broken f => .error f
  | .unreadable _ f _ => .error f
  | .null => .ok .null
  | .bool b => .ok (.bool b)
  | .int n => .ok (.int n)
  | .float x => .ok (.float x)
  | .str s => .ok (.str s)
  | .arr items cut => do
    let items ← itemsToJson (← deeper depth) items
    checkCut cut
    .ok (.arr items)
  | .obj members cut => do
    let members ← membersToJson (← deeper depth) members
    checkCut cut
    .ok (.obj members)

/-- The whole values of items. -/
def itemsToJson (depth : Nat) : List Draft → Except Fault (List Json)
  | [] => .ok []
  | item :: items => do
    let j ← toJson depth item
    let js ← itemsToJson depth items
    .ok (j :: js)

/-- The whole members of an object. -/
def membersToJson (depth : Nat) : List (Except Fault String × Draft) →
    Except Fault (List (String × Json))
  | [] => .ok []
  | (key, value) :: members => do
    let k ← key
    let j ← toJson depth value
    let js ← membersToJson depth members
    .ok ((k, j) :: js)

end

/-- The kind that a name stands for. -/
def kindNamed {κ : Type} (ofName : String → Option κ) (name : String) : Except Fault κ :=
  match ofName name with
  | some kind => .ok kind
  | none => .error .mismatch

/-- One member of a tagged object: its kind, or a member that is read whole. -/
def taggedMember {κ : Type} (ofName : String → Option κ) (depth : Nat)
    (s : Option κ × List (String × Json)) (key : String) (value : Draft) :
    Except Fault (Option κ × List (String × Json)) := do
  if key = "type" then
    .ok (← once s.1 (do kindNamed ofName (← string depth value)), s.2)
  else
    .ok (s.1, s.2 ++ [(key, ← toJson depth value)])

/-- A value of a tagged kind: an object whose member `type` names the kind, or an array that
starts with the name. The name is looked up as soon as it is met; the other members, or items, are
read whole. -/
def tagged {κ : Type} (ofName : String → Option κ) : Reader (κ × Json)
  | depth, .obj members cut => do
    let (kind, rest) ← foldMembers (taggedMember ofName (← deeper depth)) (none, []) members
    checkCut cut
    .ok (← required kind, .obj rest)
  | depth, .arr [] cut => do
    let _ ← deeper depth
    .error (cut.getD .mismatch)
  | depth, .arr (item :: items) cut => do
    let depth ← deeper depth
    let kind ← kindNamed ofName (← string depth item)
    let rest ← itemsToJson depth items
    checkCut cut
    .ok (kind, .arr rest)
  | _, d => .error d.refusal

end Draft

/-- The value that a text spells. -/
def parse (text : String) : Except Fault Json := readText Draft.toJson text

end PageLang.Json
