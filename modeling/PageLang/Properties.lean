import PageLang.OrderedMap
import PageLang.Text.Blank
import PageLang.Text.Letter
import PageLang.Text.Search

/-!
# Properties and content of a line

After its tag a line holds `key: value` pairs separated by commas and then, after a further colon,
its content. Commas and colons inside quotes and brackets separate nothing. A text that begins
with a colon is all content, and so is one whose first piece is no pair; a later piece that is no
pair is set aside.

`ofText` is `split_properties`, `find?` is `find_top_level`, `pieces?` is `split_top_level`,
`key?` is `read_key` and `put` is `insert`. The loop over what remains of the text is the
recursion `addPairs`. Places count characters where the text is cut at a comma or a colon, which
are one byte long; `pieces?` takes any separator and goes on one byte behind its start, as
`split_top_level` does, so it has to say what comes of a place inside a character.
-/

namespace PageLang

open Text (isAlphanumeric isQuote trim trimStart stored)

/-- What a line holds after its tag. -/
structure Properties where
  pairs : OrderedMap String := ∅
  content : String := ""
  /-- The pieces between commas that are no pairs. -/
  skipped : List String := []
  deriving DecidableEq, Repr

namespace Properties

/-- An opening bracket. -/
def isOpening (c : Char) : Bool := c = '(' || c = '[' || c = '\x7b'

/-- A closing bracket. -/
def isClosing (c : Char) : Bool := c = ')' || c = ']' || c = '\x7d'

/-- Where the first character that `stop` marks stands outside quotes and brackets, and which it is;
`depth` brackets and perhaps a quote are open at the start. A closing bracket without partner is
ignored. -/
def findFrom (stop : Char → Bool) : (depth : Nat) → (quote : Option Char) → List Char →
    Option (Nat × Char)
  | _, _, [] => none
  | depth, some q, c :: rest =>
    (findFrom stop depth (if c = q then none else some q) rest).map fun f => (f.1 + 1, f.2)
  | depth, none, c :: rest =>
    if isQuote c then (findFrom stop depth (some c) rest).map fun f => (f.1 + 1, f.2)
    else if isOpening c then (findFrom stop (depth + 1) none rest).map fun f => (f.1 + 1, f.2)
    else if isClosing c then (findFrom stop (depth - 1) none rest).map fun f => (f.1 + 1, f.2)
    else if depth = 0 && stop c then some (0, c)
    else (findFrom stop depth none rest).map fun f => (f.1 + 1, f.2)

/-- Where the first character that `stop` marks stands outside quotes and brackets. -/
def find? (stop : Char → Bool) (cs : List Char) : Option (Nat × Char) := findFrom stop 0 none cs

/-- The trimmed pieces of a text between the separators outside quotes and brackets. After a
separator no quote and no bracket is open. The search goes on one byte behind the start of the
separator, and where this is inside a character there are no pieces. -/
def pieces? (separator : Char) (cs : List Char) : Option (List (List Char)) :=
  match find? (· = separator) cs with
  | none => some [trim cs]
  | some (n, _) =>
    match _hrest : Text.fromByte? (Text.byteLength (cs.take n) + 1) cs with
    | none => none
    | some rest => (pieces? separator rest).map (trim (cs.take n) :: ·)
termination_by cs.length
decreasing_by exact Text.length_fromByte?_lt _hrest

/-- The characters of a key. -/
def isKeyChar (c : Char) : Bool := isAlphanumeric c || c = '_' || c = '-' || c = '.'

/-- The length of the key that a text begins with, and the place just after the colon that follows
it, with blanks or tabs at most between them. -/
def key? (cs : List Char) : Option (Nat × Nat) :=
  let n := (cs.takeWhile isKeyChar).length
  let gap := ((cs.drop n).takeWhile fun c => c = ' ' || c = '\t').length
  match cs.drop (n + gap) with
  | ':' :: _ => if n = 0 then none else some (n, n + gap + 1)
  | _ => none

/-- The properties with one more pair. The value loses its quotes, and a pair without value is left
out. -/
def put (p : Properties) (key value : List Char) : Properties :=
  let value := stored value
  if key = [] || value = [] then p
  else { p with pairs := p.pairs.insert (String.ofList key) (String.ofList value) }

/-- The properties with one more piece set aside, if there is something in it. -/
def setAside (p : Properties) (piece : List Char) : Properties :=
  if piece = [] || piece.head? = some ':' then p
  else { p with skipped := p.skipped ++ [String.ofList piece] }

/-- The properties after the pairs of a text have been added. -/
def addPairs (p : Properties) (first : Bool) : List Char → Properties
  | [] => p
  | c :: rest =>
    let cs := c :: rest
    match key? cs with
    | none =>
      if first then { p with content := String.ofList (trim cs) }
      else
        let n := match find? (· = ',') cs with
          | some (n, _) => n
          | none => cs.length
        addPairs (p.setAside (trim (cs.take n))) false (trimStart (rest.drop n))
    | some (n, start) =>
      let key := cs.take n
      let region := cs.drop start
      match find? (fun c => c = ',' || c = ':') region with
      | none => p.put key region
      | some (k, stop) =>
        if stop = ',' then
          addPairs (p.put key (region.take k)) false (trimStart (region.drop (k + 1)))
        else
          { p.put key (region.take k) with content := String.ofList (trim (region.drop (k + 1))) }
termination_by cs => cs.length
decreasing_by
  all_goals
    refine Nat.lt_of_le_of_lt (Text.length_trimStart_le _) ?_
    simp only [List.length_cons, List.length_drop]
    omega

/-- The properties and the content of a text. -/
def ofText (text : List Char) : Properties :=
  match trim text with
  | [] => {}
  | ':' :: content => { content := String.ofList (trim content) }
  | cs =>
    if (find? (· = ':') cs).isSome then addPairs {} true cs
    else if (find? (· = ',') cs).isSome then
      { skipped := (((pieces? ',' cs).getD []).filter (· ≠ [])).map String.ofList }
    else { content := String.ofList cs }

end Properties

end PageLang
