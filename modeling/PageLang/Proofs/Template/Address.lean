import PageLang.Proofs.Template.Visible

/-!
# Addresses that run no script

Before a browser reads the scheme of an address it drops control characters and blanks in front,
and tabs and line breaks anywhere. An address is `Harmless` if what is then left does not start
with the scheme of a script, in small or capital letters. The check that is made drops more than a
browser does, all blanks and control characters anywhere, and looks at the first eleven characters
that are left; none of this lets a script through:

> `neutralize_harmless`: what is written in place of an address is harmless.
> `addresses_harmless`: so is every address on a page, in every state.
-/

namespace PageLang

namespace Markup

open Text (isBlank isControl inRanges)

/-- An address as a browser reads it: nothing at or below the blank in front, and no tab or line
break. -/
def stripped (url : String) : List Char :=
  (url.toList.dropWhile (· ≤ ' ')).filter fun c => c ≠ '\t' ∧ c ≠ '\n' ∧ c ≠ '\r'

/-- An address that runs no script in a browser. -/
def Harmless (url : String) : Prop :=
  ∀ scheme ∈ ["javascript:", "vbscript:"], ¬ scheme.toList <+: (stripped url).map Char.toLower

instance (url : String) : Decidable (Harmless url) := List.decidableBAll ..

/-- The characters of an address that are looked at. -/
def isSignificant (c : Char) : Bool := !isBlank c && !isControl c

theorem isSignificant_iff {c : Char} :
    isSignificant c = true
      ↔ ∀ r ∈ Text.blankRanges ++ [(0x00, 0x1F), (0x7F, 0x9F)],
        ¬ (r.1 ≤ c.toNat ∧ c.toNat ≤ r.2) := by
  simp only [isSignificant, isBlank, isControl, inRanges, ← Bool.not_or, ← List.any_append,
    Bool.not_eq_true', List.any_eq_false, Bool.and_eq_true, decide_eq_true_eq]

theorem not_le_of_isSignificant {c : Char} (h : isSignificant c = true) : ¬ c ≤ ' ' := by
  intro hle
  have hnat : c.toNat ≤ 32 := hle
  have hcontrol := isSignificant_iff.mp h (0x00, 0x1F) (by decide)
  have hblank := isSignificant_iff.mp h (0x20, 0x20) (by decide)
  omega

/-- Capital letters are looked at, and nothing else has another form in small letters. -/
theorem isSignificant_of_toLower {c : Char} (h : isSignificant c.toLower = true) :
    isSignificant c = true := by
  by_cases hupper : 65 ≤ c.toNat ∧ c.toNat ≤ 90
  · have hranges : ∀ r ∈ Text.blankRanges ++ [(0x00, 0x1F), (0x7F, 0x9F)], r.2 < 65
        ∨ 90 < r.1 := by decide
    refine isSignificant_iff.mpr fun r hr => ?_
    have := hranges r hr
    omega
  · have hsame : c.toLower = c := by
      refine dif_neg fun hletter => hupper ?_
      exact ⟨UInt32.le_iff_toNat_le.mp hletter.1, UInt32.le_iff_toNat_le.mp hletter.2⟩
    rwa [hsame] at h

/-- Nothing that is looked at is dropped by a browser. -/
theorem filter_stripped (url : String) :
    (stripped url).filter isSignificant = url.toList.filter isSignificant := by
  have hfront : (url.toList.takeWhile (· ≤ ' ')).filter isSignificant = [] := by
    refine List.filter_eq_nil_iff.mpr fun c hc hsig => not_le_of_isSignificant hsig ?_
    exact of_decide_eq_true (List.all_eq_true.mp List.all_takeWhile c hc)
  rw [stripped, List.filter_filter]
  calc (url.toList.dropWhile (· ≤ ' ')).filter _
      = (url.toList.dropWhile (· ≤ ' ')).filter isSignificant := by
        refine List.filter_congr fun c _ => ?_
        cases hsig : isSignificant c with
        | false => rfl
        | true =>
          have hne {d : Char} (hd : d ≤ ' ') : c ≠ d := by
            rintro rfl
            exact not_le_of_isSignificant hsig hd
          simp only [Bool.true_and, decide_eq_true_eq]
          exact ⟨hne (by decide), hne (by decide), hne (by decide)⟩
    _ = (url.toList.takeWhile (· ≤ ' ') ++ url.toList.dropWhile (· ≤ ' ')).filter
        isSignificant := by
        rw [List.filter_append, hfront, List.nil_append]
    _ = url.toList.filter isSignificant := by rw [List.takeWhile_append_dropWhile]

/-- What is looked at of an address starts with the scheme of a script. -/
def SpellsScript (url : String) : Prop :=
  ∃ scheme ∈ ["javascript:", "vbscript:"],
    scheme.toList <+: (url.toList.filter isSignificant).map Char.toLower

/-- The first eleven of the characters that are looked at are enough. -/
theorem runsScript_iff {url : String} : runsScript url = true ↔ SpellsScript url := by
  have hlength : ∀ scheme ∈ scriptSchemes, scheme.toList.length ≤ 11 := by decide
  rw [runsScript, List.any_eq_true]
  refine exists_congr fun scheme => and_congr_right fun hscheme => ?_
  rw [List.isPrefixOf_iff_prefix, addressStart, List.map_take, List.prefix_take_iff]
  exact and_iff_left (hlength scheme hscheme)

/-- An address that passes the check is harmless. -/
theorem harmless_of_not_runsScript {url : String} (h : runsScript url = false) : Harmless url := by
  have hscheme : ∀ scheme ∈ scriptSchemes, scheme.toList.all isSignificant = true := by decide
  intro scheme hmem hstarts
  have hruns : runsScript url = true := by
    refine runsScript_iff.mpr ⟨scheme, hmem, ?_⟩
    -- The letters of the scheme are looked at, so they come first among all that are.
    obtain ⟨letters, ⟨rest, hletters⟩, hlower⟩ := List.prefix_map_iff.mp hstarts
    have hkept : letters.filter isSignificant = letters := by
      refine List.filter_eq_self.mpr fun c hc => isSignificant_of_toLower ?_
      refine List.all_eq_true.mp (hscheme scheme hmem) _ ?_
      rw [hlower]
      exact List.mem_map_of_mem hc
    rw [← filter_stripped, ← hletters, List.filter_append, hkept, List.map_append, ← hlower]
    exact List.prefix_append _ _
  rw [h] at hruns
  cases hruns

/-- **What is written in place of an address is harmless.** -/
theorem neutralize_harmless (url : String) : Harmless (neutralize url) := by
  unfold neutralize
  split
  · decide +kernel
  · next h => exact harmless_of_not_runsScript (by simpa using h)

end Markup

open Markup (Harmless SpellsScript attr escape fill neutralize)

/-- An attribute that is an address. -/
structure AddressAttr where
  /-- The element up to the attribute. -/
  opening : String
  name : String
  /-- The address as it is written on the page, with its markers. -/
  value : String
  deriving DecidableEq

/-- The address of a link or an image. -/
def Node.address? (n : Node) : Option AddressAttr :=
  match n.element with
  | .link => some ⟨"<a class=\"qcl-link\"", "href", (n.property? "href").getD "#"⟩
  | .image => (n.property? "src").map fun src => ⟨"<img class=\"qcl-image\"", "src", src⟩
  | _ => none

/-- The address is filled, checked and escaped, and stands right after the start of the element. -/
theorem Direct.node_of_address {n : Node} {a : AddressAttr} (h : n.address? = some a)
    (layout : Markup.Layout) (s : State) (depth : Nat) :
    ∃ rest, Direct.node layout s depth n
      = layout.lineStart depth ++ a.opening ++ attr a.name (neutralize (fill s a.value))
        ++ rest := by
  obtain ⟨kind, properties, content, children, state, line⟩ := n
  unfold Node.address? at h
  rw [Direct.node]
  cases helement : Node.element ⟨kind, properties, content, children, state, line⟩ with
  | link =>
    simp only [helement] at h
    cases h
    simp only [Frame.container, Frame.line, Frame.linkAttrs, Direct.urlAttr, String.append_assoc]
    exact ⟨_, rfl⟩
  | image =>
    simp only [helement] at h
    obtain ⟨src, hsrc, rfl⟩ := Option.map_eq_some_iff.mp h
    simp only [Direct.image, hsrc, Frame.image, Frame.line, Direct.urlAttr, String.append_assoc]
    exact ⟨_, rfl⟩
  | box | text | button | input | textarea | select | checkbox | divider | conditional
  | state | generic =>
    simp only [helement] at h
    cases h

/-- **No address on a page runs a script.** In every state with the declared entries, the markup
of every link and image that is seen stands in that of the page. The value of its address
attribute is an escaped text that is harmless to a browser: the address as it was written with its
markers filled, or a number sign in place of one that spells the scheme of a script. -/
theorem addresses_harmless (o : GenerateOptions) (p : Page) (s : State) (h : SameEntries s p.state)
    (n : Node) (hn : Node.Reaches (Node.OpensIn s) p.root.children n) (a : AddressAttr)
    (ha : n.address? = some a) : ∃ depth before after,
      (Artifact.generate o p).template.render s = before ++ Direct.node o.layout s depth n ++ after
      ∧ ∃ u rest, Direct.node o.layout s depth n
          = o.layout.lineStart depth ++ a.opening ++ " " ++ a.name ++ "=\"" ++ escape u
            ++ "\"" ++ rest
        ∧ Harmless u
        ∧ (u = fill s a.value ∨ u = "#" ∧ SpellsScript (fill s a.value)) := by
  have hrender : (Artifact.generate o p).template.render s
      = Direct.nodes o.layout s 0 p.root.children :=
    (Lowering.writes_nodes h 0 p.root.children).render_ofSteps
  obtain ⟨depth, before, after, hwithin⟩ := Direct.within_of_reaches hn o.layout 0
  obtain ⟨rest, hnode⟩ := Direct.node_of_address ha o.layout s depth
  refine ⟨depth, before, after, hrender.trans hwithin, neutralize (fill s a.value), rest, ?_,
    Markup.neutralize_harmless _, ?_⟩
  · simp only [hnode, attr, String.append_assoc]
  · unfold neutralize
    split
    · next hruns => exact .inr ⟨rfl, Markup.runsScript_iff.mp hruns⟩
    · exact .inl rfl

/-- A link behind a condition whose address a state entry makes into a script. -/
def scriptLink : Node :=
  { kind := "Link", properties := .ofList [("href", " jAvA\x7brest\x7d")], content :=
    "go", line := 3 }

@[inherit_doc scriptLink]
def scriptGate : Node :=
  { kind := "If", properties := .ofList [("condition", "on == 1")], children :=
    [scriptLink], line := 2 }

@[inherit_doc scriptLink]
def scriptPage : Page where
  root := { kind := "Page", children := [scriptGate], line := 1 }
  state := .ofList [("on", .number 1), ("rest", .text "\tscript:go()")]

/-- The address of the link. -/
def scriptAddress : AddressAttr := ⟨"<a class=\"qcl-link\"", "href", " jAvA\x7brest\x7d"⟩

theorem addresses_harmless_scriptPage :
    let s := State.initial scriptPage.state
    SameEntries s scriptPage.state
      ∧ Node.Reaches (Node.OpensIn s) scriptPage.root.children scriptLink
      ∧ scriptLink.address? = some scriptAddress
      ∧ SpellsScript (fill s scriptAddress.value)
      ∧ ∃ depth before after,
          (Artifact.generate {} scriptPage).template.render s = before ++ Direct.node
            {} s depth scriptLink ++ after
          ∧ ∃ u rest, Direct.node {} s depth scriptLink
              = Markup.Layout.lineStart {} depth ++ scriptAddress.opening ++ " "
                ++ scriptAddress.name ++ "=\""
                ++ escape u ++ "\"" ++ rest
            ∧ Harmless u
            ∧ (u = fill s scriptAddress.value
              ∨ u = "#" ∧ SpellsScript (fill s scriptAddress.value)) := by
  intro s
  have hsame : SameEntries s scriptPage.state := fun name => by
    show name ∈ (State.initial scriptPage.state).keys ↔ _
    rw [State.initial, OrderedMap.keys_mapValues]
  have hopens : Node.OpensIn s scriptGate := by decide +kernel
  have hreaches : Node.Reaches (Node.OpensIn s) scriptPage.root.children scriptLink :=
    .inside (List.mem_singleton_self _) hopens (.top (List.mem_singleton_self _))
  have haddress : scriptLink.address? = some scriptAddress := by decide +kernel
  have hruns : Markup.runsScript (fill s scriptAddress.value) = true := by decide +kernel
  have hharmless :=
    addresses_harmless {} scriptPage s hsame scriptLink hreaches scriptAddress haddress
  exact ⟨hsame, hreaches, haddress, Markup.runsScript_iff.mp hruns, hharmless⟩

-- The check is made on the address in the state and not on the one that was written.
example : (Artifact.generate {} scriptPage).template.render (State.initial scriptPage.state)
    = "<a class=\"qcl-link\" href=\"#\">go</a>\n" := by
  decide +kernel

end PageLang
