import PageLang.Page
import PageLang.Proofs.Component.Renumbering
import PageLang.Proofs.Document.Joining

/-!
# Libraries

The components of a library are at hand for a source text when they are registered beforehand, and
also when the text of the library stands in front of it. The two are the same to a page:

> `Page.compileWith_eq_compile`: the page and its state are the same both ways, but for the
> numbers of lines.

Registering beforehand checks no names, where the components of a source text are refused the
reserved ones. So the names of all components of a library matter, also of those defined inside
the body of another one: `Page.nested_state_component`.
-/

namespace PageLang

/-! ## What a registry defines -/

namespace Registry

variable (r : Registry) (cs : List Component) (name : String)

theorem get?_register (c : Component) :
    (r.register c).get? name = if c.name = name then some c else r.get? name := by
  show (insertDefinition c r.definitions).find? (·.name = name) = if c.name = name then some c
    else r.definitions.find? (·.name = name)
  induction r.definitions with
  | nil =>
    rw [insertDefinition, List.find?_cons]
    by_cases h : c.name = name <;> simp [h]
  | cons d rest ih =>
    rw [insertDefinition]
    by_cases hd : d.name = c.name
    · rw [if_pos hd, List.find?_cons, List.find?_cons, hd]
      by_cases h : c.name = name <;> simp [h]
    · rw [if_neg hd, List.find?_cons, List.find?_cons, ih]
      by_cases h : d.name = name
      · have hc : c.name ≠ name := fun hc => hd (h.trans hc.symm)
        simp [h, hc]
      · simp [h]

/-- When a name is registered several times, the last definition counts. -/
theorem get?_foldl_register :
    (cs.foldl register r).get? name = (cs.reverse.find? (·.name = name)).or (r.get? name) := by
  induction cs generalizing r with
  | nil => rfl
  | cons c cs ih =>
    rw [List.foldl_cons, ih, get?_register, List.reverse_cons, List.find?_append, Option.or_assoc]
    by_cases h : c.name = name <;> simp [h]

theorem extend_cons (c : Component) : (r.extend (c :: cs)).1 =
    if c.name ∈ reserved then (r.extend cs).1 else ((r.register c).extend cs).1 := by
  rw [extend]
  split
  · rfl
  · dsimp only
    split <;> rfl

/-- Further definitions of reserved names are left out. -/
theorem get?_extend : (r.extend cs).1.get? name =
    if name ∈ reserved then r.get? name else (cs.reverse.find? (·.name = name)).or
      (r.get? name) := by
  induction cs generalizing r with
  | nil => simp [extend]
  | cons c cs ih =>
    rw [extend_cons, List.reverse_cons, List.find?_append, Option.or_assoc]
    by_cases hc : c.name ∈ reserved
    · rw [if_pos hc, ih]
      by_cases hname : name ∈ reserved
      · rw [if_pos hname, if_pos hname]
      · have hne : c.name ≠ name := fun h => hname (h ▸ hc)
        simp [hname, hne]
    · rw [if_neg hc, ih, get?_register]
      by_cases hname : name ∈ reserved
      · have hne : c.name ≠ name := fun h => hc (h ▸ hname)
        rw [if_pos hname, if_pos hname, if_neg hne]
      · by_cases h : c.name = name <;> simp [hname, h]

end Registry

/-! ## Pages -/

namespace Page

theorem root_ofDocument (r : Registry) (d : Document) : (ofDocument r d).root =
    { d.page with children :=
      (Expansion.ofBody (r.extend d.components).1 [] d.page.children).nodes } := by
  show (Expander.expandPage { registry := (r.extend d.components).1 } d.page).1 = _
  rw [Expander.expandPage_eq]

/-- Documents whose pages and whose components at hand are the same but for the numbers of lines
give the same page, but for the numbers of lines. -/
theorem withoutLines_ofDocument {r s : Registry} {d e : Document} {f : Nat → Nat}
    (hpage : e.page = { d.page with children := Node.renumberAll f d.page.children })
    (hregistry : ∀ name, name ≠ Node.slotKind →
      ((r.extend d.components).1.get? name).map (Component.renumber fun _ => 0)
        = ((s.extend e.components).1.get? name).map (Component.renumber fun _ => 0)) :
    (ofDocument r d).root.withoutLines = (ofDocument s e).root.withoutLines := by
  -- No one renumbering takes the components of one side to those of the other, so both are taken
  -- to line zero.
  have hbody : Expansion.ofBody ((r.extend d.components).1.renumber fun _ => 0)
      = Expansion.ofBody ((s.extend e.components).1.renumber fun _ => 0) :=
    Expansion.ofBody_congr fun name hname => by
      rw [Registry.get?_renumber, Registry.get?_renumber, hregistry name hname]
  have hnodes (r : Registry) (nodes : List Node) :
      Node.renumberAll (fun _ => 0) (Expansion.ofBody r [] nodes).nodes
        = (Expansion.ofBody (r.renumber fun _ => 0) []
            (Node.renumberAll (fun _ => 0) nodes)).nodes :=
    congrArg Expansion.nodes (Expansion.ofBody_renumber (fun _ => 0) r [] nodes).symm
  rw [root_ofDocument, root_ofDocument, Node.withoutLines, Node.renumber_eq, Node.renumber_eq,
    hnodes, hnodes, hbody, hpage, Node.renumberAll_renumberAll]
  rfl

end Page

/-! ## Libraries before a page -/

/-- A component bears the name of its line. -/
theorem Entry.exists_header_of_mem_components {lines : List Line} (h : Numbered lines)
    {c : Component} (hc : c ∈ components (ofLines lines)) :
    ∃ l ∈ lines, ∃ header ∈ l.header?, c.name = Node.kindOfTag header.name := by
  obtain ⟨l, hl, hcomponent⟩ := List.mem_filterMap.mp ((components_ofLines lines h).mem_iff.mp hc)
  rw [componentOf?] at hcomponent
  split at hcomponent
  · cases hcomponent
  · next header hheader =>
    split at hcomponent
    · cases hcomponent
    · cases hcomponent
      exact ⟨l, hl, header, hheader, rfl⟩

namespace Page

theorem library_singleton {source : String} {d : Document} (h : Document.parse source = .ok d) :
    library [source] = .ok (d.components.foldl Registry.register ∅) := by
  rw [library, List.foldlM_cons, h]
  rfl

/-- Components registered beforehand are found where they are found when defined first, as long as
none has the name of pages or of state lines. -/
theorem get?_extend_library {cs ds joined : List Component} {f : Nat → Nat}
    (hcs : ∀ c ∈ cs, c.name ∉ [Node.pageKind, Node.stateKind])
    (hjoined : joined = cs ++ ds.map (Component.renumber f)) {name : String}
    (hname : name ≠ Node.slotKind) :
    (((cs.foldl Registry.register ∅).extend ds).1.get? name).map (Component.renumber fun _ => 0)
      = ((Registry.extend ∅ joined).1.get? name).map (Component.renumber fun _ => 0) := by
  have hempty : (∅ : Registry).get? name = none := rfl
  rw [Registry.get?_extend, Registry.get?_extend, Registry.get?_foldl_register, hempty,
    Option.or_none, Option.or_none]
  by_cases hreserved : name ∈ Registry.reserved
  · -- Such a name is refused in a text, and nothing registered beforehand has it.
    have hnone : cs.reverse.find? (·.name = name) = none := by
      refine List.find?_eq_none.mpr fun c hc hcname => hcs c (List.mem_reverse.mp hc) ?_
      rw [of_decide_eq_true hcname]
      simpa [Registry.reserved, hname] using hreserved
    rw [if_pos hreserved, if_pos hreserved, hnone]
  · have hnames : ((fun c : Component => decide (c.name = name)) ∘ Component.renumber f)
        = fun c => decide (c.name = name) := rfl
    rw [if_neg hreserved, if_neg hreserved, hjoined, List.reverse_append, List.find?_append,
      ← List.map_reverse, List.find?_map, hnames]
    cases ds.reverse.find? (·.name = name) with
    | none => rfl
    | some c => exact congrArg some (Component.renumber_renumber f (fun _ => 0) c).symm

/-- **A library acts like its text in front of the source**, if no component defined in it, at
whatever depth, has the name of pages or of state lines. -/
theorem compileWith_eq_compile (library source : String)
    (hparses : ∃ d, Document.parse library = .ok d) (hlibrary : IsLibrary (Line.ofSource library))
    (hnames : ∀ l ∈ Line.ofSource library, ∀ header ∈ l.header?,
      Node.kindOfTag header.name ∉ [Node.pageKind, Node.stateKind])
    (hsource : ∃ d, Document.parse source = .ok d) (hfirst : ∀ l ∈ (Line.ofSource source).head?,
      l.indent = 0) :
    ∃ p q, compileWith [library] source = .ok p ∧ compile (library ++ "\n" ++ source) = .ok q
      ∧ p.root.withoutLines = q.root.withoutLines ∧ p.state = q.state := by
  obtain ⟨d, hd⟩ := hparses
  obtain ⟨e, he⟩ := hsource
  obtain ⟨k, joined, hjoined, hpage, hcomponents⟩ := Document.parse_append hd he hlibrary hfirst
  have hcs : ∀ c ∈ d.components, c.name ∉ [Node.pageKind, Node.stateKind] := by
    intro c hc
    rw [(Document.of_parse_eq_ok hd).2] at hc
    obtain ⟨l, hl, header, hheader, hname⟩ :=
      Entry.exists_header_of_mem_components (Line.numbered_ofSource library) hc
    rw [hname]
    exact hnames l hl header hheader
  have hroot := withoutLines_ofDocument hpage fun name hname =>
    get?_extend_library hcs hcomponents hname
  refine ⟨_, _, ?_, ?_, hroot, ?_⟩
  · rw [compileWith, library_singleton hd, he]
    rfl
  · rw [compile, hjoined]
    rfl
  · calc (ofDocument (d.components.foldl Registry.register ∅) e).state
        = (StateTable.ofTree
            (ofDocument (d.components.foldl Registry.register ∅) e).root.withoutLines).1 :=
          (StateTable.ofTree_renumber _ _).symm
      _ = (StateTable.ofTree (ofDocument ∅ joined).root.withoutLines).1 := by rw [hroot]
      _ = (ofDocument ∅ joined).state := StateTable.ofTree_renumber _ _

/-- A component with a default in its slot, used with a text and without. -/
theorem compileWith_eq_compile_card :
    let library := "component card title\n  heading: {title}\n  slot\n    text: empty\n"
    let source := "state n: 1\ncard title: Sum\n  text: now {n}\ncard\n"
    IsLibrary (Line.ofSource library)
      ∧ ∃ p q, compileWith [library] source = .ok p ∧ compile (library ++ "\n" ++ source) = .ok q
        ∧ p.root.withoutLines = q.root.withoutLines ∧ p.state = q.state := by
  intro library source
  have hlibrary : IsLibrary (Line.ofSource library) := by decide +kernel
  exact ⟨hlibrary, compileWith_eq_compile library source
    (Document.exists_parse_of_aligned (by decide +kernel)) hlibrary (by decide +kernel)
    (Document.exists_parse_of_aligned (by decide +kernel)) (by decide +kernel)⟩

/-- The names inside bodies matter too. A component of a library that has the name of state lines
takes the place of the state lines of a page when it is registered beforehand, and is refused when
the library is part of the text. -/
theorem nested_state_component :
    let library := "component card\n  component state\n"
    let source := "state x: 1\n"
    IsLibrary (Line.ofSource library)
      ∧ (∀ l ∈ Line.ofSource library, l.indent = 0 → ∀ header ∈ l.header?,
          Node.kindOfTag header.name ∉ Registry.reserved)
      ∧ (∀ l ∈ (Line.ofSource source).head?, l.indent = 0)
      ∧ ∃ p q, compileWith [library] source = .ok p ∧ compile (library ++ "\n" ++ source) = .ok q
        ∧ p.state.keys = [] ∧ q.state.keys = ["x"] := by
  intro library source
  obtain ⟨d, hd⟩ : ∃ d, Document.parse library = .ok d :=
    Document.exists_parse_of_aligned (by decide +kernel)
  obtain ⟨e, he⟩ : ∃ e, Document.parse source = .ok e :=
    Document.exists_parse_of_aligned (by decide +kernel)
  obtain ⟨joined, hjoined⟩ : ∃ d, Document.parse (library ++ "\n" ++ source) = .ok d :=
    Document.exists_parse_of_aligned (by decide +kernel)
  refine ⟨by decide +kernel, by decide +kernel, by decide +kernel,
    ofDocument (d.components.foldl Registry.register ∅) e, ofDocument ∅ joined, ?_, ?_, ?_⟩
  · rw [compileWith, library_singleton hd, he]
    rfl
  · rw [compile, hjoined]
    rfl
  have hlines : Line.ofSource library
      = [⟨1, 0, 0, "component card".toList⟩, ⟨2, 2, 17, "component state".toList⟩] := by
        decide +kernel
  have hline : Line.ofSource source = [⟨1, 0, 0, "state x: 1".toList⟩] := by decide +kernel
  have hall : Line.ofSource (library ++ "\n" ++ source)
      = Line.ofSource library ++ [⟨4, 0, 34, "state x: 1".toList⟩] := by decide +kernel
  have hentries : Entry.ofLines (Line.ofSource library)
      = [.component ⟨1, 0, 0, "component card".toList⟩ ⟨"card".toList, [], []⟩
          [.component ⟨2, 2, 17, "component state".toList⟩ ⟨"state".toList, [], []⟩ []]] := by
    have hcard : Line.header? ⟨1, 0, 0, "component card".toList⟩
        = some ⟨"card".toList, [], []⟩ := by
      decide +kernel
    have hstate : Line.header? ⟨2, 2, 17, "component state".toList⟩
        = some ⟨"state".toList, [], []⟩ := by
      decide +kernel
    rw [hlines, Entry.ofLines_cons_of_some hcard, List.takeWhile_cons_of_pos (by decide),
      List.dropWhile_cons_of_pos (by decide), List.takeWhile_nil, List.dropWhile_nil,
      Entry.ofLines_cons_of_some hstate, List.takeWhile_nil, List.dropWhile_nil, Entry.ofLines]
  obtain ⟨-, rfl⟩ := Document.parse_eq_ok_iff.mp hd
  obtain ⟨-, rfl⟩ := Document.parse_eq_ok_iff.mp he
  obtain ⟨-, rfl⟩ := Document.parse_eq_ok_iff.mp hjoined
  rw [hall, Entry.ofLines_append _ (by decide), hentries, hline,
    Entry.ofLines_cons_of_none (by decide +kernel), Entry.ofLines_cons_of_none (by decide +kernel),
    Entry.ofLines]
  simp only [List.cons_append, List.nil_append, Entry.components, Entry.nodes_component,
    Entry.nodes_line, Entry.nodes_nil]
  decide +kernel

end Page

end PageLang
