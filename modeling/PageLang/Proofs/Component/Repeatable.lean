import PageLang.Proofs.Component.Simulation

/-!
# Expansion can be repeated

An expander goes from usage to usage. What it leaves behind are its reports and the slots that
were filled in its innermost scope, and it reads neither of them again when the next usage comes:
what a step pushes it pops, and what it does depends on the scopes below only through their
components, lines and groups (`Expander.Does`).

> `Expander.expandUsage_repeatable`: a usage is expanded in the same way and with the same reports
> whatever was expanded before it, and the stack is left as it was.
-/

namespace PageLang

namespace Expander

/-- The stack is the one before, except that further slots may have been filled in the innermost
scope. -/
structure Grown (before after : List Scope) : Prop where
  length_eq : after.length = before.length
  outer : after.tail = before.tail
  innermost : ∀ s ∈ before.head?, ∃ t ∈ after.head?,
    t.component = s.component ∧ t.line = s.line ∧ t.groups = s.groups ∧ s.used ⊆ t.used

/-- Marking slots is all that makes a stack grow. -/
theorem grown_markUsed (slots : List String) (scopes : List Scope) :
    Grown scopes (markUsed slots scopes) := by
  cases scopes with
  | nil => exact ⟨rfl, rfl, by simp⟩
  | cons scope scopes =>
    refine ⟨rfl, rfl, fun s hs => ⟨_, rfl, ?_⟩⟩
    cases hs
    exact ⟨rfl, rfl, rfl, fun slot hslot => mem_foldl_addSlot.mpr (.inl hslot)⟩

/-- The expander after one usage after the other has been expanded. -/
def afterUsages (e : Expander) (calls : List (Component × Node)) : Expander :=
  calls.foldl (fun e call => (e.expandUsage call.1 call.2).2) e

/-- Whatever is expanded, the registry stays, and so does the stack but for the slots that were
filled. -/
theorem afterUsages_same (calls : List (Component × Node)) (e : Expander) :
    (e.afterUsages calls).registry = e.registry
      ∧ (e.afterUsages calls).scopes.map Scope.entered = e.scopes.map Scope.entered := by
  induction calls generalizing e with
  | nil => exact ⟨rfl, rfl⟩
  | cons call calls ih =>
    have hcall : (e.expandUsage call.1 call.2).2.At e.registry e.scopes := by
      rw [expandUsage_does ⟨rfl, rfl⟩]
      exact At.record ⟨rfl, rfl⟩ _
    obtain ⟨hregistry, hscopes⟩ := ih (e.expandUsage call.1 call.2).2
    exact ⟨hregistry.trans hcall.1, hscopes.trans hcall.2⟩

/-- **Expansion is repeatable on one expander.** The nodes that take the place of a usage and the
reports that are added depend on the registry and on the components, lines and groups of the
stack, but neither on the slots that have been filled nor on earlier reports. The stack is left as
it was, except that further slots may be filled in its innermost scope. So the same usage is
expanded in the same way after any number of other expansions, and in particular a second time. -/
theorem expandUsage_repeatable (e : Expander) (c : Component) (usage : Node) :
    ∃ nodes added,
      (∀ f : Expander, f.registry = e.registry →
        f.scopes.map Scope.entered = e.scopes.map Scope.entered →
        (f.expandUsage c usage).1 = nodes
        ∧ (f.expandUsage c usage).2.registry = f.registry
        ∧ (f.expandUsage c usage).2.diagnostics = f.diagnostics ++ added
        ∧ Grown f.scopes (f.expandUsage c usage).2.scopes)
      ∧ ∀ calls : List (Component × Node),
        ((e.afterUsages calls).expandUsage c usage).1 = nodes
        ∧ ((e.afterUsages calls).expandUsage c usage).2.diagnostics
          = (e.afterUsages calls).diagnostics ++ added := by
  refine ⟨(usageExpansion e.registry e.scopes c usage).nodes,
    (usageExpansion e.registry e.scopes c usage).diagnostics, fun f hregistry hscopes => ?_,
    fun calls => ?_⟩
  · rw [expandUsage_does ⟨hregistry, hscopes⟩]
    exact ⟨rfl, rfl, rfl, grown_markUsed _ _⟩
  · rw [expandUsage_does (afterUsages_same calls e)]
    exact ⟨rfl, rfl⟩

/-- A usage inside a body, with a child that is filled from the scope of that body and a parameter
without a value. -/
theorem expandUsage_repeatable_twice :
    let item : Component := { name := "Item", parameters := ["label"], line := 1, body := [
      { kind := "Text", content := "\x7blabel\x7d", line := 2 }, { kind := "Slot", line := 3 }] }
    let usage : Node :=
      { kind := "Item", line := 7, children := [{ kind := "Slot", content := "head", line := 8 }] }
    let outer : Scope :=
      { component := "Card", line := 5, groups :=
        .ofList [("head", [{ kind := "Text", content := "A", line := 6 }])] }
    let e : Expander := { registry := Registry.empty.register item, scopes := [outer] }
    let once := e.expandUsage item usage
    let twice := once.2.expandUsage item usage
    once.2.scopes.map Scope.used = [["head"]] ∧ (Node.preorderAll once.1).map Node.line = [2, 6]
    ∧ once.2.diagnostics = [(Finding.missingParameter "label" "Item").onLine 7]
    ∧ twice.1 = once.1 ∧ twice.2.diagnostics = once.2.diagnostics ++ once.2.diagnostics := by
  intro item usage outer e once twice
  refine ⟨by decide +kernel, by decide +kernel, by decide +kernel, ?_⟩
  obtain ⟨nodes, added, hsame, hcalls⟩ := expandUsage_repeatable e item usage
  have hstart : e.diagnostics = [] := rfl
  clear_value e item usage
  obtain ⟨hnodes, -, hadded, -⟩ := hsame e rfl rfl
  obtain ⟨hnodes', hadded'⟩ := hcalls [(item, usage)]
  have honce : once.2.diagnostics = added := by rw [hadded, hstart, List.nil_append]
  exact ⟨hnodes'.trans hnodes.symm, hadded'.trans (congrArg (once.2.diagnostics ++ ·) honce.symm)⟩

end Expander

end PageLang
