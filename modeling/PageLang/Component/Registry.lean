import PageLang.Node

/-!
# Registered components

A registry holds component definitions by name. A later definition of a name replaces an earlier
one.

`Registry` is `ComponentRegistry`, with `register`, `extend` and `get?` for `get`. What `extend`
reports is returned beside the registry.
-/

namespace PageLang

/-- Component definitions by name, each under its own. -/
structure Registry where
  definitions : List Component
  names_nodup : (definitions.map Component.name).Nodup

namespace Registry

/-- The registry without definitions. -/
def empty : Registry := ⟨[], List.nodup_nil⟩

instance : EmptyCollection Registry := ⟨empty⟩

/-- The definition of a name. -/
def get? (r : Registry) (name : String) : Option Component := r.definitions.find? (·.name = name)

/-- The definitions after one more: in the place of the one it replaces, else at the end. -/
def insertDefinition (c : Component) : List Component → List Component
  | [] => [c]
  | d :: rest => if d.name = c.name then c :: rest else d :: insertDefinition c rest

theorem name_insertDefinition (c : Component) (ds : List Component) :
    (insertDefinition c ds).map Component.name =
      if c.name ∈ ds.map Component.name then ds.map Component.name
      else ds.map Component.name ++ [c.name] := by
  induction ds with
  | nil => simp [insertDefinition]
  | cons d rest ih =>
    by_cases h : d.name = c.name
    · simp [insertDefinition, h]
    · have h' : ¬ c.name = d.name := fun e => h e.symm
      by_cases hm : c.name ∈ rest.map Component.name <;> simp_all [insertDefinition]

/-- The registry after a definition, whatever its name. -/
def register (r : Registry) (c : Component) : Registry where
  definitions := insertDefinition c r.definitions
  names_nodup := by
    rw [name_insertDefinition]
    split
    · exact r.names_nodup
    · next hm => exact List.nodup_append.2 ⟨r.names_nodup, by simp, fun a ha b hb => by
        rw [List.mem_singleton.1 hb]; exact fun e => hm (e ▸ ha)⟩

/-- The names that no component may take. -/
def reserved : List String := [Node.pageKind, Node.stateKind, Node.slotKind]

/-- The registry after further definitions, and what is reported of them: reserved names, which
are left out, and names that were defined before. -/
def extend (r : Registry) : List Component → Registry × List Diagnostic
  | [] => (r, [])
  | c :: cs =>
    if c.name ∈ reserved then
      let (r, ds) := extend r cs
      (r, (Finding.reservedComponent c.name).onLine c.line :: ds)
    else
      let (final, ds) := extend (r.register c) cs
      match r.get? c.name with
      | none => (final, ds)
      | some old => (final, (Finding.redefinedComponent c.name old.line).onLine c.line :: ds)

end Registry

end PageLang
