import PageLang.Page
import PageLang.Proofs.Node.Data
import PageLang.Proofs.Template.Data

/-!
# Lossless data

Pages, documents, actions and templates can be kept as text. Whoever reads such a text, on one
line or spread over several, has the value that was written:

> `data_lossless`: the data of a value is read as this value, provided that it does not nest
> deeper than readers go and that its fractional numbers survive being written and read.
-/

namespace PageLang

open Json (Draft Fits)
open Json.Draft (whole foldMembers_member foldMembers_once)

/-- **A page is read back from its data.** -/
theorem Page.read_whole {depth : Nat} {p : Page} (hfits : Fits depth p.toJson) :
    Page.read depth (whole p.toJson) = .ok p := by
  rw [Page.toJson] at hfits ⊢
  have hroot := p.root.read_whole (hfits.field "page" (by simp) rfl)
  have hstate : Draft.map Literal.read (depth + 1) (whole (p.state.toJson Literal.toJson))
      = .ok p.state :=
    Draft.map_whole (hfits.field "state" (by simp) rfl) fun e _ _ => e.2.read_whole
  have hdiagnostics := Diagnostic.list_whole p.diagnostics hfits (by simp)
  have hdefault : ((Diagnostic.member p.diagnostics).2.map fun _ => p.diagnostics).getD []
      = p.diagnostics :=
    Json.getD_unlessEmpty id
  rw [Page.read, Draft.record_whole hfits, foldMembers_member (by rw [Page.readField, hroot]; rfl),
    foldMembers_member (by rw [Page.readField, hstate]; rfl),
    foldMembers_once (fun ds => (⟨_, _, ds⟩ : Page.Fields)) (fun _ => rfl) hdiagnostics]
  show Except.ok (Page.mk p.root p.state _) = _
  rw [hdefault]

/-- Both texts of some data are read as a value. -/
def Json.ReadsAs {α : Type} (read : Json.Reader α) (j : Json) (a : α) : Prop :=
  Json.readText read j.compact = .ok a ∧ Json.readText read j.pretty = .ok a

theorem Json.Readable.readsAs {α : Type} {read : Json.Reader α} {j : Json} {a : α} (h : j.Readable)
    (hread : Fits 0 j → read 0 (whole j) = .ok a) : j.ReadsAs read a := by
  have hfits : Fits 0 j := by
    rw [Fits, Nat.zero_add]
    exact h.nesting
  rw [Json.ReadsAs, (h.readText_eq read).1, (h.readText_eq read).2]
  exact ⟨hread hfits, hread hfits⟩

/-- **What was written is read back**, from either text: members that were left out because there
was nothing in them, the kinds of tagged records, the order of maps and every character of every
string. -/
theorem data_lossless :
    (∀ p : Page, p.toJson.Readable → p.toJson.ReadsAs Page.read p)
      ∧ (∀ d : Document, d.toJson.Readable → d.toJson.ReadsAs Document.read d)
      ∧ (∀ p : Program, p.toJson.Readable → p.toJson.ReadsAs Program.read p)
      ∧ (∀ t : Template, t.toJson.Readable → t.toJson.ReadsAs Template.read t) :=
  ⟨fun _ h => h.readsAs Page.read_whole, fun _ h => h.readsAs Document.read_whole,
    fun _ h => h.readsAs Program.read_whole, fun _ h => h.readsAs Template.read_whole⟩

/-- A page with awkward characters, a fractional number, members that are left out and a report. -/
def priceList : Page where
  root := {
    kind := "Page"
    properties := .ofList [("title", "Fish & \"chips\" \\ </script>")]
    children := [
      { kind := "State", state := some ⟨"price", .number 0.1⟩, line := 2 },
      { kind := "Text", properties := .ofList [("size", "2"), ("bold", "")], content :=
        "tab\tbell\x07 ü 🐟", line := 3 }]
    line := 1 }
  state := .ofList [("price", .number 0.1), ("1.5", .text "1.5")]
  diagnostics := [⟨.malformedLine, 4, "line has no tag: 'x'"⟩]

/-- A document without reports, in which a component is defined. -/
def priceDocument : Document where
  page := priceList.root
  components := [⟨"card", ["title", "price"], priceList.root.children, 5⟩]
  diagnostics := []

/-- An action of several kinds of statements. -/
def priceAction : Program where
  source := "price += -1.5e-7 * 2"
  statements := [
    .compound "price" .add (.binary (.unary .negate (.number 1.5e-7)) .multiply (.number 2)),
    .call "concat" [.string "\n", .boolean true, .variable "price"], .increment "price"]

/-- A template with a part inside a condition. -/
def priceTemplate : Template where
  segments := [.static "<p>", .conditional (.binary (.variable "price") .lessThan (.number 100))
    [.text "price", .selected "price" "0.1"], .url "?q=&", .checked "price"]

theorem data_lossless_prices :
    (priceList.toJson.Readable ∧ priceList.toJson.ReadsAs Page.read priceList)
      ∧ (priceDocument.toJson.Readable ∧ priceDocument.toJson.ReadsAs Document.read priceDocument)
      ∧ (priceAction.toJson.Readable ∧ priceAction.toJson.ReadsAs Program.read priceAction)
      ∧ (priceTemplate.toJson.Readable
        ∧ priceTemplate.toJson.ReadsAs Template.read priceTemplate) := by
  have hpage : priceList.toJson.Readable := by decide +kernel
  have hdocument : priceDocument.toJson.Readable := by decide +kernel
  have haction : priceAction.toJson.Readable := by decide +kernel
  have htemplate : priceTemplate.toJson.Readable := by decide +kernel
  exact ⟨⟨hpage, data_lossless.1 _ hpage⟩, ⟨hdocument, data_lossless.2.1 _ hdocument⟩,
    ⟨haction, data_lossless.2.2.1 _ haction⟩, ⟨htemplate, data_lossless.2.2.2 _ htemplate⟩⟩

end PageLang
