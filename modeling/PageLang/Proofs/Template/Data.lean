import PageLang.Proofs.Expr.Data
import PageLang.Template.Data

/-!
# Reading back templates

A segment is what its data stands for. The kind of an outer segment is looked up in the draft,
those inside a condition in the value that was read whole; both ways lead to the same record.

> A template that does not nest too deep is read back from its data (`Template.read_whole`).
-/

namespace PageLang

open Json (Draft Fits)
open Json.Draft (whole)

theorem Segment.height_toJson_pos (s : Segment) : 0 < s.toJson.height := by
  cases s <;> exact Nat.succ_pos _

mutual

/-- A segment is what its data stands for, if the height allows for it. -/
theorem Segment.ofJsonWithin?_toJson (s : Segment) {n : Nat} (h : s.toJson.height ≤ n) :
    Segment.ofJsonWithin? n s.toJson = some s := by
  obtain ⟨n, rfl⟩ : ∃ m, n = m + 1 := ⟨n - 1, by have := s.height_toJson_pos; omega⟩
  match s with
  | .static html => rfl
  | .text name => rfl
  | .url value => rfl
  | .conditional condition body =>
    simp only [Segment.toJson, Json.kinded, Json.height, Json.memberHeights] at h
    show (do
      return Segment.conditional (← Expr.ofJson? condition.toJson)
        (← (Segment.listToJson body).mapM (Segment.ofJsonWithin? n))) = _
    rw [condition.ofJson?_toJson, Segment.mapM_ofJsonWithin? body (by omega)]
    rfl
  | .checked name => rfl
  | .selected name option => rfl

theorem Segment.mapM_ofJsonWithin? (ss : List Segment) {n : Nat}
    (h : Json.heights (Segment.listToJson ss) ≤ n) :
    (Segment.listToJson ss).mapM (Segment.ofJsonWithin? n) = some ss := by
  match ss with
  | [] => rfl
  | s :: ss =>
    rw [Segment.listToJson, Json.heights] at h
    rw [Segment.listToJson, List.mapM_cons, Segment.ofJsonWithin?_toJson s (by omega),
      Segment.mapM_ofJsonWithin? ss (by omega)]
    rfl

end

theorem Segment.listToJson_eq_map (ss : List Segment) :
    Segment.listToJson ss = ss.map Segment.toJson := by
  induction ss with
  | nil => rfl
  | cons s ss ih => rw [Segment.listToJson, ih, List.map_cons]

theorem Segment.read_kinded {depth : Nat} {kind : String} {members : List (String × Json)}
    {s : Segment} (hkind : kind ∈ Segment.kinds) (hmembers : "type" ∉ members.map Prod.fst)
    (hfits : Fits depth (.kinded kind members))
    (hrecord : Segment.ofRecord? (Segment.ofJsonWithin? (Json.height (.obj members))) kind
      (.obj members)
      = some s) :
    Segment.read depth (whole (.kinded kind members)) = .ok s :=
  Json.tagged_kinded
    (fun kind record => Segment.ofRecord? (Segment.ofJsonWithin? record.height) kind record)
    hkind hmembers hfits hrecord

/-- A segment is read back from its data. -/
theorem Segment.read_whole {depth : Nat} (s : Segment) (hfits : Fits depth s.toJson) :
    Segment.read depth (whole s.toJson) = .ok s := by
  cases s with
  | static html => exact Segment.read_kinded (by decide) (by simp) hfits rfl
  | text name => exact Segment.read_kinded (by decide) (by simp) hfits rfl
  | url value => exact Segment.read_kinded (by decide) (by simp) hfits rfl
  | conditional condition body =>
    refine Segment.read_kinded (by decide) (by simp) hfits ?_
    show (do
      return Segment.conditional (← Expr.ofJson? condition.toJson)
        (← (Segment.listToJson body).mapM (Segment.ofJsonWithin? (Json.height (.obj _))))) = _
    rw [condition.ofJson?_toJson,
      Segment.mapM_ofJsonWithin? body (by simp only [Json.height, Json.memberHeights]; omega)]
    rfl
  | checked name => exact Segment.read_kinded (by decide) (by simp) hfits rfl
  | selected name option => exact Segment.read_kinded (by decide) (by simp) hfits rfl

/-- **A template is read back from its data.** -/
theorem Template.read_whole {depth : Nat} {t : Template} (hfits : Fits depth t.toJson) :
    Template.read depth (whole t.toJson) = .ok t := by
  have hobject :
      t.toJson = .object [("segments", some (.arr (t.segments.map Segment.toJson)))] := by
    rw [Template.toJson, Segment.listToJson_eq_map]
    rfl
  rw [hobject] at hfits ⊢
  have hsegments :
      Draft.list Segment.read (depth + 1) (whole (.arr (t.segments.map Segment.toJson)))
      = .ok t.segments :=
    Draft.list_whole (hfits.field "segments" (by simp) rfl) fun s _ hs => s.read_whole hs
  rw [Template.read, Draft.record_whole hfits,
    Draft.foldMembers_member (by rw [Template.readField, hsegments]; rfl)]
  rfl

end PageLang
