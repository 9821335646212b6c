import PageLang.Expr.Data
import PageLang.Proofs.Json.Shape

/-!
# Reading back actions

The expression that the data of an expression stands for is this expression, since every kind of
record has its own name and its own fields (`Expr.ofJson?_toJson`). From this follows the same for
statements, whose kind is looked up in the draft, and for actions:

> an action that does not nest too deep is read back from its data (`Program.read_whole`).
-/

namespace PageLang

open Json (Draft Fault Fits)
open Json.Draft (whole)

/-! ## Names of operators -/

/-- A prefix operator is found by its name. -/
theorem UnaryOp.ofName?_name (op : UnaryOp) : UnaryOp.ofName? op.name = some op := by
  cases op <;> rfl

/-- So is a binary one. -/
theorem BinaryOp.ofName?_name (op : BinaryOp) : BinaryOp.ofName? op.name = some op := by
  cases op <;> rfl

theorem Json.alternative?_unary (op : UnaryOp) :
    Json.alternative? UnaryOp.ofName? (.str op.name) = some op :=
  op.ofName?_name

theorem Json.alternative?_binary (op : BinaryOp) :
    Json.alternative? BinaryOp.ofName? (.str op.name) = some op :=
  op.ofName?_name

/-! ## Expressions -/

theorem Expr.height_toJson_pos (e : Expr) : 0 < e.toJson.height := by
  cases e <;> exact Nat.succ_pos _

mutual

/-- An expression is what its data stands for, if the height allows for it. -/
theorem Expr.ofJsonWithin?_toJson (e : Expr) {n : Nat} (h : e.toJson.height ≤ n) :
    Expr.ofJsonWithin? n e.toJson = some e := by
  obtain ⟨n, rfl⟩ : ∃ m, n = m + 1 := ⟨n - 1, by have := e.height_toJson_pos; omega⟩
  match e with
  | .number x => rfl
  | .string s => rfl
  | .boolean b => rfl
  | .variable name => rfl
  | .unary op e =>
    simp only [Expr.toJson, Json.kinded, Json.height, Json.memberHeights] at h
    show (do
      return Expr.unary (← Json.alternative? UnaryOp.ofName? (.str op.name))
        (← Expr.ofJsonWithin? n e.toJson)) = _
    rw [Json.alternative?_unary, Expr.ofJsonWithin?_toJson e (by omega)]
    rfl
  | .binary l op r =>
    simp only [Expr.toJson, Json.kinded, Json.height, Json.memberHeights] at h
    show (do
      return Expr.binary (← Expr.ofJsonWithin? n l.toJson)
        (← Json.alternative? BinaryOp.ofName? (.str op.name)) (← Expr.ofJsonWithin? n r.toJson)) = _
    rw [Json.alternative?_binary, Expr.ofJsonWithin?_toJson l (by omega),
      Expr.ofJsonWithin?_toJson r (by omega)]
    rfl
  | .call f es =>
    simp only [Expr.toJson, Json.kinded, Json.height, Json.memberHeights] at h
    show (do return Expr.call f (← (Expr.listToJson es).mapM (Expr.ofJsonWithin? n))) = _
    rw [Expr.mapM_ofJsonWithin? es (by omega)]
    rfl

/-- Expressions are read back one by one, if the height allows. -/
theorem Expr.mapM_ofJsonWithin? (es : List Expr) {n : Nat}
    (h : Json.heights (Expr.listToJson es) ≤ n) :
    (Expr.listToJson es).mapM (Expr.ofJsonWithin? n) = some es := by
  match es with
  | [] => rfl
  | e :: es =>
    rw [Expr.listToJson, Json.heights] at h
    rw [Expr.listToJson, List.mapM_cons, Expr.ofJsonWithin?_toJson e (by omega),
      Expr.mapM_ofJsonWithin? es (by omega)]
    rfl

end

/-- An expression is read back from its JSON. -/
theorem Expr.ofJson?_toJson (e : Expr) : Expr.ofJson? e.toJson = some e :=
  e.ofJsonWithin?_toJson (Nat.le_refl _)

/-- So are several. -/
theorem Expr.mapM_ofJson? (es : List Expr) : (Expr.listToJson es).mapM Expr.ofJson? = some es := by
  induction es with
  | nil => rfl
  | cons e es ih =>
    rw [Expr.listToJson, List.mapM_cons, e.ofJson?_toJson, ih]
    rfl

/-! ## Statements and actions -/

/-- A record of a kind is read by its kind and its other members. -/
theorem Json.tagged_kinded {α : Type} {depth : Nat} {names : List String} {kind : String}
    {members : List (String × Json)} {a : α} (ofRecord : String → Json → Option α)
    (hkind : kind ∈ names) (hmembers : "type" ∉ members.map Prod.fst)
    (hfits : Fits depth (.kinded kind members)) (hrecord : ofRecord kind (.obj members) = some a) :
    (do let (kind, record) ← (whole (.kinded kind members)).tagged (Json.among names) depth
        Json.orMismatch (ofRecord kind record)) = .ok a := by
  have hname : Json.among names kind = some kind := if_pos hkind
  rw [Json.kinded, Draft.tagged_whole hname hmembers hfits]
  show Json.orMismatch (ofRecord kind (.obj members)) = _
  rw [hrecord]
  rfl

/-- A statement is read back from its data. -/
theorem Statement.read_whole {depth : Nat} (s : Statement) (hfits : Fits depth s.toJson) :
    Statement.read depth (whole s.toJson) = .ok s := by
  cases s with
  | assign target e =>
    refine Json.tagged_kinded Statement.ofRecord? (by decide) (by simp) hfits ?_
    show (do return Statement.assign target (← Expr.ofJson? e.toJson)) = _
    rw [e.ofJson?_toJson]
    rfl
  | compound target op e =>
    refine Json.tagged_kinded Statement.ofRecord? (by decide) (by simp) hfits ?_
    show (do
      return Statement.compound target (← Json.alternative? BinaryOp.ofName? (.str op.name))
        (← Expr.ofJson? e.toJson)) = _
    rw [Json.alternative?_binary, e.ofJson?_toJson]
    rfl
  | increment target => exact Json.tagged_kinded Statement.ofRecord? (by decide) (by simp) hfits rfl
  | decrement target => exact Json.tagged_kinded Statement.ofRecord? (by decide) (by simp) hfits rfl
  | call f es =>
    refine Json.tagged_kinded Statement.ofRecord? (by decide) (by simp) hfits ?_
    show (do return Statement.call f (← (Expr.listToJson es).mapM Expr.ofJson?)) = _
    rw [Expr.mapM_ofJson?]
    rfl

/-- **An action is read back from its data.** -/
theorem Program.read_whole {depth : Nat} {p : Program} (hfits : Fits depth p.toJson) :
    Program.read depth (whole p.toJson) = .ok p := by
  have hobject : p.toJson = .object [("source", some (.str p.source)),
    ("statements", some (.arr (p.statements.map Statement.toJson)))] := rfl
  rw [hobject] at hfits ⊢
  have hstatements :
      Draft.list Statement.read (depth + 1) (whole (.arr (p.statements.map Statement.toJson)))
      = .ok p.statements :=
    Draft.list_whole (hfits.field "statements" (by simp) rfl) fun s _ hs => s.read_whole hs
  rw [Program.read, Draft.record_whole hfits, Draft.foldMembers_member rfl,
    Draft.foldMembers_member (by rw [Program.readField, hstatements]; rfl)]
  rfl

end PageLang
