import Mathlib.Data.List.Forall2
import QueryCriteria.Document.Basic

/-!
From documents to criteria: which documents are refused, why, and what the others become.

Nothing here follows the steps of the conversion. `FilterDocument.leaves` lists the comparisons of a
filter document from left to right. A comparison is valid (`Leaf.Valid`) or has a problem
(`Leaf.Problem`), and of several problems the one that is named first in the definition is reported.
`First` is the search for the first element of a list that is not good. With it the problem of a
document is one look at its comparisons, at its sort keys and at its limit, in this order
(`Document.FirstProblem`). The criteria of a document has its trees node for node, its sort keys and
its window (`Document.Becomes`).

`Document.toCriteria_outcome` says that this is all there is to the conversion: it succeeds on the
valid documents and on no others, with the criteria described and with no other, and it fails with
the first problem and with no other.
-/

namespace QueryCriteria

/-! ## The first of several failures -/

section

variable {α β ε : Type}

/-- In a list the first element that is not good is bad, in the way that `e` says. -/
inductive First (Good : α → Prop) (Bad : α → ε → Prop) : List α → ε → Prop where
  | here {x : α} {xs : List α} {e : ε} : Bad x e → First Good Bad (x :: xs) e
  | later {x : α} {xs : List α} {e : ε} : Good x → First Good Bad xs e → First Good Bad (x :: xs) e

theorem bind_eq_ok_iff {x : Except ε α} {f : α → Except ε β} {b : β} :
    x >>= f = .ok b ↔ ∃ a, x = .ok a ∧ f a = .ok b := by
  cases x <;> simp [bind, Except.bind]

theorem bind_eq_error_iff {x : Except ε α} {f : α → Except ε β} {e : ε} :
    x >>= f = .error e ↔ x = .error e ∨ ∃ a, x = .ok a ∧ f a = .error e := by
  cases x <;> simp [bind, Except.bind]

theorem map_eq_ok_iff {x : Except ε α} {f : α → β} {b : β} :
    x.map f = .ok b ↔ ∃ a, x = .ok a ∧ f a = b := by
  cases x <;> simp [Except.map]

theorem map_eq_error_iff {x : Except ε α} {f : α → β} {e : ε} :
    x.map f = .error e ↔ x = .error e := by
  cases x <;> simp [Except.map]

variable {Good : α → Prop} {Bad : α → ε → Prop}

theorem first_nil {e : ε} : ¬ First Good Bad [] e := nofun

theorem first_cons {x : α} {xs : List α} {e : ε} :
    First Good Bad (x :: xs) e ↔ Bad x e ∨ Good x ∧ First Good Bad xs e := by
  constructor
  · rintro (h | ⟨hx, h⟩)
    · exact .inl h
    · exact .inr ⟨hx, h⟩
  · rintro (h | ⟨hx, h⟩)
    · exact .here h
    · exact .later hx h

theorem first_append {xs ys : List α} {e : ε} :
    First Good Bad (xs ++ ys) e ↔
      First Good Bad xs e ∨ (∀ x ∈ xs, Good x) ∧ First Good Bad ys e := by
  induction xs with
  | nil => simp [first_nil]
  | cons x xs ih =>
    rw [List.cons_append, first_cons, first_cons, ih, List.forall_mem_cons]
    tauto

/-- Lists one after the other. -/
theorem first_flatMap {γ : Type} {g : γ → List α} {zs : List γ} {e : ε} :
    First (fun z => ∀ x ∈ g z, Good x) (fun z e => First Good Bad (g z) e) zs e ↔
      First Good Bad (zs.flatMap g) e := by
  induction zs with
  | nil => simp [first_nil]
  | cons z zs ih => rw [first_cons, List.flatMap_cons, first_append, ih]

theorem mapM_eq_ok_iff {f : α → Except ε β} {xs : List α} {ys : List β} :
    xs.mapM f = .ok ys ↔ List.Forall₂ (fun x y => f x = .ok y) xs ys := by
  induction xs generalizing ys with
  | nil =>
    rw [List.mapM_nil, List.forall₂_nil_left_iff]
    exact ⟨fun h => (Except.ok.inj h).symm, fun h => h ▸ rfl⟩
  | cons x xs ih =>
    rw [List.mapM_cons, bind_eq_ok_iff, List.forall₂_cons_left_iff]
    simp only [bind_eq_ok_iff, ih]
    constructor
    · rintro ⟨y, hy, zs, hzs, h⟩
      exact ⟨y, zs, hy, hzs, (Except.ok.inj h).symm⟩
    · rintro ⟨y, zs, hy, hzs, rfl⟩
      exact ⟨y, hy, zs, hzs, rfl⟩

/-- A list is converted up to the first element that fails. -/
theorem mapM_eq_error_iff {f : α → Except ε β} {xs : List α} {e : ε}
    (hgood : ∀ x ∈ xs, (∃ y, f x = .ok y) ↔ Good x)
    (hbad : ∀ x ∈ xs, ∀ e, f x = .error e ↔ Bad x e) :
    xs.mapM f = .error e ↔ First Good Bad xs e := by
  induction xs with
  | nil => simp [first_nil, pure, Except.pure]
  | cons x xs ih =>
    have ih := ih (fun y hy => hgood y (List.mem_cons_of_mem x hy))
      fun y hy => hbad y (List.mem_cons_of_mem x hy)
    rw [List.mapM_cons, bind_eq_error_iff, first_cons, hbad x (List.mem_cons_self ..), ← ih,
      ← hgood x (List.mem_cons_self ..)]
    refine or_congr_right ⟨?_, ?_⟩
    · rintro ⟨y, hy, h⟩
      rcases bind_eq_error_iff.1 h with h | ⟨ys, -, h⟩
      · exact ⟨⟨y, hy⟩, h⟩
      · cases h
    · rintro ⟨⟨y, hy⟩, h⟩
      exact ⟨y, hy, bind_eq_error_iff.2 (.inl h)⟩

/-- A list is converted if all its elements are. -/
theorem exists_mapM_eq_ok_iff {f : α → Except ε β} {xs : List α} :
    (∃ ys, xs.mapM f = .ok ys) ↔ ∀ x ∈ xs, ∃ y, f x = .ok y := by
  simp only [mapM_eq_ok_iff]
  induction xs with
  | nil => simp
  | cons x xs ih =>
    rw [List.forall_mem_cons, ← ih]
    simp only [List.forall₂_cons_left_iff]
    constructor
    · rintro ⟨_, y, ys, hy, hys, rfl⟩
      exact ⟨⟨y, hy⟩, ys, hys⟩
    · rintro ⟨⟨y, hy⟩, ys, hys⟩
      exact ⟨_, y, ys, hy, hys, rfl⟩

end

/-! ## Documents and their problems -/

/-- Neither a container nor null. -/
def Json.IsScalar : Json → Prop
  | bool _ | whole _ | fraction _ | text _ => True
  | _ => False

/-- A value that is no scalar, and the complaint about it. -/
def Json.Unsupported (j : Json) (e : CriteriaError) : Prop :=
  ¬ j.IsScalar ∧ e = .unsupportedValue j.canonical.compact

/-- The complaint about a comparison whose operator takes operands of one kind and which has one of
another kind. -/
inductive Operator.Misfit (field : String) (op : Operator) :
    Arity → Arity → CriteriaError → Prop where
  | unexpected {given : Arity} :
    given ≠ .nullary → Misfit field op .nullary given (.unexpectedValue field op)
  | missing {taken : Arity} :
    taken ≠ .nullary → Misfit field op taken .nullary (.missingValue field op)
  | notList : Misfit field op .list .scalar (.expectedList field op)
  | notScalar : Misfit field op .scalar .list (.expectedScalar field op)

namespace FilterDocument

/-- A comparison as a document has it. -/
structure Leaf where
  field : String
  operator : String
  value : Option Json

/-- The comparisons from left to right. -/
def leaves : FilterDocument → List Leaf
  | comparison field operator value => [⟨field, operator, value⟩]
  | and left right => left.leaves ++ right.leaves
  | or left right => left.leaves ++ right.leaves

/-- The kind of operand that a value stands for. -/
def kindOf : Option Json → Arity
  | none => .nullary
  | some (.array _) => .list
  | some _ => .scalar

/-- What has to be converted for an operand, in order. -/
def partsOf : Option Json → List Json
  | none => []
  | some (.array items) => items
  | some j => [j]

namespace Leaf

/-- The operator is known, the values are scalars, the field names something, and the operand is of
the kind the operator takes. -/
def Valid (p : Leaf) : Prop :=
  ∃ op, Operator.ofText? p.operator = some op ∧ (∀ j ∈ partsOf p.value, j.IsScalar) ∧
    ¬ IsBlankField p.field ∧ kindOf p.value = op.arity

/-- What is wrong with a comparison; each problem counts only where there is none of those before
it. -/
inductive Problem (p : Leaf) : CriteriaError → Prop where
  | operator : Operator.ofText? p.operator = none → Problem p (.unknownOperator p.operator)
  | value {op : Operator} {e : CriteriaError} : Operator.ofText? p.operator = some op →
    First Json.IsScalar Json.Unsupported (partsOf p.value) e → Problem p e
  | field {op : Operator} : Operator.ofText? p.operator = some op →
    (∀ j ∈ partsOf p.value, j.IsScalar) → IsBlankField p.field → Problem p .emptyField
  | arity {op : Operator} {e : CriteriaError} : Operator.ofText? p.operator = some op →
    (∀ j ∈ partsOf p.value, j.IsScalar) → ¬ IsBlankField p.field →
    op.Misfit p.field op.arity (kindOf p.value) e → Problem p e

end Leaf

/-- The operand that a value becomes. -/
inductive BecomesOperand : Option Json → Operand → Prop where
  | none : BecomesOperand none .none
  | list {items : List Json} {vs : List Value} :
    List.Forall₂ (fun j v => Value.ofJson j = .ok v) items vs →
    BecomesOperand (some (.array items)) (.list vs)
  | scalar {j : Json} {v : Value} : Value.ofJson j = .ok v → BecomesOperand (some j) (.scalar v)

/-- The filter that a document becomes, node for node. -/
inductive Becomes : FilterDocument → Filter → Prop where
  | comparison {field operator : String} {value : Option Json} {c : Comparison} :
    c.field = field → Operator.ofText? operator = some c.operator →
    BecomesOperand value c.operand → Becomes (.comparison field operator value) (.comparison c)
  | and {a b : FilterDocument} {f g : Filter} :
    Becomes a f → Becomes b g → Becomes (.and a b) (.and f g)
  | or {a b : FilterDocument} {f g : Filter} :
    Becomes a f → Becomes b g → Becomes (.or a b) (.or f g)

end FilterDocument

namespace Document

/-- The comparisons of all filters from left to right. -/
def leaves (d : Document) : List FilterDocument.Leaf := d.filters.flatMap FilterDocument.leaves

structure Valid (d : Document) : Prop where
  comparisons : ∀ p ∈ d.leaves, p.Valid
  sorting : ∀ o ∈ d.sorting, ¬ IsBlankField o.field
  limit : d.limit ≠ some 0

/-- The problem that is reported: that of the first comparison that has one, else a sort key without
a field, else the limit. -/
inductive FirstProblem (d : Document) : CriteriaError → Prop where
  | comparison {e : CriteriaError} :
    First FilterDocument.Leaf.Valid FilterDocument.Leaf.Problem d.leaves e → FirstProblem d e
  | sorting : (∀ p ∈ d.leaves, p.Valid) → (∃ o ∈ d.sorting, IsBlankField o.field) →
    FirstProblem d .emptyField
  | limit : (∀ p ∈ d.leaves, p.Valid) → (∀ o ∈ d.sorting, ¬ IsBlankField o.field) →
    d.limit = some 0 → FirstProblem d .zeroLimit

/-- The criteria that a document becomes. -/
structure Becomes (d : Document) (c : Criteria) : Prop where
  filters : List.Forall₂ FilterDocument.Becomes d.filters c.filters
  sorting : List.Forall₂ (fun o k => k.field = o.field ∧ k.direction = o.direction) d.sorting
    c.sorting
  offset : c.offset = d.offset
  limit : c.limit = d.limit

end Document

/-! ## Values -/

theorem Value.exists_ofJson_iff {j : Json} : (∃ v, Value.ofJson j = .ok v) ↔ j.IsScalar := by
  cases j <;> simp [Value.ofJson, Json.IsScalar]

theorem Value.ofJson_eq_error_iff {j : Json} {e : CriteriaError} :
    Value.ofJson j = .error e ↔ j.Unsupported e := by
  cases j <;> simp [Value.ofJson, Json.Unsupported, Json.IsScalar, eq_comm]

namespace FilterDocument

theorem operand_eq_ok_iff {value : Option Json} {x : Operand} :
    operand value = .ok x ↔ BecomesOperand value x := by
  constructor
  · intro h
    unfold operand at h
    split at h
    · cases h
      exact .none
    · obtain ⟨vs, hvs, rfl⟩ := map_eq_ok_iff.1 h
      exact .list (mapM_eq_ok_iff.1 hvs)
    · obtain ⟨v, hv, rfl⟩ := map_eq_ok_iff.1 h
      exact .scalar hv
  · rintro (_ | h | @⟨j, v, h⟩)
    · rfl
    · exact map_eq_ok_iff.2 ⟨_, mapM_eq_ok_iff.2 h, rfl⟩
    · have hscalar : j.IsScalar := Value.exists_ofJson_iff.1 ⟨v, h⟩
      cases j <;> first | exact hscalar.elim | exact map_eq_ok_iff.2 ⟨_, h, rfl⟩

theorem partsOf_some {j : Json} (h : ∀ items, j = .array items → False) :
    partsOf (some j) = [j] := by
  cases j with
  | array items => exact (h items rfl).elim
  | _ => rfl

theorem operand_eq_error_iff {value : Option Json} {e : CriteriaError} :
    operand value = .error e ↔ First Json.IsScalar Json.Unsupported (partsOf value) e := by
  unfold operand
  split
  · simp [partsOf, first_nil]
  · rw [map_eq_error_iff]
    exact mapM_eq_error_iff (fun _ _ => Value.exists_ofJson_iff)
      fun _ _ _ => Value.ofJson_eq_error_iff
  · next hj =>
    rw [map_eq_error_iff, partsOf_some hj, first_cons, Value.ofJson_eq_error_iff]
    simp [first_nil]

theorem exists_operand_iff {value : Option Json} :
    (∃ x, operand value = .ok x) ↔ ∀ j ∈ partsOf value, j.IsScalar := by
  simp only [← Value.exists_ofJson_iff]
  unfold operand
  split
  · simp [partsOf]
  · rw [partsOf, ← exists_mapM_eq_ok_iff]
    simp [map_eq_ok_iff]
  · next hj =>
    rw [partsOf_some hj]
    simp [map_eq_ok_iff]

theorem BecomesOperand.arity {value : Option Json} {x : Operand} (h : BecomesOperand value x) :
    x.arity = kindOf value := by
  obtain _ | _ | @⟨j, v, h⟩ := h
  · rfl
  · rfl
  · have hscalar : j.IsScalar := Value.exists_ofJson_iff.1 ⟨v, h⟩
    cases j <;> first | exact hscalar.elim | rfl

end FilterDocument

/-! ## Comparisons -/

theorem Operator.Misfit.ne {field : String} {op : Operator} {taken given : Arity}
    {e : CriteriaError} (h : op.Misfit field taken given e) : given ≠ taken := by
  cases h with
  | unexpected hgiven => exact hgiven
  | missing htaken => exact htaken.symm
  | notList => decide
  | notScalar => decide

theorem Comparison.misfit_eq_iff {field : String} {op : Operator} {x : Operand}
    (h : x.arity ≠ op.arity) {e : CriteriaError} :
    misfit field op x = e ↔ op.Misfit field op.arity x.arity e := by
  unfold misfit
  generalize op.arity = taken, x.arity = given at h ⊢
  constructor
  · rintro rfl
    cases taken <;> cases given <;> first | exact absurd rfl h | constructor <;> decide
  · intro he
    cases he with
    | unexpected hgiven => rfl
    | missing htaken =>
      cases taken with
      | nullary => exact absurd rfl htaken
      | _ => rfl
    | notList => rfl
    | notScalar => rfl

/-- The field is checked before the operand. -/
theorem Comparison.of_eq_error_iff {field : String} {op : Operator} {x : Operand}
    {e : CriteriaError} :
    of field op x = .error e ↔
      IsBlankField field ∧ e = .emptyField ∨
        ¬ IsBlankField field ∧ op.Misfit field op.arity x.arity e := by
  unfold of
  split
  · next hblank => simp [hblank, eq_comm]
  · next hnamed =>
    split
    · next hfits =>
      have hnone : ¬ op.Misfit field op.arity x.arity e := fun he => he.ne hfits
      simp [hnamed, hnone]
    · next hmisfit =>
      rw [← misfit_eq_iff hmisfit]
      simp [hnamed]

theorem Operator.read_eq_ok_iff {s : String} {op : Operator} :
    read s = .ok op ↔ ofText? s = some op := by
  unfold read
  cases ofText? s <;> simp

theorem Operator.read_eq_error_iff {s : String} {e : CriteriaError} :
    read s = .error e ↔ ofText? s = none ∧ e = .unknownOperator s := by
  unfold read
  cases ofText? s <;> simp [eq_comm]

namespace FilterDocument

/-! ## Filters -/

/-- A pair of documents is converted from left to right. -/
theorem bind_pair_eq_ok_iff {join : Filter → Filter → Filter} {a b : FilterDocument} {h : Filter} :
    (do
      let f ← a.toFilter
      pure (join f (← b.toFilter))) = .ok h ↔
      ∃ f g, a.toFilter = .ok f ∧ b.toFilter = .ok g ∧ join f g = h := by
  simp only [bind_eq_ok_iff]
  constructor
  · rintro ⟨f, hf, g, hg, hjoin⟩
    exact ⟨f, g, hf, hg, Except.ok.inj hjoin⟩
  · rintro ⟨f, g, hf, hg, rfl⟩
    exact ⟨f, hf, g, hg, rfl⟩

theorem toFilter_eq_ok_iff {d : FilterDocument} {f : Filter} :
    d.toFilter = .ok f ↔ d.Becomes f := by
  induction d generalizing f with
  | comparison field operator value =>
    simp only [toFilter, bind_eq_ok_iff, Operator.read_eq_ok_iff, operand_eq_ok_iff,
      Comparison.of_eq_ok_iff]
    constructor
    · rintro ⟨op, hop, x, hx, c, ⟨hfield, hoperator, hoperand⟩, h⟩
      cases h
      exact .comparison hfield (hoperator ▸ hop) (hoperand ▸ hx)
    · rintro ⟨hfield, hop, hx⟩
      exact ⟨_, hop, _, hx, _, ⟨hfield, rfl, rfl⟩, rfl⟩
  | and a b ha hb =>
    rw [toFilter, bind_pair_eq_ok_iff]
    simp only [ha, hb]
    constructor
    · rintro ⟨f, g, hf, hg, rfl⟩
      exact .and hf hg
    · rintro (_ | ⟨hf, hg⟩)
      exact ⟨_, _, hf, hg, rfl⟩
  | or a b ha hb =>
    rw [toFilter, bind_pair_eq_ok_iff]
    simp only [ha, hb]
    constructor
    · rintro ⟨f, g, hf, hg, rfl⟩
      exact .or hf hg
    · rintro (_ | _ | ⟨hf, hg⟩)
      exact ⟨_, _, hf, hg, rfl⟩

/-- The document of one comparison is converted unless the comparison has a problem. -/
theorem toFilter_comparison_eq_error_iff {p : Leaf} {e : CriteriaError} :
    (comparison p.field p.operator p.value).toFilter = .error e ↔ p.Problem e := by
  simp only [toFilter, bind_eq_error_iff, Operator.read_eq_error_iff, Operator.read_eq_ok_iff,
    operand_eq_error_iff, operand_eq_ok_iff, Comparison.of_eq_error_iff]
  constructor
  · rintro (⟨hop, rfl⟩ | ⟨op, hop, hvalue | ⟨x, hx, hcomparison | ⟨c, -, h⟩⟩⟩)
    · exact .operator hop
    · exact .value hop hvalue
    · have hscalars : ∀ j ∈ partsOf p.value, j.IsScalar :=
        exists_operand_iff.1 ⟨x, operand_eq_ok_iff.2 hx⟩
      rcases hcomparison with ⟨hblank, rfl⟩ | ⟨hnamed, hmisfit⟩
      · exact .field hop hscalars hblank
      · exact .arity hop hscalars hnamed (hx.arity ▸ hmisfit)
    · cases h
  · have hoperand : (∀ j ∈ partsOf p.value, j.IsScalar) → ∃ x, BecomesOperand p.value x := by
      intro hscalars
      obtain ⟨x, hx⟩ := exists_operand_iff.2 hscalars
      exact ⟨x, operand_eq_ok_iff.1 hx⟩
    rintro (hop | ⟨hop, hvalue⟩ | ⟨hop, hscalars, hblank⟩ | ⟨hop, hscalars, hnamed, hmisfit⟩)
    · exact .inl ⟨hop, rfl⟩
    · exact .inr ⟨_, hop, .inl hvalue⟩
    · obtain ⟨x, hx⟩ := hoperand hscalars
      exact .inr ⟨_, hop, .inr ⟨x, hx, .inl (.inl ⟨hblank, rfl⟩)⟩⟩
    · obtain ⟨x, hx⟩ := hoperand hscalars
      exact .inr ⟨_, hop, .inr ⟨x, hx, .inl (.inr ⟨hnamed, hx.arity ▸ hmisfit⟩)⟩⟩

theorem exists_toFilter_comparison_iff {p : Leaf} :
    (∃ f, (comparison p.field p.operator p.value).toFilter = .ok f) ↔ p.Valid := by
  simp only [toFilter_eq_ok_iff]
  constructor
  · rintro ⟨_, @⟨_, _, _, c, hfield, hop, hx⟩⟩
    refine ⟨c.operator, hop, exists_operand_iff.1 ⟨_, operand_eq_ok_iff.2 hx⟩, ?_, ?_⟩
    · exact hfield ▸ c.named
    · exact hx.arity ▸ c.fits
  · rintro ⟨op, hop, hscalars, hnamed, hkind⟩
    obtain ⟨x, hx⟩ := exists_operand_iff.2 hscalars
    have hx := operand_eq_ok_iff.1 hx
    exact ⟨.comparison ⟨p.field, op, x, hnamed, hx.arity.trans hkind⟩, .comparison rfl hop hx⟩

theorem bind_pair_eq_error_iff {join : Filter → Filter → Filter} {a b : FilterDocument}
    {e : CriteriaError} :
    (do
      let f ← a.toFilter
      pure (join f (← b.toFilter))) = .error e ↔
      a.toFilter = .error e ∨ (∃ f, a.toFilter = .ok f) ∧ b.toFilter = .error e := by
  rw [bind_eq_error_iff]
  refine or_congr_right ⟨?_, ?_⟩
  · rintro ⟨f, hf, h⟩
    rcases bind_eq_error_iff.1 h with h | ⟨g, -, h⟩
    · exact ⟨⟨f, hf⟩, h⟩
    · cases h
  · rintro ⟨⟨f, hf⟩, h⟩
    exact ⟨f, hf, bind_eq_error_iff.2 (.inl h)⟩

theorem exists_bind_pair_iff {join : Filter → Filter → Filter} {a b : FilterDocument} :
    (∃ f, (do
      let f ← a.toFilter
      pure (join f (← b.toFilter))) = .ok f) ↔
      (∃ f, a.toFilter = .ok f) ∧ ∃ f, b.toFilter = .ok f := by
  simp only [bind_pair_eq_ok_iff]
  constructor
  · rintro ⟨-, f, g, hf, hg, -⟩
    exact ⟨⟨f, hf⟩, g, hg⟩
  · rintro ⟨⟨f, hf⟩, g, hg⟩
    exact ⟨_, f, g, hf, hg, rfl⟩

theorem exists_toFilter_iff {d : FilterDocument} :
    (∃ f, d.toFilter = .ok f) ↔ ∀ p ∈ d.leaves, p.Valid := by
  induction d with
  | comparison field operator value =>
    rw [leaves, List.forall_mem_singleton]
    exact exists_toFilter_comparison_iff (p := ⟨field, operator, value⟩)
  | and a b ha hb =>
    rw [leaves, List.forall_mem_append]
    exact exists_bind_pair_iff.trans (and_congr ha hb)
  | or a b ha hb =>
    rw [leaves, List.forall_mem_append]
    exact exists_bind_pair_iff.trans (and_congr ha hb)

/-- The first comparison with a problem decides. -/
theorem toFilter_eq_error_iff {d : FilterDocument} {e : CriteriaError} :
    d.toFilter = .error e ↔ First Leaf.Valid Leaf.Problem d.leaves e := by
  induction d with
  | comparison field operator value =>
    rw [leaves, first_cons, ← toFilter_comparison_eq_error_iff]
    simp [first_nil]
  | and a b ha hb =>
    rw [toFilter, bind_pair_eq_error_iff, leaves, first_append, ha, hb, exists_toFilter_iff]
  | or a b ha hb =>
    rw [toFilter, bind_pair_eq_error_iff, leaves, first_append, ha, hb, exists_toFilter_iff]

end FilterDocument

/-! ## The outcome -/

theorem Order.of_eq_error_iff {field : String} {direction : Direction} {e : CriteriaError} :
    Order.of field direction = .error e ↔ IsBlankField field ∧ e = .emptyField := by
  unfold Order.of
  split
  · next hblank => simp [hblank, eq_comm]
  · next hnamed => simp [hnamed]

theorem Criteria.Builder.build_eq_error_iff {b : Builder} {e : CriteriaError} :
    b.build = .error e ↔ b.limit = some 0 ∧ e = .zeroLimit := by
  unfold build
  split
  · next hlimit => simp [hlimit, eq_comm]
  · next hlimit => simp [hlimit]

/-- A sort key without a field, and the complaint about it. -/
def OrderDocument.Nameless (o : OrderDocument) (e : CriteriaError) : Prop :=
  IsBlankField o.field ∧ e = .emptyField

theorem OrderDocument.exists_of_iff {o : OrderDocument} :
    (∃ k, Order.of o.field o.direction = .ok k) ↔ ¬ IsBlankField o.field := by
  simp only [Order.of_eq_ok_iff]
  constructor
  · rintro ⟨k, hfield, -⟩
    exact hfield ▸ k.named
  · intro hnamed
    exact ⟨⟨o.field, o.direction, hnamed⟩, rfl, rfl⟩

/-- All sort keys without a field have one complaint. -/
theorem OrderDocument.first_nameless_iff {os : List OrderDocument} {e : CriteriaError} :
    First (fun o : OrderDocument => ¬ IsBlankField o.field) Nameless os e ↔
      (∃ o ∈ os, IsBlankField o.field) ∧ e = .emptyField := by
  induction os with
  | nil => simp [first_nil]
  | cons o os ih =>
    rw [first_cons, ih, List.exists_mem_cons_iff]
    unfold Nameless
    tauto

namespace Document

variable {d : Document}

theorem mapM_filters_eq_ok_iff {fs : List Filter} :
    d.filters.mapM FilterDocument.toFilter = .ok fs ↔
      List.Forall₂ FilterDocument.Becomes d.filters fs := by
  simp only [mapM_eq_ok_iff, FilterDocument.toFilter_eq_ok_iff]

theorem mapM_filters_eq_error_iff {e : CriteriaError} :
    d.filters.mapM FilterDocument.toFilter = .error e ↔
      First FilterDocument.Leaf.Valid FilterDocument.Leaf.Problem d.leaves e := by
  unfold leaves
  rw [← first_flatMap]
  exact mapM_eq_error_iff (fun _ _ => FilterDocument.exists_toFilter_iff)
    fun _ _ _ => FilterDocument.toFilter_eq_error_iff

theorem exists_mapM_filters_iff :
    (∃ fs, d.filters.mapM FilterDocument.toFilter = .ok fs) ↔ ∀ p ∈ d.leaves, p.Valid := by
  simp only [exists_mapM_eq_ok_iff, FilterDocument.exists_toFilter_iff, leaves,
    List.mem_flatMap]
  exact ⟨fun h p ⟨f, hf, hp⟩ => h f hf p hp, fun h f hf p hp => h p ⟨f, hf, hp⟩⟩

theorem mapM_sorting_eq_ok_iff {os : List Order} :
    (d.sorting.mapM fun o => Order.of o.field o.direction) = .ok os ↔
      List.Forall₂ (fun o k => k.field = o.field ∧ k.direction = o.direction) d.sorting os := by
  simp only [mapM_eq_ok_iff, Order.of_eq_ok_iff]

theorem mapM_sorting_eq_error_iff {e : CriteriaError} :
    (d.sorting.mapM fun o => Order.of o.field o.direction) = .error e ↔
      (∃ o ∈ d.sorting, IsBlankField o.field) ∧ e = .emptyField := by
  rw [← OrderDocument.first_nameless_iff]
  exact mapM_eq_error_iff (fun _ _ => OrderDocument.exists_of_iff)
    fun _ _ _ => Order.of_eq_error_iff

theorem exists_mapM_sorting_iff :
    (∃ os, (d.sorting.mapM fun o => Order.of o.field o.direction) = .ok os) ↔
      ∀ o ∈ d.sorting, ¬ IsBlankField o.field := by
  simp only [exists_mapM_eq_ok_iff, OrderDocument.exists_of_iff]

theorem toCriteria_eq_ok_iff {c : Criteria} : d.toCriteria = .ok c ↔ d.Becomes c := by
  unfold toCriteria
  simp only [bind_eq_ok_iff, mapM_filters_eq_ok_iff, mapM_sorting_eq_ok_iff,
    Criteria.Builder.build_eq_ok_iff]
  constructor
  · rintro ⟨fs, hfs, os, hos, hfilters, hsorting, hoffset, hlimit⟩
    exact ⟨hfilters ▸ hfs, hsorting ▸ hos, hoffset, hlimit⟩
  · rintro ⟨hfs, hos, hoffset, hlimit⟩
    exact ⟨_, hfs, _, hos, rfl, rfl, hoffset, hlimit⟩

theorem toCriteria_eq_error_iff {e : CriteriaError} :
    d.toCriteria = .error e ↔ d.FirstProblem e := by
  unfold toCriteria
  simp only [bind_eq_error_iff, mapM_filters_eq_error_iff, mapM_sorting_eq_error_iff,
    Criteria.Builder.build_eq_error_iff]
  constructor
  · rintro (h | ⟨fs, hfs, ⟨hblank, rfl⟩ | ⟨os, hos, hlimit, rfl⟩⟩)
    · exact .comparison h
    · exact .sorting (exists_mapM_filters_iff.1 ⟨fs, hfs⟩) hblank
    · exact .limit (exists_mapM_filters_iff.1 ⟨fs, hfs⟩) (exists_mapM_sorting_iff.1 ⟨os, hos⟩)
        hlimit
  · rintro (h | ⟨hvalid, hblank⟩ | ⟨hvalid, hnamed, hlimit⟩)
    · exact .inl h
    · obtain ⟨fs, hfs⟩ := exists_mapM_filters_iff.2 hvalid
      exact .inr ⟨fs, hfs, .inl ⟨hblank, rfl⟩⟩
    · obtain ⟨fs, hfs⟩ := exists_mapM_filters_iff.2 hvalid
      obtain ⟨os, hos⟩ := exists_mapM_sorting_iff.2 hnamed
      exact .inr ⟨fs, hfs, .inr ⟨os, hos, hlimit, rfl⟩⟩

theorem exists_toCriteria_iff : (∃ c, d.toCriteria = .ok c) ↔ d.Valid := by
  unfold toCriteria
  simp only [bind_eq_ok_iff, Criteria.Builder.build_eq_ok_iff]
  constructor
  · rintro ⟨c, fs, hfs, os, hos, -, -, -, hlimit⟩
    exact ⟨exists_mapM_filters_iff.1 ⟨fs, hfs⟩, exists_mapM_sorting_iff.1 ⟨os, hos⟩,
      hlimit ▸ c.limit_ne_zero⟩
  · rintro ⟨hvalid, hnamed, hlimit⟩
    obtain ⟨fs, hfs⟩ := exists_mapM_filters_iff.2 hvalid
    obtain ⟨os, hos⟩ := exists_mapM_sorting_iff.2 hnamed
    exact ⟨⟨fs, os, d.offset, d.limit, hlimit⟩, fs, hfs, os, hos, rfl, rfl, rfl, rfl⟩

end Document

/-- No comparison that was read from JSON has a null for a value: a null is read as no value. -/
theorem FilterDocument.value_ne_null {j : Json} {f : FilterDocument} (h : ofJson? j = some f) :
    ∀ p ∈ f.leaves, p.value ≠ some .null := by
  induction f generalizing j with
  | comparison field operator value =>
    obtain ⟨members, -, -, -, h⟩ := ofJson?_eq_comparison_iff.1 h
    obtain ⟨_, _, _, ⟨⟩, hvalue, -⟩ := comparison?_eq_some h
    rw [leaves, List.forall_mem_singleton]
    exact hvalue
  | and a b ha hb =>
    obtain ⟨members, l, r, -, -, hl, hr⟩ := ofJson?_eq_and_iff.1 h
    rw [leaves, List.forall_mem_append]
    exact ⟨ha hl, hb hr⟩
  | or a b ha hb =>
    obtain ⟨members, l, r, -, -, -, hl, hr⟩ := ofJson?_eq_or_iff.1 h
    rw [leaves, List.forall_mem_append]
    exact ⟨ha hl, hb hr⟩

/-! ## The main statement -/

/-- A document becomes a criteria exactly if it is valid, and the one that it describes; if it is
not, the first problem is reported. Comparisons that were read from JSON have no null to be
converted. -/
theorem Document.toCriteria_outcome (d : Document) :
    ((∃ c, d.toCriteria = .ok c) ↔ d.Valid) ∧
      (∀ c, d.toCriteria = .ok c ↔ d.Becomes c) ∧
      (∀ e, d.toCriteria = .error e ↔ d.FirstProblem e) ∧
      ∀ j f, FilterDocument.ofJson? j = some f → ∀ p ∈ f.leaves, p.value ≠ some .null :=
  ⟨exists_toCriteria_iff, fun _ => toCriteria_eq_ok_iff, fun _ => toCriteria_eq_error_iff,
    fun _ _ => FilterDocument.value_ne_null⟩

/-- Its second comparison has no field and two values that are no scalars, its third one has no
known operator, and its sort key and its limit are wrong as well. -/
def Document.unruly : Document where
  filters := [.or (.comparison "who" "=" (some (.text "Ann")))
    (.and (.comparison " " "in" (some (.array [.bool true, .null, .array []])))
      (.comparison "total" "about" none))]
  sorting := [⟨"", .asc⟩]
  limit := some 0

theorem Document.toCriteria_outcome_unruly :
    unruly.toCriteria = .error (.unsupportedValue "null") ∧ ¬ unruly.Valid ∧
      ∃ j f, FilterDocument.ofJson? j = some f ∧ ∀ p ∈ f.leaves, p.value ≠ some .null := by
  obtain ⟨hvalid, -, herror, hnull⟩ := toCriteria_outcome unruly
  have hfirst : FilterDocument.Leaf.Valid ⟨"who", "=", some (.text "Ann")⟩ :=
    ⟨.equal, rfl, by simp [FilterDocument.partsOf, Json.IsScalar], by decide, rfl⟩
  have hsecond : FilterDocument.Leaf.Problem
      ⟨" ", "in", some (.array [.bool true, .null, .array []])⟩ (.unsupportedValue "null") :=
    .value rfl (.later trivial (.here ⟨id, rfl⟩))
  have hfails : unruly.toCriteria = .error (.unsupportedValue "null") :=
    (herror _).2 (.comparison (.later hfirst (.here hsecond)))
  have hread : FilterDocument.ofJson? (.object [("field", .text "who"),
      ("operator", .text "is null"), ("value", .null)]) =
    some (.comparison "who" "is null" none) := rfl
  refine ⟨hfails, fun h => ?_, _, _, hread, hnull _ _ hread⟩
  obtain ⟨c, hc⟩ := hvalid.2 h
  rw [hfails] at hc
  cases hc

end QueryCriteria
