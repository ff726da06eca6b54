import Mathlib.Data.List.Forall2
import Mathlib.Data.Set.List
import QueryCriteria.Document.Basic
import QueryCriteria.Proofs.Condition
import QueryCriteria.Proofs.Faults
import QueryCriteria.Proofs.Reading

/-!
Which criteria there are, and what follows for queries.

`Criteria.Obtained` says how a criteria comes about: by default, by a builder that was called any
number of times, or from a document, with every comparison and every sort key made by one of the
functions that check it. `Criteria.Parts` is what a criteria holds, without any check. The parts of
the criteria that can be obtained are the well-formed ones, all of them and no others
(`Criteria.exists_obtained_iff`).

An operand of the kind its operator takes is bound in one way: a value without a type, a list with
one (`Comparison.BoundBy`). So no parameter that comes from criteria is a list without a type
(`Sql.Parameter.Typed`), and that is kept by a query whatever is executed on it and whatever names
are bound again, as long as no parameter is bound by hand (`Sql.Select.Composed`). Rendering such a
query fails for want of a name or not at all.
-/

namespace QueryCriteria

open Sql

/-! ## Parts without checks -/

/-- What a comparison is made of. -/
structure Comparison.Parts where
  field : String
  operator : Operator
  operand : Operand

/-- What a criteria is made of. -/
structure Criteria.Parts where
  filters : List (Condition Comparison.Parts)
  sorting : List (String × Direction)
  offset : Option UInt64
  limit : Option UInt64

def Comparison.parts (c : Comparison) : Comparison.Parts := ⟨c.field, c.operator, c.operand⟩

def Filter.parts : Filter → Condition Comparison.Parts
  | comparison c => .atom c.parts
  | and left right => .and left.parts right.parts
  | or left right => .or left.parts right.parts

def Order.parts (o : Order) : String × Direction := (o.field, o.direction)

def Criteria.parts (c : Criteria) : Criteria.Parts :=
  ⟨c.filters.map Filter.parts, c.sorting.map Order.parts, c.offset, c.limit⟩

/-- The field names something, and the operand is of the kind the operator takes. -/
structure Comparison.Parts.WellFormed (p : Comparison.Parts) : Prop where
  named : ¬ IsBlankField p.field
  fits : p.operand.arity = p.operator.arity

structure Criteria.Parts.WellFormed (p : Criteria.Parts) : Prop where
  comparisons : ∀ t ∈ p.filters, ∀ x ∈ t.atoms, x.WellFormed
  sorting : ∀ o ∈ p.sorting, ¬ IsBlankField o.1
  limit : p.limit ≠ some 0

/-! ## Ways to a criteria -/

/-- Comparisons that one of the functions for them has made. -/
inductive Comparison.Obtained : Comparison → Prop where
  | of {field : String} {operator : Operator} {operand : Operand} {c : Comparison} :
    Comparison.of field operator operand = .ok c → Obtained c
  | withValue {operator : Operator} {field : String} {v : Value} {c : Comparison} :
    Comparison.withValue operator field v = .ok c → Obtained c
  | inList {field : String} {vs : List Value} {c : Comparison} :
    Comparison.inList field vs = .ok c → Obtained c
  | notInList {field : String} {vs : List Value} {c : Comparison} :
    Comparison.notInList field vs = .ok c → Obtained c
  | isNull {field : String} {c : Comparison} : Comparison.isNull field = .ok c → Obtained c
  | isNotNull {field : String} {c : Comparison} : Comparison.isNotNull field = .ok c → Obtained c

inductive Filter.Obtained : Filter → Prop where
  | comparison {c : Comparison} : c.Obtained → Obtained (.comparison c)
  | and {l r : Filter} : Obtained l → Obtained r → Obtained (.and l r)
  | or {l r : Filter} : Obtained l → Obtained r → Obtained (.or l r)

inductive Order.Obtained : Order → Prop where
  | of {field : String} {direction : Direction} {o : Order} :
    Order.of field direction = .ok o → Obtained o
  | asc {field : String} {o : Order} : Order.asc field = .ok o → Obtained o
  | desc {field : String} {o : Order} : Order.desc field = .ok o → Obtained o

/-- Builders after any sequence of calls. -/
inductive Criteria.Builder.Obtained : Builder → Prop where
  | new : Obtained {}
  | filter {b : Builder} {f : Filter} : Obtained b → f.Obtained → Obtained (b.filter f)
  | filterAll {b : Builder} {fs : List Filter} :
    Obtained b → (∀ f ∈ fs, f.Obtained) → Obtained (b.filterAll fs)
  | order {b : Builder} {o : Order} : Obtained b → o.Obtained → Obtained (b.order o)
  | skipRows {b : Builder} (n : UInt64) : Obtained b → Obtained (b.skipRows n)
  | takeRows {b : Builder} (n : UInt64) : Obtained b → Obtained (b.takeRows n)

inductive Criteria.Obtained : Criteria → Prop where
  | empty : Obtained empty
  | build {b : Builder} {c : Criteria} : b.Obtained → b.build = .ok c → Obtained c
  | document {d : Document} {c : Criteria} : d.toCriteria = .ok c → Obtained c

/-! ## The well-formed ones and no others -/

theorem Filter.wellFormed_parts (f : Filter) : ∀ x ∈ f.parts.atoms, x.WellFormed := by
  induction f with
  | comparison c =>
    intro x hx
    rw [List.mem_singleton.1 hx]
    exact ⟨c.named, c.fits⟩
  | and l r hl hr => exact fun x hx => (List.mem_append.1 hx).elim (hl x) (hr x)
  | or l r hl hr => exact fun x hx => (List.mem_append.1 hx).elim (hl x) (hr x)

/-- The proofs that a criteria holds are about its parts. -/
theorem Criteria.wellFormed_parts (c : Criteria) : c.parts.WellFormed := by
  refine ⟨?_, ?_, c.limit_ne_zero⟩
  · intro t ht
    obtain ⟨f, -, rfl⟩ := List.mem_map.1 ht
    exact f.wellFormed_parts
  · intro o ho
    obtain ⟨o', -, rfl⟩ := List.mem_map.1 ho
    exact o'.named

/-- The checks of a comparison refuse nothing that fits. -/
theorem Comparison.obtained (c : Comparison) : c.Obtained :=
  .of (of_eq_ok_iff.2 ⟨rfl, rfl, rfl⟩)

theorem Filter.obtained (f : Filter) : f.Obtained := by
  induction f with
  | comparison c => exact .comparison c.obtained
  | and l r hl hr => exact .and hl hr
  | or l r hl hr => exact .or hl hr

theorem Order.obtained (o : Order) : o.Obtained := .of (of_eq_ok_iff.2 ⟨rfl, rfl⟩)

/-- Sort keys can be added one after the other. -/
theorem Criteria.Builder.Obtained.orderAll {b : Builder} (h : b.Obtained) (os : List Order) :
    Obtained (os.foldl Builder.order b) := by
  induction os generalizing b with
  | nil => exact h
  | cons o os ih => exact ih (h.order o.obtained)

theorem Criteria.Builder.foldl_order (b : Builder) (os : List Order) :
    os.foldl Builder.order b = { b with sorting := b.sorting ++ os } := by
  induction os generalizing b with
  | nil => rw [List.append_nil]; rfl
  | cons o os ih =>
    rw [List.foldl_cons, ih]
    simp [order]

/-- Every criteria is what a builder makes of its parts. -/
theorem Criteria.obtained (c : Criteria) : c.Obtained := by
  have hsorting := (Builder.Obtained.new.filterAll fun f (_ : f ∈ c.filters) =>
    f.obtained).orderAll c.sorting
  rw [Builder.foldl_order] at hsorting
  have hbuild : ∀ b : Builder, b.filters = c.filters → b.sorting = c.sorting →
      b.offset = c.offset → b.limit = c.limit → b.Obtained → c.Obtained :=
    fun b hf hs ho hl h => .build h (Builder.build_eq_ok_iff.2 ⟨hf.symm, hs.symm, ho.symm, hl.symm⟩)
  cases ho : c.offset with
  | none =>
    cases hl : c.limit with
    | none => exact hbuild _ rfl rfl ho.symm hl.symm hsorting
    | some m => exact hbuild _ rfl rfl ho.symm hl.symm (hsorting.takeRows m)
  | some n =>
    cases hl : c.limit with
    | none => exact hbuild _ rfl rfl ho.symm hl.symm (hsorting.skipRows n)
    | some m => exact hbuild _ rfl rfl ho.symm hl.symm ((hsorting.skipRows n).takeRows m)

theorem Filter.exists_parts_eq {t : Condition Comparison.Parts}
    (h : ∀ x ∈ t.atoms, x.WellFormed) : ∃ f : Filter, f.parts = t := by
  induction t with
  | atom x =>
    have hx := h x (List.mem_singleton_self x)
    exact ⟨.comparison ⟨x.field, x.operator, x.operand, hx.named, hx.fits⟩, rfl⟩
  | and l r hl hr =>
    obtain ⟨f, rfl⟩ := hl fun x hx => h x (List.mem_append_left _ hx)
    obtain ⟨g, rfl⟩ := hr fun x hx => h x (List.mem_append_right _ hx)
    exact ⟨.and f g, rfl⟩
  | or l r hl hr =>
    obtain ⟨f, rfl⟩ := hl fun x hx => h x (List.mem_append_left _ hx)
    obtain ⟨g, rfl⟩ := hr fun x hx => h x (List.mem_append_right _ hx)
    exact ⟨.or f g, rfl⟩

/-- The parts of the criteria that can be obtained are the well-formed ones. -/
theorem Criteria.exists_obtained_iff (p : Criteria.Parts) :
    (∃ c : Criteria, c.Obtained ∧ c.parts = p) ↔ p.WellFormed := by
  constructor
  · rintro ⟨c, -, rfl⟩
    exact c.wellFormed_parts
  · intro h
    have hfilters : p.filters ∈ Set.range (List.map Filter.parts) := by
      rw [Set.range_list_map]
      exact fun t ht => Filter.exists_parts_eq (h.comparisons t ht)
    have hsorting : p.sorting ∈ Set.range (List.map Order.parts) := by
      rw [Set.range_list_map]
      exact fun o ho => ⟨⟨o.1, o.2, h.sorting o ho⟩, rfl⟩
    obtain ⟨fs, hfs⟩ := hfilters
    obtain ⟨os, hos⟩ := hsorting
    refine ⟨⟨fs, os, p.offset, p.limit, h.limit⟩, obtained _, ?_⟩
    unfold parts
    rw [hfs, hos]

/-! ## What comparisons bind -/

/-- A parameter is what a comparison binds under its number: a value without a type, or a list with
the one there is. -/
structure Comparison.BoundBy (c : Comparison) (number : Nat) (p : Parameter) : Prop where
  name : p.name = c.parameterName number
  value : (∃ v, c.operand = .scalar v ∧ p.value = .scalar (boundValue c.operator v) ∧
      p.type = none) ∨
    ∃ vs, c.operand = .list vs ∧ p.value = .list vs ∧ p.type = some .stringArray

/-- Lists have a type and single values have none. -/
structure Sql.Parameter.Typed (p : Parameter) : Prop where
  list : ∀ vs, p.value = .list vs → p.type = some .stringArray
  scalar : ∀ v, p.value = .scalar v → p.type = none

theorem Comparison.BoundBy.typed {c : Comparison} {number : Nat} {p : Parameter}
    (h : c.BoundBy number p) : p.Typed := by
  rcases h.value with ⟨v, -, hv, ht⟩ | ⟨vs, -, hv, ht⟩
  · refine ⟨fun ws hw => ?_, fun _ _ => ht⟩
    rw [hv] at hw
    cases hw
  · refine ⟨fun _ _ => ht, fun w hw => ?_⟩
    rw [hv] at hw
    cases hw

/-- A comparison binds nothing if its operator takes nothing, and else one parameter. -/
theorem Comparison.parameters_cases (c : Comparison) (number : Nat) :
    (c.operator.arity = .nullary ∧ c.parameters number = []) ∨
      (c.operator.arity ≠ .nullary ∧ ∃ p, c.parameters number = [p] ∧ c.BoundBy number p) := by
  have hfits := c.fits
  unfold parameters
  cases ho : c.operand with
  | none =>
    rw [ho] at hfits
    exact .inl ⟨hfits.symm, rfl⟩
  | scalar v =>
    rw [ho] at hfits
    refine .inr ⟨fun h => ?_, _, rfl, ⟨rfl, .inl ⟨v, ho, rfl, rfl⟩⟩⟩
    rw [← hfits] at h
    cases h
  | list vs =>
    rw [ho] at hfits
    refine .inr ⟨fun h => ?_, _, rfl, ⟨rfl, .inr ⟨vs, ho, rfl, parameterType_of_list ho⟩⟩⟩
    rw [← hfits] at h
    cases h

theorem Comparison.typed_of_mem {c : Comparison} {number : Nat} {p : Parameter}
    (h : p ∈ c.parameters number) : p.Typed := by
  rcases c.parameters_cases number with ⟨-, hnone⟩ | ⟨-, q, hq, hbound⟩
  · rw [hnone] at h
    cases h
  · rw [hq] at h
    rw [List.mem_singleton.1 h]
    exact hbound.typed

/-- The comparisons that take something, with their numbers after `count` others. -/
def Criteria.taking (count : Nat) (c : Criteria) : List (Comparison × Nat) :=
  (Filter.numbered count c.filters).filter fun x => x.1.operator.arity ≠ .nullary

/-- The clauses of a criteria after `count` comparisons: a predicate for each filter, and a
parameter for each comparison that takes something, in their order. -/
structure Criteria.Translated (fields : FieldMap) (count : Nat) (c : Criteria) (t : Clauses) :
    Prop where
  predicates : List.Forall₂ (fun f s => ∃ n, s = (Filter.predicate fields n f).result) c.filters
    t.predicates
  parameters : List.Forall₂ (fun x p => x.1.BoundBy x.2 p) (c.taking count) t.parameters
  typed : ∀ p ∈ t.parameters, p.Typed

theorem Filter.forall₂_predicates (fields : FieldMap) (count : Nat) (fs : List Filter) :
    List.Forall₂ (fun f s => ∃ n, s = (Filter.predicate fields n f).result) fs
      (predicates fields count fs).result := by
  induction fs generalizing count with
  | nil => exact .nil
  | cons f fs ih => exact .cons ⟨count, rfl⟩ (ih _)

theorem Comparison.forall₂_parameters (xs : List (Comparison × Nat)) :
    List.Forall₂ (fun x p => x.1.BoundBy x.2 p)
      (xs.filter fun x => x.1.operator.arity ≠ .nullary)
      (xs.flatMap fun x => x.1.parameters x.2) := by
  induction xs with
  | nil => exact .nil
  | cons x xs ih =>
    rw [List.filter_cons, List.flatMap_cons]
    rcases x.1.parameters_cases x.2 with ⟨harity, hp⟩ | ⟨harity, p, hp, hbound⟩
    · rw [hp, if_neg (by simpa using harity)]
      exact ih
    · rw [hp, if_pos (by simpa using harity)]
      exact .cons hbound ih

theorem Criteria.translated (fields : FieldMap) (count : Nat) (c : Criteria) :
    c.Translated fields count (c.clausesFrom fields count) := by
  have hparameters : (c.clausesFrom fields count).parameters =
      (Filter.numbered count c.filters).flatMap fun x => x.1.parameters x.2 :=
    Filter.parameters_predicates fields count c.filters
  refine ⟨Filter.forall₂_predicates fields count c.filters, ?_, ?_⟩
  · rw [hparameters]
    exact Comparison.forall₂_parameters _
  · intro p hp
    rw [hparameters] at hp
    obtain ⟨x, -, hp⟩ := List.mem_flatMap.1 hp
    exact Comparison.typed_of_mem hp

/-! ## Faults -/

namespace Sql

theorem Parameter.Typed.error?_eq_none {p : Parameter} (h : p.Typed) :
    (Placeholder.bound p).error? = none := by
  unfold Placeholder.error?
  cases hv : p.value with
  | scalar v => simp only [hv]
  | list vs => simp only [hv, h.list vs hv]

/-- Faults for want of a name. -/
def RenderError.NameMissing (e : RenderError) : Prop := ∃ name, e = .unboundParameter name

/-- If there is a fault, a name is missing. -/
def NamesOnly (ts : List Token) : Prop := ∀ t ∈ ts, ∀ e, t.fault? = some e → e.NameMissing

namespace Fragment

/-- What is referred to is bound. -/
theorem mem_of_bound_mem {ps : List Parameter} {quoted : Bool} {n : Nat} {s : List Char}
    {p : Parameter} (h : Piece.bound p ∈ piecesFrom ps quoted n s) : p ∈ ps := by
  fun_induction piecesFrom ps quoted n s with
  | case1 => cases h
  | case2 quoted pass c s ih => exact ih h
  | case3 quoted c s hplain ih =>
    exact ih ((List.mem_cons.1 h).resolve_left fun he => nomatch he)
  | case4 quoted c s hcolon hcast ih =>
    simp only [List.mem_cons, reduceCtorEq, false_or] at h
    exact ih h
  | case5 quoted c s hcolon hcast q hq ih =>
    rcases List.mem_cons.1 h with he | h
    · rw [Piece.bound.inj he]
      exact mem_of_reference? hq
    · exact ih h
  | case6 quoted c s hcolon hcast hnone hempty ih =>
    exact ih ((List.mem_cons.1 h).resolve_left fun he => nomatch he)
  | case7 quoted c s hcolon hcast hnone hname ih =>
    exact ih ((List.mem_cons.1 h).resolve_left fun he => nomatch he)

end Fragment

namespace Select

theorem mem_parameters_of_bound_mem {q : Select} {p : Parameter}
    (h : .bound p ∈ q.placeholders) : p ∈ q.parameters := by
  obtain ⟨s, -, hs⟩ := List.mem_flatMap.1 h
  obtain ⟨x, hx, hxp⟩ := List.mem_filterMap.1 hs
  cases x with
  | plain c => cases hxp
  | unbound name => cases hxp
  | bound p' =>
    obtain rfl := Placeholder.bound.inj (Option.some.inj hxp)
    exact Fragment.mem_of_bound_mem hx

/-- Under typed parameters a query has faults for want of a name only. -/
theorem namesOnly_tokens {q : Select} (h : ∀ p ∈ q.parameters, p.Typed) :
    NamesOnly q.tokens := by
  intro t ht e he
  have hfault : e ∈ q.tokens.filterMap Token.fault? := List.mem_filterMap.2 ⟨t, ht, he⟩
  rw [carried_fault.select] at hfault
  obtain ⟨x, hx, hxe⟩ := List.mem_flatMap.1 hfault
  have herror := Option.mem_toList.1 hxe
  cases x with
  | unbound name => exact ⟨name, (Option.some.inj herror).symm⟩
  | bound p =>
    rw [(h p (mem_parameters_of_bound_mem hx)).error?_eq_none] at herror
    cases herror

theorem nameMissing_of_render {q : Select} (h : ∀ p ∈ q.parameters, p.Typed) {d : Dialect}
    {e : RenderError} (he : q.render d = .error e) : e.NameMissing := by
  unfold render Sql.render at he
  cases hfault : firstFault? q.tokens with
  | none =>
    rw [hfault] at he
    cases he
  | some e' =>
    rw [hfault] at he
    obtain rfl := Except.error.inj he
    obtain ⟨t, ht, hte⟩ := List.exists_of_findSome?_eq_some hfault
    exact namesOnly_tokens h t ht e' hte

/-! ## Queries without parameters bound by hand -/

/-- Queries that began with columns and a table, whatever was done to them since but for binding a
parameter by hand. Any session may have executed any of the criteria, also one that has executed
others elsewhere. -/
inductive Composed : Select → Prop where
  | start (columns : List Expr) (source : FromClause) : Composed (start columns source)
  | execute {q : Select} {c : Criteria} (s : Session) :
    Composed q → c.Obtained → Composed (q.apply (s.execute c).1)
  | filter {q : Select} (e : Expr) : Composed q → Composed (q.filter e)
  | orderBy {q : Select} (k : SortKey) : Composed q → Composed (q.orderBy k)
  | takeRows {q : Select} (n : UInt64) : Composed q → Composed (q.takeRows n)
  | skipRows {q : Select} (n : UInt64) : Composed q → Composed (q.skipRows n)

theorem apply_parameters (q : Select) (t : Clauses) :
    (q.apply t).parameters = bindAll q.parameters t.parameters := by
  unfold apply
  rw [addAll_eq, t.filterMap_parameter]

/-- Whatever is bound again, what stands under a name was bound by a comparison. -/
theorem Composed.typed {q : Select} (h : q.Composed) : ∀ p ∈ q.parameters, p.Typed := by
  induction h with
  | start columns source => exact fun p hp => nomatch hp
  | @execute q c s _ _ ih =>
    intro p hp
    rw [apply_parameters] at hp
    rcases mem_bindAll hp with hp | hp
    · exact ih p hp
    · exact (c.translated s.fields s.count).typed p hp
  | filter e _ ih => exact ih
  | orderBy k _ ih => exact ih
  | takeRows n _ ih => exact ih
  | skipRows n _ ih => exact ih

/-- A session leaves a composed query composed. -/
theorem Composed.executeAll {q : Select} (h : q.Composed) (fields : FieldMap)
    {cs : List Criteria} (hcs : ∀ c ∈ cs, c.Obtained) : (q.executeAll fields cs).Composed := by
  unfold Select.executeAll
  generalize Session.start fields = s
  induction cs generalizing q s with
  | nil => exact h
  | cons c cs ih =>
    exact ih (h.execute s (hcs c (List.mem_cons_self ..)))
      (fun c' hc' => hcs c' (List.mem_cons_of_mem c hc')) _

end Select

end Sql

/-! ## The main statement -/

/-- The criteria that can be obtained are the well-formed ones. Their clauses have a parameter for
each comparison that takes something, typed as its operand asks; and no query that they are
executed on fails for a list without a type. -/
theorem Criteria.wellFormed_throughout :
    (∀ p : Criteria.Parts, (∃ c : Criteria, c.Obtained ∧ c.parts = p) ↔ p.WellFormed) ∧
      (∀ c : Criteria, c.Obtained → ∀ fields count,
        c.Translated fields count (c.clausesFrom fields count)) ∧
      ∀ q : Select, q.Composed → ∀ d name, q.render d ≠ .error (.untypedList name) := by
  refine ⟨exists_obtained_iff, fun c _ fields count => c.translated fields count, ?_⟩
  intro q hq d name he
  obtain ⟨name', h⟩ := Select.nameMissing_of_render hq.typed he
  cases h

/-- A list under the name `b11`, nine comparisons that bind nothing, and another list under `b11`. -/
def listsOfOneName : Criteria :=
  { Criteria.empty with
    filters := .comparison ⟨"b1", .isIn, .list [.text "u"], by decide, rfl⟩
      :: List.replicate 9 (.comparison ⟨"y", .isNotNull, .none, by decide, by decide⟩)
      ++ [.comparison ⟨"b", .notIn, .list [.int 1, .int 2], by decide, rfl⟩] }

/-- The second list takes the place of the first one, and with it its type. A criteria with the
limit 0 cannot be obtained. -/
theorem Criteria.wellFormed_listsOfOneName :
    listsOfOneName.parts.WellFormed ∧
      ((Select.start [.fragment ":b11"] ⟨⟨none, "t"⟩, none⟩).executeAll FieldMap.empty
          [listsOfOneName, listsOfOneName]).render .mysql ≠ .error (.untypedList "b11") ∧
        ¬ ∃ c : Criteria, c.Obtained ∧ c.parts = ⟨[], [], none, some 0⟩ := by
  obtain ⟨hparts, -, hrender⟩ := wellFormed_throughout
  refine ⟨(hparts _).1 ⟨listsOfOneName, listsOfOneName.obtained, rfl⟩, ?_, ?_⟩
  · refine hrender _ ((Select.Composed.start _ _).executeAll FieldMap.empty ?_) .mysql "b11"
    exact fun c _ => c.obtained
  · exact fun h => ((hparts _).1 h).limit rfl

end QueryCriteria
