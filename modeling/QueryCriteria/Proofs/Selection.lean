import QueryCriteria.Proofs.Meaning
import QueryCriteria.Proofs.Recovery
import QueryCriteria.Proofs.TextConditions

/-!
The texts that a condition selects.

A condition of CONTAINS, IN or NOT IN is rendered, read as SQL reads it and put to the texts of its
column; it selects those that pass (`Comparison.Selects`). By the main statement
(`Comparison.selects`)

  * CONTAINS selects the texts a part of which fits the value as a pattern. All texts with the
    value in them are among these, and there are others as soon as the value has a wildcard in it;
  * IN selects the texts of the list's elements;
  * NOT IN selects all others, but if the list is empty it selects nothing: the list of no
    elements is written as a null, of which no text is known to differ.

The placeholder in a condition is taken as the place of its operand (`Comparison.bound`). The
scanner takes it so too if the column is balanced and the field does not begin with a colon
(`Comparison.tokens_condition`).
-/

namespace QueryCriteria

open Sql Sql.Fragment

theorem Operand.exists_scalar {x : Operand} (h : x.arity = .scalar) : ∃ v, x = .scalar v := by
  cases x with
  | scalar v => exact ⟨v, rfl⟩
  | _ => cases h

theorem Operand.exists_list {x : Operand} (h : x.arity = .list) : ∃ vs, x = .list vs := by
  cases x with
  | list vs => exact ⟨vs, rfl⟩
  | _ => cases h

/-! ## A condition with its parameter in place -/

namespace Segment

/-- The tokens of a segment, with what its comparison binds in the hole. -/
def bound : Segment → List Token
  | copied s => s.map fun c => .text [c]
  | operand c number => (c.parameters number).flatMap referenceTokens

section Hole

variable (c : Comparison) (number : Nat)

theorem bound_operand_cases :
    (c.operand = .none ∧ (operand c number).bound = []) ∨
      ∃ p ∈ c.parameters number, (operand c number).bound = referenceTokens p := by
  by_cases hc : c.Binds
  · obtain ⟨p, hp, -⟩ := Comparison.parameters_of_binds hc number
    refine .inr ⟨p, hp ▸ List.mem_singleton_self p, ?_⟩
    rw [bound, hp, List.flatMap_singleton]
  · refine .inl ⟨Decidable.not_not.1 hc, ?_⟩
    rw [bound, Comparison.parameters_of_not_binds hc, List.flatMap_nil]

theorem printFrom_bound_operand (d : Dialect) (n : Nat) :
    printFrom d n (operand c number).bound = c.placeholders d n := by
  rcases bound_operand_cases c number with ⟨ho, hbound⟩ | ⟨p, hp, hbound⟩
  · rw [hbound]
    unfold Comparison.placeholders Comparison.values
    rw [ho]
    rfl
  · rw [hbound, Comparison.printFrom_referenceTokens hp]

theorem slotValues_bound_operand : slotValues (operand c number).bound = c.values := by
  rcases bound_operand_cases c number with ⟨ho, hbound⟩ | ⟨p, hp, hbound⟩
  · rw [hbound, Comparison.values, ho]
    rfl
  · rw [hbound, Comparison.slotValues_referenceTokens hp]

theorem fault?_bound_operand : ∀ t ∈ (operand c number).bound, t.fault? = none := by
  rcases bound_operand_cases c number with ⟨-, hbound⟩ | ⟨p, hp, hbound⟩
  · rw [hbound]
    exact fun t ht => nomatch ht
  · rw [hbound]
    exact Comparison.fault?_referenceTokens hp

end Hole

theorem printFrom_bound (d : Dialect) (n : Nat) (segments : List Segment) :
    printFrom d n (segments.flatMap bound) = fill d n segments := by
  induction segments generalizing n with
  | nil => rfl
  | cons x rest ih =>
    rw [List.flatMap_cons, printFrom_append, ih]
    cases x with
    | copied s => rw [bound, printFrom_texts, slotValues_of_mute (mute_texts s)]; rfl
    | operand c number => rw [printFrom_bound_operand, slotValues_bound_operand]; rfl

theorem slotValues_bound (segments : List Segment) :
    slotValues (segments.flatMap bound) = values segments := by
  induction segments with
  | nil => rfl
  | cons x rest ih =>
    rw [List.flatMap_cons, slotValues_append, ih]
    cases x with
    | copied s => rw [bound, slotValues_of_mute (mute_texts s)]; rfl
    | operand c number => rw [slotValues_bound_operand]; rfl

theorem fault?_bound (segments : List Segment) :
    ∀ t ∈ segments.flatMap bound, t.fault? = none := by
  intro t ht
  obtain ⟨x, -, ht⟩ := List.mem_flatMap.1 ht
  cases x with
  | copied s => exact (mute_texts s t ht).2
  | operand c number => exact fault?_bound_operand c number t ht

/-- The scanner finds the parameters of a closed layout's comparisons at their names. -/
theorem Closed.tokens {segments : List Segment} {ps : List Parameter} (h : Closed segments)
    (hspaced : WellSpaced segments) (hnodup : (ps.map Parameter.name).Nodup)
    (hstop : NamesStop (ps.map Parameter.name))
    (hhead : ∀ p ∈ ps, p.name.toList.head? ≠ some ':')
    (hholes : ∀ x ∈ segments.filterMap operand?, x.1.Binds ∧ x.1.parameters x.2 ⊆ ps) :
    (piecesFrom ps false 0 (segments.flatMap named)).flatMap Piece.tokens =
      segments.flatMap bound := by
  induction segments with
  | nil => rfl
  | cons x rest ih =>
    cases x with
    | copied s =>
      have ih := ih h.tail hspaced hholes
      obtain ⟨hinert, hquoted⟩ := h s (List.mem_cons_self ..)
      rw [List.flatMap_cons, List.flatMap_cons, ← ih, named, piecesFrom_inert _ hinert, hquoted,
        List.flatMap_append, tokens_plain]
      rfl
    | operand c number =>
      have ih := ih h.tail hspaced.2 fun x hx => hholes x (List.mem_cons_of_mem _ hx)
      obtain ⟨hbinds, hsub⟩ := hholes (c, number) (List.mem_cons_self ..)
      obtain ⟨p, hp, hname⟩ := Comparison.parameters_of_binds hbinds number
      have hmem : p ∈ ps := hsub (hp ▸ List.mem_singleton_self p)
      have hne : p.name.toList ≠ [] := hname ▸ c.parameterName_ne_nil number
      rw [List.flatMap_cons, List.flatMap_cons, ← ih, named, ← hname, List.cons_append,
        piecesFrom_name hnodup hstop hmem hne (hhead p hmem) hspaced.1, bound, hp,
        List.flatMap_singleton]
      rfl

end Segment

namespace Comparison

variable (fields : FieldMap) (c : Comparison) (number : Nat)

/-- The tokens of a condition, with what the comparison binds in the place of its placeholder. -/
def bound : List Token := (c.layout fields number).flatMap Segment.bound

theorem render_bound (d : Dialect) :
    Sql.render d (c.bound fields number) = .ok ⟨String.ofList (c.text fields d 0), c.values⟩ := by
  have hvalues : Segment.values (c.layout fields number) = c.values := by
    unfold Segment.values
    rw [c.operands_layout]
    split
    · exact List.flatMap_singleton ..
    · next hc => exact (values_of_not_binds hc).symm
  unfold Sql.render bound
  rw [firstFault?_eq_none.2 (Segment.fault?_bound _)]
  simp only
  rw [Segment.printFrom_bound, Segment.slotValues_bound, c.fill_layout, hvalues]

/-! ## The scanner on a condition -/

section Scanned

theorem mem_names_parameters_iff {a : String} :
    a ∈ (c.parameters number).map Parameter.name ↔ c.Binds ∧ a = c.parameterName number := by
  rw [c.map_name_parameters]
  split <;> simp_all

theorem nodup_names_parameters : ((c.parameters number).map Parameter.name).Nodup := by
  rw [c.map_name_parameters]
  split
  · exact List.pairwise_singleton _ _
  · exact List.nodup_nil

theorem namesStop_parameters : NamesStop ((c.parameters number).map Parameter.name) := by
  intro a ha b hb u hu _
  rw [((c.mem_names_parameters_iff number).1 ha).2, ((c.mem_names_parameters_iff number).1 hb).2]
    at hu
  exact List.self_eq_append_right.1 hu

theorem operands_layout_bound {x : Comparison × Nat}
    (hx : x ∈ (c.layout fields number).filterMap Segment.operand?) :
    x.1.Binds ∧ x.1.parameters x.2 ⊆ c.parameters number := by
  rw [c.operands_layout] at hx
  split at hx
  · next hc =>
    rw [List.mem_singleton.1 hx]
    exact ⟨hc, List.Subset.refl _⟩
  · cases hx

variable {fields c}

theorem closed_layout (h : BalancedColumn (fields.resolve c.field).toList) :
    Segment.Closed (c.layout fields number) := by
  intro s hs
  obtain ⟨column, rest, rfl, hrest, hcolumn⟩ := copied_of_mem_layout hs
  have hcolumn : Inert false column ∧ quotedAfter false column = false := by
    rcases hcolumn with rfl | ⟨c', hc', rfl⟩
    · exact ⟨.nil false, rfl⟩
    · rw [List.mem_singleton.1 hc']
      exact balancedColumn_iff.1 h
  exact Segment.closed_append hcolumn hrest

/-- The scanner takes the placeholder of a condition as the place of the operand. -/
theorem tokens_condition (hcolumn : BalancedColumn (fields.resolve c.field).toList)
    (hfield : c.field.toList.head? ≠ some ':') :
    Fragment.tokens (c.condition fields number).2 (c.condition fields number).1 =
      c.bound fields number := by
  have hhead : ∀ p ∈ c.parameters number, p.name.toList.head? ≠ some ':' := by
    intro p hp
    rw [((c.mem_names_parameters_iff number).1 (List.mem_map_of_mem hp)).2, toList_parameterName,
      List.head?_append_of_ne_nil _ c.field_ne_nil]
    exact hfield
  unfold Fragment.tokens pieces bound
  rw [c.condition_snd, ← c.named_layout]
  exact (closed_layout number hcolumn).tokens (c.wellSpaced_layout fields number)
    (c.nodup_names_parameters number) (c.namesStop_parameters number) hhead
    fun x hx => c.operands_layout_bound fields number hx

end Scanned

/-! ## The texts that are selected -/

/-- The truth of a condition about a text in its column, if the condition can be rendered and
read. -/
def truth? (d : Dialect) (x : String) : Option Truth :=
  match Sql.render d (c.bound fields number) with
  | .ok query => (d.test? (fields.resolve c.field).toList query).map (Test.truth x)
  | .error _ => none

/-- The condition selects the rows with a text in its column. -/
def Selects (d : Dialect) (x : String) : Prop := c.truth? fields number d x = some .yes

instance (d : Dialect) (x : String) : Decidable (c.Selects fields number d x) :=
  inferInstanceAs (Decidable (_ = _))

theorem truth?_eq (d : Dialect) (x : String) :
    c.truth? fields number d x =
      (d.test? (fields.resolve c.field).toList ⟨String.ofList (c.text fields d 0), c.values⟩).map
        (Test.truth x) := by
  unfold truth?
  rw [render_bound]

section Conditions

variable {c}

theorem truth?_contains {v : Value} (hoperator : c.operator = .contains)
    (hoperand : c.operand = .scalar v) (d : Dialect) (x : String) :
    c.truth? fields number d x =
      some (Test.truth x (.like (some ("%" ++ v.plain ++ "%")))) := by
  have htext : c.text fields d 0 =
      (fields.resolve c.field).toList ++ (" LIKE ".toList ++ d.placeholder 0) := by
    unfold text phrase behind placeholders values
    rw [hoperator, hoperand]
    simp [Operator.sql]
  have hvalues : c.values = [.text ("%" ++ v.plain ++ "%")] := by
    rw [values, hoperand, hoperator]
    rfl
  rw [truth?_eq, htext, hvalues, Dialect.test?_like]
  rfl

/-- The elements of a list as SQL has them. -/
def elements (vs : List Value) : List (Option String) :=
  if vs = [] then [none] else vs.map fun v => some v.plain

theorem list?_placeholders {vs : List Value} (hoperand : c.operand = .list vs) (d : Dialect) :
    d.list? c.values (c.placeholders d 0 ++ [')']) = some (elements vs) := by
  unfold placeholders values elements
  rw [hoperand]
  cases vs with
  | nil => exact d.list?_null
  | cons v vs =>
    have h := d.list?_placeholders ((v :: vs).map Value.plain) (List.cons_ne_nil _ _)
    rw [List.map_map, List.length_map, List.map_map] at h
    simp only
    rw [List.length_map, if_neg (List.cons_ne_nil _ _)]
    exact h

theorem text_list {vs : List Value} (hoperand : c.operand = .list vs) (d : Dialect) :
    c.text fields d 0 = (fields.resolve c.field).toList ++
      (' ' :: (c.operator.sql.toList ++ " (".toList) ++ (c.placeholders d 0 ++ [')'])) := by
  unfold text phrase behind
  rw [hoperand]
  simp

/-- The truth of a condition with a list, by what the reader makes of its operator. -/
theorem truth?_of_reads {vs : List Value} (hoperand : c.operand = .list vs) (d : Dialect)
    (x : String) {test : List (Option String) → Test}
    (hread : ∀ list, d.test? (fields.resolve c.field).toList
        ⟨String.ofList ((fields.resolve c.field).toList ++
          (' ' :: (c.operator.sql.toList ++ " (".toList) ++ list)), c.values⟩ =
      (d.list? c.values list).map test) :
    c.truth? fields number d x = some (Test.truth x (test (elements vs))) := by
  rw [truth?_eq, text_list fields hoperand, hread, list?_placeholders hoperand]
  rfl

theorem truth?_isIn {vs : List Value} (hoperator : c.operator = .isIn)
    (hoperand : c.operand = .list vs) (d : Dialect) (x : String) :
    c.truth? fields number d x = some (Test.truth x (.isIn (elements vs))) := by
  refine truth?_of_reads fields number hoperand d x fun list => ?_
  rw [hoperator]
  exact Dialect.test?_isIn d _ _ list

theorem truth?_notIn {vs : List Value} (hoperator : c.operator = .notIn)
    (hoperand : c.operand = .list vs) (d : Dialect) (x : String) :
    c.truth? fields number d x = some (Test.truth x (.notIn (elements vs))) := by
  refine truth?_of_reads fields number hoperand d x fun list => ?_
  rw [hoperator]
  exact Dialect.test?_notIn d _ _ list

theorem selects_contains_iff {v : Value} (hoperator : c.operator = .contains)
    (hoperand : c.operand = .scalar v) (d : Dialect) (x : String) :
    c.Selects fields number d x ↔
      ∃ part, part <:+: x.toList ∧ fitsPattern v.plain.toList part = true := by
  have hpattern : ("%" ++ v.plain ++ "%").toList = '%' :: (v.plain.toList ++ ['%']) := by simp
  rw [Selects, truth?_contains fields number hoperator hoperand, Option.some.injEq,
    ← fitsPattern_between_iff, ← hpattern, Test.truth]
  split <;> simp_all

theorem selects_isIn_iff {vs : List Value} (hoperator : c.operator = .isIn)
    (hoperand : c.operand = .list vs) (d : Dialect) (x : String) :
    c.Selects fields number d x ↔ ∃ v ∈ vs, x = v.plain := by
  rw [Selects, truth?_isIn fields number hoperator hoperand, Option.some.injEq, Test.truth,
    membership_eq_yes_iff]
  unfold elements
  split
  · simp_all
  · simp [eq_comm]

theorem selects_notIn_iff {vs : List Value} (hoperator : c.operator = .notIn)
    (hoperand : c.operand = .list vs) (d : Dialect) (x : String) :
    c.Selects fields number d x ↔ vs ≠ [] ∧ ∀ v ∈ vs, x ≠ v.plain := by
  rw [Selects, truth?_notIn fields number hoperator hoperand, Option.some.injEq, Test.truth,
    Truth.not_eq_yes_iff, membership_eq_no_iff]
  unfold elements
  split
  · simp_all
  · simp_all [eq_comm]

/-- The value is looked for as it is just when it has no wildcard in it. -/
theorem literal_iff_selects {v : Value} (hoperator : c.operator = .contains)
    (hoperand : c.operand = .scalar v) (d : Dialect) :
    Literal v.plain.toList ↔
      ∀ x, c.Selects fields number d x ↔ v.plain.toList <:+: x.toList := by
  simp only [selects_contains_iff fields number hoperator hoperand]
  rw [literal_iff]
  refine ⟨fun h x => h x.toList, fun h x => ?_⟩
  have h := h (String.ofList x)
  rw [String.toList_ofList] at h
  exact h

end Conditions

/-- What CONTAINS, IN and NOT IN select. -/
theorem selects (d : Dialect) :
    (BalancedColumn (fields.resolve c.field).toList → c.field.toList.head? ≠ some ':' →
      Fragment.tokens (c.condition fields number).2 (c.condition fields number).1 =
        c.bound fields number) ∧
    (c.operator ∈ [Operator.contains, .isIn, .notIn] →
      ∀ x, ∃ truth, c.truth? fields number d x = some truth) ∧
    (c.operator = .contains → ∃ v, c.operand = .scalar v ∧
      (∀ x, c.Selects fields number d x ↔
        ∃ part, part <:+: x.toList ∧ fitsPattern v.plain.toList part = true) ∧
      (∀ x, v.plain.toList <:+: x.toList → c.Selects fields number d x) ∧
      (Literal v.plain.toList ↔
        ∀ x, c.Selects fields number d x ↔ v.plain.toList <:+: x.toList)) ∧
    (c.operator = .isIn → ∃ vs, c.operand = .list vs ∧
      ∀ x, c.Selects fields number d x ↔ ∃ v ∈ vs, x = v.plain) ∧
    (c.operator = .notIn → ∃ vs, c.operand = .list vs ∧
      (∀ x, c.Selects fields number d x ↔ vs ≠ [] ∧ ∀ v ∈ vs, x ≠ v.plain) ∧
      ∀ c' : Comparison, c'.operator = .isIn → c'.operand = .list vs →
        (vs ≠ [] ↔ ∀ x, c.Selects fields number d x ↔ ¬ c'.Selects fields number d x)) := by
  have hscalar : c.operator = .contains → ∃ v, c.operand = .scalar v := fun ho =>
    Operand.exists_scalar (c.fits.trans (ho ▸ rfl))
  have hlist : c.operator = .isIn ∨ c.operator = .notIn → ∃ vs, c.operand = .list vs := by
    rintro (ho | ho) <;> exact Operand.exists_list (c.fits.trans (ho ▸ rfl))
  refine ⟨tokens_condition number, fun ho x => ?_, fun ho => ?_, fun ho => ?_, fun ho => ?_⟩
  · simp only [List.mem_cons, List.not_mem_nil, or_false] at ho
    rcases ho with ho | ho | ho
    · obtain ⟨v, hv⟩ := hscalar ho
      exact ⟨_, truth?_contains fields number ho hv d x⟩
    · obtain ⟨vs, hvs⟩ := hlist (.inl ho)
      exact ⟨_, truth?_isIn fields number ho hvs d x⟩
    · obtain ⟨vs, hvs⟩ := hlist (.inr ho)
      exact ⟨_, truth?_notIn fields number ho hvs d x⟩
  · obtain ⟨v, hv⟩ := hscalar ho
    refine ⟨v, hv, selects_contains_iff fields number ho hv d, fun x hx => ?_,
      literal_iff_selects fields number ho hv d⟩
    exact (selects_contains_iff fields number ho hv d x).2 ⟨_, hx, fitsPattern_self _⟩
  · obtain ⟨vs, hvs⟩ := hlist (.inl ho)
    exact ⟨vs, hvs, selects_isIn_iff fields number ho hvs d⟩
  · obtain ⟨vs, hvs⟩ := hlist (.inr ho)
    refine ⟨vs, hvs, selects_notIn_iff fields number ho hvs d, fun c' ho' hvs' => ?_⟩
    simp only [selects_notIn_iff fields number ho hvs, selects_isIn_iff fields number ho' hvs']
    constructor
    · intro hne x
      simp [hne]
    · rintro h rfl
      have hnone := (h "").2 (by simp)
      exact hnone.1 rfl

/-- A rate of five per cent, it is meant. -/
def fivePercent : Comparison := ⟨"rate", .contains, .scalar (.text "5%"), by decide, rfl⟩

/-- A comparison with the list of no elements. -/
def withNothing (operator : Operator) (h : operator.arity = .list) : Comparison :=
  ⟨"grade", operator, .list [], by decide, h.symm⟩

/-- CONTAINS selects a text without the value, and neither IN nor NOT IN selects any with an empty
list. -/
theorem selects_unlike_named :
    (fivePercent.Selects FieldMap.empty 1 .postgres "0.57" ∧
        ¬ "5%".toList <:+: "0.57".toList) ∧
      (∀ v ∈ ([] : List Value), "new" ≠ v.plain) ∧
      (withNothing .notIn rfl).truth? FieldMap.empty 1 .postgres "new" = some .unknown ∧
      ¬ (withNothing .notIn rfl).Selects FieldMap.empty 1 .postgres "new" ∧
      ¬ (withNothing .isIn rfl).Selects FieldMap.empty 1 .postgres "new" := by
  refine ⟨⟨?_, ?_⟩, ?_, ?_, ?_, ?_⟩ <;> decide +kernel

end Comparison

end QueryCriteria
