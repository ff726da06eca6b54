import QueryCriteria.Proofs.Binding

/-!
Which operands of a session get into the query.

A field identifier is copied twice: as the column, unless the field map has another, and in the name
of the parameter. A single quote in it opens a literal for the scanner, and a placeholder in a
literal is text. So a query may be rendered with fewer parameters than its criteria have values, and
no error says so: `o'clock = 5` becomes `o'clock = :o'clock1` and binds nothing (`render_oclock`).

`Select.parameters_render` says what is bound instead, for every session on a new query:

  * whatever the fields are, the parameters of a rendered query are the values that the
    placeholders found in its predicates refer to, and nothing else;
  * if its text is legible (`Criteria.Legible`), rendering succeeds, and these placeholders are the
    holes outside of literals, each with the values of the comparison that speaks for its name;
  * if moreover no two names collide, as many values are bound as the comparisons have if and only
    if no comparison with a value stands inside a literal.

Text without colons is legible as far as copied text and names go, whatever quotes are in it
(`Criteria.legible_of_colonless`). Without quotes nothing is hidden (`Criteria.hidden_eq_nil`).
-/

namespace QueryCriteria

open Sql Sql.Fragment

/-! ## Counting operands -/

/-- The number of values that a comparison takes: none, one, or the length of its list. -/
def Comparison.operandCount (c : Comparison) : Nat :=
  match c.operand with
  | .none => 0
  | .scalar _ => 1
  | .list vs => vs.length

/-- The number of values in all comparisons. -/
def Criteria.operandCount (cs : List Criteria) : Nat :=
  (((allFilters cs).flatMap Filter.comparisons).map Comparison.operandCount).sum

theorem Comparison.length_values (c : Comparison) : c.values.length = c.operandCount := by
  unfold values operandCount
  cases c.operand with
  | none => rfl
  | scalar v => rfl
  | list vs => exact List.length_map _

theorem Criteria.length_values (cs : List Criteria) :
    (((allFilters cs).flatMap Filter.comparisons).flatMap Comparison.values).length =
      operandCount cs := by
  rw [List.length_flatMap]
  exact congrArg List.sum (List.map_congr_left fun c _ => c.length_values)

/-! ## What the placeholders of a text refer to -/

namespace Sql

/-- The values that a parameter puts in place of a placeholder. -/
def Parameter.values (p : Parameter) : List Value :=
  match p.value with
  | .scalar v => [v]
  | .list vs => vs.map fun v => .text v.plain

def Fragment.Piece.bound? : Piece → Option Parameter
  | bound p => some p
  | _ => none

/-- The parameters that the placeholders of a text refer to, one for each placeholder. -/
def Fragment.references (ps : List Parameter) (s : List Char) : List Parameter :=
  (pieces ps s).filterMap Piece.bound?

/-- A placeholder is a fault or gives the values of its parameter. -/
theorem slotValues_of_faultless {p : Parameter}
    (h : ∀ t ∈ referenceTokens p, t.fault? = none) : slotValues (referenceTokens p) = p.values := by
  unfold referenceTokens at h ⊢
  unfold Parameter.values
  cases hv : p.value with
  | scalar v => rfl
  | list vs =>
    rw [hv] at h
    cases ht : p.type with
    | none =>
      rw [ht] at h
      have hfault := h (.fault (.untypedList p.name)) (List.mem_singleton_self _)
      cases hfault
    | some t =>
      cases t
      exact slotValues_slots vs

/-- Without a fault the values of a fragment are those its placeholders refer to. -/
theorem slotValues_tokens {ps : List Parameter} {s : String}
    (h : ∀ t ∈ Fragment.tokens ps s, t.fault? = none) :
    slotValues (Fragment.tokens ps s) = (references ps s.toList).flatMap Parameter.values := by
  unfold Fragment.tokens at h ⊢
  unfold references
  generalize pieces ps s.toList = xs at h ⊢
  induction xs with
  | nil => rfl
  | cons x rest ih =>
    rw [List.flatMap_cons] at h
    have ih := ih fun t ht => h t (List.mem_append_right _ ht)
    rw [List.flatMap_cons, slotValues_append, ih]
    cases x with
    | plain c => rfl
    | unbound name => rfl
    | bound p =>
      have hp := slotValues_of_faultless fun t ht => h t (List.mem_append_left _ ht)
      rw [Piece.tokens, hp]
      rfl

end Sql

/-! ## Hidden holes -/

namespace Segment

/-- A hole is inside of a literal or outside. -/
theorem length_values_eq (quoted : Bool) (segments : List Segment) :
    (values segments).length =
      ((holes false quoted segments).flatMap fun x => x.1.values).length +
        ((holes true quoted segments).flatMap fun x => x.1.values).length := by
  induction segments generalizing quoted with
  | nil => rfl
  | cons x rest ih =>
    have ih := ih (x.after quoted)
    have hvalues : values (x :: rest) =
        x.operand?.toList.flatMap (fun x => x.1.values) ++ values rest := by
      unfold values
      rw [operands_cons, List.flatMap_append]
    rw [hvalues, holes, holes, List.flatMap_append, List.flatMap_append, List.length_append,
      List.length_append, List.length_append, ih]
    cases quoted with
    | false =>
      rw [if_pos rfl, if_neg (by decide), List.flatMap_nil, List.length_nil]
      omega
    | true =>
      rw [if_neg (by decide), if_pos rfl, List.flatMap_nil, List.length_nil]
      omega

theorem copiedInert_of_not_mem {segments : List Segment} (quoted : Bool)
    (h : ∀ s, copied s ∈ segments → ':' ∉ s) : CopiedInert quoted segments := by
  induction segments generalizing quoted with
  | nil => exact trivial
  | cons x rest ih =>
    refine ⟨?_, ih _ fun s hs => h s (List.mem_cons_of_mem x hs)⟩
    rintro s rfl
    exact inert_of_not_mem quoted (h s (List.mem_cons_self ..))

theorem Closed.hidden {segments : List Segment} (h : Closed segments) :
    Segment.holes true false segments = [] := by
  induction segments with
  | nil => rfl
  | cons x rest ih =>
    rw [Segment.holes, if_neg (by decide), h.after, ih h.tail]
    rfl

end Segment

namespace Criteria

/-- The comparisons of a session whose placeholders stand outside of literals. -/
def shown (fields : FieldMap) (cs : List Criteria) : List (Comparison × Nat) :=
  (Filter.layouts fields 0 (allFilters cs)).flatMap (Segment.holes false false)

/-- The comparisons of a session whose placeholders stand inside of literals. -/
def hidden (fields : FieldMap) (cs : List Criteria) : List (Comparison × Nat) :=
  (Filter.layouts fields 0 (allFilters cs)).flatMap (Segment.holes true false)

/-- The text of a session is legible for the scanner. -/
structure Legible (fields : FieldMap) (cs : List Criteria) : Prop where
  /-- Outside of literals copied text has no single colon. -/
  copied : ∀ l ∈ Filter.layouts fields 0 (allFilters cs), Segment.CopiedInert false l
  /-- No name begins with a colon or brings a single one out of a literal. -/
  names : ∀ x ∈ binding cs, Fragment.Legible (nameOf x).toList
  /-- No name goes on behind another one. -/
  stop : NamesStop ((binding cs).map nameOf)

theorem operandCount_eq (fields : FieldMap) (cs : List Criteria) :
    operandCount cs =
      ((shown fields cs).flatMap fun x => x.1.values).length +
        ((hidden fields cs).flatMap fun x => x.1.values).length := by
  rw [← length_values, ← Filter.values_layouts fields 0]
  unfold shown hidden
  induction Filter.layouts fields 0 (allFilters cs) with
  | nil => rfl
  | cons l rest ih =>
    have hl := Segment.length_values_eq false l
    rw [List.flatMap_cons, List.flatMap_cons, List.flatMap_cons, List.flatMap_append,
      List.flatMap_append, List.length_append, List.length_append, List.length_append, ih, hl]
    omega

variable {fields : FieldMap} {cs : List Criteria}

theorem mem_binding_of_mem_shown {x : Comparison × Nat} (hx : x ∈ shown fields cs) :
    x ∈ binding cs := by
  obtain ⟨l, hl, hx⟩ := List.mem_flatMap.1 hx
  exact mem_binding_of_mem_layouts hl ((Segment.holes_sublist false false l).subset hx)

/-- Under names of their own, comparisons speak for themselves. -/
theorem speaker_shown (hnodup : ((binding cs).map nameOf).Nodup) :
    ((shown fields cs).flatMap fun x => (speaker cs x).values) =
      (shown fields cs).flatMap fun x => x.1.values := by
  rw [List.flatMap_def, List.flatMap_def]
  refine congrArg List.flatten (List.map_congr_left fun x hx => ?_)
  rw [speaker_of_nodup hnodup (mem_binding_of_mem_shown hx)]

/-- All values are shown just when nothing with a value is hidden. -/
theorem length_shown_eq_iff :
    ((shown fields cs).flatMap fun x => x.1.values).length = operandCount cs ↔
      ∀ x ∈ hidden fields cs, x.1.operandCount = 0 := by
  have hnone : (∀ x ∈ hidden fields cs, x.1.operandCount = 0) ↔
      ((hidden fields cs).flatMap fun x => x.1.values).length = 0 := by
    rw [List.length_eq_zero_iff, List.flatMap_eq_nil_iff]
    refine forall_congr' fun x => forall_congr' fun _ => ?_
    rw [← Comparison.length_values, List.length_eq_zero_iff]
  rw [operandCount_eq fields, hnone]
  omega

/-- Columns and fields without colons are legible, whatever quotes are in them. -/
theorem legible_of_colonless (hmap : ∀ e ∈ fields.entries, ':' ∉ e.2.toList)
    (hfields : ∀ c ∈ (allFilters cs).flatMap Filter.comparisons, ':' ∉ c.field.toList)
    (hstop : NamesStop ((binding cs).map nameOf)) : Legible fields cs := by
  refine ⟨?_, ?_, hstop⟩
  · intro l hl
    obtain ⟨f, hf, n, rfl⟩ := Filter.mem_layouts hl
    refine Segment.copiedInert_of_not_mem false fun s hs => ?_
    obtain ⟨column, rest, rfl, hrest, hcolumn⟩ := Filter.copied_of_mem_layout hs
    refine fun hmem => (List.mem_append.1 hmem).elim ?_ hrest.2
    rcases hcolumn with rfl | ⟨c, hc, rfl⟩
    · exact fun h => nomatch h
    · rcases fields.resolve_cases c.field with he | ⟨e, hentry, he⟩
      · rw [he]
        exact hfields c (List.mem_flatMap.2 ⟨f, hf, hc⟩)
      · rw [he]
        exact hmap e hentry
  · intro x hx
    have hcolon := hfields x.1 (mem_comparisons_of_mem_binding hx)
    exact legible_of_not_mem (Comparison.not_mem_parameterName hcolon (by decide) x.2)

/-- Without quotes and colons in the fields nothing is hidden. -/
theorem hidden_eq_nil (hmap : ∀ e ∈ fields.entries, BalancedColumn e.2.toList)
    (hfields : ∀ c ∈ (allFilters cs).flatMap Filter.comparisons, Dull c.field.toList) :
    hidden fields cs = [] := by
  unfold hidden
  rw [List.flatMap_eq_nil_iff]
  exact fun l hl => (Segment.closed_of_mem_layouts hl hmap hfields).hidden

end Criteria

/-! ## The main statement -/

namespace Sql.Select

/-- A predicate of a legible session has the values of its holes outside of literals. -/
theorem conditions_of_legible {fields : FieldMap} {cs : List Criteria}
    (h : Criteria.Legible fields cs) {l : List Segment}
    (hl : l ∈ Filter.layouts fields 0 (Criteria.allFilters cs)) :
    (∀ t ∈ Fragment.tokens (bindAll [] (Criteria.parameters cs))
        (String.ofList (l.flatMap Segment.named)), t.fault? = none) ∧
      slotValues (Fragment.tokens (bindAll [] (Criteria.parameters cs))
          (String.ofList (l.flatMap Segment.named))) =
        (Segment.holes false false l).flatMap fun x => (Criteria.speaker cs x).values := by
  have hpieces := Segment.pieces_of_mem_layouts hl h.stop h.names (h.copied l hl)
  have hfound : Segment.Found (bindAll [] (Criteria.parameters cs)) (Criteria.speaker cs)
      (Segment.holes false false l) := by
    intro x hx
    have hoperand := (Segment.holes_sublist false false l).subset hx
    exact Criteria.find?_parameters (Criteria.mem_binding_of_mem_layouts hl hoperand)
  unfold Fragment.tokens
  rw [String.toList_ofList, hpieces]
  exact ⟨Segment.fault?_readAll hfound, Segment.slotValues_readAll hfound⟩

/-- A legible session binds the values of its holes outside of literals. -/
theorem slotValues_conditions {fields : FieldMap} {cs : List Criteria}
    (h : Criteria.Legible fields cs) :
    (conditions fields cs).flatMap slotValues =
      (Criteria.shown fields cs).flatMap fun x => (Criteria.speaker cs x).values := by
  unfold conditions Criteria.shown
  rw [List.flatMap_map, List.flatMap_assoc, List.flatMap_def, List.flatMap_def]
  exact congrArg List.flatten (List.map_congr_left fun l hl => (conditions_of_legible h hl).2)

/-- A legible session has no fault. -/
theorem fault?_of_legible {fields : FieldMap} {cs : List Criteria}
    (h : Criteria.Legible fields cs) : firstFault? (whereTokens (conditions fields cs)) = none := by
  refine firstFault?_conditions fun part hpart => ?_
  obtain ⟨l, hl, rfl⟩ := List.mem_map.1 hpart
  exact (conditions_of_legible h hl).1

theorem fault?_of_render {columns : List Expr} {source : FromClause} {fields : FieldMap}
    {cs : List Criteria} (hcolumns : ∀ e ∈ columns, ∀ s, e ≠ .fragment s) {d : Dialect}
    {query : Query} (h : ((start columns source).executeAll fields cs).render d = .ok query) :
    firstFault? (whereTokens (conditions fields cs)) = none ∧
      query.parameters = (conditions fields cs).flatMap slotValues := by
  rw [render_executeAll_start source fields cs hcolumns d] at h
  cases hfault : firstFault? (whereTokens (conditions fields cs)) with
  | some e =>
    rw [hfault] at h
    cases h
  | none =>
    rw [hfault] at h
    exact ⟨rfl, (congrArg Query.parameters (Except.ok.inj h)).symm⟩

/-- What the parameters of a rendered query are, and when they are as many as the comparisons have
values. -/
theorem parameters_render {columns : List Expr} (source : FromClause)
    (hcolumns : ∀ e ∈ columns, ∀ s, e ≠ .fragment s) (fields : FieldMap) (cs : List Criteria)
    (d : Dialect) :
    let q := (start columns source).executeAll fields cs
    let predicates := ((Session.start fields).executeAll cs).flatMap Clauses.predicates
    (∀ query, q.render d = .ok query → query.parameters = predicates.flatMap fun s =>
        (references q.parameters s.toList).flatMap Parameter.values) ∧
      (Criteria.Legible fields cs → ∃ query, q.render d = .ok query ∧
        query.parameters =
            (Criteria.shown fields cs).flatMap (fun x => (Criteria.speaker cs x).values) ∧
          (((Criteria.binding cs).map nameOf).Nodup →
            (query.parameters.length = Criteria.operandCount cs ↔
              ∀ x ∈ Criteria.hidden fields cs, x.1.operandCount = 0))) := by
  intro q predicates
  have hpredicates : predicates = (Filter.layouts fields 0 (Criteria.allFilters cs)).map
      fun l => String.ofList (l.flatMap Segment.named) :=
    (Session.predicates_executeAll fields 0 cs).trans (Filter.named_layouts _ _ _)
  have hparameters : q.parameters = bindAll [] (Criteria.parameters cs) :=
    executeAll_start_parameters columns source fields cs
  refine ⟨?_, ?_⟩
  · intro query h
    obtain ⟨hfault, hvalues⟩ := fault?_of_render hcolumns h
    rw [hvalues, hpredicates, hparameters]
    unfold conditions
    rw [List.flatMap_map, List.flatMap_map, List.flatMap_def, List.flatMap_def]
    refine congrArg List.flatten (List.map_congr_left fun l hl => slotValues_tokens ?_)
    intro t ht
    refine firstFault?_eq_none.1 hfault t (mem_whereTokens_of_mem (List.mem_map.2 ⟨l, hl, rfl⟩) ht)
  · intro h
    have hvalues := slotValues_conditions h
    have hrender := render_executeAll_start source fields cs hcolumns d
    rw [fault?_of_legible h] at hrender
    refine ⟨_, hrender, hvalues, fun hnodup => ?_⟩
    show ((conditions fields cs).flatMap slotValues).length = _ ↔ _
    rw [hvalues, Criteria.speaker_shown hnodup]
    exact Criteria.length_shown_eq_iff

/-- A condition on a field with a quote in it, and one on a field without. -/
def oclockOnDays : Criteria :=
  { Criteria.empty with
    filters := [.and (.comparison ⟨"o'clock", .equal, .scalar (.int 5), by decide, rfl⟩)
      (.comparison ⟨"weekday", .isIn, .list [.text "Sat", .text "Sun"], by decide, rfl⟩)] }

theorem verbatim_columns : ∀ e ∈ [Expr.verbatim "*"], ∀ s, e ≠ .fragment s := by
  intro e he s
  rw [List.mem_singleton.1 he]
  exact fun h => nomatch h

/-- The first operand is hidden and lost, the second one is bound. -/
theorem parameters_render_oclockOnDays :
    (∀ e ∈ [Expr.verbatim "*"], ∀ s, e ≠ .fragment s) ∧
      Criteria.Legible FieldMap.empty [oclockOnDays] ∧
        ((Criteria.binding [oclockOnDays]).map nameOf).Nodup ∧
          ∃ query, ((start [.verbatim "*"] ⟨⟨none, "t"⟩, none⟩).executeAll FieldMap.empty
              [oclockOnDays]).render .mysql = .ok query ∧
            query.parameters = [.text "Sat", .text "Sun"] ∧
              query.parameters.length ≠ Criteria.operandCount [oclockOnDays] := by
  have hlegible : Criteria.Legible FieldMap.empty [oclockOnDays] :=
    Criteria.legible_of_colonless (by decide) (by decide +kernel)
      (namesStop_of_not_mem (by decide +kernel))
  have hnodup : ((Criteria.binding [oclockOnDays]).map nameOf).Nodup := by decide
  obtain ⟨-, h⟩ :=
    parameters_render ⟨⟨none, "t"⟩, none⟩ verbatim_columns FieldMap.empty [oclockOnDays] .mysql
  obtain ⟨query, hrender, hvalues, hcount⟩ := h hlegible
  have hhidden : ¬ ∀ x ∈ Criteria.hidden FieldMap.empty [oclockOnDays], x.1.operandCount = 0 := by
    decide
  refine ⟨verbatim_columns, hlegible, hnodup, query, hrender, hvalues.trans (by decide +kernel), ?_⟩
  exact fun he => hhidden ((hcount hnodup).1 he)

/-- A condition on a field with a quote in it. -/
def oclock : Criteria :=
  { Criteria.empty with
    filters := [.comparison ⟨"o'clock", .equal, .scalar (.int 5), by decide, rfl⟩] }

/-- The condition is accepted, its placeholder stays as it is, and nothing is bound. -/
theorem render_oclock :
    ∃ query, ((start [.verbatim "*"] ⟨⟨none, "t"⟩, none⟩).executeAll FieldMap.empty [oclock]).render
        .postgres = .ok query ∧
      query.sql = "SELECT * FROM \"t\" WHERE o'clock = :o'clock1" ∧
        query.parameters.length ≠ Criteria.operandCount [oclock] := by
  have h := render_executeAll_start ⟨⟨none, "t"⟩, none⟩ FieldMap.empty [oclock] verbatim_columns
    .postgres
  have hfault : firstFault? (whereTokens (conditions FieldMap.empty [oclock])) = none := by
    decide +kernel
  rw [hfault] at h
  exact ⟨_, h, by decide +kernel, by decide +kernel⟩

end Sql.Select

end QueryCriteria
