import Mathlib.Data.List.Forall2
import QueryCriteria.Proofs.Binding
import QueryCriteria.Proofs.Condition

/-!
What clauses tell about the criteria they come from.

Translation loses nothing: without a field map two criteria have the same clauses just when they
are the same (`Criteria.clauses_eq_iff`), if no field has a blank or a parenthesis in it. There is
one exception. A search inside of texts binds the plain text of its value between wildcards, so the
number 5 and the text 5 are searched for alike (`Criteria.Same`, `Criteria.clauses_codesWith`).

Both parts of clauses are needed for that. A predicate is the text of a condition
(`Filter.text_written`), from which the condition can be told if its atoms can be told from what
stands behind them (`Condition.text_inj`). They can: a field ends at the first blank, no operator is
the beginning of another one with a blank behind it, and a placeholder ends at a blank or at its
parenthesis (`Comparison.delimited_isAsked`). So the predicates give the trees, the fields and the
operators.

With its operator the kind of an operand is known, and with it how many parameters a comparison
has. So the parameters can be dealt out to the comparisons again (`Filter.Related.same_iff`). Their
names are of no use for that, since two of them may be the same.
-/

namespace QueryCriteria

open Sql

/-! ## What is to be told -/

/-- Operands that make one condition: the same, or under a search two values of one plain text. -/
def Operand.Same (operator : Operator) (x y : Operand) : Prop :=
  x = y ∨ operator = .contains ∧ ∃ v w, x = .scalar v ∧ y = .scalar w ∧ v.plain = w.plain

/-- Comparisons of one field by one operator. -/
structure Comparison.Matching (c c' : Comparison) : Prop where
  field : c.field = c'.field
  operator : c.operator = c'.operator

structure Comparison.Same (c c' : Comparison) : Prop extends Comparison.Matching c c' where
  operand : Operand.Same c.operator c.operand c'.operand

/-- One tree, with related comparisons at its leaves. -/
inductive Filter.Related (R : Comparison → Comparison → Prop) : Filter → Filter → Prop where
  | comparison {c c' : Comparison} : R c c' → Related R (.comparison c) (.comparison c')
  | and {l l' r r' : Filter} : Related R l l' → Related R r r' → Related R (.and l r) (.and l' r')
  | or {l l' r r' : Filter} : Related R l l' → Related R r r' → Related R (.or l r) (.or l' r')

/-- Criteria that differ at most in values of one plain text that are searched for. -/
structure Criteria.Same (c c' : Criteria) : Prop where
  filters : List.Forall₂ (Filter.Related Comparison.Same) c.filters c'.filters
  sorting : c.sorting = c'.sorting
  offset : c.offset = c'.offset
  limit : c.limit = c'.limit

/-- No blank and no parenthesis is in the field. -/
structure UnbrokenField (field : String) : Prop where
  blank : ' ' ∉ field.toList
  opening : '(' ∉ field.toList
  closing : ')' ∉ field.toList

instance (field : String) : Decidable (UnbrokenField field) :=
  decidable_of_iff (' ' ∉ field.toList ∧ '(' ∉ field.toList ∧ ')' ∉ field.toList)
    ⟨fun h => ⟨h.1, h.2.1, h.2.2⟩, fun h => ⟨h.blank, h.opening, h.closing⟩⟩

namespace Comparison.Matching

variable {c c' : Comparison}

theorem parameterName (h : c.Matching c') (number : Nat) :
    c.parameterName number = c'.parameterName number := by
  unfold Comparison.parameterName
  rw [h.field]

/-- Matching comparisons have operands of one kind, since both have the kind of the operator. -/
theorem operand_cases (h : c.Matching c') :
    (c.operand = .none ∧ c'.operand = .none) ∨
      (∃ v v', c.operand = .scalar v ∧ c'.operand = .scalar v') ∨
        ∃ vs vs', c.operand = .list vs ∧ c'.operand = .list vs' := by
  have hkind : c.operand.arity = c'.operand.arity := by rw [c.fits, c'.fits, h.operator]
  cases ho : c.operand <;> cases ho' : c'.operand <;> rw [ho, ho'] at hkind
  case none.none => exact .inl ⟨rfl, rfl⟩
  case scalar.scalar v v' => exact .inr (.inl ⟨v, v', rfl, rfl⟩)
  case list.list vs vs' => exact .inr (.inr ⟨vs, vs', rfl, rfl⟩)
  all_goals cases hkind

end Comparison.Matching

/-! ## The text of one comparison -/

namespace Condition

/-- A blank put behind a text that begins with none comes first or has one before it. -/
theorem BlankFirst.append_blank {r : List Char} (h : BlankFirst r) : ∃ t, r ++ [' '] = ' ' :: t := by
  cases r with
  | nil => exact ⟨[], rfl⟩
  | cons c r =>
    have hc : c = ' ' := h c rfl
    subst hc
    exact ⟨r ++ [' '], rfl⟩

/-- A text without blanks can be told from a blank behind it. -/
theorem append_blankFirst_inj {u v r s : List Char} (hu : ' ' ∉ u) (hv : ' ' ∉ v)
    (hr : BlankFirst r) (hs : BlankFirst s) (h : u ++ r = v ++ s) : u = v := by
  obtain ⟨r', hr'⟩ := hr.append_blank
  obtain ⟨s', hs'⟩ := hs.append_blank
  have hblank := congrArg (· ++ [' ']) h
  simp only [List.append_assoc, hr', hs'] at hblank
  exact (append_mark_inj hu hv hblank).1

end Condition

open Condition (BlankFirst)

namespace Operator

/-- No operator with a blank behind it is the beginning of another one. -/
theorem eq_of_sql_isPrefix {a b : Operator}
    (h : a.sql.toList ++ [' '] <+: b.sql.toList ++ [' ']) : a = b := by
  revert h
  cases a <;> cases b <;> decide

/-- The operator at the front of a text, if a blank or nothing comes behind it. -/
theorem eq_of_sql_append {a b : Operator} {r s : List Char} (hr : BlankFirst r)
    (hs : BlankFirst s) (h : a.sql.toList ++ r = b.sql.toList ++ s) : a = b := by
  obtain ⟨r', hr'⟩ := hr.append_blank
  obtain ⟨s', hs'⟩ := hs.append_blank
  have hblank := congrArg (· ++ [' ']) h
  simp only [List.append_assoc, hr', hs'] at hblank
  have ha : a.sql.toList ++ [' '] <+: a.sql.toList ++ ' ' :: r' := ⟨r', by simp⟩
  have hb : b.sql.toList ++ [' '] <+: a.sql.toList ++ ' ' :: r' := ⟨s', by simp [hblank]⟩
  rcases List.prefix_or_prefix_of_prefix ha hb with h | h
  · exact eq_of_sql_isPrefix h
  · exact (eq_of_sql_isPrefix h).symm

end Operator

namespace Comparison

theorem field_ne_nil (c : Comparison) : c.field.toList ≠ [] := by
  intro h
  refine c.named ?_
  unfold IsBlankField
  rw [h]
  exact Text.allBlank_nil

/-- What stands behind the operator of a numbered comparison. -/
def mention (c : Comparison) (number : Nat) : List Char :=
  c.behind (':' :: (c.parameterName number).toList)

theorem blankFirst_mention (c : Comparison) (number : Nat) {r : List Char} (hr : BlankFirst r) :
    BlankFirst (c.mention number ++ r) := by
  unfold mention behind
  cases c.operand with
  | none => exact hr
  | scalar v => exact Condition.blankFirst_cons _
  | list vs => exact Condition.blankFirst_cons _

/-- The end of a placeholder is looked for in one way, since matching comparisons have operands of
one kind. -/
theorem Matching.mention_inj {c c' : Comparison} (h : c.Matching c') (hc : UnbrokenField c.field)
    {number number' : Nat} {r s : List Char} (hr : BlankFirst r) (hs : BlankFirst s)
    (hrs : c.mention number ++ r = c'.mention number' ++ s) :
    c.mention number = c'.mention number' := by
  have hc' : UnbrokenField c'.field := h.field ▸ hc
  have hblank := not_mem_parameterName hc.blank (by decide) number
  have hblank' := not_mem_parameterName hc'.blank (by decide) number'
  have hclosing := not_mem_parameterName hc.closing (by decide) number
  have hclosing' := not_mem_parameterName hc'.closing (by decide) number'
  unfold mention behind at hrs ⊢
  rcases h.operand_cases with ⟨ho, ho'⟩ | ⟨v, v', ho, ho'⟩ | ⟨vs, vs', ho, ho'⟩ <;>
    rw [ho, ho'] at hrs ⊢
  · have hname := (List.cons.inj (List.cons.inj hrs).2).2
    simp only [Condition.append_blankFirst_inj hblank hblank' hr hs hname]
  · have hname := (List.cons.inj (List.cons.inj (List.cons.inj hrs).2).2).2
    simp only [List.append_eq, List.append_assoc, List.singleton_append] at hname
    simp only [(Condition.append_mark_inj hclosing hclosing' hname).1]

/-- The text of a numbered comparison without a field map. -/
def asked (c : Comparison) (number : Nat) : List Char :=
  c.phrase c.field.toList (':' :: (c.parameterName number).toList)

theorem asked_eq (c : Comparison) (number : Nat) :
    c.asked number = c.field.toList ++ ' ' :: (c.operator.sql.toList ++ c.mention number) := rfl

/-- The field of the comparison has no blanks and no parentheses. -/
def IsAsked (s : List Char) : Prop :=
  ∃ (c : Comparison) (number : Nat), UnbrokenField c.field ∧ s = c.asked number

/-- Field and operator can be read off the front of a text. -/
theorem matching_of_append {c c' : Comparison} (hc : UnbrokenField c.field)
    (hc' : UnbrokenField c'.field) {number number' : Nat} {r s : List Char} (hr : BlankFirst r)
    (hs : BlankFirst s)
    (h : c.asked number ++ r = c'.asked number' ++ s) :
    c.Matching c' ∧ c.mention number ++ r = c'.mention number' ++ s := by
  simp only [asked_eq, List.append_assoc, List.cons_append] at h
  obtain ⟨hfield, hrest⟩ := Condition.append_mark_inj hc.blank hc'.blank h
  have hop := Operator.eq_of_sql_append (c.blankFirst_mention number hr)
    (c'.blankFirst_mention number' hs) hrest
  rw [hop] at hrest
  exact ⟨⟨String.toList_inj.1 hfield, hop⟩, List.append_cancel_left hrest⟩

theorem delimited_isAsked : Condition.Delimited IsAsked := by
  constructor
  · rintro a ⟨c, number, hc, rfl⟩
    obtain ⟨x, field, hx⟩ := List.exists_cons_of_ne_nil c.field_ne_nil
    refine ⟨x, _, by rw [asked_eq, hx]; rfl, ?_⟩
    rintro rfl
    exact hc.opening (hx ▸ List.mem_cons_self ..)
  · rintro a b r s ⟨c, number, hc, rfl⟩ ⟨c', number', hc', rfl⟩ hr hs h
    obtain ⟨hmatching, hmention⟩ := matching_of_append hc hc' hr hs h
    rw [asked_eq, asked_eq, hmatching.field, hmatching.operator,
      hmatching.mention_inj hc hr hs hmention]

end Comparison

/-! ## The text of a filter -/

namespace Filter

theorem toList_grouped (left word right : String) :
    (grouped left word right).toList = Condition.paired left.toList word right.toList := by
  simp [grouped, Condition.paired]

theorem extent_condition (f : Filter) :
    f.condition.extent (fun _ => 1) = f.comparisonCount := by
  unfold Condition.extent
  rw [atoms_condition, ← length_comparisons, List.map_const', List.sum_replicate_nat, Nat.mul_one]

/-- The filter as a condition, with the text of each comparison, after so many comparisons. -/
def written (fields : FieldMap) (count : Nat) (f : Filter) : Condition (List Char) :=
  f.condition.label (fun n c => (c.condition fields (n + 1)).1.toList) (fun _ => 1) count

theorem written_and (fields : FieldMap) (count : Nat) (l r : Filter) :
    (and l r).written fields count =
      .and (l.written fields count) (r.written fields (count + l.comparisonCount)) := by
  unfold written
  rw [condition, Condition.label, extent_condition]

theorem written_or (fields : FieldMap) (count : Nat) (l r : Filter) :
    (or l r).written fields count =
      .or (l.written fields count) (r.written fields (count + l.comparisonCount)) := by
  unfold written
  rw [condition, Condition.label, extent_condition]

/-- The predicate of a filter is the text of the condition. -/
theorem text_written (fields : FieldMap) (count : Nat) (f : Filter) :
    (f.written fields count).text = (f.predicate fields count).result.toList := by
  induction f generalizing count with
  | comparison c => rfl
  | and l r hl hr =>
    rw [written_and, Condition.text, hl, hr, ← count_predicate fields, ← toList_grouped]
    rfl
  | or l r hl hr =>
    rw [written_or, Condition.text, hl, hr, ← count_predicate fields, ← toList_grouped]
    rfl

/-- No field of a comparison has a blank or a parenthesis in it. -/
def Unbroken (f : Filter) : Prop := ∀ c ∈ f.comparisons, UnbrokenField c.field

instance (f : Filter) : Decidable f.Unbroken :=
  inferInstanceAs (Decidable (∀ c ∈ f.comparisons, _))

/-- Without a field map a comparison is written with its own field. -/
theorem isAsked_of_mem {f : Filter} (hf : f.Unbroken) {count : Nat} {s : List Char}
    (h : s ∈ (f.written FieldMap.empty count).atoms) : Comparison.IsAsked s := by
  obtain ⟨c, hc, n, rfl⟩ := Condition.mem_atoms_label h
  rw [atoms_condition] at hc
  exact ⟨c, n + 1, hf c hc, c.condition_eq_phrase FieldMap.empty (n + 1)⟩

namespace Related

variable {R : Comparison → Comparison → Prop} {f g : Filter}

theorem comparisonCount (h : Related R f g) : f.comparisonCount = g.comparisonCount := by
  induction h with
  | comparison _ => rfl
  | and _ _ hl hr => rw [Filter.comparisonCount, hl, hr, Filter.comparisonCount]
  | or _ _ hl hr => rw [Filter.comparisonCount, hl, hr, Filter.comparisonCount]

end Related

/-- The comparisons of filters that are written alike match. -/
theorem matching_of_written_eq {f g : Filter} (hf : f.Unbroken) (hg : g.Unbroken) {count : Nat}
    (h : f.written FieldMap.empty count = g.written FieldMap.empty count) :
    Related Comparison.Matching f g := by
  induction f generalizing g count with
  | comparison c =>
    cases g with
    | comparison c' =>
      have hc := hf c (List.mem_singleton_self c)
      have hc' := hg c' (List.mem_singleton_self c')
      have htext : (c.condition FieldMap.empty (count + 1)).1.toList ++ [] =
          (c'.condition FieldMap.empty (count + 1)).1.toList ++ [] :=
        congrArg (· ++ []) (Condition.atom.inj h)
      have hnil : BlankFirst [] := fun _ h => nomatch h
      rw [Comparison.condition_eq_phrase, Comparison.condition_eq_phrase] at htext
      exact .comparison (Comparison.matching_of_append hc hc' hnil hnil htext).1
    | and l' r' => cases h
    | or l' r' => cases h
  | and l r hl hr =>
    cases g with
    | comparison c' => cases h
    | or l' r' => cases h
    | and l' r' =>
      rw [written_and, written_and] at h
      obtain ⟨hleft, hright⟩ := Condition.and.inj h
      have hl := hl (fun c hc => hf c (List.mem_append_left _ hc))
        (fun c hc => hg c (List.mem_append_left _ hc)) hleft
      -- the left children have as many comparisons, so the right ones are numbered alike
      rw [hl.comparisonCount] at hright
      exact .and hl (hr (fun c hc => hf c (List.mem_append_right _ hc))
        (fun c hc => hg c (List.mem_append_right _ hc)) hright)
  | or l r hl hr =>
    cases g with
    | comparison c' => cases h
    | and l' r' => cases h
    | or l' r' =>
      rw [written_or, written_or] at h
      obtain ⟨hleft, hright⟩ := Condition.or.inj h
      have hl := hl (fun c hc => hf c (List.mem_append_left _ hc))
        (fun c hc => hg c (List.mem_append_left _ hc)) hleft
      rw [hl.comparisonCount] at hright
      exact .or hl (hr (fun c hc => hf c (List.mem_append_right _ hc))
        (fun c hc => hg c (List.mem_append_right _ hc)) hright)

/-- Filters of one predicate have one tree and matching comparisons. -/
theorem matching_of_predicate_eq {f g : Filter} (hf : f.Unbroken) (hg : g.Unbroken) {count : Nat}
    (h : (f.predicate FieldMap.empty count).result = (g.predicate FieldMap.empty count).result) :
    Related Comparison.Matching f g := by
  have htext : (f.written FieldMap.empty count).text = (g.written FieldMap.empty count).text := by
    rw [text_written, text_written, h]
  exact matching_of_written_eq hf hg (Condition.text_inj Comparison.delimited_isAsked
    (fun _ hs => isAsked_of_mem hf hs) (fun _ hs => isAsked_of_mem hg hs) htext)

theorem matching_of_predicates_eq {fs gs : List Filter} (hf : ∀ f ∈ fs, f.Unbroken)
    (hg : ∀ g ∈ gs, g.Unbroken) {count : Nat}
    (h : (predicates FieldMap.empty count fs).result =
      (predicates FieldMap.empty count gs).result) :
    List.Forall₂ (Related Comparison.Matching) fs gs := by
  induction fs generalizing gs count with
  | nil =>
    cases gs with
    | nil => exact .nil
    | cons g gs => cases h
  | cons f fs ih =>
    cases gs with
    | nil => cases h
    | cons g gs =>
      obtain ⟨hfirst, hrest⟩ := List.cons.inj h
      have hfg := matching_of_predicate_eq (hf f (List.mem_cons_self ..))
        (hg g (List.mem_cons_self ..)) hfirst
      rw [count_predicate, count_predicate, hfg.comparisonCount] at hrest
      exact .cons hfg (ih (fun f' h' => hf f' (List.mem_cons_of_mem f h'))
        (fun g' h' => hg g' (List.mem_cons_of_mem g h')) hrest)

end Filter

/-! ## The operands -/

namespace Comparison

theorem boundValue_of_ne {operator : Operator} (h : operator ≠ .contains) (v : Value) :
    boundValue operator v = v := by
  cases operator <;> first | rfl | exact absurd rfl h

/-- A value is bound as it is, or as the text that is searched for. -/
theorem boundValue_eq_iff {operator : Operator} {v w : Value} :
    boundValue operator v = boundValue operator w ↔
      Operand.Same operator (.scalar v) (.scalar w) := by
  by_cases hop : operator = .contains
  · subst hop
    have htext : boundValue .contains v = boundValue .contains w ↔ v.plain = w.plain := by
      simp [boundValue, ← String.toList_inj]
    rw [htext]
    constructor
    · exact fun h => .inr ⟨rfl, v, w, rfl, rfl, h⟩
    · rintro (h | ⟨-, v', w', hv, hw, h⟩)
      · rw [Operand.scalar.inj h]
      · rw [Operand.scalar.inj hv, Operand.scalar.inj hw, h]
  · rw [boundValue_of_ne hop, boundValue_of_ne hop]
    constructor
    · exact fun h => .inl (congrArg Operand.scalar h)
    · rintro (h | ⟨hcontains, -⟩)
      · exact Operand.scalar.inj h
      · exact absurd hcontains hop

namespace Matching

variable {c c' : Comparison}

/-- Matching comparisons have one condition. -/
theorem condition (h : c.Matching c') (fields : FieldMap) (number : Nat) :
    (c.condition fields number).1 = (c'.condition fields number).1 := by
  unfold Comparison.condition
  rw [h.field, h.operator, h.parameterName number]
  rcases h.operand_cases with ⟨ho, ho'⟩ | ⟨v, v', ho, ho'⟩ | ⟨vs, vs', ho, ho'⟩ <;> rw [ho, ho']

theorem length_parameters (h : c.Matching c') (number : Nat) :
    (c.parameters number).length = (c'.parameters number).length := by
  unfold Comparison.parameters
  rcases h.operand_cases with ⟨ho, ho'⟩ | ⟨v, v', ho, ho'⟩ | ⟨vs, vs', ho, ho'⟩ <;>
    rw [ho, ho'] <;> rfl

/-- The operands of matching comparisons show in what they bind. -/
theorem same_iff (h : c.Matching c') (number : Nat) :
    c.Same c' ↔ c.parameters number = c'.parameters number := by
  have hoperand : c.Same c' ↔ Operand.Same c.operator c.operand c'.operand :=
    ⟨fun h => h.operand, fun ho => ⟨h, ho⟩⟩
  rw [hoperand]
  unfold Comparison.parameters
  rw [h.parameterName number, h.operator]
  rcases h.operand_cases with ⟨ho, ho'⟩ | ⟨v, v', ho, ho'⟩ | ⟨vs, vs', ho, ho'⟩ <;> rw [ho, ho']
  · exact ⟨fun _ => rfl, fun _ => .inl rfl⟩
  · rw [← boundValue_eq_iff]
    simp
  · simp [Operand.Same]

end Matching

end Comparison

namespace Filter

theorem parameters_comparison (fields : FieldMap) (count : Nat) (c : Comparison) :
    ((comparison c).predicate fields count).parameters = c.parameters (count + 1) :=
  c.condition_snd fields (count + 1)

theorem parameters_and (fields : FieldMap) (count : Nat) (l r : Filter) :
    ((and l r).predicate fields count).parameters =
      (l.predicate fields count).parameters ++
        (r.predicate fields (count + l.comparisonCount)).parameters := by
  rw [← count_predicate fields]
  rfl

theorem parameters_or (fields : FieldMap) (count : Nat) (l r : Filter) :
    ((or l r).predicate fields count).parameters =
      (l.predicate fields count).parameters ++
        (r.predicate fields (count + l.comparisonCount)).parameters :=
  parameters_and fields count l r

namespace Related

variable {f g : Filter}

theorem result_predicate (h : Related Comparison.Matching f g) (fields : FieldMap) (count : Nat) :
    (f.predicate fields count).result = (g.predicate fields count).result := by
  induction h generalizing count with
  | comparison hc => exact hc.condition fields (count + 1)
  | and hleft _ hl hr =>
    unfold predicate
    simp only [count_predicate, hleft.comparisonCount, hl, hr]
  | or hleft _ hl hr =>
    unfold predicate
    simp only [count_predicate, hleft.comparisonCount, hl, hr]

theorem length_parameters (h : Related Comparison.Matching f g) (fields : FieldMap)
    (count : Nat) : (f.predicate fields count).parameters.length =
      (g.predicate fields count).parameters.length := by
  induction h generalizing count with
  | comparison hc =>
    rw [parameters_comparison, parameters_comparison]
    exact hc.length_parameters (count + 1)
  | and hleft _ hl hr =>
    rw [parameters_and, parameters_and, List.length_append, List.length_append, hl, hr,
      hleft.comparisonCount]
  | or hleft _ hl hr =>
    rw [parameters_or, parameters_or, List.length_append, List.length_append, hl, hr,
      hleft.comparisonCount]

/-- Equal lists of parameters are equal comparison by comparison, since each of two matching
comparisons has as many of them as the other one. -/
theorem same_iff (h : Related Comparison.Matching f g) (fields : FieldMap) (count : Nat) :
    Related Comparison.Same f g ↔
      (f.predicate fields count).parameters = (g.predicate fields count).parameters := by
  induction h generalizing count with
  | @comparison c c' hc =>
    rw [parameters_comparison, parameters_comparison, ← hc.same_iff]
    exact ⟨fun h => by cases h; assumption, .comparison⟩
  | @and l l' r r' hleft _ hl hr =>
    rw [parameters_and, parameters_and, hleft.comparisonCount]
    constructor
    · rintro (_ | ⟨hsl, hsr⟩ | _)
      rw [(hl count).1 hsl, (hr _).1 hsr]
    · intro he
      obtain ⟨hel, her⟩ := List.append_inj he (hleft.length_parameters fields count)
      exact .and ((hl count).2 hel) ((hr _).2 her)
  | @or l l' r r' hleft _ hl hr =>
    rw [parameters_or, parameters_or, hleft.comparisonCount]
    constructor
    · rintro (_ | _ | ⟨hsl, hsr⟩)
      rw [(hl count).1 hsl, (hr _).1 hsr]
    · intro he
      obtain ⟨hel, her⟩ := List.append_inj he (hleft.length_parameters fields count)
      exact .or ((hl count).2 hel) ((hr _).2 her)

theorem mono {R S : Comparison → Comparison → Prop} (hRS : ∀ c c', R c c' → S c c')
    (h : Related R f g) : Related S f g := by
  induction h with
  | comparison hc => exact .comparison (hRS _ _ hc)
  | and _ _ hl hr => exact .and hl hr
  | or _ _ hl hr => exact .or hl hr

end Related

/-- What the predicates of filters tell, and what their parameters tell beyond that. -/
theorem predicates_eq_iff {fs gs : List Filter} (hf : ∀ f ∈ fs, f.Unbroken)
    (hg : ∀ g ∈ gs, g.Unbroken) (count : Nat) :
    (predicates FieldMap.empty count fs).result = (predicates FieldMap.empty count gs).result ∧
        (predicates FieldMap.empty count fs).parameters =
          (predicates FieldMap.empty count gs).parameters ↔
      List.Forall₂ (Related Comparison.Same) fs gs := by
  constructor
  · rintro ⟨hresult, hparameters⟩
    have hmatching := matching_of_predicates_eq hf hg hresult
    clear hresult
    induction hmatching generalizing count with
    | nil => exact .nil
    | @cons f g fs gs hfg _ ih =>
      obtain ⟨hfirst, hrest⟩ :=
        List.append_inj hparameters (hfg.length_parameters FieldMap.empty count)
      rw [count_predicate, count_predicate, hfg.comparisonCount] at hrest
      refine .cons ((hfg.same_iff FieldMap.empty count).2 hfirst) (ih ?_ ?_ _ hrest)
      · exact fun f' h' => hf f' (List.mem_cons_of_mem f h')
      · exact fun g' h' => hg g' (List.mem_cons_of_mem g h')
  · intro h
    clear hf hg
    induction h generalizing count with
    | nil => exact ⟨rfl, rfl⟩
    | @cons f g fs gs hfg _ ih =>
      have hmatching := hfg.mono fun _ _ hs => hs.toMatching
      obtain ⟨hresult, hparameters⟩ := ih (count + g.comparisonCount)
      constructor
      · simp only [predicates, count_predicate, hmatching.comparisonCount, hresult,
          hmatching.result_predicate]
      · simp only [predicates, count_predicate, hmatching.comparisonCount, hparameters,
          (hmatching.same_iff FieldMap.empty count).1 hfg]

end Filter

/-! ## The main statement -/

/-- Clauses tell all there is to tell: two criteria have the same ones, without a field map, just
when they are the same but for values of one plain text that are searched for. -/
theorem Criteria.clauses_eq_iff {c c' : Criteria} (hc : ∀ f ∈ c.filters, f.Unbroken)
    (hc' : ∀ f ∈ c'.filters, f.Unbroken) :
    c.clauses FieldMap.empty = c'.clauses FieldMap.empty ↔ c.Same c' := by
  have hfilters := Filter.predicates_eq_iff hc hc' 0
  have hsorting : c.sorting.map (fun o => SortColumn.mk o.field o.direction) =
      c'.sorting.map (fun o => SortColumn.mk o.field o.direction) ↔ c.sorting = c'.sorting := by
    refine List.map_inj_right ?_
    intro o o' h
    cases o
    cases o'
    cases h
    rfl
  unfold clauses clausesFrom
  simp only [FieldMap.resolve_empty, Clauses.mk.injEq, hsorting]
  constructor
  · rintro ⟨hresult, hparameters, hs, ho, hl⟩
    exact ⟨hfilters.1 ⟨hresult, hparameters⟩, hs, ho, hl⟩
  · intro h
    obtain ⟨hresult, hparameters⟩ := hfilters.2 h.filters
    exact ⟨hresult, hparameters, h.sorting, h.offset, h.limit⟩

/-- A search for a value among codes, with an alternative on a field called AND. -/
def codesWith (v : Value) : Criteria :=
  { Criteria.empty with
    filters := [.or (.comparison ⟨"code", .contains, .scalar v, by decide, Eq.refl Arity.scalar⟩)
      (.comparison ⟨"AND", .notIn, .list [.text "x"], by decide, rfl⟩)] }

/-- The number 5 and the text 5 are searched for alike. -/
theorem Criteria.clauses_codesWith :
    ((∀ f ∈ (codesWith (.int 5)).filters, f.Unbroken) ∧
        ∀ f ∈ (codesWith (.text "5")).filters, f.Unbroken) ∧
      codesWith (.int 5) ≠ codesWith (.text "5") ∧
        (codesWith (.int 5)).clauses FieldMap.empty =
          (codesWith (.text "5")).clauses FieldMap.empty := by
  have hint : ∀ f ∈ (codesWith (.int 5)).filters, f.Unbroken := by decide
  have htext : ∀ f ∈ (codesWith (.text "5")).filters, f.Unbroken := by decide
  refine ⟨⟨hint, htext⟩, by decide, (Criteria.clauses_eq_iff hint htext).2 ⟨?_, rfl, rfl, rfl⟩⟩
  refine .cons (.or (.comparison ⟨⟨rfl, rfl⟩, .inr ⟨rfl, _, _, rfl, rfl, by decide⟩⟩) ?_) .nil
  exact .comparison ⟨⟨rfl, rfl⟩, .inl rfl⟩

end QueryCriteria
