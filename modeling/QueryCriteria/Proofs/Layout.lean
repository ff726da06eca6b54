import QueryCriteria.Proofs.ParameterNames

/-!
Predicates as text with holes.

A predicate is copied text, and between it the placeholders of comparisons. `Filter.layout` cuts
the predicate of a filter into such segments by the tree alone; no text is searched for a
placeholder. A layout has two readings:

  * with names in the holes it is the predicate that the translation writes (`named_layout`,
    `named_layouts`);
  * with the placeholders of a dialect in the holes (`fill`, `fillAll`) it is what the rendered
    query should say. Whether it does so is not a question of this module.

The holes of a layout are the comparisons that bind something, in the order of their numbers
(`operands_layouts`). What is copied is a column with a few characters behind it, none of them a
quote or a colon, or such characters alone (`copied_of_mem_layout`), and a hole is followed by a
blank, by a closing parenthesis or by nothing (`wellSpaced_layout`).
-/

namespace QueryCriteria

open Sql

/-- A part of a predicate. -/
inductive Segment where
  | copied (s : List Char)
  /-- The place of the operand of the comparison with this number. -/
  | operand (c : Comparison) (number : Nat)

/-! ## One comparison -/

namespace Comparison

/-- The values that the comparison binds, in order. -/
def values (c : Comparison) : List Value :=
  match c.operand with
  | .none => []
  | .scalar v => [boundValue c.operator v]
  | .list vs => vs.map fun v => .text v.plain

/-- The placeholders of the values, when so many stand before them; for an empty list a null. -/
def placeholders (d : Dialect) (before : Nat) (c : Comparison) : List Char :=
  match c.operand with
  | .list [] => "NULL".toList
  | _ => ", ".toList.intercalate
      ((List.range c.values.length).map fun i => d.placeholder (before + i))

/-- The condition of the comparison with this number. -/
def layout (fields : FieldMap) (c : Comparison) (number : Nat) : List Segment :=
  let column := (fields.resolve c.field).toList
  let operator := ' ' :: c.operator.sql.toList
  match c.operand with
  | .none => [.copied (column ++ operator)]
  | .scalar _ => [.copied (column ++ (operator ++ [' '])), .operand c number]
  | .list _ => [.copied (column ++ (operator ++ [' ', '('])), .operand c number, .copied [')']]

end Comparison

/-! ## Layouts and their readings -/

namespace Segment

/-- The segment with a name in the hole. -/
def named : Segment → List Char
  | copied s => s
  | operand c number => ':' :: (c.parameterName number).toList

def operand? : Segment → Option (Comparison × Nat)
  | copied _ => none
  | operand c number => some (c, number)

/-- Two layouts with a word between them, in parentheses. -/
def grouped (left : List Segment) (word : String) (right : List Segment) : List Segment :=
  .copied ['(', ' '] :: left ++ .copied (' ' :: word.toList ++ [' ']) :: right
    ++ [.copied [' ', ')']]

/-- A layout with the placeholders of a dialect in the holes, when so many stand before it. -/
def fill (d : Dialect) (before : Nat) : List Segment → List Char
  | [] => []
  | copied s :: rest => s ++ fill d before rest
  | operand c _ :: rest =>
    c.placeholders d before ++ fill d (before + c.values.length) rest

/-- The values that a layout binds, in order. -/
def values (segments : List Segment) : List Value :=
  (segments.filterMap operand?).flatMap fun x => x.1.values

/-- Layouts one after the other. -/
def fillAll (d : Dialect) (before : Nat) : List (List Segment) → List (List Char)
  | [] => []
  | segments :: rest =>
    fill d before segments :: fillAll d (before + (values segments).length) rest

end Segment

namespace Filter

/-- The predicate of a filter, after so many comparisons. -/
def layout (fields : FieldMap) (count : Nat) : Filter → List Segment
  | comparison c => c.layout fields (count + 1)
  | and left right =>
    Segment.grouped (left.layout fields count) "AND"
      (right.layout fields (count + left.comparisonCount))
  | or left right =>
    Segment.grouped (left.layout fields count) "OR"
      (right.layout fields (count + left.comparisonCount))

def layouts (fields : FieldMap) (count : Nat) : List Filter → List (List Segment)
  | [] => []
  | f :: fs => f.layout fields count :: layouts fields (count + f.comparisonCount) fs

end Filter

/-! ## Names in the holes -/

theorem Comparison.named_layout (fields : FieldMap) (c : Comparison) (number : Nat) :
    (c.layout fields number).flatMap Segment.named = (c.condition fields number).1.toList := by
  unfold layout condition
  cases c.operand <;> simp [Segment.named]

theorem Segment.named_grouped {left right : List Segment} {l r : String} (word : String)
    (hl : left.flatMap named = l.toList) (hr : right.flatMap named = r.toList) :
    (grouped left word right).flatMap named = (Filter.grouped l word r).toList := by
  unfold grouped Filter.grouped
  rw [List.cons_append, List.flatMap_append, List.flatMap_cons, List.flatMap_append, hl,
    List.flatMap_cons, hr]
  simp [named]

namespace Filter

theorem named_layout (fields : FieldMap) (count : Nat) (f : Filter) :
    (f.layout fields count).flatMap Segment.named = (f.predicate fields count).result.toList := by
  induction f generalizing count with
  | comparison c => exact c.named_layout fields (count + 1)
  | and l r hl hr =>
    have hr := hr (l.predicate fields count).count
    rw [count_predicate] at hr
    unfold layout predicate
    simp only [count_predicate]
    exact Segment.named_grouped "AND" (hl count) hr
  | or l r hl hr =>
    have hr := hr (l.predicate fields count).count
    rw [count_predicate] at hr
    unfold layout predicate
    simp only [count_predicate]
    exact Segment.named_grouped "OR" (hl count) hr

/-- The predicates of a translation. -/
theorem named_layouts (fields : FieldMap) (count : Nat) (fs : List Filter) :
    (predicates fields count fs).result =
      (layouts fields count fs).map fun segments =>
        String.ofList (segments.flatMap Segment.named) := by
  induction fs generalizing count with
  | nil => rfl
  | cons f fs ih =>
    simp only [predicates, layouts, List.map_cons]
    rw [count_predicate, ih, named_layout, String.ofList_toList]

end Filter

/-! ## The holes -/

theorem Comparison.operands_layout (fields : FieldMap) (c : Comparison) (number : Nat) :
    (c.layout fields number).filterMap Segment.operand? =
      if c.Binds then [(c, number)] else [] := by
  by_cases h : c.operand = .none
  · simp [layout, Binds, h, Segment.operand?]
  · rw [if_pos (show c.Binds from h)]
    unfold layout
    cases ho : c.operand with
    | none => exact absurd ho h
    | scalar v => rfl
    | list vs => rfl

theorem Segment.operands_grouped (left : List Segment) (word : String) (right : List Segment) :
    (grouped left word right).filterMap operand? =
      left.filterMap operand? ++ right.filterMap operand? := by
  simp [grouped, List.filterMap_cons, operand?]

namespace Filter

theorem operands_layout (fields : FieldMap) (count : Nat) (f : Filter) :
    (f.layout fields count).filterMap Segment.operand? =
      (numbered count [f]).filter fun x => x.1.Binds := by
  induction f generalizing count with
  | comparison c =>
    have h := c.operands_layout fields (count + 1)
    unfold layout
    rw [h]
    simp [numbered, comparisons, List.filter_cons]
  | and l r hl hr =>
    unfold layout
    rw [Segment.operands_grouped, hl, hr, ← List.filter_append, ← numbered_and]
  | or l r hl hr =>
    unfold layout
    rw [Segment.operands_grouped, hl, hr, ← List.filter_append, ← numbered_or]

/-- The holes are the comparisons that bind something, in the order of their numbers. -/
theorem operands_layouts (fields : FieldMap) (count : Nat) (fs : List Filter) :
    (layouts fields count fs).flatMap (List.filterMap Segment.operand?) =
      (numbered count fs).filter fun x => x.1.Binds := by
  induction fs generalizing count with
  | nil => rfl
  | cons f fs ih =>
    rw [layouts, List.flatMap_cons, operands_layout, ih, ← List.filter_append, ← numbered_cons]

end Filter

/-- A comparison without an operand binds no value. -/
theorem Comparison.values_of_not_binds {c : Comparison} (h : ¬ c.Binds) : c.values = [] := by
  unfold values
  rw [Decidable.not_not.1 h]

/-- The values of layouts are those of the comparisons from left to right. -/
theorem Filter.values_layouts (fields : FieldMap) (count : Nat) (fs : List Filter) :
    (layouts fields count fs).flatMap Segment.values =
      (fs.flatMap comparisons).flatMap Comparison.values := by
  have hall : ∀ (cs : List Comparison) (n : Nat),
      ((cs.zipIdx n).filter fun x => x.1.Binds).flatMap (fun x => x.1.values) =
        cs.flatMap Comparison.values := by
    intro cs
    induction cs with
    | nil => exact fun _ => rfl
    | cons c cs ih =>
      intro n
      rw [List.zipIdx_cons, List.filter_cons, List.flatMap_cons, ← ih (n + 1)]
      by_cases hb : c.Binds
      · simp [hb]
      · simp [hb, Comparison.values_of_not_binds hb]
  have h := congrArg (List.flatMap fun x => x.1.values) (operands_layouts fields count fs)
  rw [List.flatMap_assoc] at h
  exact h.trans (hall _ _)

/-! ## What is copied -/

/-- Neither a quote nor a colon is in the text. -/
def Dull (s : List Char) : Prop := '\'' ∉ s ∧ ':' ∉ s

instance (s : List Char) : Decidable (Dull s) := inferInstanceAs (Decidable (_ ∧ _))

theorem Operator.dull_sql (op : Operator) : Dull op.sql.toList := by
  cases op <;> decide

theorem dull_append {s t : List Char} : Dull (s ++ t) ↔ Dull s ∧ Dull t := by
  simp only [Dull, List.mem_append, not_or]
  constructor
  · rintro ⟨⟨h₁, h₂⟩, h₃, h₄⟩
    exact ⟨⟨h₁, h₃⟩, h₂, h₄⟩
  · rintro ⟨⟨h₁, h₃⟩, h₂, h₄⟩
    exact ⟨⟨h₁, h₂⟩, h₃, h₄⟩

/-- Copied text is the column of one of these comparisons, or nothing, and dull text behind it. -/
def Segment.CopiedFrom (fields : FieldMap) (cs : List Comparison) (s : List Char) : Prop :=
  ∃ column rest, s = column ++ rest ∧ Dull rest ∧
    (column = [] ∨ ∃ c ∈ cs, column = (fields.resolve c.field).toList)

theorem Segment.CopiedFrom.mono {fields : FieldMap} {cs cs' : List Comparison} {s : List Char}
    (h : CopiedFrom fields cs s) (hsub : cs ⊆ cs') : CopiedFrom fields cs' s := by
  obtain ⟨column, rest, hs, hrest, hcolumn⟩ := h
  refine ⟨column, rest, hs, hrest, hcolumn.imp id ?_⟩
  rintro ⟨c, hc, he⟩
  exact ⟨c, hsub hc, he⟩

theorem Comparison.copied_of_mem_layout {fields : FieldMap} {c : Comparison} {number : Nat}
    {s : List Char} (h : Segment.copied s ∈ c.layout fields number) :
    Segment.CopiedFrom fields [c] s := by
  have hop : Dull (' ' :: c.operator.sql.toList) :=
    dull_append.2 ⟨show Dull [' '] by decide, c.operator.dull_sql⟩
  have hcolumn : ∃ c' ∈ [c], (fields.resolve c.field).toList = (fields.resolve c'.field).toList :=
    ⟨c, List.mem_singleton_self c, rfl⟩
  unfold layout at h
  cases ho : c.operand <;> rw [ho] at h <;> simp only [List.mem_cons, Segment.copied.injEq,
    reduceCtorEq, List.not_mem_nil, or_false, false_or] at h
  case none => exact ⟨_, _, h, hop, .inr hcolumn⟩
  case scalar => exact ⟨_, _, h, dull_append.2 ⟨hop, by decide⟩, .inr hcolumn⟩
  case list =>
    rcases h with h | h
    · exact ⟨_, _, h, dull_append.2 ⟨hop, by decide⟩, .inr hcolumn⟩
    · exact ⟨[], _, h, by decide, .inl rfl⟩

theorem Segment.copied_of_mem_grouped {left right : List Segment} {word : String}
    (hword : Dull word.toList) {s : List Char} (h : copied s ∈ grouped left word right) :
    Dull s ∨ copied s ∈ left ∨ copied s ∈ right := by
  simp only [grouped, List.cons_append, List.mem_cons, List.mem_append, copied.injEq,
    List.not_mem_nil, or_false] at h
  rcases h with rfl | (h | rfl | h) | rfl
  · exact .inl (by decide)
  · exact .inr (.inl h)
  · refine .inl (dull_append.2 ⟨dull_append (s := [' ']).2 ⟨by decide, hword⟩, by decide⟩)
  · exact .inr (.inr h)
  · exact .inl (by decide)

theorem Filter.copied_of_mem_layout {fields : FieldMap} {count : Nat} {f : Filter} {s : List Char}
    (h : Segment.copied s ∈ f.layout fields count) :
    Segment.CopiedFrom fields f.comparisons s := by
  induction f generalizing count with
  | comparison c => exact Comparison.copied_of_mem_layout h
  | and l r hl hr =>
    rcases Segment.copied_of_mem_grouped (by decide) h with hd | h | h
    · exact ⟨[], s, rfl, hd, .inl rfl⟩
    · exact (hl h).mono (List.subset_append_left _ _)
    · exact (hr h).mono (List.subset_append_right _ _)
  | or l r hl hr =>
    rcases Segment.copied_of_mem_grouped (by decide) h with hd | h | h
    · exact ⟨[], s, rfl, hd, .inl rfl⟩
    · exact (hl h).mono (List.subset_append_left _ _)
    · exact (hr h).mono (List.subset_append_right _ _)

/-! ## What follows a hole -/

/-- A blank, a closing parenthesis or nothing comes first; no name of a parameter goes on there
unless it has such a character in it. -/
def Stops (t : List Char) : Prop := ∀ c, t.head? = some c → c = ' ' ∨ c = ')'

theorem stops_append {s t : List Char} (hs : Stops s) (ht : Stops t) : Stops (s ++ t) := by
  cases s with
  | nil => exact ht
  | cons c s => exact hs

namespace Segment

/-- What follows a hole is text at which a name stops. -/
def WellSpaced : List Segment → Prop
  | [] => True
  | copied _ :: rest => WellSpaced rest
  | operand _ _ :: rest => Stops (rest.flatMap named) ∧ WellSpaced rest

theorem wellSpaced_append {left right : List Segment} (hl : WellSpaced left)
    (hr : WellSpaced right) (hstops : Stops (right.flatMap named)) :
    WellSpaced (left ++ right) := by
  induction left with
  | nil => exact hr
  | cons x left ih =>
    cases x with
    | copied s => exact ih hl
    | operand c number =>
      refine ⟨?_, ih hl.2⟩
      show Stops ((left ++ right).flatMap named)
      rw [List.flatMap_append]
      exact stops_append hl.1 hstops

theorem wellSpaced_grouped {left right : List Segment} (word : String) (hl : WellSpaced left)
    (hr : WellSpaced right) : WellSpaced (grouped left word right) := by
  have hblank : ∀ t : List Char, Stops (' ' :: t) := by
    intro t c h
    exact .inl (Option.some.inj h).symm
  unfold grouped
  refine wellSpaced_append ?_ trivial (hblank _)
  show WellSpaced ((copied ['(', ' '] :: left) ++ copied (' ' :: word.toList ++ [' ']) :: right)
  exact wellSpaced_append hl hr (hblank _)

end Segment

theorem Comparison.wellSpaced_layout (fields : FieldMap) (c : Comparison) (number : Nat) :
    Segment.WellSpaced (c.layout fields number) := by
  unfold layout
  cases c.operand with
  | none => exact trivial
  | scalar v => exact ⟨(fun c h => nomatch h), trivial⟩
  | list vs => exact ⟨fun c h => .inr (Option.some.inj h).symm, trivial⟩

theorem Filter.wellSpaced_layout (fields : FieldMap) (count : Nat) (f : Filter) :
    Segment.WellSpaced (f.layout fields count) := by
  induction f generalizing count with
  | comparison c => exact c.wellSpaced_layout fields (count + 1)
  | and l r hl hr => exact Segment.wellSpaced_grouped "AND" (hl _) (hr _)
  | or l r hl hr => exact Segment.wellSpaced_grouped "OR" (hl _) (hr _)

end QueryCriteria
