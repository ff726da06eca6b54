import QueryCriteria.Proofs.Recovery

/-!
Clauses by position.

A translation goes through the filters with a counter in its hand. Here there is none. The
comparisons of all filters are numbered first, from left to right and whether they take a value or
not (`Condition.Numbers`); there is one way to do that. Then each comparison is read off with its
number, alone: as the text that stands for it (`Comparison.reading`) and as what it binds
(`Comparison.bound?`). The clauses of a criteria are these texts in the places of the comparisons,
with parentheses around each pair, and these parameters in the order of the numbers
(`Criteria.clauses_by_position`).

So no comparison knows of another one but for its number, and the text of a part of a filter is
settled by the part and by how many comparisons stand to the left of it (`Condition.PartAmong`).
-/

namespace QueryCriteria

open Sql

/-! ## Numbers on the atoms -/

namespace Condition

variable {α β : Type}

def map (g : α → β) : Condition α → Condition β
  | atom a => atom (g a)
  | and left right => and (left.map g) (right.map g)
  | or left right => or (left.map g) (right.map g)

/-- The conditions with numbers on their atoms: 1 on the first one from the left, after `before`
others, and so on through all of them. -/
structure Numbers (before : Nat) (cs : List (Condition α)) (ts : List (Condition (α × Nat))) :
    Prop where
  conditions : ts.map (map Prod.fst) = cs
  numbers : (ts.flatMap atoms).map Prod.snd = List.range' (before + 1) (ts.flatMap atoms).length

/-- One condition is a part of another one, with so many atoms of it to the left. -/
inductive PartOf : Nat → Condition α → Condition α → Prop where
  | whole (t : Condition α) : PartOf 0 t t
  | andLeft {n : Nat} {s l : Condition α} (r : Condition α) : PartOf n s l → PartOf n s (and l r)
  | andRight {n : Nat} {s r : Condition α} (l : Condition α) :
    PartOf n s r → PartOf (l.atoms.length + n) s (and l r)
  | orLeft {n : Nat} {s l : Condition α} (r : Condition α) : PartOf n s l → PartOf n s (or l r)
  | orRight {n : Nat} {s r : Condition α} (l : Condition α) :
    PartOf n s r → PartOf (l.atoms.length + n) s (or l r)

/-- A part of one of several conditions; the atoms of those before it are to the left as well. -/
inductive PartAmong : Nat → Condition α → List (Condition α) → Prop where
  | here {n : Nat} {s t : Condition α} (ts : List (Condition α)) :
    PartOf n s t → PartAmong n s (t :: ts)
  | later {n : Nat} {s : Condition α} {ts : List (Condition α)} (t : Condition α) :
    PartAmong n s ts → PartAmong (t.atoms.length + n) s (t :: ts)

/-- The condition with numbers on its atoms, after `before` others. -/
def numbered (before : Nat) (c : Condition α) : Condition (α × Nat) :=
  c.label (fun n a => (a, n + 1)) (fun _ => 1) before

def numberedAll (before : Nat) (cs : List (Condition α)) : List (Condition (α × Nat)) :=
  labelAll (fun n a => (a, n + 1)) (fun _ => 1) before cs

theorem extent_one (c : Condition α) : c.extent (fun _ => 1) = c.atoms.length := by
  unfold extent
  rw [List.map_const', List.sum_replicate_nat, Nat.mul_one]

theorem numbered_and (before : Nat) (l r : Condition α) :
    (and l r).numbered before =
      and (l.numbered before) (r.numbered (before + l.atoms.length)) := by
  rw [← extent_one l]
  rfl

theorem numbered_or (before : Nat) (l r : Condition α) :
    (or l r).numbered before = or (l.numbered before) (r.numbered (before + l.atoms.length)) := by
  rw [← extent_one l]
  rfl

theorem numberedAll_cons (before : Nat) (c : Condition α) (cs : List (Condition α)) :
    numberedAll before (c :: cs) =
      c.numbered before :: numberedAll (before + c.atoms.length) cs := by
  rw [← extent_one c]
  rfl

theorem atoms_map (g : α → β) (c : Condition α) : (c.map g).atoms = c.atoms.map g := by
  induction c with
  | atom a => rfl
  | and l r hl hr => rw [map, atoms, hl, hr, atoms, List.map_append]
  | or l r hl hr => rw [map, atoms, hl, hr, atoms, List.map_append]

theorem map_congr {g h : α → β} {c : Condition α} (hgh : ∀ a ∈ c.atoms, g a = h a) :
    c.map g = c.map h := by
  induction c with
  | atom a => exact congrArg atom (hgh a (List.mem_singleton_self a))
  | and l r hl hr =>
    rw [map, map, hl fun a ha => hgh a (List.mem_append_left _ ha),
      hr fun a ha => hgh a (List.mem_append_right _ ha)]
  | or l r hl hr =>
    rw [map, map, hl fun a ha => hgh a (List.mem_append_left _ ha),
      hr fun a ha => hgh a (List.mem_append_right _ ha)]

/-- A label is put on in two steps: first the number, then what it leads to. -/
theorem map_numbered (g : α × Nat → β) (before : Nat) (c : Condition α) :
    (c.numbered before).map g = c.label (fun n a => g (a, n + 1)) (fun _ => 1) before := by
  induction c generalizing before with
  | atom a => rfl
  | and l r hl hr => rw [numbered_and, map, hl, hr, ← extent_one l]; rfl
  | or l r hl hr => rw [numbered_or, map, hl, hr, ← extent_one l]; rfl

/-! ## One way to number -/

/-- The numbers of the atoms are consecutive. -/
def Consecutive (before : Nat) (t : Condition (α × Nat)) : Prop :=
  t.atoms.map Prod.snd = List.range' (before + 1) t.atoms.length

theorem map_range'_append_iff {xs ys : List (α × Nat)} {before : Nat} :
    (xs ++ ys).map Prod.snd = List.range' (before + 1) (xs ++ ys).length ↔
      xs.map Prod.snd = List.range' (before + 1) xs.length ∧
        ys.map Prod.snd = List.range' (before + xs.length + 1) ys.length := by
  have hsplit : List.range' (before + 1) (xs ++ ys).length =
      List.range' (before + 1) xs.length ++ List.range' (before + xs.length + 1) ys.length := by
    rw [List.length_append, ← List.range'_append_1]
    congr 2
    omega
  rw [hsplit, List.map_append]
  refine ⟨fun h => List.append_inj h (by simp), ?_⟩
  rintro ⟨hx, hy⟩
  rw [hx, hy]

/-- Consecutive numbers are the ones that numbering puts on. -/
theorem consecutive_iff {before : Nat} {t : Condition (α × Nat)} :
    t.Consecutive before ↔ t = (t.map Prod.fst).numbered before := by
  induction t generalizing before with
  | atom x =>
    obtain ⟨a, n⟩ := x
    simp [Consecutive, atoms, map, numbered, label]
  | and l r hl hr =>
    have hlength : (l.map Prod.fst).atoms.length = l.atoms.length := by
      rw [atoms_map, List.length_map]
    unfold Consecutive at hl hr ⊢
    rw [atoms, map_range'_append_iff, hl, hr, map, numbered_and, hlength, Condition.and.injEq]
  | or l r hl hr =>
    have hlength : (l.map Prod.fst).atoms.length = l.atoms.length := by
      rw [atoms_map, List.length_map]
    unfold Consecutive at hl hr ⊢
    rw [atoms, map_range'_append_iff, hl, hr, map, numbered_or, hlength, Condition.or.injEq]

/-- What is left of a numbered condition without its numbers. -/
theorem map_fst_numbered (before : Nat) (c : Condition α) :
    (c.numbered before).map Prod.fst = c := by
  induction c generalizing before with
  | atom a => rfl
  | and l r hl hr => rw [numbered_and, map, hl, hr]
  | or l r hl hr => rw [numbered_or, map, hl, hr]

theorem map_fst_numberedAll (before : Nat) (cs : List (Condition α)) :
    (numberedAll before cs).map (map Prod.fst) = cs := by
  induction cs generalizing before with
  | nil => rfl
  | cons c cs ih => rw [numberedAll_cons, List.map_cons, map_fst_numbered, ih]

theorem consecutiveAll_iff {before : Nat} {ts : List (Condition (α × Nat))} :
    (ts.flatMap atoms).map Prod.snd = List.range' (before + 1) (ts.flatMap atoms).length ↔
      ts = numberedAll before (ts.map (map Prod.fst)) := by
  induction ts generalizing before with
  | nil => exact ⟨fun _ => rfl, fun _ => rfl⟩
  | cons t ts ih =>
    have hlength : (t.map Prod.fst).atoms.length = t.atoms.length := by
      rw [atoms_map, List.length_map]
    have hfirst : t.Consecutive before ↔ t = (t.map Prod.fst).numbered before := consecutive_iff
    unfold Consecutive at hfirst
    rw [List.flatMap_cons, map_range'_append_iff, hfirst, ih, List.map_cons, numberedAll_cons,
      hlength, List.cons.injEq]

/-- There is one way to number conditions. -/
theorem numbers_iff {before : Nat} {cs : List (Condition α)} {ts : List (Condition (α × Nat))} :
    Numbers before cs ts ↔ ts = numberedAll before cs := by
  constructor
  · rintro ⟨rfl, hnumbers⟩
    exact consecutiveAll_iff.1 hnumbers
  · rintro rfl
    have hconditions := map_fst_numberedAll before cs
    refine ⟨hconditions, consecutiveAll_iff.2 ?_⟩
    rw [hconditions]

/-- The atoms of numbered conditions are the atoms in order, each with its place. -/
theorem atoms_numberedAll (before : Nat) (cs : List (Condition α)) :
    (numberedAll before cs).flatMap atoms = (cs.flatMap atoms).zipIdx (before + 1) := by
  have hnumbers := (numbers_iff.2 rfl : Numbers before cs (numberedAll before cs))
  have hatoms : ((numberedAll before cs).flatMap atoms).map Prod.fst = cs.flatMap atoms := by
    rw [List.map_flatMap, ← hnumbers.conditions, List.flatMap_map]
    simp only [atoms_map, hnumbers.conditions]
  rw [List.zip_of_prod hatoms hnumbers.numbers, List.zipIdx_eq_zip_range', ← hatoms,
    List.length_map]

/-! ## Parts -/

/-- A part of what is numbered is numbered itself, after what is to the left of it. -/
theorem Consecutive.part {before n : Nat} {s t : Condition (α × Nat)} (h : PartOf n s t)
    (ht : t.Consecutive before) : s.Consecutive (before + n) := by
  induction h generalizing before with
  | whole t => exact ht
  | andLeft r _ ih => exact ih (map_range'_append_iff.1 ht).1
  | andRight l _ ih =>
    rw [← Nat.add_assoc]
    exact ih (map_range'_append_iff.1 ht).2
  | orLeft r _ ih => exact ih (map_range'_append_iff.1 ht).1
  | orRight l _ ih =>
    rw [← Nat.add_assoc]
    exact ih (map_range'_append_iff.1 ht).2

theorem consecutive_of_partAmong {before n : Nat} {cs : List (Condition α)}
    {s : Condition (α × Nat)} (h : PartAmong n s (numberedAll before cs)) :
    s.Consecutive (before + n) := by
  induction cs generalizing before n with
  | nil => cases h
  | cons c cs ih =>
    have hconsecutive : (c.numbered before).Consecutive before :=
      consecutive_iff.2 (by rw [map_fst_numbered])
    have hlength : (c.numbered before).atoms.length = c.atoms.length := length_atoms_label before c
    rw [numberedAll_cons] at h
    cases h with
    | here _ h => exact hconsecutive.part h
    | later _ h =>
      rw [hlength, ← Nat.add_assoc]
      exact ih h

/-- The text of a part stands in the text of the whole. -/
theorem PartOf.infix_text {n : Nat} {s t : Condition α} (h : PartOf n s t)
    (g : α → List Char) : (s.map g).text <:+: (t.map g).text := by
  have hleft : ∀ u w v, u <:+: paired u w v := fun u w v =>
    ⟨['(', ' '], ' ' :: (w.toList ++ ' ' :: (v ++ [' ', ')'])), by simp [paired]⟩
  have hright : ∀ u w v, v <:+: paired u w v := fun u w v =>
    ⟨'(' :: ' ' :: (u ++ ' ' :: (w.toList ++ [' '])), [' ', ')'], by simp [paired]⟩
  induction h with
  | whole t => exact List.infix_refl _
  | andLeft r _ ih => exact ih.trans (hleft _ _ _)
  | andRight l _ ih => exact ih.trans (hright _ _ _)
  | orLeft r _ ih => exact ih.trans (hleft _ _ _)
  | orRight l _ ih => exact ih.trans (hright _ _ _)

theorem PartAmong.infix_text {n : Nat} {s : Condition α} {ts : List (Condition α)}
    (h : PartAmong n s ts) (g : α → List Char) :
    ∃ t ∈ ts, (s.map g).text <:+: (t.map g).text := by
  induction h with
  | here ts h => exact ⟨_, List.mem_cons_self .., h.infix_text g⟩
  | later t _ ih =>
    obtain ⟨u, hu, htext⟩ := ih
    exact ⟨u, List.mem_cons_of_mem t hu, htext⟩

end Condition

/-! ## One comparison and its number -/

theorem Operator.arity_eq_list_iff {op : Operator} :
    op.arity = .list ↔ op = .isIn ∨ op = .notIn := by
  cases op <;> decide

namespace Comparison

/-- The text that stands for a comparison: column and operator, and behind them, if the operator
takes something, field and number behind a colon, for a list in parentheses. -/
def reading (fields : FieldMap) (x : Comparison × Nat) : List Char :=
  let name := x.1.field ++ toString x.2
  let start := fields.resolve x.1.field ++ " " ++ x.1.operator.sql
  match x.1.operator.arity with
  | .nullary => start.toList
  | .scalar => (start ++ " :" ++ name).toList
  | .list => (start ++ " (:" ++ name ++ ")").toList

/-- What a comparison binds under its field and number, if its operator takes something: the
operand as it is, or for a search its plain text between wildcards, as an array of strings under IN
and NOT IN and under these alone. -/
def bound? (x : Comparison × Nat) : Option Parameter :=
  let name := x.1.field ++ toString x.2
  let type :=
    if x.1.operator = .isIn ∨ x.1.operator = .notIn then some ParameterType.stringArray else none
  match x.1.operand with
  | .none => none
  | .scalar v =>
    let v := if x.1.operator = .contains then .text ("%" ++ v.plain ++ "%") else v
    some ⟨name, .scalar v, type⟩
  | .list vs => some ⟨name, .list vs, type⟩

theorem reading_eq (fields : FieldMap) (c : Comparison) (number : Nat) :
    reading fields (c, number) = (c.condition fields number).1.toList := by
  have hfits := c.fits
  unfold reading condition
  rw [← hfits]
  cases c.operand <;> rfl

/-- A comparison takes something if and only if its operator does. -/
theorem bound?_eq_none_iff (x : Comparison × Nat) :
    bound? x = none ↔ x.1.operator.arity = .nullary := by
  have hfits := x.1.fits
  unfold bound?
  rw [← hfits]
  cases x.1.operand <;> simp [Operand.arity]

theorem boundValue_eq (operator : Operator) (v : Value) :
    boundValue operator v =
      if operator = .contains then .text ("%" ++ v.plain ++ "%") else v := by
  cases operator <;> rfl

theorem toList_bound? (x : Comparison × Nat) : (bound? x).toList = x.1.parameters x.2 := by
  have hfits := x.1.fits
  unfold bound? parameters
  cases ho : x.1.operand with
  | none => rfl
  | scalar v =>
    rw [ho] at hfits
    have htype : ¬ (x.1.operator = .isIn ∨ x.1.operator = .notIn) := by
      rw [← Operator.arity_eq_list_iff, ← hfits]
      exact fun h => nomatch h
    simp only [if_neg htype, boundValue_eq]
    rfl
  | list vs =>
    rw [ho] at hfits
    have htype := Operator.arity_eq_list_iff.1 hfits.symm
    simp only [if_pos htype, parameterType_of_list ho]
    rfl

end Comparison

/-! ## The main statement -/

namespace Filter

/-- A filter is written as the text of its comparisons, each read off with its number. -/
theorem text_map_reading (fields : FieldMap) (before : Nat) (f : Filter) :
    ((f.condition.numbered before).map (Comparison.reading fields)).text =
      (f.predicate fields before).result.toList := by
  rw [← text_written, Condition.map_numbered]
  simp only [Comparison.reading_eq]
  rfl

theorem predicates_eq_numberedAll (fields : FieldMap) (before : Nat) (fs : List Filter) :
    (predicates fields before fs).result =
      (Condition.numberedAll before (fs.map condition)).map fun t =>
        String.ofList (t.map (Comparison.reading fields)).text := by
  induction fs generalizing before with
  | nil => rfl
  | cons f fs ih =>
    have hlength : f.condition.atoms.length = f.comparisonCount := by
      rw [atoms_condition, length_comparisons]
    rw [List.map_cons, Condition.numberedAll_cons, List.map_cons, text_map_reading,
      String.ofList_toList, hlength, ← ih, ← count_predicate fields]
    rfl

theorem parameters_eq_numberedAll (fields : FieldMap) (before : Nat) (fs : List Filter) :
    (predicates fields before fs).parameters =
      ((Condition.numberedAll before (fs.map condition)).flatMap Condition.atoms).filterMap
        Comparison.bound? := by
  have hatoms : (fs.map condition).flatMap Condition.atoms = fs.flatMap comparisons := by
    simp only [List.flatMap_map, atoms_condition]
  rw [parameters_predicates, Condition.atoms_numberedAll, hatoms,
    List.filterMap_eq_flatMap_toList]
  simp only [Comparison.toList_bound?]
  rfl

end Filter

/-- The comparisons of a criteria can be numbered from 1 in one way, and the clauses are what is
read off the numbered comparisons one by one; a comparison is without a parameter just when its
operator takes nothing. What stands for a part of a filter is settled by the part and by the number
of comparisons to the left of it. -/
theorem Criteria.clauses_by_position (fields : FieldMap) (c : Criteria) :
    (∀ x, Comparison.bound? x = none ↔ x.1.operator.arity = .nullary) ∧
    ∃ ts, (∀ us, Condition.Numbers 0 (c.filters.map Filter.condition) us ↔ us = ts) ∧
      c.clauses fields =
        { predicates := ts.map fun t => String.ofList (t.map (Comparison.reading fields)).text
          parameters := (ts.flatMap Condition.atoms).filterMap Comparison.bound?
          sorting := c.sorting.map fun o => ⟨fields.resolve o.field, o.direction⟩
          offset := c.offset
          limit := c.limit } ∧
        ∀ left s, Condition.PartAmong left s ts →
          s = (s.map Prod.fst).numbered left ∧
            ∃ t ∈ ts, (s.map (Comparison.reading fields)).text <:+:
              (t.map (Comparison.reading fields)).text := by
  refine ⟨Comparison.bound?_eq_none_iff, Condition.numberedAll 0 (c.filters.map Filter.condition),
    fun us => Condition.numbers_iff, ?_, ?_⟩
  · unfold clauses clausesFrom
    simp only [Filter.predicates_eq_numberedAll, Filter.parameters_eq_numberedAll]
  · intro left s hs
    have hconsecutive := Condition.consecutive_of_partAmong hs
    rw [Nat.zero_add] at hconsecutive
    exact ⟨Condition.consecutive_iff.1 hconsecutive, hs.infix_text _⟩

end QueryCriteria
