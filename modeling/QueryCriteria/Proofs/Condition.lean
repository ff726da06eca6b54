import Mathlib.Algebra.Ring.Nat
import QueryCriteria.Clauses.Basic

/-!
Conditions: atoms joined two by two with and, or.

A filter is a condition whose atoms are its comparisons (`Filter.condition`). Translation and
rendering change the atoms and nothing else: they put a text in place of each comparison, and that
text depends on the comparison and on how much stands to the left of it. `Condition.label` is this
step for any kind of label and any measure of what stands to the left.

`Condition.text` writes a condition of texts with parentheses around each pair. Nothing is lost by
that if an atom can be told from a blank behind it (`Delimited`): conditions of one text are one
condition (`text_inj`).
-/

namespace QueryCriteria

inductive Condition (α : Type) where
  | atom (a : α)
  /-- Both parts must hold. -/
  | and (left right : Condition α)
  /-- At least one part must hold. -/
  | or (left right : Condition α)
  deriving DecidableEq

namespace Condition

variable {α β : Type}

/-- The atoms from left to right. -/
def atoms : Condition α → List α
  | atom a => [a]
  | and left right => left.atoms ++ right.atoms
  | or left right => left.atoms ++ right.atoms

/-- The truth of a condition whose atoms have numbers from `count + 1` on. -/
def holds (truth : Nat → Bool) (count : Nat) : Condition α → Bool
  | atom _ => truth (count + 1)
  | and left right => left.holds truth count && right.holds truth (count + left.atoms.length)
  | or left right => left.holds truth count || right.holds truth (count + left.atoms.length)

/-- A condition and further ones that must hold with it, from left to right. -/
def all (c : Condition α) (cs : List (Condition α)) : Condition α := cs.foldl and c

/-! ## Labels -/

/-- The measure of what is in a condition. -/
def extent (width : α → Nat) (c : Condition α) : Nat := (c.atoms.map width).sum

/-- Puts labels in place of the atoms. A label may depend on the measure of what is to the left. -/
def label (f : Nat → α → β) (width : α → Nat) (before : Nat) : Condition α → Condition β
  | atom a => atom (f before a)
  | and left right =>
    and (left.label f width before) (right.label f width (before + left.extent width))
  | or left right =>
    or (left.label f width before) (right.label f width (before + left.extent width))

/-- Labels for conditions one after the other. -/
def labelAll (f : Nat → α → β) (width : α → Nat) (before : Nat) :
    List (Condition α) → List (Condition β)
  | [] => []
  | c :: cs => c.label f width before :: labelAll f width (before + c.extent width) cs

variable {f : Nat → α → β} {width : α → Nat}

theorem extent_and (left right : Condition α) :
    (and left right).extent width = left.extent width + right.extent width := by
  unfold extent
  rw [atoms, List.map_append, List.sum_append]

theorem length_atoms_label (before : Nat) (c : Condition α) :
    (c.label f width before).atoms.length = c.atoms.length := by
  induction c generalizing before with
  | atom a => rfl
  | and l r hl hr => simp only [label, atoms, List.length_append, hl, hr]
  | or l r hl hr => simp only [label, atoms, List.length_append, hl, hr]

/-- What the atoms are does not matter for the truth of a condition. -/
theorem holds_label (truth : Nat → Bool) (count before : Nat) (c : Condition α) :
    (c.label f width before).holds truth count = c.holds truth count := by
  induction c generalizing count before with
  | atom a => rfl
  | and l r hl hr => simp only [label, holds, length_atoms_label, hl, hr]
  | or l r hl hr => simp only [label, holds, length_atoms_label, hl, hr]

/-- A conjunction is labelled part by part. -/
theorem label_all (before : Nat) (c : Condition α) (cs : List (Condition α)) :
    (all c cs).label f width before =
      all (c.label f width before) (labelAll f width (before + c.extent width) cs) := by
  induction cs generalizing c with
  | nil => rfl
  | cons c' cs ih =>
    have hstep : all c (c' :: cs) = all (and c c') cs := rfl
    rw [hstep, ih, extent_and, ← Nat.add_assoc]
    rfl

/-- A label is put in place of an atom, with some measure of what is to the left of it. -/
theorem mem_atoms_label {before : Nat} {c : Condition α} {b : β}
    (h : b ∈ (c.label f width before).atoms) : ∃ a ∈ c.atoms, ∃ n, b = f n a := by
  induction c generalizing before with
  | atom a => exact ⟨a, List.mem_singleton_self a, before, List.mem_singleton.1 h⟩
  | and l r hl hr =>
    rcases List.mem_append.1 h with h | h
    · obtain ⟨a, ha, n, hb⟩ := hl h
      exact ⟨a, List.mem_append_left _ ha, n, hb⟩
    · obtain ⟨a, ha, n, hb⟩ := hr h
      exact ⟨a, List.mem_append_right _ ha, n, hb⟩
  | or l r hl hr =>
    rcases List.mem_append.1 h with h | h
    · obtain ⟨a, ha, n, hb⟩ := hl h
      exact ⟨a, List.mem_append_left _ ha, n, hb⟩
    · obtain ⟨a, ha, n, hb⟩ := hr h
      exact ⟨a, List.mem_append_right _ ha, n, hb⟩

theorem mem_labelAll {before : Nat} {cs : List (Condition α)} {c' : Condition β}
    (h : c' ∈ labelAll f width before cs) : ∃ c ∈ cs, ∃ n, c' = c.label f width n := by
  induction cs generalizing before with
  | nil => cases h
  | cons c cs ih =>
    rcases List.mem_cons.1 h with rfl | h
    · exact ⟨c, List.mem_cons_self .., before, rfl⟩
    · obtain ⟨c₁, hc₁, n, he⟩ := ih h
      exact ⟨c₁, List.mem_cons_of_mem c hc₁, n, he⟩

/-! ## Text -/

/-- Two texts with a word between them, in parentheses. -/
def paired (left : List Char) (word : String) (right : List Char) : List Char :=
  '(' :: ' ' :: (left ++ ' ' :: (word.toList ++ ' ' :: (right ++ [' ', ')'])))

/-- A condition of texts as one text. -/
def text : Condition (List Char) → List Char
  | atom s => s
  | and left right => paired left.text "AND" right.text
  | or left right => paired left.text "OR" right.text

/-- A blank or nothing comes first. -/
def BlankFirst (s : List Char) : Prop := ∀ c, s.head? = some c → c = ' '

theorem blankFirst_cons (s : List Char) : BlankFirst (' ' :: s) :=
  fun _ h => (Option.some.inj h).symm

/-- A text is cut in one way at the first place of a character. -/
theorem append_mark_inj {c : Char} {u v x y : List Char} (hu : c ∉ u) (hv : c ∉ v)
    (h : u ++ c :: x = v ++ c :: y) : u = v ∧ x = y := by
  induction u generalizing v with
  | nil =>
    cases v with
    | nil => exact ⟨rfl, (List.cons.inj h).2⟩
    | cons d v => exact absurd ((List.cons.inj h).1 ▸ List.mem_cons_self ..) hv
  | cons b u ih =>
    rw [List.mem_cons, not_or] at hu
    cases v with
    | nil => exact absurd (List.cons.inj h).1.symm hu.1
    | cons d v =>
      rw [List.mem_cons, not_or] at hv
      obtain ⟨rfl, htail⟩ := List.cons.inj h
      obtain ⟨rfl, hxy⟩ := ih hu.2 hv.2 htail
      exact ⟨rfl, hxy⟩

/-- Texts that do not begin with a parenthesis and that can be told from a blank behind them. -/
structure Delimited (P : List Char → Prop) : Prop where
  start : ∀ a, P a → ∃ c s, a = c :: s ∧ c ≠ '('
  stop : ∀ a b r s, P a → P b → BlankFirst r → BlankFirst s → a ++ r = b ++ s → a = b

/-- A pair and what stands behind it. -/
theorem paired_append (left : List Char) (word : String) (right r : List Char) :
    paired left word right ++ r =
      '(' :: ' ' :: (left ++ ' ' :: (word.toList ++ ' ' :: (right ++ ' ' :: ')' :: r))) := by
  simp [paired]

variable {P : List Char → Prop}

/-- An atom is not the beginning of a pair. -/
theorem Delimited.ne_paired (hP : Delimited P) {a : List Char} (ha : P a) (r left : List Char)
    (word : String) (right s : List Char) : a ++ r ≠ paired left word right ++ s := by
  intro h
  obtain ⟨c, t, rfl, hc⟩ := hP.start a ha
  rw [paired_append] at h
  exact hc (List.cons.inj h).1

/-- Whatever condition a text with the condition in front is also read as, it is this one. -/
def Recovered (P : List Char → Prop) (t : Condition (List Char)) : Prop :=
  ∀ u : Condition (List Char), (∀ a ∈ u.atoms, P a) → ∀ r s, BlankFirst r → BlankFirst s →
    t.text ++ r = u.text ++ s → t = u ∧ r = s

/-- Of a pair its word and its parts can be told, since a word has no blank in it. -/
theorem Recovered.pair {l₁ r₁ l₂ r₂ : Condition (List Char)} (hl : Recovered P l₁)
    (hr : Recovered P r₁) (hu : ∀ a ∈ l₂.atoms ++ r₂.atoms, P a) {word word' : String}
    (hword : ' ' ∉ word.toList) (hword' : ' ' ∉ word'.toList) {r s : List Char}
    (h : paired l₁.text word r₁.text ++ r = paired l₂.text word' r₂.text ++ s) :
    word = word' ∧ l₁ = l₂ ∧ r₁ = r₂ ∧ r = s := by
  rw [paired_append, paired_append] at h
  have hleft := (List.cons.inj (List.cons.inj h).2).2
  obtain ⟨hl, hafter⟩ := hl l₂ (fun a ha => hu a (List.mem_append_left _ ha)) _ _
    (blankFirst_cons _) (blankFirst_cons _) hleft
  obtain ⟨hw, hright⟩ := append_mark_inj hword hword' (List.cons.inj hafter).2
  obtain ⟨hr, hend⟩ := hr r₂ (fun a ha => hu a (List.mem_append_right _ ha)) _ _
    (blankFirst_cons _) (blankFirst_cons _) hright
  exact ⟨String.toList_inj.1 hw, hl, hr, (List.cons.inj (List.cons.inj hend).2).2⟩

/-- The text of a condition gives back the condition, and what stands behind it. -/
theorem recovered (hP : Delimited P) {t : Condition (List Char)} (ht : ∀ a ∈ t.atoms, P a) :
    Recovered P t := by
  induction t with
  | atom a =>
    intro u hu r s hr hs h
    have ha := ht a (List.mem_singleton_self a)
    cases u with
    | atom b =>
      have hab := hP.stop a b r s ha (hu b (List.mem_singleton_self b)) hr hs h
      subst hab
      exact ⟨rfl, List.append_cancel_left h⟩
    | and l₂ r₂ => exact absurd h (hP.ne_paired ha _ _ _ _ _)
    | or l₂ r₂ => exact absurd h (hP.ne_paired ha _ _ _ _ _)
  | and l₁ r₁ hl hr =>
    have hl := hl fun a ha => ht a (List.mem_append_left _ ha)
    have hr := hr fun a ha => ht a (List.mem_append_right _ ha)
    intro u hu r s _ _ h
    cases u with
    | atom b => exact absurd h.symm (hP.ne_paired (hu b (List.mem_singleton_self b)) _ _ _ _ _)
    | and l₂ r₂ =>
      obtain ⟨-, rfl, rfl, hrest⟩ := hl.pair hr hu (by decide) (by decide) h
      exact ⟨rfl, hrest⟩
    | or l₂ r₂ => exact absurd (hl.pair hr hu (by decide) (by decide) h).1 (by decide)
  | or l₁ r₁ hl hr =>
    have hl := hl fun a ha => ht a (List.mem_append_left _ ha)
    have hr := hr fun a ha => ht a (List.mem_append_right _ ha)
    intro u hu r s _ _ h
    cases u with
    | atom b => exact absurd h.symm (hP.ne_paired (hu b (List.mem_singleton_self b)) _ _ _ _ _)
    | and l₂ r₂ => exact absurd (hl.pair hr hu (by decide) (by decide) h).1 (by decide)
    | or l₂ r₂ =>
      obtain ⟨-, rfl, rfl, hrest⟩ := hl.pair hr hu (by decide) (by decide) h
      exact ⟨rfl, hrest⟩

/-- Conditions of one text are one condition. -/
theorem text_inj (hP : Delimited P) {t u : Condition (List Char)} (ht : ∀ a ∈ t.atoms, P a)
    (hu : ∀ a ∈ u.atoms, P a) (h : t.text = u.text) : t = u := by
  have hnil : BlankFirst [] := fun _ h => nomatch h
  have hrecovered := recovered hP ht u hu [] [] hnil hnil
  rw [List.append_nil, List.append_nil] at hrecovered
  exact (hrecovered h).1

end Condition

/-! ## Comparisons and filters -/

namespace Comparison

/-- What stands behind the operator, with a text in the place of the operand. -/
def behind (c : Comparison) (operand : List Char) : List Char :=
  match c.operand with
  | .none => []
  | .scalar _ => ' ' :: operand
  | .list _ => ' ' :: '(' :: (operand ++ [')'])

/-- A comparison of a column, with a text in the place of the operand. -/
def phrase (column : List Char) (c : Comparison) (operand : List Char) : List Char :=
  column ++ ' ' :: (c.operator.sql.toList ++ c.behind operand)

/-- A condition has its placeholder in the place of the operand. -/
theorem condition_eq_phrase (fields : FieldMap) (c : Comparison) (number : Nat) :
    (c.condition fields number).1.toList =
      c.phrase (fields.resolve c.field).toList (':' :: (c.parameterName number).toList) := by
  unfold condition phrase behind
  cases c.operand <;> simp

end Comparison

namespace Filter

/-- A filter as a condition on its comparisons. -/
def condition : Filter → Condition Comparison
  | comparison c => .atom c
  | and left right => .and left.condition right.condition
  | or left right => .or left.condition right.condition

theorem atoms_condition (f : Filter) : f.condition.atoms = f.comparisons := by
  induction f with
  | comparison c => rfl
  | and l r hl hr => rw [condition, Condition.atoms, hl, hr, comparisons]
  | or l r hl hr => rw [condition, Condition.atoms, hl, hr, comparisons]

end Filter

end QueryCriteria
