import Mathlib.Data.List.Infix
import QueryCriteria.Sql.Token

/-!
Conditions on a column of texts, as SQL understands them.

A condition with LIKE, IN or NOT IN and the values of its placeholders are read as a test
(`Sql.Dialect.test?`). A text in the column passes the test or not, or that is unknown
(`Sql.Test.truth`):

  * in a pattern `%` is any text and `_` any one character, and nothing escapes the two
    (`fitsPattern`);
  * whether a text equals a null is unknown; IN is the disjunction of the equalities with the
    elements of its list, and NOT IN is the negation of IN.

Comparisons are not mentioned here. About patterns it is shown what it means to look for one
anywhere in a text (`fitsPattern_between_iff`), and that this is to look for the pattern as it
stands if and only if no wildcard is in it (`literal_iff`). The reader is shown to find the
operands that a dialect's placeholders stand for (`Sql.Dialect.test?_like`,
`Sql.Dialect.list?_placeholders`). Nulls in the column, columns of other types and collations are
left out.
-/

namespace QueryCriteria

/-! ## Patterns -/

/-- A text fits a pattern of SQL. -/
def fitsPattern : List Char → List Char → Bool
  | [], x => x.isEmpty
  | c :: p, x =>
    if c = '%' then x.tails.any (fitsPattern p)
    else
      match x with
      | [] => false
      | y :: x => (c == '_' || c == y) && fitsPattern p x

/-- Neither of the wildcards is in the text. -/
def Literal (p : List Char) : Prop := '%' ∉ p ∧ '_' ∉ p

instance (p : List Char) : Decidable (Literal p) := inferInstanceAs (Decidable (_ ∧ _))

section Patterns

variable {c : Char} {p x : List Char}

theorem literal_cons : Literal (c :: p) ↔ c ≠ '%' ∧ c ≠ '_' ∧ Literal p := by
  simp only [Literal, List.mem_cons, not_or, eq_comm, ne_eq]
  constructor
  · rintro ⟨⟨h₁, h₂⟩, h₃, h₄⟩
    exact ⟨h₁, h₃, h₂, h₄⟩
  · rintro ⟨h₁, h₃, h₂, h₄⟩
    exact ⟨⟨h₁, h₂⟩, h₃, h₄⟩

theorem fitsPattern_nil_iff : fitsPattern [] x = true ↔ x = [] := List.isEmpty_iff

theorem fitsPattern_percent_iff :
    fitsPattern ('%' :: p) x = true ↔ ∃ rest, rest <:+ x ∧ fitsPattern p rest = true := by
  simp only [fitsPattern, if_pos, List.any_eq_true, List.mem_tails]

theorem fitsPattern_cons_iff (hc : c ≠ '%') :
    fitsPattern (c :: p) x = true ↔
      ∃ y rest, x = y :: rest ∧ (c = '_' ∨ c = y) ∧ fitsPattern p rest = true := by
  cases x with
  | nil => simp [fitsPattern, hc]
  | cons y x => simp [fitsPattern, hc]

/-- At the end of a pattern `%` lets anything follow. -/
theorem fitsPattern_append_percent_iff :
    fitsPattern (p ++ ['%']) x = true ↔ ∃ front, front <+: x ∧ fitsPattern p front = true := by
  induction p generalizing x with
  | nil =>
    rw [List.nil_append, fitsPattern_percent_iff]
    exact ⟨fun _ => ⟨[], List.nil_prefix, rfl⟩, fun _ => ⟨[], List.nil_suffix, rfl⟩⟩
  | cons c p ih =>
    rw [List.cons_append]
    by_cases hc : c = '%'
    · subst hc
      simp only [fitsPattern_percent_iff, ih]
      constructor
      · rintro ⟨rest, ⟨before, rfl⟩, front, ⟨after, rfl⟩, hfront⟩
        exact ⟨before ++ front, ⟨after, List.append_assoc ..⟩, front,
          List.suffix_append .., hfront⟩
      · rintro ⟨_, ⟨after, rfl⟩, front, ⟨before, rfl⟩, hfront⟩
        exact ⟨front ++ after, ⟨before, (List.append_assoc ..).symm⟩, front,
          List.prefix_append .., hfront⟩
    · simp only [fitsPattern_cons_iff hc, ih]
      constructor
      · rintro ⟨y, rest, rfl, hy, front, hprefix, hfront⟩
        exact ⟨y :: front, (List.prefix_cons_inj y).2 hprefix, y, front, rfl, hy, hfront⟩
      · rintro ⟨_, hprefix, y, front, rfl, hy, hfront⟩
        obtain ⟨after, rfl⟩ := hprefix
        exact ⟨y, front ++ after, rfl, hy, front, List.prefix_append .., hfront⟩

/-- Between two `%` a pattern is looked for in the text. -/
theorem fitsPattern_between_iff :
    fitsPattern ('%' :: (p ++ ['%'])) x = true ↔
      ∃ part, part <:+: x ∧ fitsPattern p part = true := by
  simp only [fitsPattern_percent_iff, fitsPattern_append_percent_iff]
  constructor
  · rintro ⟨rest, hrest, part, hpart, hfits⟩
    exact ⟨part, List.infix_iff_prefix_suffix.2 ⟨rest, hpart, hrest⟩, hfits⟩
  · rintro ⟨part, hinfix, hfits⟩
    obtain ⟨rest, hpart, hrest⟩ := List.infix_iff_prefix_suffix.1 hinfix
    exact ⟨rest, hrest, part, hpart, hfits⟩

theorem fitsPattern_self (p : List Char) : fitsPattern p p = true := by
  induction p with
  | nil => rfl
  | cons c p ih =>
    by_cases hc : c = '%'
    · subst hc
      exact fitsPattern_percent_iff.2 ⟨p, List.suffix_cons .., ih⟩
    · exact (fitsPattern_cons_iff hc).2 ⟨c, p, rfl, .inr rfl, ih⟩

/-- A literal fits itself alone. -/
theorem Literal.fitsPattern_iff (h : Literal p) : fitsPattern p x = true ↔ x = p := by
  refine ⟨fun hx => ?_, fun hx => hx ▸ fitsPattern_self p⟩
  induction p generalizing x with
  | nil => exact fitsPattern_nil_iff.1 hx
  | cons c p ih =>
    obtain ⟨hpercent, hunderscore, hp⟩ := literal_cons.1 h
    obtain ⟨y, rest, rfl, hy, hrest⟩ := (fitsPattern_cons_iff hpercent).1 hx
    rw [hy.resolve_left hunderscore, ih hp hrest]

/-- A letter in the place of each wildcard. -/
def filledIn (p : List Char) : List Char := p.map fun c => if c = '%' ∨ c = '_' then 'a' else c

theorem fitsPattern_filledIn (p : List Char) : fitsPattern p (filledIn p) = true := by
  induction p with
  | nil => rfl
  | cons c p ih =>
    by_cases hc : c = '%'
    · subst hc
      exact fitsPattern_percent_iff.2 ⟨filledIn p, List.suffix_cons .., ih⟩
    · refine (fitsPattern_cons_iff hc).2 ⟨_, filledIn p, rfl, ?_, ih⟩
      by_cases hu : c = '_'
      · exact .inl hu
      · exact .inr (if_neg (not_or.2 ⟨hc, hu⟩)).symm

theorem literal_filledIn (p : List Char) : Literal (filledIn p) := by
  induction p with
  | nil => decide
  | cons c p ih =>
    rw [filledIn, List.map_cons, literal_cons]
    by_cases hc : c = '%' ∨ c = '_'
    · rw [if_pos hc]
      exact ⟨by decide, by decide, ih⟩
    · rw [if_neg hc]
      exact ⟨(not_or.1 hc).1, (not_or.1 hc).2, ih⟩

/-- A pattern is looked for as it stands if it is a literal, and in no other case. -/
theorem literal_iff :
    Literal p ↔ ∀ x, (∃ part, part <:+: x ∧ fitsPattern p part = true) ↔ p <:+: x := by
  constructor
  · intro h x
    constructor
    · rintro ⟨part, hinfix, hfits⟩
      exact h.fitsPattern_iff.1 hfits ▸ hinfix
    · exact fun hinfix => ⟨p, hinfix, fitsPattern_self p⟩
  · intro h
    have hinfix := (h (filledIn p)).1 ⟨filledIn p, List.infix_refl _, fitsPattern_filledIn p⟩
    have hlength : p.length = (filledIn p).length := (List.length_map _).symm
    have heq : p = filledIn p := List.IsInfix.eq_of_length hinfix hlength
    rw [heq]
    exact literal_filledIn p

end Patterns

namespace Sql

/-! ## Three truth values -/

inductive Truth where
  | yes
  | no
  | unknown
  deriving DecidableEq, Repr

namespace Truth

def or : Truth → Truth → Truth
  | yes, _ => yes
  | _, yes => yes
  | no, no => no
  | _, _ => unknown

def not : Truth → Truth
  | yes => no
  | no => yes
  | unknown => unknown

variable {a b : Truth}

theorem or_eq_yes_iff : a.or b = yes ↔ a = yes ∨ b = yes := by
  cases a <;> cases b <;> decide

theorem or_eq_no_iff : a.or b = no ↔ a = no ∧ b = no := by
  cases a <;> cases b <;> decide

theorem not_eq_yes_iff : a.not = yes ↔ a = no := by
  cases a <;> decide

end Truth

/-! ## Tests of a text -/

/-- What a condition asks about the text in its column. Operands are texts or nulls. -/
inductive Test where
  | like (pattern : Option String)
  | isIn (elements : List (Option String))
  | notIn (elements : List (Option String))
  deriving DecidableEq

/-- Whether a text equals an operand. -/
def equality (x : String) : Option String → Truth
  | none => .unknown
  | some y => if x = y then .yes else .no

/-- Whether a text equals one of the operands. -/
def membership (x : String) (elements : List (Option String)) : Truth :=
  elements.foldr (fun e => (equality x e).or) .no

def Test.truth (x : String) : Test → Truth
  | like none => .unknown
  | like (some pattern) => if fitsPattern pattern.toList x.toList then .yes else .no
  | isIn elements => membership x elements
  | notIn elements => (membership x elements).not

variable {x : String}

theorem membership_eq_yes_iff {elements : List (Option String)} :
    membership x elements = .yes ↔ some x ∈ elements := by
  induction elements with
  | nil => simp [membership]
  | cons e elements ih =>
    have hstep : membership x (e :: elements) = (equality x e).or (membership x elements) := rfl
    have hequal : equality x e = .yes ↔ some x = e := by
      cases e with
      | none => simp [equality]
      | some y => simp [equality]
    rw [hstep, Truth.or_eq_yes_iff, ih, hequal, List.mem_cons]

/-- No element is a null, and the text is none of them. -/
theorem membership_eq_no_iff {elements : List (Option String)} :
    membership x elements = .no ↔ none ∉ elements ∧ some x ∉ elements := by
  induction elements with
  | nil => simp [membership]
  | cons e elements ih =>
    have hstep : membership x (e :: elements) = (equality x e).or (membership x elements) := rfl
    have hdiffer : equality x e = .no ↔ none ≠ e ∧ some x ≠ e := by
      cases e with
      | none => simp [equality]
      | some y => simp [equality]
    rw [hstep, Truth.or_eq_no_iff, ih, hdiffer, List.mem_cons, List.mem_cons, not_or, not_or,
      and_and_and_comm]

/-! ## Reading a condition -/

namespace Dialect

/-- The operands in a list, each a null or the placeholder with this number, which stands for a
text; all values are used up. -/
def operands? (d : Dialect) : Nat → List Value → List (List Char) → Option (List (Option String))
  | _, [], [] => some []
  | _, _ :: _, [] => none
  | n, values, part :: parts =>
    if part = "NULL".toList then (d.operands? n values parts).map (none :: ·)
    else
      match values with
      | .text v :: values =>
        if part = d.placeholder n then (d.operands? (n + 1) values parts).map (some v :: ·)
        else none
      | _ => none

/-- A list up to its closing parenthesis. -/
def list? (d : Dialect) (values : List Value) (s : List Char) : Option (List (Option String)) := do
  let inner ← s.dropSuffix? [')']
  d.operands? 0 values ((List.splitOn ',' inner).map (List.dropWhile (· == ' ')))

/-- A condition on a column as a test, if it is one of LIKE, IN or NOT IN. -/
def test? (d : Dialect) (column : List Char) (q : Query) : Option Test := do
  let behind ← q.sql.toList.dropPrefix? column
  match behind.dropPrefix? " LIKE ".toList with
  | some operand =>
    match d.operands? 0 q.parameters [operand] with
    | some [pattern] => some (.like pattern)
    | _ => none
  | none =>
    match behind.dropPrefix? " IN (".toList with
    | some list => (d.list? q.parameters list).map .isIn
    | none =>
      let list ← behind.dropPrefix? " NOT IN (".toList
      (d.list? q.parameters list).map .notIn

/-! ## The reader on lists -/

theorem comma_not_mem_placeholder (d : Dialect) (n : Nat) :
    ',' ∉ d.placeholder n ∧ (d.placeholder n).head? ≠ some ' ' := by
  cases d with
  | mysql => exact ⟨by simp [placeholder], by simp [placeholder]⟩
  | postgres =>
    refine ⟨?_, by simp [placeholder]⟩
    intro h
    have hdigit : ',' ∈ Nat.toDigits 10 (n + 1) :=
      (List.mem_cons.1 h).resolve_left (by decide)
    exact absurd (Nat.isDigit_of_mem_toDigits (by decide) (by decide) hdigit) (by decide)

theorem placeholder_ne_null (d : Dialect) (n : Nat) : d.placeholder n ≠ "NULL".toList := by
  cases d <;> simp [placeholder]

theorem intercalate_blank (w : List Char) (ws : List (List Char)) :
    ", ".toList.intercalate (w :: ws) = [','].intercalate (w :: ws.map (' ' :: ·)) := by
  induction ws generalizing w with
  | nil => rw [List.map_nil, List.intercalate_singleton, List.intercalate_singleton]
  | cons w' ws ih =>
    have hblank : ∀ l,
        [','].intercalate ((' ' :: w') :: l) = ' ' :: [','].intercalate (w' :: l) := by
      intro l
      cases l with
      | nil => rw [List.intercalate_singleton, List.intercalate_singleton]
      | cons v l => rw [List.intercalate_cons_cons, List.intercalate_cons_cons]; rfl
    rw [List.map_cons, List.intercalate_cons_cons, List.intercalate_cons_cons, ih, hblank]
    simp

/-- Words with commas between them are cut at the commas. -/
theorem splitOn_intercalate_blank {ws : List (List Char)} (hws : ws ≠ [])
    (h : ∀ w ∈ ws, ',' ∉ w ∧ w.head? ≠ some ' ') :
    (List.splitOn ',' (", ".toList.intercalate ws)).map (List.dropWhile (· == ' ')) = ws := by
  obtain ⟨w, ws, rfl⟩ := List.exists_cons_of_ne_nil hws
  have hdrop : ∀ v ∈ w :: ws, v.dropWhile (· == ' ') = v := by
    intro v hv
    cases v with
    | nil => rfl
    | cons c v =>
      have hc : ¬ (c == ' ') = true := by simpa using (h _ hv).2
      exact List.dropWhile_cons_of_neg hc
  rw [intercalate_blank, List.splitOn_intercalate _ ?_ (List.cons_ne_nil _ _), List.map_cons,
    hdrop w (List.mem_cons_self ..), List.map_map]
  · refine congrArg (w :: ·) ((List.map_congr_left fun v hv => ?_).trans (List.map_id ws))
    have hblank : (' ' :: v).dropWhile (· == ' ') = v.dropWhile (· == ' ') :=
      List.dropWhile_cons_of_pos rfl
    exact hblank.trans (hdrop v (List.mem_cons_of_mem w hv))
  · intro v hv
    rcases List.mem_cons.1 hv with rfl | hv
    · exact (h _ (List.mem_cons_self ..)).1
    · obtain ⟨u, hu, rfl⟩ := List.mem_map.1 hv
      simpa using (h u (List.mem_cons_of_mem w hu)).1

theorem operands?_placeholders (d : Dialect) (n : Nat) (ss : List String) :
    d.operands? n (ss.map Value.text) ((List.range ss.length).map fun i => d.placeholder (n + i)) =
      some (ss.map some) := by
  induction ss generalizing n with
  | nil => rfl
  | cons s ss ih =>
    have hrest : ((List.range ss.length).map Nat.succ).map (fun i => d.placeholder (n + i)) =
        (List.range ss.length).map fun i => d.placeholder (n + 1 + i) := by
      rw [List.map_map]
      refine List.map_congr_left fun i _ => ?_
      exact congrArg d.placeholder (by omega)
    rw [List.length_cons, List.range_succ_eq_map, List.map_cons, List.map_cons, hrest, operands?,
      if_neg (d.placeholder_ne_null _)]
    simp only [Nat.add_zero, if_pos, ih]
    rfl

/-- Placeholders between commas and a closing parenthesis. -/
theorem list?_placeholders (d : Dialect) (ss : List String) (hss : ss ≠ []) :
    d.list? (ss.map .text) (", ".toList.intercalate
        ((List.range ss.length).map fun i => d.placeholder (0 + i)) ++ [')']) =
      some (ss.map some) := by
  have hparts : (List.range ss.length).map (fun i => d.placeholder (0 + i)) ≠ [] := by
    simpa using hss
  have hsplit := splitOn_intercalate_blank hparts fun w hw => by
    obtain ⟨i, -, rfl⟩ := List.mem_map.1 hw
    exact d.comma_not_mem_placeholder _
  have hinner : ∀ s : List Char, (s ++ [')']).dropSuffix? [')'] = some s := fun s =>
    List.dropSuffix?_eq_some_iff.2 ⟨[')'], rfl, rfl⟩
  unfold list?
  rw [hinner]
  simp only [Option.bind_eq_bind, Option.bind_some]
  rw [hsplit, operands?_placeholders]

/-- A null alone in a list is its one element. -/
theorem list?_null (d : Dialect) : d.list? [] ("NULL".toList ++ [')']) = some [none] := by
  cases d <;> decide

/-! ## The reader on a condition -/

variable (d : Dialect) (column : List Char) (values : List Value)

theorem dropPrefix?_column (behind : List Char) :
    (column ++ behind).dropPrefix? column = some behind :=
  List.dropPrefix?_append_of_beq behind (beq_self_eq_true column)

theorem test?_like (pattern : String) :
    d.test? column ⟨String.ofList (column ++ (" LIKE ".toList ++ d.placeholder 0)),
      [.text pattern]⟩ = some (.like (some pattern)) := by
  have hlike : (" LIKE ".toList ++ d.placeholder 0).dropPrefix? " LIKE ".toList =
      some (d.placeholder 0) := List.dropPrefix?_append_of_beq _ rfl
  have hpattern : d.operands? 0 [.text pattern] [d.placeholder 0] = some [some pattern] :=
    d.operands?_placeholders 0 [pattern]
  unfold test?
  rw [String.toList_ofList, dropPrefix?_column]
  simp only [Option.bind_eq_bind, Option.bind_some, hlike, hpattern]

theorem test?_isIn (list : List Char) :
    d.test? column ⟨String.ofList (column ++ (" IN (".toList ++ list)), values⟩ =
      (d.list? values list).map .isIn := by
  have hlike : (" IN (".toList ++ list).dropPrefix? " LIKE ".toList = none := rfl
  have hin : (" IN (".toList ++ list).dropPrefix? " IN (".toList = some list :=
    List.dropPrefix?_append_of_beq _ rfl
  unfold test?
  rw [String.toList_ofList, dropPrefix?_column]
  simp only [Option.bind_eq_bind, Option.bind_some, hlike, hin]

theorem test?_notIn (list : List Char) :
    d.test? column ⟨String.ofList (column ++ (" NOT IN (".toList ++ list)), values⟩ =
      (d.list? values list).map .notIn := by
  have hlike : (" NOT IN (".toList ++ list).dropPrefix? " LIKE ".toList = none := rfl
  have hin : (" NOT IN (".toList ++ list).dropPrefix? " IN (".toList = none := rfl
  have hnot : (" NOT IN (".toList ++ list).dropPrefix? " NOT IN (".toList = some list :=
    List.dropPrefix?_append_of_beq _ rfl
  unfold test?
  rw [String.toList_ofList, dropPrefix?_column]
  simp only [Option.bind_eq_bind, Option.bind_some, hlike, hin, hnot]

end Dialect

end Sql

end QueryCriteria
