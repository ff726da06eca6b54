import QueryCriteria.Proofs.FromClause
import QueryCriteria.Proofs.Writing

/-!
What a user selects is named or copied.

`Expr.column` cuts a text at its dots and looks at what is between them. Which texts name a column
is said here without cutting: a plain name grows character by character (`PlainName`), and a column
is one plain name or two with a dot between them (`Names`). That the two agree on every text
(`Expr.column_eq_name_iff`) rests on the laws of cutting: a text is its parts with dots between
them, and parts without a dot are what such a text is cut into. Everything else is copied
(`Expr.column_eq_verbatim_iff`): the empty text, a dot at an end or beside another one, a third
part, a character of another kind.

Nothing of the text is lost. An expression made from it spells it (`Expr.spelled_column`), so no two
texts make one expression. In SQL a name stands between marks, and since no plain name has a mark in
it, nothing is doubled there: without the marks the text of the user is back
(`Names.unmarked_marked`). This is about single columns; a select list is a column after the other
(`Settings.map_spelled_selectList`).
-/

namespace QueryCriteria

namespace Sql

/-! ## Plain names -/

/-- One of the letters of ASCII. -/
def Letter (c : Char) : Prop := 'a' ≤ c ∧ c ≤ 'z' ∨ 'A' ≤ c ∧ c ≤ 'Z'

/-- One of the digits of ASCII. -/
def Digit (c : Char) : Prop := '0' ≤ c ∧ c ≤ '9'

instance : DecidablePred Letter := fun _ => inferInstanceAs (Decidable (_ ∨ _))

instance : DecidablePred Digit := fun _ => inferInstanceAs (Decidable (_ ∧ _))

/-- A letter or an underscore, and behind it letters, digits and underscores. -/
inductive PlainName : List Char → Prop where
  | first {c : Char} : Letter c ∨ c = '_' → PlainName [c]
  | next {s : List Char} {c : Char} : PlainName s → Letter c ∨ c = '_' ∨ Digit c →
    PlainName (s ++ [c])

/-- A text names a column, which may be qualified by the name of a table. -/
inductive Names : Option String → String → String → Prop where
  | alone {n : String} : PlainName n.toList → Names none n n
  | qualified {q n : String} : PlainName q.toList → PlainName n.toList →
    Names (some q) n (q ++ "." ++ n)

theorem PlainName.ne_nil {s : List Char} (h : PlainName s) : s ≠ [] := by
  cases h with
  | first _ => exact List.cons_ne_nil _ _
  | next _ _ => exact List.append_ne_nil_of_right_ne_nil _ (List.cons_ne_nil _ _)

theorem PlainName.not_mem {s : List Char} (h : PlainName s) {d : Char}
    (hd : ¬ (Letter d ∨ d = '_' ∨ Digit d)) : d ∉ s := by
  induction h with
  | first hc =>
    rw [List.mem_singleton]
    rintro rfl
    exact hd (hc.imp_right .inl)
  | next _ hc ih =>
    rw [List.mem_append, List.mem_singleton, not_or]
    refine ⟨ih, ?_⟩
    rintro rfl
    exact hd hc

theorem PlainName.dot_not_mem {s : List Char} (h : PlainName s) : '.' ∉ s := h.not_mem (by decide)

theorem PlainName.mark_not_mem {s : List Char} (h : PlainName s) (d : Dialect) : d.mark ∉ s :=
  h.not_mem (by cases d <;> decide)

namespace Expr

theorem startsName_iff {c : Char} : startsName c = true ↔ Letter c ∨ c = '_' := by
  have hupper : c.isUpper = true ↔ 'A' ≤ c ∧ c ≤ 'Z' := decide_eq_true_iff
  have hlower : c.isLower = true ↔ 'a' ≤ c ∧ c ≤ 'z' :=
    (Bool.and_eq_true_iff ..).trans (and_congr decide_eq_true_iff decide_eq_true_iff)
  show (c.isUpper || c.isLower || c == '_') = true ↔ _
  rw [Bool.or_eq_true, Bool.or_eq_true, hupper, hlower, beq_iff_eq, Letter,
    or_comm (a := 'A' ≤ c ∧ c ≤ 'Z')]

theorem goesOn_iff {c : Char} :
    (startsName c || c.isDigit) = true ↔ Letter c ∨ c = '_' ∨ Digit c := by
  have hdigit : c.isDigit = true ↔ Digit c :=
    (Bool.and_eq_true_iff ..).trans (and_congr decide_eq_true_iff decide_eq_true_iff)
  rw [Bool.or_eq_true, startsName_iff, hdigit, or_assoc]

theorem isPlainName_append {s : List Char} (hs : s ≠ []) (c : Char) :
    isPlainName (s ++ [c]) = (isPlainName s && (startsName c || c.isDigit)) := by
  obtain ⟨d, s, rfl⟩ := List.exists_cons_of_ne_nil hs
  simp [isPlainName, Bool.and_assoc]

theorem isPlainName_iff {s : List Char} : isPlainName s = true ↔ PlainName s := by
  constructor
  · -- the check runs from the front, the name grows at its end
    induction s using List.reverseRecOn with
    | nil => exact fun h => absurd h (by decide)
    | append_singleton s c ih =>
      by_cases hs : s = []
      · subst hs
        intro h
        have hc : startsName c = true := by simpa [isPlainName] using h
        exact .first (startsName_iff.1 hc)
      · rw [isPlainName_append hs, Bool.and_eq_true]
        rintro ⟨h, hc⟩
        exact .next (ih h) (goesOn_iff.1 hc)
  · intro h
    induction h with
    | first hc => rw [isPlainName, List.all_nil, Bool.and_true, startsName_iff.2 hc]
    | next h hc ih => rw [isPlainName_append h.ne_nil, ih, goesOn_iff.2 hc, Bool.and_true]

/-! ## Cutting at dots -/

theorem dotParts_eq_splitOn (s : List Char) : dotParts s = s.splitOn '.' := by
  induction s with
  | nil => rfl
  | cons c s ih =>
    have hcons : (c :: s).splitOn '.' =
        if c = '.' then [] :: s.splitOn '.' else (s.splitOn '.').modifyHead (c :: ·) := by
      simp [List.splitOn, List.splitOnP_cons_eq_if_modifyHead]
    rw [dotParts, hcons, ih]
    obtain ⟨p, ps, hparts⟩ := List.exists_cons_of_ne_nil (List.splitOn_ne_nil '.' s)
    rw [hparts]
    rfl

/-- A text is its parts with dots between them. -/
theorem intercalate_dotParts (s : List Char) : ['.'].intercalate (dotParts s) = s := by
  rw [dotParts_eq_splitOn, List.intercalate_splitOn]

/-- Parts without dots are found again in the text that they make. -/
theorem dotParts_intercalate {ps : List (List Char)} (hdot : ∀ p ∈ ps, '.' ∉ p) (hps : ps ≠ []) :
    dotParts (['.'].intercalate ps) = ps := by
  rw [dotParts_eq_splitOn, List.splitOn_intercalate '.' hdot hps]

/-! ## Named or copied -/

/-- The names of a column, the qualifier first. -/
def nameParts : Option String → String → List (List Char)
  | none, n => [n.toList]
  | some q, n => [q.toList, n.toList]

/-- An expression as a user writes it: names without marks, all else as it is. -/
def spelled : Expr → String
  | name none n => n
  | name (some q) n => q ++ "." ++ n
  | verbatim s => s
  | fragment s => s

theorem toList_spelled_name (q : Option String) (n : String) :
    (name q n).spelled.toList = ['.'].intercalate (nameParts q n) := by
  cases q with
  | none => exact List.intercalate_singleton.symm
  | some q => simp [spelled, nameParts, List.intercalate_cons_cons]

variable {s : String} {q : Option String} {n : String}

theorem spelled_name (h : Names q n s) : (name q n).spelled = s := by
  cases h <;> rfl

/-- A text that names a column is cut into plain names. -/
theorem names_iff_dotParts :
    Names q n s ↔ dotParts s.toList = nameParts q n ∧ ∀ p ∈ nameParts q n, PlainName p := by
  constructor
  · intro h
    have hplain : ∀ p ∈ nameParts q n, PlainName p := by
      cases h with
      | alone hn => simpa [nameParts] using hn
      | qualified hq hn => simpa [nameParts] using ⟨hq, hn⟩
    have hne : nameParts q n ≠ [] := by cases q <;> exact List.cons_ne_nil _ _
    refine ⟨?_, hplain⟩
    rw [← spelled_name h, toList_spelled_name]
    exact dotParts_intercalate (fun p hp => (hplain p hp).dot_not_mem) hne
  · rintro ⟨hparts, hplain⟩
    have hs : (name q n).spelled = s := by
      rw [← String.toList_inj, toList_spelled_name, ← hparts, intercalate_dotParts]
    rw [← hs]
    cases q with
    | none => exact .alone (hplain n.toList (by simp [nameParts]))
    | some q =>
      exact .qualified (hplain q.toList (by simp [nameParts]))
        (hplain n.toList (by simp [nameParts]))

/-- It is made a name just when it is cut so. -/
theorem column_eq_name_iff_dotParts :
    column s = .name q n ↔
      dotParts s.toList = nameParts q n ∧ ∀ p ∈ nameParts q n, PlainName p := by
  unfold column
  dsimp only
  constructor
  · intro h
    split at h
    · next hall =>
      have hplain : ∀ p ∈ dotParts s.toList, PlainName p := fun p hp =>
        isPlainName_iff.1 (List.all_eq_true.1 hall p hp)
      -- one part, two parts, or any other number of them
      split at h
      · next hm =>
        cases h
        rw [hm] at hplain ⊢
        simpa [nameParts] using hplain
      · next hm =>
        cases h
        rw [hm] at hplain ⊢
        simpa [nameParts] using hplain
      · cases h
    · cases h
  · rintro ⟨hparts, hplain⟩
    have hall : (nameParts q n).all isPlainName = true :=
      List.all_eq_true.2 fun p hp => isPlainName_iff.2 (hplain p hp)
    rw [hparts, if_pos hall]
    cases q <;> simp [nameParts]

theorem column_eq_name_iff : column s = .name q n ↔ Names q n s := by
  rw [column_eq_name_iff_dotParts, names_iff_dotParts]

/-- A text is made a name or is copied. -/
theorem column_cases (s : String) :
    (∃ q n, column s = .name q n) ∨ column s = .verbatim s := by
  unfold column
  dsimp only
  split
  · split
    · exact .inl ⟨_, _, rfl⟩
    · exact .inl ⟨_, _, rfl⟩
    · exact .inr rfl
  · exact .inr rfl

theorem column_eq_verbatim_iff : column s = .verbatim s ↔ ∀ q n, ¬ Names q n s := by
  constructor
  · intro hcopied q n h
    rw [column_eq_name_iff.2 h] at hcopied
    cases hcopied
  · intro h
    rcases column_cases s with ⟨q, n, hname⟩ | hcopied
    · exact absurd (column_eq_name_iff.1 hname) (h q n)
    · exact hcopied

theorem spelled_column (s : String) : (column s).spelled = s := by
  rcases column_cases s with ⟨q, n, h⟩ | h
  · rw [h]
    exact spelled_name (column_eq_name_iff.1 h)
  · rw [h]
    rfl

end Expr

/-! ## Names between marks -/

namespace Dialect

variable {d : Dialect} {s t : List Char}

/-- A text without the marks of a dialect. -/
def unmarked (d : Dialect) (s : List Char) : List Char := s.filter (· ≠ d.mark)

/-- A mark on each side of a text, which is left as it is. -/
def between (d : Dialect) (s : List Char) : List Char := d.mark :: (s ++ [d.mark])

/-- Names between their marks, and a dot behind the qualifier. -/
def marked (d : Dialect) : Option String → String → List Char
  | none, n => d.between n.toList
  | some q, n => d.between q.toList ++ ['.'] ++ d.between n.toList

theorem unmarked_append : d.unmarked (s ++ t) = d.unmarked s ++ d.unmarked t :=
  List.filter_append ..

theorem unmarked_of_not_mem (h : d.mark ∉ s) : d.unmarked s = s :=
  List.filter_eq_self.2 fun _ hc => decide_eq_true fun he => h (he ▸ hc)

theorem unmarked_between (h : d.mark ∉ s) : d.unmarked (d.between s) = s := by
  have hmark : d.unmarked [d.mark] = [] := List.filter_cons_of_neg (by simp)
  have hsplit : d.between s = [d.mark] ++ s ++ [d.mark] := rfl
  rw [hsplit, unmarked_append, unmarked_append, hmark, unmarked_of_not_mem h, List.nil_append,
    List.append_nil]

/-- Where there is no mark, none is doubled. -/
theorem quote_of_not_mem (h : d.mark ∉ s) : d.quote s = d.between s := by
  unfold quote Text.enclose between
  rw [Text.double_of_not_mem h]

end Dialect

section Names

variable {s : String} {q : Option String} {n : String} (h : Names q n s)
include h

theorem Names.unmarked_marked (d : Dialect) : d.unmarked (d.marked q n) = s.toList := by
  cases h with
  | alone hn => exact d.unmarked_between (hn.mark_not_mem d)
  | qualified hq hn =>
    have hdot : d.unmarked ['.'] = ['.'] := d.unmarked_of_not_mem (by simpa using d.mark_ne_dot)
    rw [Dialect.marked, d.unmarked_append, d.unmarked_append, hdot,
      d.unmarked_between (hq.mark_not_mem d), d.unmarked_between (hn.mark_not_mem d),
      String.toList_append, String.toList_append]
    rfl

/-- Whoever writes the names puts them between their marks. -/
theorem Names.write (w : Writer) : (Expr.name q n).write w = w.push (w.dialect.marked q n) := by
  cases h with
  | alone hn =>
    have hquote := Dialect.quote_of_not_mem (hn.mark_not_mem w.dialect)
    exact congrArg w.push hquote
  | qualified hq hn =>
    show ((w.push (w.dialect.quote _)).push ['.']).push (w.dialect.quote _) = _
    rw [Writer.push_push, Writer.push_push, Dialect.quote_of_not_mem (hq.mark_not_mem w.dialect),
      Dialect.quote_of_not_mem (hn.mark_not_mem w.dialect), ← List.append_assoc]
    rfl

end Names

/-- An expression of which every writer makes the same text is rendered to that text. -/
theorem render_of_write {e : Expr} {d : Dialect} {ps : List Parameter} {text : List Char}
    (h : ∀ w : Writer, w.dialect = d → e.write w = w.push text) :
    Sql.render d (e.tokens ps) = .ok ⟨String.ofList text, []⟩ := by
  have hwrite := h { dialect := d, named := ps } rfl
  rw [← Writer.finish_putAll, ← e.write_eq { dialect := d, named := ps }, hwrite]
  rfl

namespace Expr

/-- What is written for a selected text. -/
theorem exists_write_column (d : Dialect) (s : String) :
    ∃ text, (∀ w : Writer, w.dialect = d → (column s).write w = w.push text) ∧
      ((∃ q n, Names q n s ∧ text = d.marked q n) ∨
        (∀ q n, ¬ Names q n s) ∧ text = s.toList) := by
  rcases column_cases s with ⟨q, n, h⟩ | h <;> rw [h]
  · have hnames := column_eq_name_iff.1 h
    refine ⟨d.marked q n, ?_, .inl ⟨q, n, hnames, rfl⟩⟩
    rintro w rfl
    exact hnames.write w
  · exact ⟨s.toList, fun _ _ => rfl, .inr ⟨column_eq_verbatim_iff.1 h, rfl⟩⟩

/-! ## The main statement -/

/-- A text is made a name just when it names a column, and then with the qualifier and the name that
it spells; every other text is copied; so texts can be told from what is made of them. In each
dialect, and whatever was written before, there comes of a text that names a column the names
between marks, from which the text is left when the marks are taken away, and of any other text the
text itself. -/
theorem column_exact :
    (∀ s q n, column s = .name q n ↔ Names q n s) ∧
      (∀ s, column s = .verbatim s ↔ ∀ q n, ¬ Names q n s) ∧
      (∀ s, (column s).spelled = s) ∧
      Function.Injective column ∧
      ∀ (d : Dialect) (s : String), ∃ text : List Char,
        (∀ ps, Sql.render d ((column s).tokens ps) = .ok ⟨String.ofList text, []⟩) ∧
          (∀ w : Writer, w.dialect = d → (column s).write w = w.push text) ∧
          ((∃ q n, Names q n s ∧ text = d.marked q n ∧ d.unmarked text = s.toList) ∨
            (∀ q n, ¬ Names q n s) ∧ text = s.toList) := by
  have hinjective : Function.Injective column := Function.LeftInverse.injective spelled_column
  refine ⟨fun s q n => column_eq_name_iff, fun s => column_eq_verbatim_iff, spelled_column,
    hinjective, fun d s => ?_⟩
  obtain ⟨text, hwrite, hkind⟩ := exists_write_column d s
  refine ⟨text, fun ps => render_of_write hwrite, hwrite, hkind.imp_left ?_⟩
  rintro ⟨q, n, hnames, rfl⟩
  exact ⟨q, n, hnames, rfl, hnames.unmarked_marked d⟩

/-- With one dot between plain names, and with two. -/
theorem column_exact_dots :
    Names (some "_u") "id2" "_u.id2" ∧ column "_u.id2" = .name (some "_u") "id2" ∧
      column "_u..id2" = .verbatim "_u..id2" ∧ ∀ q n, ¬ Names q n "_u..id2" := by
  have hnames : Names (some "_u") "id2" "_u.id2" :=
    .qualified (isPlainName_iff.1 (by decide)) (isPlainName_iff.1 (by decide))
  obtain ⟨hname, hcopied, -⟩ := column_exact
  have hdots : column "_u..id2" = .verbatim "_u..id2" := by decide
  exact ⟨hnames, (hname _ _ _).2 hnames, hdots, (hcopied _).1 hdots⟩

/-- A mark in a text, and a letter that is not one of ASCII. -/
example :
    column "a\"b" = .verbatim "a\"b" ∧ column "naïve" = .verbatim "naïve" ∧
      column "u.naive" = .name (some "u") "naive" := by
  decide

end Expr

end Sql

/-- The expressions that the settings select spell what is written there. -/
theorem Settings.map_spelled_selectList (settings : Settings) :
    settings.selectList.map Sql.Expr.spelled =
      if settings.columns.isEmpty then ["*"] else settings.columns := by
  unfold selectList
  split
  · rfl
  · rw [List.map_map]
    exact List.map_id'' Sql.Expr.spelled_column _

end QueryCriteria
