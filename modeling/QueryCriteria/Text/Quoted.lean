/-!
Quoting by doubling: a text stands between two quote marks, and a quote mark inside it is written
twice. SQL writes names and character strings this way, only the mark differs.

`enclose` writes, `readEnclosed` reads one quoted text off the front and returns what follows it.
What was written is read back, whatever stands in the text, as long as the text after it does not go
on with the quote mark (`readEnclosed_enclose`), and nothing else is read
(`readEnclosed_eq_some_iff`).
-/

namespace QueryCriteria.Text

/-- Every quote mark twice, all else once. -/
def double (mark : Char) : List Char → List Char
  | [] => []
  | c :: s => if c = mark then mark :: mark :: double mark s else c :: double mark s

/-- The text between two quote marks, with the quote marks inside it doubled. -/
def enclose (mark : Char) (s : List Char) : List Char := mark :: (double mark s ++ [mark])

/-- Reads to the closing quote mark: the text before it, doubled marks made single, and the rest
after it. -/
def readToMark (mark : Char) : List Char → Option (List Char × List Char)
  | [] => none
  | [c] => if c = mark then some ([], []) else none
  | c :: d :: s =>
    if c = mark then
      if d = mark then (readToMark mark s).map fun r => (mark :: r.1, r.2)
      else some ([], d :: s)
    else (readToMark mark (d :: s)).map fun r => (c :: r.1, r.2)

/-- Reads a quoted text off the front. -/
def readEnclosed (mark : Char) : List Char → Option (List Char × List Char)
  | [] => none
  | c :: s => if c = mark then readToMark mark s else none

/-- Without the mark in it a text is left as it is. -/
theorem double_of_not_mem {mark : Char} {s : List Char} (h : mark ∉ s) :
    double mark s = s := by
  induction s with
  | nil => rfl
  | cons c s ih =>
    rw [List.mem_cons, not_or] at h
    rw [double, if_neg fun hc => h.1 hc.symm, ih h.2]

theorem mem_double {mark c : Char} {s : List Char} (h : c ∈ double mark s) : c = mark ∨ c ∈ s := by
  induction s with
  | nil => cases h
  | cons e s ih =>
    rw [double] at h
    split at h
    · rcases List.mem_cons.1 h with h | h
      · exact .inl h
      · rcases List.mem_cons.1 h with h | h
        · exact .inl h
        · exact (ih h).imp_right (List.mem_cons_of_mem e)
    · rcases List.mem_cons.1 h with h | h
      · exact .inr (h ▸ List.mem_cons_self ..)
      · exact (ih h).imp_right (List.mem_cons_of_mem e)

theorem mem_enclose {mark c : Char} {s : List Char} (h : c ∈ enclose mark s) :
    c = mark ∨ c ∈ s := by
  rcases List.mem_cons.1 h with h | h
  · exact .inl h
  · rcases List.mem_append.1 h with h | h
    · exact mem_double h
    · exact .inl (List.mem_singleton.1 h)

theorem readToMark_mark (mark : Char) {rest : List Char} (h : rest.head? ≠ some mark) :
    readToMark mark (mark :: rest) = some ([], rest) := by
  cases rest with
  | nil => simp [readToMark]
  | cons d t =>
    have hd : d ≠ mark := by simpa using h
    simp [readToMark, hd]

theorem readToMark_cons {mark c : Char} (hc : c ≠ mark) {s : List Char} (hs : s ≠ []) :
    readToMark mark (c :: s) = (readToMark mark s).map fun r => (c :: r.1, r.2) := by
  cases s with
  | nil => exact absurd rfl hs
  | cons d t => simp [readToMark, hc]

theorem readToMark_double (mark : Char) (s : List Char) {rest : List Char}
    (h : rest.head? ≠ some mark) :
    readToMark mark (double mark s ++ mark :: rest) = some (s, rest) := by
  induction s with
  | nil => exact readToMark_mark mark h
  | cons c s ih =>
    by_cases hc : c = mark
    · subst hc
      simp [double, readToMark, ih]
    · have hne : double mark s ++ mark :: rest ≠ [] := by simp
      simp [double, hc, readToMark_cons hc hne, ih]

theorem readEnclosed_enclose (mark : Char) (s : List Char) {rest : List Char}
    (h : rest.head? ≠ some mark) :
    readEnclosed mark (enclose mark s ++ rest) = some (s, rest) := by
  simpa [enclose, readEnclosed, List.append_assoc] using readToMark_double mark s h

/-- What is read up to a quote mark was written so, and the quote mark is not doubled. -/
theorem of_readToMark {mark : Char} {s t rest : List Char}
    (h : readToMark mark s = some (t, rest)) :
    s = double mark t ++ mark :: rest ∧ rest.head? ≠ some mark := by
  fun_induction readToMark mark s generalizing t rest with
  | case1 => cases h
  | case2 =>
    cases h
    exact ⟨rfl, nofun⟩
  | case3 => cases h
  | case4 s ih =>
    obtain ⟨r, hr, he⟩ := Option.map_eq_some_iff.1 h
    cases he
    obtain ⟨hs, hrest⟩ := ih hr
    refine ⟨?_, hrest⟩
    rw [double, if_pos rfl, hs]
    rfl
  | case5 d s hd =>
    cases h
    exact ⟨rfl, fun he => hd (Option.some.inj he)⟩
  | case6 c d s hc ih =>
    obtain ⟨r, hr, he⟩ := Option.map_eq_some_iff.1 h
    cases he
    obtain ⟨hs, hrest⟩ := ih hr
    refine ⟨?_, hrest⟩
    rw [double, if_neg hc, hs]
    rfl

theorem readEnclosed_eq_some_iff {mark : Char} {s t rest : List Char} :
    readEnclosed mark s = some (t, rest) ↔
      s = enclose mark t ++ rest ∧ rest.head? ≠ some mark := by
  constructor
  · intro h
    cases s with
    | nil => cases h
    | cons c s =>
      rw [readEnclosed] at h
      split at h
      · next hc =>
        obtain ⟨hs, hrest⟩ := of_readToMark h
        refine ⟨?_, hrest⟩
        rw [hc, hs, enclose, List.cons_append, List.append_assoc]
        rfl
      · cases h
  · rintro ⟨rfl, hrest⟩
    exact readEnclosed_enclose mark t hrest

end QueryCriteria.Text
