import QueryCriteria.Proofs.Conversion

/-!
How an operator may be written.

A text is folded before it is looked up: its words are joined by underscores and its ASCII letters
made small. `Writes` goes the other way and says what a folded text may have been. Each of its
characters was written as it is, in either case, and each underscore may have been a run of blanks
instead. Any text, without the blanks around it, is a writing of what it is folded to
(`between_writes`). That a writing is folded back to the same name is true of `Snake` names only:
blanks at an end of the text, or two runs of them side by side, leave no underscore behind
(`joinedWords_of_writes`).

With this a text names an operator if it is a spelling of that operator between blanks, and it names
none in every other case (`Operator.read_iff_spelled`).
-/

namespace QueryCriteria

namespace Text

/-! ## The words of a text joined -/

theorem words_eq_nil_iff {s : List Char} : words s = [] ↔ allBlank s = true := by
  induction s with
  | nil => simp [words, allBlank]
  | cons c s ih =>
    rw [allBlank_cons]
    cases hc : isBlank c with
    | true => rw [words_cons_blank hc, ih, Bool.true_and]
    | false =>
      rw [words]
      simp only [hc, Bool.false_and, Bool.false_eq_true, if_false, iff_false]
      split
      · exact List.cons_ne_nil _ _
      · split <;> exact List.cons_ne_nil _ _

/-- A character before a blank is the end of a word. -/
theorem words_cons_end {c d : Char} (hc : isBlank c = false) (hd : isBlank d = true)
    (s : List Char) : words (c :: d :: s) = [c] :: words (d :: s) := by
  rw [words]
  simp [hc, hd]

/-- A character before another one of a word belongs to that word. -/
theorem words_cons_within {c d : Char} (hc : isBlank c = false) (hd : isBlank d = false)
    (s : List Char) :
    ∃ w ws, words (d :: s) = w :: ws ∧ words (c :: d :: s) = (c :: w) :: ws := by
  have hne : words (d :: s) ≠ [] := by
    rw [ne_eq, words_eq_nil_iff, allBlank_cons, hd, Bool.false_and]
    exact Bool.false_ne_true
  obtain ⟨w, ws, hw⟩ := List.exists_cons_of_ne_nil hne
  refine ⟨w, ws, hw, ?_⟩
  rw [words, hw]
  simp [hc, hd]

/-- The words of a text with an underscore between each two of them. -/
def joinedWords (s : List Char) : List Char := ['_'].intercalate (words s)

/-- What the joined words go on with behind a character of a word. -/
def joinedOn (s : List Char) : List Char :=
  if allBlank s then []
  else if s.head?.any isBlank then '_' :: joinedWords s
  else joinedWords s

/-- Blanks before a text belong to no word. -/
theorem joinedWords_blanks {blanks : List Char} (h : allBlank blanks = true) (s : List Char) :
    joinedWords (blanks ++ s) = joinedWords s := by
  induction blanks with
  | nil => rfl
  | cons c blanks ih =>
    rw [allBlank_cons, Bool.and_eq_true] at h
    have hwords : words (c :: (blanks ++ s)) = words (blanks ++ s) := words_cons_blank h.1 _
    rw [← ih h.2, List.cons_append]
    exact congrArg (['_'].intercalate ·) hwords

theorem joinedOn_cons {c : Char} (hc : isBlank c = false) (s : List Char) :
    joinedOn (c :: s) = joinedWords (c :: s) := by
  unfold joinedOn
  rw [if_neg (by simp [allBlank_cons, hc]), if_neg (by simpa using hc)]

theorem joinedWords_cons {c : Char} (hc : isBlank c = false) (s : List Char) :
    joinedWords (c :: s) = c :: joinedOn s := by
  cases s with
  | nil => simp [joinedWords, joinedOn, words, allBlank_nil, hc]
  | cons d s =>
    cases hd : isBlank d with
    | false =>
      obtain ⟨w, ws, hw, hcw⟩ := words_cons_within hc hd s
      rw [joinedOn_cons hd]
      unfold joinedWords
      rw [hw, hcw]
      cases ws with
      | nil => simp
      | cons v ws => simp [List.intercalate_cons_cons]
    | true =>
      unfold joinedOn
      by_cases hs : allBlank (d :: s) = true
      · unfold joinedWords
        rw [words_cons_end hc hd, words_eq_nil_iff.2 hs, if_pos hs]
        exact List.intercalate_singleton
      · obtain ⟨w, ws, hw⟩ := List.exists_cons_of_ne_nil (mt words_eq_nil_iff.1 hs)
        unfold joinedWords
        rw [if_neg hs, if_pos (by simpa using hd), words_cons_end hc hd, hw,
          List.intercalate_cons_cons]
        rfl

/-! ## Writing a name -/

/-- A name and a text that writes it: characters in either case, and blanks for an underscore. -/
inductive Writes : List Char → List Char → Prop where
  | nil : Writes [] []
  | char {name s : List Char} (c : Char) : Writes name s → Writes (c.toLower :: name) (c :: s)
  | blanks {name s blanks : List Char} : blanks ≠ [] → allBlank blanks = true → Writes name s →
    Writes ('_' :: name) (blanks ++ s)

/-- Without blanks at its ends the text is of a certain kind. -/
def Between (Kind : List Char → Prop) (s : List Char) : Prop :=
  ∃ before core after, s = before ++ core ++ after ∧ allBlank before = true ∧
    allBlank after = true ∧ Kind core

/-- Whatever a text is folded to, it is a writing of it between blanks. -/
theorem between_writes (s : List Char) :
    Between (Writes ((joinedWords s).map Char.toLower)) s ∧
      ∃ core after, s = core ++ after ∧ allBlank after = true ∧
        Writes ((joinedOn s).map Char.toLower) core := by
  -- the second part is what is needed behind a character of a word, where blanks count
  induction s with
  | nil => exact ⟨⟨[], [], [], rfl, rfl, rfl, .nil⟩, [], [], rfl, rfl, .nil⟩
  | cons c s ih =>
    obtain ⟨⟨before, core, after, hs, hbefore, hafter, hwrites⟩, hbehind⟩ := ih
    obtain ⟨core', after', hs', hafter', hon⟩ := hbehind
    cases hc : isBlank c with
    | false =>
      have hcore : Writes ((joinedWords (c :: s)).map Char.toLower) (c :: core') := by
        rw [joinedWords_cons hc]
        exact .char c hon
      refine ⟨⟨[], c :: core', after', by rw [hs']; rfl, rfl, hafter', hcore⟩, c :: core', after',
        by rw [hs']; rfl, hafter', ?_⟩
      rw [joinedOn_cons hc]
      exact hcore
    | true =>
      have hblanks : allBlank (c :: before) = true := by rw [allBlank_cons, hc, hbefore]; rfl
      have hskip : joinedWords (c :: s) = joinedWords s :=
        joinedWords_blanks (show allBlank [c] = true by rw [allBlank_cons, hc]; rfl) s
      refine ⟨⟨c :: before, core, after, by rw [hs]; rfl, hblanks, hafter, by rwa [hskip]⟩, ?_⟩
      unfold joinedOn
      split
      · next hall => exact ⟨[], c :: s, rfl, hall, .nil⟩
      · rw [if_pos (by simpa using hc), hskip]
        refine ⟨(c :: before) ++ core, after, by rw [hs]; rfl, hafter, ?_⟩
        exact .blanks (List.cons_ne_nil c before) hblanks hwrites

/-- No blank in a name, and behind each underscore something else. -/
def parted : List Char → Bool
  | [] => true
  | c :: s => !isBlank c && (c != '_' || s.head?.any (· != '_')) && parted s

/-- Words with one underscore between each two of them. -/
def Snake (name : List Char) : Prop := name.head?.any (· != '_') = true ∧ parted name = true

instance (name : List Char) : Decidable (Snake name) := inferInstanceAs (Decidable (_ ∧ _))

theorem isBlank_toLower (c : Char) : isBlank c.toLower = isBlank c := by
  by_cases hupper : c.val ≥ 'A'.val ∧ c.val ≤ 'Z'.val
  · have hletters : ∀ n ≤ 'Z'.toNat, isBlank (Char.ofNat n).toLower = isBlank (Char.ofNat n) := by
      decide
    have hletter := hletters c.toNat hupper.2
    rwa [Char.ofNat_toNat] at hletter
  · exact congrArg isBlank (dif_neg hupper)

/-- Without underscores only the case of letters is free. -/
theorem writes_iff {name s : List Char} (h : '_' ∉ name) :
    Writes name s ↔ s.map Char.toLower = name := by
  constructor
  · intro hwrites
    induction hwrites with
    | nil => rfl
    | char c _ ih => rw [List.map_cons, ih fun hmem => h (List.mem_cons_of_mem _ hmem)]
    | blanks => exact absurd (List.mem_cons_self ..) h
  · rintro rfl
    induction s with
    | nil => exact .nil
    | cons c s ih => exact .char c (ih fun hmem => h (List.mem_cons_of_mem _ hmem))

/-- A name that begins with something else than an underscore is written with a character first. -/
theorem Writes.exists_cons {name s : List Char} (h : Writes name s)
    (hname : name.head?.any (· != '_') = true) (hparted : parted name = true) :
    ∃ c t, s = c :: t ∧ isBlank c = false := by
  cases h with
  | nil => cases hname
  | @char name s c h =>
    refine ⟨c, s, rfl, ?_⟩
    rw [parted, Bool.and_eq_true, Bool.and_eq_true] at hparted
    rw [← isBlank_toLower]
    simpa using hparted.1.1
  | blanks => cases hname

/-- Between characters of words every underscore comes back. -/
theorem joinedOn_of_writes {name core : List Char} (h : Writes name core)
    (hname : parted name = true) {after : List Char} (hafter : allBlank after = true) :
    (joinedOn (core ++ after)).map Char.toLower = name := by
  induction h with
  | nil =>
    unfold joinedOn
    rw [List.nil_append, if_pos hafter]
    rfl
  | @char name s c h ih =>
    rw [parted, Bool.and_eq_true, Bool.and_eq_true] at hname
    obtain ⟨⟨hblank, -⟩, htail⟩ := hname
    have hc : isBlank c = false := by
      rw [← isBlank_toLower]
      simpa using hblank
    rw [List.cons_append, joinedOn_cons hc, joinedWords_cons hc, List.map_cons, ih htail]
  | @blanks name s gap hgap hblank h ih =>
    simp only [parted, Bool.and_eq_true, bne_self_eq_false, Bool.false_or] at hname
    obtain ⟨⟨-, hnext⟩, htail⟩ := hname
    obtain ⟨c, t, rfl, hc⟩ := h.exists_cons hnext htail
    obtain ⟨b, gap, rfl⟩ := List.exists_cons_of_ne_nil hgap
    have hb : isBlank b = true := by
      rw [allBlank_cons, Bool.and_eq_true] at hblank
      exact hblank.1
    have hword : ¬ allBlank (b :: gap ++ c :: t ++ after) = true := by simp [allBlank, hc]
    have ih := ih htail
    rw [List.cons_append, joinedOn_cons hc] at ih
    unfold joinedOn
    rw [if_neg hword, if_pos (by simpa using hb), List.append_assoc, joinedWords_blanks hblank,
      List.map_cons, List.cons_append, ih]
    rfl

theorem joinedWords_of_writes {name core : List Char} (h : Writes name core) (hname : Snake name)
    {before after : List Char} (hbefore : allBlank before = true) (hafter : allBlank after = true) :
    (joinedWords (before ++ core ++ after)).map Char.toLower = name := by
  obtain ⟨c, t, rfl, hc⟩ := h.exists_cons hname.1 hname.2
  have hword := joinedOn_of_writes h hname.2 hafter
  rw [List.cons_append, joinedOn_cons hc] at hword
  rw [List.append_assoc, joinedWords_blanks hbefore, List.cons_append, hword]

end Text

namespace Operator

/-- A text is folded to a name if, apart from blanks around it, it writes the name. -/
theorem foldedName_eq_iff {name : List Char} (hname : Text.Snake name) (s : List Char) :
    foldedName s = name ↔ Text.Between (Text.Writes name) s := by
  constructor
  · rintro rfl
    exact (Text.between_writes s).1
  · rintro ⟨before, core, after, rfl, hbefore, hafter, hwrites⟩
    exact Text.joinedWords_of_writes hwrites hname hbefore hafter

/-! ## The spellings of an operator -/

/-- A symbol of the operator in any case, or its name with blanks for any of the underscores. -/
def Spelling (op : Operator) (s : List Char) : Prop :=
  (∃ symbol ∈ op.symbols, s.map Char.toLower = symbol.toList) ∨ Text.Writes op.name.toList s

/-- What a folded text is compared with. -/
def folded (op : Operator) : List String := op.symbols ++ [op.name]

theorem snake_of_mem_folded {op : Operator} {x : String} (h : x ∈ op.folded) :
    Text.Snake x.toList := by
  have hall : ∀ op ∈ all, ∀ x ∈ op.folded, Text.Snake x.toList := by decide
  exact hall op (mem_all op) x h

theorem underscore_not_mem_symbol {op : Operator} {x : String} (h : x ∈ op.symbols) :
    '_' ∉ x.toList := by
  have hall : ∀ op ∈ all, ∀ x ∈ op.symbols, '_' ∉ x.toList := by decide
  exact hall op (mem_all op) x h

/-- No two operators share a symbol or a name, and no symbol of one is the name of another. -/
theorem eq_of_mem_folded {a b : Operator} {x : String} (ha : x ∈ a.folded) (hb : x ∈ b.folded) :
    a = b := by
  have hall : ∀ a ∈ all, ∀ b ∈ all, ∀ x ∈ a.folded, x ∈ b.folded → a = b := by decide
  exact hall a (mem_all a) b (mem_all b) x ha hb

theorem ofText?_eq_some_iff {s : String} {op : Operator} :
    ofText? s = some op ↔ String.ofList (foldedName s.toList) ∈ op.folded := by
  generalize hx : String.ofList (foldedName s.toList) = x
  have htest : (fun op : Operator => op.symbols.contains x || op.name == x) =
      fun op => decide (x ∈ op.folded) := by
    funext op
    simp [folded, eq_comm (a := x), Bool.beq_eq_decide_eq]
  have hread : ofText? s = all.find? fun op => decide (x ∈ op.folded) := by
    rw [← htest, ← hx]
    rfl
  rw [hread]
  constructor
  · intro h
    simpa using List.find?_some h
  · intro h
    cases hfind : all.find? fun op => decide (x ∈ op.folded) with
    | none => exact absurd (decide_eq_true h) (List.find?_eq_none.1 hfind op (mem_all op))
    | some op' =>
      have hfound : x ∈ op'.folded := by simpa using List.find?_some hfind
      rw [eq_of_mem_folded h hfound]

theorem spelling_iff {op : Operator} {s : List Char} :
    op.Spelling s ↔ ∃ x ∈ op.folded, Text.Writes x.toList s := by
  unfold Spelling folded
  simp only [List.mem_append, List.mem_singleton, or_and_right, exists_or, exists_eq_left]
  refine or_congr_left (exists_congr fun x => and_congr_right fun hx => ?_)
  exact (Text.writes_iff (underscore_not_mem_symbol hx)).symm

theorem ofText?_iff_spelling {s : String} {op : Operator} :
    ofText? s = some op ↔ Text.Between op.Spelling s.toList := by
  have hfolded (x : String) :
      String.ofList (foldedName s.toList) = x ↔ foldedName s.toList = x.toList := by
    rw [← String.toList_inj, String.toList_ofList]
  rw [ofText?_eq_some_iff]
  constructor
  · intro h
    have hname := (foldedName_eq_iff (snake_of_mem_folded h) s.toList).1 ((hfolded _).1 rfl)
    obtain ⟨before, core, after, hs, hbefore, hafter, hwrites⟩ := hname
    exact ⟨before, core, after, hs, hbefore, hafter, spelling_iff.2 ⟨_, h, hwrites⟩⟩
  · rintro ⟨before, core, after, hs, hbefore, hafter, hspelling⟩
    obtain ⟨x, hx, hwrites⟩ := spelling_iff.1 hspelling
    have hname := (foldedName_eq_iff (snake_of_mem_folded hx) s.toList).2
      ⟨before, core, after, hs, hbefore, hafter, hwrites⟩
    rwa [(hfolded x).2 hname]

/-- Blanks and letters in either case are as good as the name, but a blank beside an underscore or
inside a symbol is not. -/
example :
    Operator.read " Is_nOt\t\u2003NULL\n" = .ok isNotNull ∧ Operator.read "LIKE" = .ok contains ∧
      Operator.read "is _null" = .error (.unknownOperator "is _null") ∧
        Operator.read "> =" = .error (.unknownOperator "> =") := by
  decide

end Operator

end QueryCriteria
