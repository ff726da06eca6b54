import QueryCriteria.Proofs.Condition
import QueryCriteria.Proofs.Layout

/-!
How the text of a condition is read.

The rules are those of SQL for conditions in which no text literal stands. Blanks part words and
mean nothing else. AND and OR join two conditions, in whatever case they are written; parentheses
group, AND binds tighter than OR, and of equal connectives the left one binds first. All other
words make up atoms. Parentheses behind the word IN are no group: with what stands between them
they belong to the atom.

`lexemes` cuts a text into parentheses, connectives and atoms, and `Reads` is the grammar of such
sequences, with a level for each strength of binding. That the grammar can read nothing in two ways
(`Reads.unique`) is shown by a reader that goes through a sequence once from left to right
(`Reader.step`): wherever a condition can be read, the reader arrives at it (`Reads.arrives`).

On the other side stands `Condition.text`, which puts each pair in parentheses. If the lexer finds
the atoms again (`Atomic`), it finds the condition's own lexemes (`lexemes_text`), and these are read
as the condition (`reads_lexed`). Conditions with AND between them, in parentheses each, are read as
their conjunction, and so is one that stands alone (`reading_jointText_iff`).
-/

namespace QueryCriteria.Condition

/-! ## From text to lexemes -/

inductive Mark where
  | blank
  | opening
  | closing
  | word (s : List Char)

/-- The marks of a text. Characters with nothing between them are one word. -/
def marks : List Char → List Mark
  | [] => []
  | ' ' :: s => .blank :: marks s
  | '(' :: s => .opening :: marks s
  | ')' :: s => .closing :: marks s
  | c :: s =>
    match marks s with
    | .word w :: ms => .word (c :: w) :: ms
    | ms => .word [c] :: ms

inductive Lexeme where
  | opening
  | closing
  | and
  | or
  | atom (s : List Char)
  deriving DecidableEq

/-- The word is this keyword, in any case. -/
def spells (keyword : String) (w : List Char) : Bool := w.map Char.toUpper == keyword.toList

/-- A word before lexemes goes into the atom that stands there. What stands in parentheses behind
IN is such an atom with them. -/
def attach (w : List Char) : List Lexeme → List Lexeme
  | .atom s :: ls => .atom (w ++ ' ' :: s) :: ls
  | .opening :: .atom s :: .closing :: ls =>
    if spells "IN" w then .atom (w ++ ' ' :: '(' :: (s ++ [')'])) :: ls
    else .atom w :: .opening :: .atom s :: .closing :: ls
  | ls => .atom w :: ls

def lexemesOf : List Mark → List Lexeme
  | [] => []
  | .blank :: ms => lexemesOf ms
  | .opening :: ms => .opening :: lexemesOf ms
  | .closing :: ms => .closing :: lexemesOf ms
  | .word w :: ms =>
    if spells "AND" w then .and :: lexemesOf ms
    else if spells "OR" w then .or :: lexemesOf ms
    else attach w (lexemesOf ms)

def lexemes (s : List Char) : List Lexeme := lexemesOf (marks s)

/-! ## The grammar -/

/-- How tightly a sequence holds together. -/
inductive Level where
  | factor
  | conjunction
  | disjunction

/-- The sequence is read as the condition. -/
inductive Reads : Level → List Lexeme → Condition (List Char) → Prop where
  | atom (s : List Char) : Reads .factor [.atom s] (.atom s)
  | group {ls : List Lexeme} {c : Condition (List Char)} :
    Reads .disjunction ls c → Reads .factor (.opening :: (ls ++ [.closing])) c
  | factor {ls : List Lexeme} {c : Condition (List Char)} :
    Reads .factor ls c → Reads .conjunction ls c
  | and {ls rs : List Lexeme} {l r : Condition (List Char)} :
    Reads .conjunction ls l → Reads .factor rs r →
      Reads .conjunction (ls ++ .and :: rs) (.and l r)
  | conjunction {ls : List Lexeme} {c : Condition (List Char)} :
    Reads .conjunction ls c → Reads .disjunction ls c
  | or {ls rs : List Lexeme} {l r : Condition (List Char)} :
    Reads .disjunction ls l → Reads .conjunction rs r →
      Reads .disjunction (ls ++ .or :: rs) (.or l r)

/-- The text is read as the condition. -/
def Reading (s : List Char) (c : Condition (List Char)) : Prop := Reads .disjunction (lexemes s) c

/-! ## One reading at most -/

/-- What has been read inside of a pair of parentheses: whole disjuncts, and the factors of the
disjunct that is being read. -/
structure Frame where
  disjuncts : Option (Condition (List Char)) := none
  factors : Option (Condition (List Char)) := none

/-- A condition and what was read before it. -/
def joinLeft (join : Condition (List Char) → Condition (List Char) → Condition (List Char)) :
    Option (Condition (List Char)) → Condition (List Char) → Condition (List Char)
  | none, c => c
  | some l, c => join l c

/-- All that was read inside of parentheses, with the last factor. -/
def Frame.whole (f : Frame) (c : Condition (List Char)) : Condition (List Char) :=
  joinLeft .or f.disjuncts (joinLeft .and f.factors c)

/-- A reader between two lexemes. -/
structure Reader where
  /-- Around the parentheses that are open, the innermost first. -/
  outer : List Frame
  frame : Frame
  /-- The factor that was just read. -/
  operand : Option (Condition (List Char))

namespace Reader

def step : Reader → Lexeme → Option Reader
  | ⟨outer, f, none⟩, .atom s => some ⟨outer, f, some (.atom s)⟩
  | ⟨outer, f, none⟩, .opening => some ⟨f :: outer, {}, none⟩
  | ⟨outer, f, some c⟩, .and =>
    some ⟨outer, { f with factors := some (joinLeft .and f.factors c) }, none⟩
  | ⟨outer, f, some c⟩, .or => some ⟨outer, { disjuncts := some (f.whole c) }, none⟩
  | ⟨f' :: outer, f, some c⟩, .closing => some ⟨outer, f', some (f.whole c)⟩
  | _, _ => none

def run (r : Reader) (ls : List Lexeme) : Option Reader := ls.foldlM step r

theorem run_append (r : Reader) (ls rs : List Lexeme) :
    r.run (ls ++ rs) = (r.run ls).bind fun r => r.run rs := List.foldlM_append

theorem run_cons (r : Reader) (l : Lexeme) (ls : List Lexeme) :
    r.run (l :: ls) = (r.step l).bind fun r => r.run ls := List.foldlM_cons

end Reader

/-- Where the reader arrives behind a sequence of a level. A factor is its operand whatever was
read before; a conjunction has to be the first of its disjunct, a disjunction the first inside of
its parentheses. -/
def Arrives (ls : List Lexeme) (c : Condition (List Char)) : Level → Prop
  | .factor => ∀ outer f, Reader.run ⟨outer, f, none⟩ ls = some ⟨outer, f, some c⟩
  | .conjunction => ∀ outer ds, ∃ fs r,
    Reader.run ⟨outer, ⟨ds, none⟩, none⟩ ls = some ⟨outer, ⟨ds, fs⟩, some r⟩ ∧
      joinLeft .and fs r = c
  | .disjunction => ∀ outer, ∃ f r,
    Reader.run ⟨outer, {}, none⟩ ls = some ⟨outer, f, some r⟩ ∧ f.whole r = c

theorem Reads.arrives {k : Level} {ls : List Lexeme} {c : Condition (List Char)}
    (h : Reads k ls c) : Arrives ls c k := by
  induction h with
  | atom s => exact fun outer f => rfl
  | @group ls c _ ih =>
    intro outer f
    obtain ⟨f', r, hrun, hwhole⟩ := ih (f :: outer)
    have hopening : Reader.step ⟨outer, f, none⟩ .opening = some ⟨f :: outer, {}, none⟩ := rfl
    rw [Reader.run_cons, hopening, Option.bind_some, Reader.run_append, hrun, Option.bind_some,
      ← hwhole]
    rfl
  | factor _ ih => exact fun outer ds => ⟨none, _, ih outer _, rfl⟩
  | @and ls rs l r _ _ hl hr =>
    intro outer ds
    obtain ⟨fs, x, hrun, hjoin⟩ := hl outer ds
    -- with AND the factors so far are the left part; the right part is the operand behind it
    refine ⟨some l, r, ?_, rfl⟩
    have hand : Reader.step ⟨outer, ⟨ds, fs⟩, some x⟩ .and = some ⟨outer, ⟨ds, some l⟩, none⟩ := by
      rw [← hjoin]
      rfl
    rw [Reader.run_append, hrun, Option.bind_some, Reader.run_cons, hand, Option.bind_some]
    exact hr outer _
  | conjunction _ ih =>
    intro outer
    obtain ⟨fs, r, hrun, hjoin⟩ := ih outer none
    exact ⟨⟨none, fs⟩, r, hrun, hjoin⟩
  | @or ls rs l r _ _ hl hr =>
    intro outer
    obtain ⟨f, x, hrun, hwhole⟩ := hl outer
    obtain ⟨fs, y, hright, hjoin⟩ := hr outer (some l)
    -- with OR all that was read is a disjunct, and the conjunction behind it is a first one again
    refine ⟨⟨some l, fs⟩, y, ?_, congrArg (Condition.or l) hjoin⟩
    have hor : Reader.step ⟨outer, f, some x⟩ .or = some ⟨outer, ⟨some l, none⟩, none⟩ := by
      rw [← hwhole]
      rfl
    rw [Reader.run_append, hrun, Option.bind_some, Reader.run_cons, hor, Option.bind_some, hright]

/-- No sequence is read in two ways. -/
theorem Reads.unique {ls : List Lexeme} {c c' : Condition (List Char)}
    (h : Reads .disjunction ls c) (h' : Reads .disjunction ls c') : c = c' := by
  obtain ⟨f, r, hrun, rfl⟩ := h.arrives []
  obtain ⟨f', r', hrun', rfl⟩ := h'.arrives []
  rw [hrun, Option.some.injEq, Reader.mk.injEq, Option.some.injEq] at hrun'
  rw [hrun'.2.1, hrun'.2.2]

/-! ## The lexemes of a text -/

theorem lexemes_blank (s : List Char) : lexemes (' ' :: s) = lexemes s := rfl

theorem lexemes_opening (s : List Char) : lexemes ('(' :: s) = .opening :: lexemes s := rfl

theorem lexemes_closing (s : List Char) : lexemes (')' :: s) = .closing :: lexemes s := rfl

/-- Characters of a word. -/
structure IsWord (w : List Char) : Prop where
  nonempty : w ≠ []
  blank : ' ' ∉ w
  opening : '(' ∉ w
  closing : ')' ∉ w

instance (w : List Char) : Decidable (IsWord w) :=
  decidable_of_iff (w ≠ [] ∧ ' ' ∉ w ∧ '(' ∉ w ∧ ')' ∉ w)
    ⟨fun h => ⟨h.1, h.2.1, h.2.2.1, h.2.2.2⟩, fun h => ⟨h.nonempty, h.blank, h.opening, h.closing⟩⟩

theorem marks_char {c : Char} (hblank : ' ' ≠ c) (hopening : '(' ≠ c) (hclosing : ')' ≠ c)
    (s : List Char) :
    marks (c :: s) =
      match marks s with
      | .word w :: ms => .word (c :: w) :: ms
      | ms => .word [c] :: ms := by
  rw [marks]
  · exact fun h => hblank h.symm
  · exact fun h => hopening h.symm
  · exact fun h => hclosing h.symm

/-- A word ends where a text stops. -/
theorem marks_word {w : List Char} (hw : IsWord w) {s : List Char} (hs : Stops s) :
    marks (w ++ s) = .word w :: marks s := by
  obtain ⟨hnonempty, hblank, hopening, hclosing⟩ := hw
  induction w with
  | nil => exact absurd rfl hnonempty
  | cons c w ih =>
    rw [List.mem_cons, not_or] at hblank hopening hclosing
    rw [List.cons_append, marks_char hblank.1 hopening.1 hclosing.1]
    cases w with
    | cons c' w => rw [ih (List.cons_ne_nil c' w) hblank.2 hopening.2 hclosing.2]
    | nil =>
      -- the last character: no word begins behind it for it to become a part of
      cases s with
      | nil => rfl
      | cons x s => rcases hs x rfl with rfl | rfl <;> rfl

theorem lexemes_word {w : List Char} (hw : IsWord w) {s : List Char} (hs : Stops s) :
    lexemes (w ++ s) =
      if spells "AND" w then .and :: lexemes s
      else if spells "OR" w then .or :: lexemes s
      else attach w (lexemes s) := by
  unfold lexemes
  rw [marks_word hw hs]
  rfl

theorem lexemes_and (s : List Char) :
    lexemes (' ' :: ("AND".toList ++ ' ' :: s)) = .and :: lexemes s := rfl

theorem lexemes_or (s : List Char) :
    lexemes (' ' :: ("OR".toList ++ ' ' :: s)) = .or :: lexemes s := rfl

/-! ## Atoms -/

/-- No atom and no parenthesis opens the sequence, so nothing before it goes on there. -/
def Parted (ls : List Lexeme) : Prop :=
  ∀ l, ls.head? = some l → l = .closing ∨ l = .and ∨ l = .or

theorem attach_of_parted (w : List Char) {ls : List Lexeme} (h : Parted ls) :
    attach w ls = .atom w :: ls := by
  cases ls with
  | nil => rfl
  | cons l ls => rcases h l rfl with rfl | rfl | rfl <;> rfl

/-- Before such a text both a word and an atom end. -/
structure Ended (s : List Char) : Prop where
  stops : Stops s
  parted : Parted (lexemes s)

theorem ended_nil : Ended [] := ⟨fun _ h => (nomatch h), fun _ h => (nomatch h)⟩

theorem ended_closing (s : List Char) : Ended (')' :: s) :=
  ⟨fun _ h => .inr (Option.some.inj h).symm, fun _ h => .inl (Option.some.inj h).symm⟩

theorem ended_blank_closing (s : List Char) : Ended (' ' :: ')' :: s) :=
  ⟨fun _ h => .inl (Option.some.inj h).symm, fun _ h => .inl (Option.some.inj h).symm⟩

theorem ended_and (s : List Char) : Ended (' ' :: ("AND".toList ++ ' ' :: s)) :=
  ⟨fun _ h => .inl (Option.some.inj h).symm, fun _ h => .inr (.inl (Option.some.inj h).symm)⟩

theorem ended_or (s : List Char) : Ended (' ' :: ("OR".toList ++ ' ' :: s)) :=
  ⟨fun _ h => .inl (Option.some.inj h).symm, fun _ h => .inr (.inr (Option.some.inj h).symm)⟩

/-- Where it ends, the lexer finds the text again as one atom. -/
def Atomic (a : List Char) : Prop := ∀ s, Ended s → lexemes (a ++ s) = .atom a :: lexemes s

/-- A word that joins nothing. -/
structure IsPlain (w : List Char) : Prop extends IsWord w where
  noAnd : spells "AND" w = false
  noOr : spells "OR" w = false

instance (w : List Char) : Decidable (IsPlain w) :=
  decidable_of_iff (IsWord w ∧ spells "AND" w = false ∧ spells "OR" w = false)
    ⟨fun h => ⟨h.1, h.2.1, h.2.2⟩, fun h => ⟨h.toIsWord, h.noAnd, h.noOr⟩⟩

theorem IsPlain.lexemes {w s : List Char} (hw : IsPlain w) (hs : Stops s) :
    lexemes (w ++ s) = attach w (lexemes s) := by
  rw [lexemes_word hw.toIsWord hs, hw.noAnd, hw.noOr]
  rfl

theorem IsPlain.atomic {w : List Char} (hw : IsPlain w) : Atomic w := by
  intro s hs
  rw [hw.lexemes hs.stops, attach_of_parted w hs.parted]

/-- An atom with one more word before it. -/
theorem IsPlain.atomic_blank {w a : List Char} (hw : IsPlain w) (ha : Atomic a) :
    Atomic (w ++ ' ' :: a) := by
  intro s hs
  have hstops : Stops (' ' :: (a ++ s)) := fun _ h => .inl (Option.some.inj h).symm
  rw [List.append_assoc, List.cons_append, hw.lexemes hstops, lexemes_blank, ha s hs]
  rfl

/-- The list behind IN is no group. -/
theorem Atomic.list {a : List Char} (ha : Atomic a) :
    Atomic ("IN".toList ++ ' ' :: '(' :: (a ++ [')'])) := by
  intro s hs
  have hin : IsPlain "IN".toList := by decide
  have hstops : ∀ t, Stops (' ' :: t) := fun _ _ h => .inl (Option.some.inj h).symm
  have hlist : lexemes (a ++ ')' :: s) = .atom a :: .closing :: lexemes s := by
    rw [ha _ (ended_closing s), lexemes_closing]
  rw [List.append_assoc, List.cons_append, List.cons_append, List.append_assoc,
    hin.lexemes (hstops _), lexemes_blank, lexemes_opening, List.singleton_append, hlist]
  rfl

/-! ## The text of a condition -/

/-- The lexemes of a condition with parentheses around each pair. -/
def lexed : Condition (List Char) → List Lexeme
  | atom s => [.atom s]
  | and l r => .opening :: (l.lexed ++ .and :: r.lexed ++ [.closing])
  | or l r => .opening :: (l.lexed ++ .or :: r.lexed ++ [.closing])

theorem reads_lexed (c : Condition (List Char)) : Reads .factor c.lexed c := by
  induction c with
  | atom s => exact .atom s
  | and l r hl hr => exact .group (.conjunction (.and (.factor hl) hr))
  | or l r hl hr => exact .group (.or (.conjunction (.factor hl)) (.factor hr))

theorem lexemes_text {c : Condition (List Char)} (hc : ∀ a ∈ c.atoms, Atomic a) {s : List Char}
    (hs : Ended s) : lexemes (c.text ++ s) = c.lexed ++ lexemes s := by
  induction c generalizing s with
  | atom a => exact hc a (List.mem_singleton_self a) s hs
  | and l r hl hr =>
    have hl := hl (fun a ha => hc a (List.mem_append_left _ ha))
      (ended_and (r.text ++ ' ' :: ')' :: s))
    have hr := hr (fun a ha => hc a (List.mem_append_right _ ha)) (ended_blank_closing s)
    rw [text, paired_append, lexemes_opening, lexemes_blank, hl, lexemes_and, hr, lexemes_blank,
      lexemes_closing]
    simp [lexed]
  | or l r hl hr =>
    have hl := hl (fun a ha => hc a (List.mem_append_left _ ha))
      (ended_or (r.text ++ ' ' :: ')' :: s))
    have hr := hr (fun a ha => hc a (List.mem_append_right _ ha)) (ended_blank_closing s)
    rw [text, paired_append, lexemes_opening, lexemes_blank, hl, lexemes_or, hr, lexemes_blank,
      lexemes_closing]
    simp [lexed]

/-! ## Conditions that must all hold -/

/-- A condition and further ones as one text: alone as it is, else in parentheses each. -/
def jointText (c : Condition (List Char)) : List (Condition (List Char)) → List Char
  | [] => c.text
  | cs => " AND ".toList.intercalate ((c :: cs).map fun c => '(' :: c.text ++ [')'])

/-- The lexemes of a condition in parentheses. -/
def enclosed (c : Condition (List Char)) : List Lexeme := .opening :: (c.lexed ++ [.closing])

theorem reads_enclosed (c : Condition (List Char)) : Reads .factor c.enclosed c :=
  .group (.conjunction (.factor c.reads_lexed))

theorem reads_all {ls : List Lexeme} {c : Condition (List Char)} (h : Reads .conjunction ls c)
    (cs : List (Condition (List Char))) :
    Reads .conjunction (ls ++ cs.flatMap fun c => .and :: c.enclosed) (all c cs) := by
  induction cs generalizing ls c with
  | nil => rwa [List.flatMap_nil, List.append_nil]
  | cons c' cs ih =>
    have hstep := ih (.and h c'.reads_enclosed)
    rw [List.append_assoc] at hstep
    exact hstep

theorem lexemes_enclosed {c : Condition (List Char)} (hc : ∀ a ∈ c.atoms, Atomic a)
    (s : List Char) : lexemes ('(' :: c.text ++ [')'] ++ s) = c.enclosed ++ lexemes s := by
  have htext := lexemes_text hc (ended_closing s)
  rw [List.append_assoc, List.cons_append, lexemes_opening, List.singleton_append, htext,
    lexemes_closing]
  simp [enclosed]

theorem lexemes_intercalate {c : Condition (List Char)} {cs : List (Condition (List Char))}
    (h : ∀ c' ∈ c :: cs, ∀ a ∈ c'.atoms, Atomic a) :
    lexemes (" AND ".toList.intercalate ((c :: cs).map fun c => '(' :: c.text ++ [')'])) =
      c.enclosed ++ cs.flatMap fun c => .and :: c.enclosed := by
  induction cs generalizing c with
  | nil =>
    have hc := lexemes_enclosed (h c (List.mem_cons_self ..)) []
    rw [List.append_nil] at hc
    rw [List.map_singleton, List.intercalate_singleton, hc]
    rfl
  | cons c' cs ih =>
    have ih := ih fun c'' h'' => h c'' (List.mem_cons_of_mem c h'')
    have hc := lexemes_enclosed (h c (List.mem_cons_self ..))
    have hand : ∀ s, " AND ".toList ++ s = ' ' :: ("AND".toList ++ ' ' :: s) := fun _ => rfl
    rw [List.map_cons] at ih
    rw [List.map_cons, List.map_cons, List.intercalate_cons_cons, List.append_assoc, hc, hand,
      lexemes_and, ih]
    rfl

/-- The text is read as the conjunction from left to right, and as nothing else. -/
theorem reading_jointText_iff {c : Condition (List Char)} {cs : List (Condition (List Char))}
    (h : ∀ c' ∈ c :: cs, ∀ a ∈ c'.atoms, Atomic a) (c' : Condition (List Char)) :
    Reading (jointText c cs) c' ↔ c' = all c cs := by
  have hreading : Reading (jointText c cs) (all c cs) := by
    cases cs with
    | nil =>
      have hc : lexemes (c.text ++ []) = c.lexed ++ [] :=
        lexemes_text (h c (List.mem_cons_self ..)) ended_nil
      rw [List.append_nil, List.append_nil] at hc
      show Reads .disjunction (lexemes c.text) c
      rw [hc]
      exact .conjunction (.factor c.reads_lexed)
    | cons c₁ cs =>
      have hreads := reads_all (.factor c.reads_enclosed) (c₁ :: cs)
      rw [← lexemes_intercalate h] at hreads
      exact .conjunction hreads
  exact ⟨fun h' => h'.unique hreading, fun h' => h' ▸ hreading⟩

example :
    lexemes "( a = $1 or b NOT IN ($2, $3) ) AND c IS NULL".toList =
      [.opening, .atom "a = $1".toList, .or, .atom "b NOT IN ($2, $3)".toList, .closing, .and,
        .atom "c IS NULL".toList] := by decide

end QueryCriteria.Condition
