/-!
Blank characters and what a text does with them: trimming at both ends, cutting into words, and
the test for a text that holds nothing else. All of it is on lists of characters.

`words` gives the maximal runs of characters that are not blank, in order; it needs no trimming
first, since blanks around the text belong to no word.
-/

namespace QueryCriteria.Text

/-- The Unicode property White_Space. -/
def isBlank (c : Char) : Bool :=
  let n := c.toNat
  (9 ≤ n && n ≤ 13) || n == 0x20 || n == 0x85 || n == 0xA0 || n == 0x1680
    || (0x2000 ≤ n && n ≤ 0x200A) || n == 0x2028 || n == 0x2029 || n == 0x202F || n == 0x205F
    || n == 0x3000

/-- Nothing but blanks; the empty text is one of these. -/
def allBlank (s : List Char) : Bool := s.all isBlank

/-- The text without the blanks at its start. -/
def trimStart (s : List Char) : List Char := s.dropWhile isBlank

/-- The text without the blanks at both of its ends. -/
def trim (s : List Char) : List Char := (trimStart (trimStart s).reverse).reverse

/-- The maximal runs of characters that are not blank. -/
def words : List Char → List (List Char)
  | [] => []
  | c :: rest =>
    let later := words rest
    if isBlank c then later
    else if rest.head?.all isBlank then [c] :: later
    else
      match later with
      | w :: ws => (c :: w) :: ws
      | [] => [[c]]

/-! ## Small facts -/

theorem allBlank_nil : allBlank [] = true := rfl

theorem allBlank_cons (c : Char) (s : List Char) :
    allBlank (c :: s) = (isBlank c && allBlank s) := rfl

theorem words_cons_blank {c : Char} (h : isBlank c = true) (s : List Char) :
    words (c :: s) = words s := by
  simp [words, h]

end QueryCriteria.Text
