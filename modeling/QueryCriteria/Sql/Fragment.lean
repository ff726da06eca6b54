import QueryCriteria.Sql.Parameter
import QueryCriteria.Sql.Token
import QueryCriteria.Text.Alphanumeric

/-!
Fragments: pieces of SQL in which `:name` refers to a parameter.

A fragment is cut into pieces from left to right. A single quote opens a literal and the next one
closes it; nothing inside a literal is looked at, which also reads a doubled quote rightly. Outside
of literals two colons in a row are a cast and are copied. Any other colon refers to the parameter
with the longest name that stands right after it and is not followed by a character a name could
go on with. If there is no such parameter, the longest run of name characters and dots is a name
that nothing is bound to; an empty run leaves a plain colon.

Cutting (`Fragment.pieces`) knows nothing of values, and what each piece becomes
(`Fragment.Piece.tokens`) knows nothing of the pieces around it.
-/

namespace QueryCriteria.Sql

namespace Fragment

/-- A character that a name can go on with. -/
def isNameChar (c : Char) : Bool := Text.isAlphanumeric c || c == '_'

/-- The parameter's name stands at the start of a text and ends there. -/
def standsAt (p : Parameter) (s : List Char) : Bool :=
  let name := p.name.toList
  !name.isEmpty && name.isPrefixOf s && !(s.drop name.length).head?.any isNameChar

/-- The longer of two names; of two equally long ones the second. -/
def longer (best : Option Parameter) (p : Parameter) : Option Parameter :=
  match best with
  | none => some p
  | some b => if b.name.length ≤ p.name.length then some p else some b

/-- The parameter that a colon before a text refers to. -/
def reference? (ps : List Parameter) (s : List Char) : Option Parameter :=
  (ps.filter (standsAt · s)).foldl longer none

/-- The name at the start of a text that is none of a parameter. -/
def strayName (s : List Char) : List Char := s.takeWhile fun c => isNameChar c || c == '.'

inductive Piece where
  | plain (c : Char)
  /-- A placeholder of a parameter. -/
  | bound (p : Parameter)
  /-- A placeholder with a name that no parameter has. -/
  | unbound (name : List Char)
  deriving DecidableEq

/-- The pieces of a text, the first `pass` characters of which were taken before. -/
def piecesFrom (ps : List Parameter) (quoted : Bool) : Nat → List Char → List Piece
  | _, [] => []
  | pass + 1, _ :: s => piecesFrom ps quoted pass s
  | 0, c :: s =>
    if quoted || c ≠ ':' then
      .plain c :: piecesFrom ps (if c = '\'' then !quoted else quoted) 0 s
    else if s.head? = some ':' then .plain ':' :: .plain ':' :: piecesFrom ps false 1 s
    else
      match reference? ps s with
      | some p => .bound p :: piecesFrom ps false p.name.length s
      | none =>
        match strayName s with
        | [] => .plain ':' :: piecesFrom ps false 0 s
        | name => .unbound name :: piecesFrom ps false name.length s

/-- The pieces of a fragment. -/
def pieces (ps : List Parameter) (s : List Char) : List Piece := piecesFrom ps false 0 s

theorem piecesFrom_drop (ps : List Parameter) (quoted : Bool) (n : Nat) (s : List Char) :
    piecesFrom ps quoted n s = piecesFrom ps quoted 0 (s.drop n) := by
  induction n generalizing s with
  | zero => rfl
  | succ n ih =>
    cases s with
    | nil => simp [piecesFrom]
    | cons c s => simpa [piecesFrom] using ih s

/-! ## One step of the cutting -/

section Steps

variable {ps : List Parameter} {quoted : Bool} {c : Char} {s : List Char}

theorem piecesFrom_char (h : quoted = true ∨ c ≠ ':') :
    piecesFrom ps quoted 0 (c :: s) =
      .plain c :: piecesFrom ps (if c = '\'' then !quoted else quoted) 0 s := by
  rw [piecesFrom, if_pos (by simpa using h)]

theorem piecesFrom_cast :
    piecesFrom ps false 0 (':' :: ':' :: s) =
      .plain ':' :: .plain ':' :: piecesFrom ps false 0 s := rfl

theorem piecesFrom_bound (hcast : s.head? ≠ some ':') {p : Parameter}
    (h : reference? ps s = some p) :
    piecesFrom ps false 0 (':' :: s) = .bound p :: piecesFrom ps false 0 (s.drop p.name.length) := by
  rw [piecesFrom, if_neg (by decide), if_neg hcast, h]
  simp only
  rw [piecesFrom_drop]

theorem piecesFrom_unbound (hcast : s.head? ≠ some ':') (h : reference? ps s = none)
    (hname : strayName s ≠ []) :
    piecesFrom ps false 0 (':' :: s) =
      .unbound (strayName s) :: piecesFrom ps false 0 (s.drop (strayName s).length) := by
  rw [piecesFrom, if_neg (by decide), if_neg hcast, h]
  simp only
  rw [piecesFrom_drop]

theorem piecesFrom_colon (hcast : s.head? ≠ some ':') (h : reference? ps s = none)
    (hname : strayName s = []) :
    piecesFrom ps false 0 (':' :: s) = .plain ':' :: piecesFrom ps false 0 s := by
  rw [piecesFrom, if_neg (by decide), if_neg hcast, h]
  simp only [hname]

/-- Induction along the pieces of a text: what holds of the text behind the first piece holds of the
whole. -/
@[elab_as_elim]
theorem piecewise (ps : List Parameter) {motive : Bool → List Char → Prop}
    (nil : ∀ quoted, motive quoted [])
    (char : ∀ quoted c s, quoted = true ∨ c ≠ ':' →
      motive (if c = '\'' then !quoted else quoted) s → motive quoted (c :: s))
    (cast : ∀ s, motive false s → motive false (':' :: ':' :: s))
    (bound : ∀ s p, s.head? ≠ some ':' → reference? ps s = some p →
      motive false (s.drop p.name.length) → motive false (':' :: s))
    (unbound : ∀ s, s.head? ≠ some ':' → reference? ps s = none → strayName s ≠ [] →
      motive false (s.drop (strayName s).length) → motive false (':' :: s))
    (colon : ∀ s, s.head? ≠ some ':' → reference? ps s = none → strayName s = [] →
      motive false s → motive false (':' :: s))
    (quoted : Bool) (s : List Char) : motive quoted s := by
  induction hn : s.length using Nat.strongRecOn generalizing quoted s with
  | ind n ih =>
    subst hn
    cases s with
    | nil => exact nil quoted
    | cons c s =>
      have hshorter : ∀ k q, motive q (s.drop k) := fun k q =>
        ih _ (by simp only [List.length_drop, List.length_cons]; omega) q _ rfl
      by_cases hc : quoted = true ∨ c ≠ ':'
      · exact char quoted c s hc (hshorter 0 _)
      · obtain ⟨hquoted, hcolon⟩ := not_or.1 hc
        obtain rfl := Decidable.not_not.1 hcolon
        obtain rfl := Bool.eq_false_iff.2 hquoted
        by_cases hcast : s.head? = some ':'
        · obtain ⟨t, rfl⟩ := List.head?_eq_some_iff.1 hcast
          exact cast t (hshorter 1 false)
        · cases href : reference? ps s with
          | some p => exact bound s p hcast href (hshorter _ false)
          | none =>
            by_cases hname : strayName s = []
            · exact colon s hcast href hname (hshorter 0 false)
            · exact unbound s hcast href hname (hshorter _ false)

end Steps

/-- Values one after the other, each bound as text; without any, a null in their place. -/
def slots : List Value → List Token
  | [] => [word "NULL"]
  | vs => joined (word ", ") (vs.map fun v => [.slot (.text v.plain)])

/-- What stands in place of a parameter's placeholder. -/
def referenceTokens (p : Parameter) : List Token :=
  match p.value, p.type with
  | .scalar v, _ => [.slot v]
  | .list vs, some .stringArray => slots vs
  | .list _, none => [.fault (.untypedList p.name)]

def Piece.tokens : Piece → List Token
  | plain c => [.text [c]]
  | bound p => referenceTokens p
  | unbound name => [.fault (.unboundParameter (String.ofList name))]

/-- The tokens of a fragment. -/
def tokens (ps : List Parameter) (s : String) : List Token :=
  (pieces ps s.toList).flatMap Piece.tokens

end Fragment

end QueryCriteria.Sql
