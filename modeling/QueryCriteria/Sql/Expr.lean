import QueryCriteria.Sql.Fragment

/-!
Expressions of a query: names, which each dialect quotes in its way, SQL copied as it is, and
fragments.

`Expr.column` sorts what a user writes as a column: one plain name, or two with a dot between
them, is a name; anything else is copied.
-/

namespace QueryCriteria.Sql

inductive Expr where
  | name (qualifier : Option String) (name : String)
  | verbatim (sql : String)
  | fragment (sql : String)
  deriving DecidableEq, Repr

namespace Expr

/-- An ASCII letter or an underscore. -/
def startsName (c : Char) : Bool := c.isAlpha || c == '_'

/-- A letter or an underscore, and then letters, digits and underscores, all of them ASCII. -/
def isPlainName : List Char → Bool
  | [] => false
  | c :: s => startsName c && s.all fun d => startsName d || d.isDigit

/-- The parts of a text between its dots. -/
def dotParts : List Char → List (List Char)
  | [] => [[]]
  | c :: s =>
    if c = '.' then [] :: dotParts s
    else
      match dotParts s with
      | [] => [[c]]
      | p :: ps => (c :: p) :: ps

/-- The expression that a user writes as a column. -/
def column (s : String) : Expr :=
  let parts := dotParts s.toList
  if parts.all isPlainName then
    match parts with
    | [n] => .name none (String.ofList n)
    | [q, n] => .name (some (String.ofList q)) (String.ofList n)
    | _ => .verbatim s
  else .verbatim s

def tokens (ps : List Parameter) : Expr → List Token
  | name q n => qualified q n
  | verbatim s => [.text s.toList]
  | fragment s => Fragment.tokens ps s

end Expr

end QueryCriteria.Sql
