import QueryCriteria.Text.Blank

/-!
The operators of a comparison: their names, how many values they take, and the spellings under
which a text names them.

A spelling is compared after `foldedName`: blanks around the text are dropped, each run of blanks
inside it counts as one underscore, and upper-case ASCII letters count as lower-case ones.
-/

namespace QueryCriteria

inductive Operator where
  | equal
  | notEqual
  | gt
  | lt
  | gte
  | lte
  | contains
  | isIn
  | notIn
  | isNull
  | isNotNull
  deriving DecidableEq, Repr

/-- How many values an operator takes. -/
inductive Arity where
  | nullary
  | scalar
  | list
  deriving DecidableEq, Repr

namespace Operator

def all : List Operator :=
  [equal, notEqual, gt, lt, gte, lte, contains, isIn, notIn, isNull, isNotNull]

theorem mem_all (op : Operator) : op ∈ all := by cases op <;> decide

def name : Operator → String
  | equal => "equal"
  | notEqual => "not_equal"
  | gt => "gt"
  | lt => "lt"
  | gte => "gte"
  | lte => "lte"
  | contains => "contains"
  | isIn => "in"
  | notIn => "not_in"
  | isNull => "is_null"
  | isNotNull => "is_not_null"

def arity : Operator → Arity
  | isNull | isNotNull => .nullary
  | isIn | notIn => .list
  | _ => .scalar

/-- The spellings of an operator other than its name. -/
def symbols : Operator → List String
  | equal => ["=", "==", "eq"]
  | notEqual => ["<>", "!=", "ne", "neq"]
  | gt => [">"]
  | lt => ["<"]
  | gte => [">="]
  | lte => ["<="]
  | contains => ["like"]
  | _ => []

/-- The text that is looked up among the spellings. -/
def foldedName (s : List Char) : List Char :=
  (['_'].intercalate (Text.words s)).map Char.toLower

/-- The operator that a text names. -/
def ofText? (s : String) : Option Operator :=
  let folded := String.ofList (foldedName s.toList)
  all.find? fun op => op.symbols.contains folded || op.name == folded

end Operator

end QueryCriteria
