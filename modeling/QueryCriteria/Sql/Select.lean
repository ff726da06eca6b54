import QueryCriteria.Criteria.Order
import QueryCriteria.Sql.Expr

/-!
Select queries: columns, a table, predicates that all must hold, sort keys, a window of rows, and
the parameters that the fragments among them refer to.
-/

namespace QueryCriteria.Sql

structure Table where
  schema : Option String
  name : String
  deriving DecidableEq, Repr

/-- The table of a query and the name it goes by there. -/
structure FromClause where
  table : Table
  calledAs : Option String
  deriving DecidableEq, Repr

/-- A sort key; without a direction the database's own applies. -/
structure SortKey where
  expr : Expr
  direction : Option Direction
  deriving DecidableEq, Repr

structure Select where
  columns : List Expr := []
  source : Option FromClause := none
  /-- All of them must hold. -/
  predicates : List Expr := []
  sorting : List SortKey := []
  limit : Option UInt64 := none
  offset : Option UInt64 := none
  /-- In the order in which their names were first bound. -/
  parameters : List Parameter := []
  deriving DecidableEq

namespace FromClause

def tokens (f : FromClause) : List Token :=
  word "FROM " :: qualified f.table.schema f.table.name
    ++ match f.calledAs with
      | none => []
      | some a => [word " AS ", .name a.toList]

end FromClause

namespace SortKey

def tokens (ps : List Parameter) (k : SortKey) : List Token :=
  k.expr.tokens ps
    ++ match k.direction with
      | none => []
      | some d => [word " ", word d.sql]

end SortKey

/-- The predicates of a query: one stands alone, several stand in parentheses each. -/
def whereTokens : List (List Token) → List Token
  | [] => []
  | [p] => word " WHERE " :: p
  | ps => word " WHERE " :: joined (word " AND ") (ps.map fun p => word "(" :: p ++ [word ")"])

namespace Select

/-- The query as a sequence of tokens. -/
def tokens (q : Select) : List Token :=
  let ps := q.parameters
  word "SELECT " :: joined (word ", ") (q.columns.map (Expr.tokens ps))
    ++ (match q.source with
      | none => []
      | some f => word " " :: f.tokens)
    ++ whereTokens (q.predicates.map (Expr.tokens ps))
    ++ (if q.sorting.isEmpty then []
      else word " ORDER BY " :: joined (word ", ") (q.sorting.map (SortKey.tokens ps)))
    ++ [.window q.limit q.offset]

/-- The query in a dialect. -/
def render (q : Select) (d : Dialect) : Except RenderError Query := Sql.render d q.tokens

/-- A query with its columns and its table, the start of every other one. -/
def start (columns : List Expr) (source : FromClause) : Select :=
  { columns, source := some source }

/-! ## Adding to a query -/

def filter (q : Select) (e : Expr) : Select := { q with predicates := q.predicates ++ [e] }

/-- Binds a parameter; one of the same name is replaced. -/
def bind (q : Select) (p : Parameter) : Select :=
  { q with parameters := Sql.bind p q.parameters }

def orderBy (q : Select) (k : SortKey) : Select := { q with sorting := q.sorting ++ [k] }

def takeRows (q : Select) (n : UInt64) : Select := { q with limit := some n }

def skipRows (q : Select) (n : UInt64) : Select := { q with offset := some n }

end Select

end QueryCriteria.Sql
