import QueryCriteria.Clauses.Basic
import QueryCriteria.Sql.Select

/-!
Clauses applied to a query. What clauses add is a list of additions, in a fixed order:
predicates, parameters, sort columns, offset, limit; a query takes them in one by one.

A session executes several criteria for one query. It goes on numbering where the criteria
before ended, so their parameters have numbers of their own.
-/

namespace QueryCriteria

open Sql

/-- One thing added to a query. -/
inductive Addition where
  | predicate (sql : String)
  | parameter (p : Parameter)
  | sortColumn (c : SortColumn)
  | offset (n : UInt64)
  | limit (n : UInt64)
  deriving DecidableEq

namespace Clauses

/-- What clauses add to a query. -/
def additions (c : Clauses) : List Addition :=
  c.predicates.map .predicate ++ c.parameters.map .parameter ++ c.sorting.map .sortColumn
    ++ (c.offset.map Addition.offset).toList ++ (c.limit.map Addition.limit).toList

end Clauses

namespace Sql.Select

/-- Predicates are fragments; the columns to sort by are taken as they are. -/
def add (q : Select) : Addition → Select
  | .predicate s => q.filter (.fragment s)
  | .parameter p => q.bind p
  | .sortColumn c => q.orderBy ⟨.verbatim c.column, some c.direction⟩
  | .offset n => q.skipRows n
  | .limit n => q.takeRows n

def addAll (q : Select) (as : List Addition) : Select := as.foldl add q

/-- The query with clauses applied to it. -/
def apply (q : Select) (c : Clauses) : Select := q.addAll c.additions

end Sql.Select

/-- Executes criteria one after the other with one numbering. -/
structure Session where
  fields : FieldMap
  /-- The number of comparisons so far. -/
  count : Nat

namespace Session

def start (fields : FieldMap) : Session := ⟨fields, 0⟩

/-- The next criteria's clauses, and the session after it. -/
def execute (s : Session) (c : Criteria) : Clauses × Session :=
  (c.clausesFrom s.fields s.count, { s with count := s.count + c.comparisonCount })

/-- The clauses of criteria in turn. -/
def executeAll (s : Session) : List Criteria → List Clauses
  | [] => []
  | c :: cs =>
    let (first, s) := s.execute c
    first :: s.executeAll cs

end Session

/-- The query after one session has executed criteria on it. -/
def Sql.Select.executeAll (q : Select) (fields : FieldMap) (cs : List Criteria) : Select :=
  ((Session.start fields).executeAll cs).foldl Select.apply q

end QueryCriteria
