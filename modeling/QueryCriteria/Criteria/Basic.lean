import QueryCriteria.Criteria.Filter
import QueryCriteria.Criteria.Order

/-!
Criteria: filters that all must hold, sort keys, and a window of rows.

A criteria is put together by a builder. Only the last step can fail: a window that lets no row
through is refused.
-/

namespace QueryCriteria

structure Criteria where
  /-- All of them must hold. -/
  filters : List Filter
  /-- Primary key first. -/
  sorting : List Order
  offset : Option UInt64
  limit : Option UInt64
  limit_ne_zero : limit ≠ some 0
  deriving DecidableEq

namespace Criteria

/-- No condition, no order, no window. -/
def empty : Criteria := ⟨[], [], none, none, by decide⟩

def hasSorting (c : Criteria) : Bool := !c.sorting.isEmpty

/-- The number of comparisons in all filters. -/
def comparisonCount (c : Criteria) : Nat := Filter.totalCount c.filters

/-- A criteria under construction. -/
structure Builder where
  filters : List Filter := []
  sorting : List Order := []
  offset : Option UInt64 := none
  limit : Option UInt64 := none

namespace Builder

def filter (b : Builder) (f : Filter) : Builder := { b with filters := b.filters ++ [f] }

def filterAll (b : Builder) (fs : List Filter) : Builder := { b with filters := b.filters ++ fs }

def order (b : Builder) (o : Order) : Builder := { b with sorting := b.sorting ++ [o] }

def skipRows (b : Builder) (n : UInt64) : Builder := { b with offset := some n }

def takeRows (b : Builder) (n : UInt64) : Builder := { b with limit := some n }

def build (b : Builder) : Except CriteriaError Criteria :=
  if h : b.limit = some 0 then .error .zeroLimit
  else .ok ⟨b.filters, b.sorting, b.offset, b.limit, h⟩

theorem build_eq_ok_iff {b : Builder} {c : Criteria} :
    b.build = .ok c ↔
      c.filters = b.filters ∧ c.sorting = b.sorting ∧ c.offset = b.offset
        ∧ c.limit = b.limit := by
  unfold build
  split
  · next h =>
    simp only [reduceCtorEq, false_iff, not_and]
    intro _ _ _ hl
    exact absurd (hl.trans h) c.limit_ne_zero
  · cases c
    simp [eq_comm]

end Builder

end Criteria

end QueryCriteria
