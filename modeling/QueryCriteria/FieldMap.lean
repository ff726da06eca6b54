import QueryCriteria.Keyed

/-!
Field maps: which column stands for a field of the criteria. A field without an entry stands for
itself. Names are compared exactly.
-/

namespace QueryCriteria

structure FieldMap where
  /-- Fields and their columns. -/
  entries : List (String × String)
  distinct : (entries.map Prod.fst).Nodup

namespace FieldMap

def empty : FieldMap := ⟨[], List.nodup_nil⟩

/-- Gives a field its column; an earlier one is replaced. -/
def insert (field column : String) (m : FieldMap) : FieldMap :=
  ⟨Keyed.put Prod.fst (field, column) m.entries, Keyed.nodup_put _ _ m.distinct⟩

/-- The map of a list of fields and columns, in which later entries replace earlier ones. -/
def ofList (entries : List (String × String)) : FieldMap :=
  entries.foldl (fun m e => m.insert e.1 e.2) empty

/-- The column that stands for a field. -/
def resolve (m : FieldMap) (field : String) : String :=
  match Keyed.find? Prod.fst field m.entries with
  | some e => e.2
  | none => field

def size (m : FieldMap) : Nat := m.entries.length

def isEmpty (m : FieldMap) : Bool := m.entries.isEmpty

/-- A field stands for itself, or for the column of an entry. -/
theorem resolve_cases (m : FieldMap) (field : String) :
    m.resolve field = field ∨ ∃ e ∈ m.entries, m.resolve field = e.2 := by
  unfold resolve
  cases h : Keyed.find? Prod.fst field m.entries with
  | none => exact .inl rfl
  | some e => exact .inr ⟨e, (Keyed.of_find?_eq_some Prod.fst h).1, rfl⟩

theorem resolve_empty (field : String) : empty.resolve field = field := rfl

theorem resolve_insert_self (m : FieldMap) (field column : String) :
    (m.insert field column).resolve field = column := by
  have h := Keyed.find?_put_self Prod.fst (field, column) m.entries
  simp only [resolve, insert]
  rw [h]

theorem resolve_insert_of_ne (m : FieldMap) {field other : String} (column : String)
    (h : other ≠ field) : (m.insert field column).resolve other = m.resolve other := by
  simp only [resolve, insert]
  rw [Keyed.find?_put_of_ne Prod.fst (field, column) m.entries h]

end FieldMap

end QueryCriteria
