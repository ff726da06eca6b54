import QueryCriteria.Document.Basic
import QueryCriteria.Json.Decode

/-!
Documents read from JSON text, or from a JSON value that was read before. Operators and directions
alone can be read from a JSON text too.
-/

namespace QueryCriteria

open Json

/-- A text that a reader of the domain takes or refuses. -/
def readWord {α : Type} (read : String → Except CriteriaError α) (o : Outline) : Read α := do
  let s ← o.readText
  match read s with
  | .ok a => pure a
  | .error e => Read.mismatch (.refused e.message)

namespace OrderDocument

/-- An order document under construction. -/
structure Draft where
  field : Option String := none
  direction : Option Direction := none

def shape : Shape Draft where
  title := "struct OrderDocument"
  strict := false
  fields :=
    [{ name := "field"
       required := true
       isSet := fun r => r.field.isSome
       read := fun _ o r => do pure { r with field := some (← o.readText) } },
     { name := "type"
       isSet := fun r => r.direction.isSome
       read := fun _ o r => do pure { r with direction := some (← readWord Direction.read o) } }]

def read (origin : Origin) (room : Nat) (o : Outline) : Read OrderDocument := do
  let r ← shape.read origin {} room o
  pure ⟨r.field.getD "", r.direction.getD .asc⟩

end OrderDocument

namespace FilterDocument

/-- A filter document is read whole before its shape is looked at. -/
def read (room : Nat) (o : Outline) : Read FilterDocument := do
  let j ← Read.ofFault (o.json room)
  match ofJson? j with
  | some d => pure d
  | none => Read.mismatch (.noVariant "FilterDocument")

end FilterDocument

namespace Document

/-- A document under construction. -/
structure Draft where
  filters : Option (List FilterDocument) := none
  sorting : Option (List OrderDocument) := none
  offset : Option (Option UInt64) := none
  limit : Option (Option UInt64) := none

def shape (origin : Origin) : Shape Draft where
  title := "struct CriteriaDocument"
  strict := true
  fields :=
    [{ name := "filters"
       isSet := fun r => r.filters.isSome
       read := fun room o r => do
         pure { r with filters := some (← o.readList FilterDocument.read room) } },
     { name := "order"
       isSet := fun r => r.sorting.isSome
       read := fun room o r => do
         pure { r with sorting := some (← o.readList (OrderDocument.read origin) room) } },
     { name := "offset"
       isSet := fun r => r.offset.isSome
       read := fun _ o r => do
         pure { r with offset := some (← o.readOptional Outline.readCount) } },
     { name := "limit"
       isSet := fun r => r.limit.isSome
       read := fun _ o r => do
         pure { r with limit := some (← o.readOptional Outline.readCount) } }]

def ofOutline (origin : Origin) (o : Outline) : Read Document := do
  let r ← (shape origin).read origin {} Outline.depthLimit o
  pure { filters := r.filters.getD []
         sorting := r.sorting.getD []
         offset := r.offset.join
         limit := r.limit.join }

/-- The document of a JSON text. -/
def ofText (s : String) : Read Document := readText (ofOutline .text) s

/-- The document of a JSON value, whose objects are taken in canonical order. -/
def ofJson (j : Json) : Read Document := ofOutline .value (.ofJson j.canonical)

end Document

/-- The operator that a JSON text names. -/
def Operator.ofJsonText (s : String) : Read Operator := readText (readWord Operator.read) s

/-- The direction that a JSON text names. -/
def Direction.ofJsonText (s : String) : Read Direction := readText (readWord Direction.read) s

end QueryCriteria
