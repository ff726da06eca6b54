import QueryCriteria.Json.Decode
import QueryCriteria.Sql.Select
import QueryCriteria.FieldMap

/-!
Settings of the command line, read from a JSON file: the table and the dialect, each of which an
option may override, the columns to select, and the field map.
-/

namespace QueryCriteria

open Json Sql

/-- A field map is an object of columns by field. -/
def FieldMap.read (room : Nat) (o : Outline) : Read FieldMap := do
  pure (FieldMap.ofList (← o.readMembers (fun _ o => o.readText) room))

/-- The field map of a JSON text. -/
def FieldMap.ofText (s : String) : Read FieldMap := readText (FieldMap.read Outline.depthLimit) s

structure Settings where
  table : Option String := none
  dialect : Option String := none
  columns : List String := []
  fields : FieldMap := FieldMap.empty

namespace Settings

def defaultDialect : String := "postgres"

/-- Settings under construction. -/
structure Draft where
  table : Option (Option String) := none
  dialect : Option (Option String) := none
  columns : Option (List String) := none
  fields : Option FieldMap := none

def shape : Shape Draft where
  title := "struct CliConfig"
  strict := true
  fields :=
    [{ name := "table"
       isSet := fun r => r.table.isSome
       read := fun _ o r => do
         pure { r with table := some (← o.readOptional Outline.readText) } },
     { name := "dialect"
       isSet := fun r => r.dialect.isSome
       read := fun _ o r => do
         pure { r with dialect := some (← o.readOptional Outline.readText) } },
     { name := "columns"
       isSet := fun r => r.columns.isSome
       read := fun room o r => do
         pure { r with columns := some (← o.readList (fun _ o => o.readText) room) } },
     { name := "fields"
       isSet := fun r => r.fields.isSome
       read := fun room o r => do
         pure { r with fields := some (← FieldMap.read room o) } }]

def ofOutline (o : Outline) : Read Settings := do
  let r ← shape.read .text {} Outline.depthLimit o
  pure { table := r.table.join
         dialect := r.dialect.join
         columns := r.columns.getD []
         fields := r.fields.getD FieldMap.empty }

/-- The settings of a JSON text. -/
def ofText (s : String) : Read Settings := readText ofOutline s

/-- The settings with the table and the dialect that options give, if they give any. -/
def override (s : Settings) (table dialect : Option String) : Settings :=
  { s with table := table.or s.table, dialect := dialect.or s.dialect }

/-- The name of the dialect in use. -/
def dialectName (s : Settings) : String := s.dialect.getD defaultDialect

/-- A table as a user writes it: what stands before the first dot is the schema. -/
def splitTable (s : String) : Table :=
  let chars := s.toList
  match chars.dropWhile (· ≠ '.') with
  | [] => ⟨none, s⟩
  | _ :: name =>
    ⟨some (String.ofList (chars.takeWhile (· ≠ '.'))), String.ofList name⟩

/-- The table to select from, if the settings name one. -/
def table? (s : Settings) : Option Table := s.table.map splitTable

/-- The columns to select: all of the table's if the settings name none. -/
def selectList (s : Settings) : List Expr :=
  if s.columns.isEmpty then [Expr.column "*"] else s.columns.map Expr.column

end Settings

end QueryCriteria
