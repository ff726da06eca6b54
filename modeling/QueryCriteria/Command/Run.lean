import QueryCriteria.Command.Report
import QueryCriteria.Command.Settings
import QueryCriteria.Document.Reader

/-!
The commands and what they do, given the contents of files.

`translate` prints the clauses of a criteria document, `render` the select query that the
settings and the document make up. Settings are read before the document; when a query is
rendered, a dialect that does not exist comes before a missing table.
-/

namespace QueryCriteria

open Json Sql

/-- Why a command does not succeed. -/
inductive Failure where
  /-- A file that does not exist or is no text. -/
  | fileRead (path : String)
  | json (e : ReadError)
  | criteria (e : CriteriaError)
  | render (e : RenderError)
  | unsupportedDialect (name : String)
  | missingTable
  deriving DecidableEq

def Json.ReadError.message : ReadError → String
  | .fault .malformed => "malformed text"
  | .fault .cut => "unexpected end of the text"
  | .mismatch m => m.message

namespace Failure

def message : Failure → String
  | fileRead path => "Failed to read input file: " ++ path
  | json e => "Failed to deserialize JSON input: " ++ e.message
  | criteria e => "Invalid criteria: " ++ e.message
  | render e => "Failed to render the query: " ++ e.message
  | unsupportedDialect name => "Unsupported dialect: " ++ name
  | missingTable => "No table given; pass --table or set `table` in the config file"

end Failure

/-- The table to select from. -/
def Settings.requireTable (s : Settings) : Except Failure Table :=
  match s.table? with
  | some t => .ok t
  | none => .error .missingTable

/-- The select query that settings and a criteria make up. -/
def Settings.render (s : Settings) (c : Criteria) : Except Failure Query := do
  let some dialect := Dialect.ofText? s.dialectName
    | throw (.unsupportedDialect s.dialectName)
  let table ← s.requireTable
  let query := (Select.start s.selectList ⟨table, none⟩).executeAll s.fields [c]
  match query.render dialect with
  | .ok q => pure q
  | .error e => throw (.render e)

/-- The contents of files by path; none for a file that cannot be read. -/
abbrev Files := String → Option ByteArray

/-- The text of a file. -/
def Files.text (files : Files) (path : String) : Except Failure String :=
  match (files path).bind String.fromUTF8? with
  | some s => .ok s
  | none => .error (.fileRead path)

/-- Settings from a file, or the default ones. -/
def Files.settings (files : Files) (path : Option String) : Except Failure Settings :=
  match path with
  | none => .ok {}
  | some path => do
    match Settings.ofText (← files.text path) with
    | .ok s => pure s
    | .error e => throw (.json e)

/-- The criteria of the document in a file. -/
def Files.criteria (files : Files) (path : String) : Except Failure Criteria := do
  match Document.ofText (← files.text path) with
  | .error e => throw (.json e)
  | .ok d =>
    match d.toCriteria with
    | .ok c => pure c
    | .error e => throw (.criteria e)

inductive Command where
  | translate (criteria : String) (settings : Option String) (asJson : Bool)
  | render (criteria : String) (settings table dialect : Option String) (asJson : Bool)
  deriving DecidableEq, Repr

/-- What a command prints. -/
def Command.run (files : Files) : Command → Except Failure String
  | translate criteria settings asJson => do
    let settings ← files.settings settings
    let c ← files.criteria criteria
    pure ((c.clauses settings.fields).print asJson)
  | render criteria settings table dialect asJson => do
    let settings := (← files.settings settings).override table dialect
    let c ← files.criteria criteria
    pure ((← settings.render c).print asJson)

end QueryCriteria
