import QueryCriteria.Command.Run

/-!
Command-line arguments. The first names the command; the others are options in any order, each at
most once. An option that takes a value has it as the next argument or after an equals sign. The
next argument is no value if it starts with a hyphen, unless it is a hyphen alone. Two hyphens end
the options, and since no command takes anything else, nothing may follow them.
-/

namespace QueryCriteria

namespace Command

/-- The options given so far. -/
structure Options where
  values : List (String × String) := []
  asJson : Bool := false

namespace Options

def value? (o : Options) (name : String) : Option String :=
  (o.values.find? (·.1 == name)).map (·.2)

/-- Gives an option its value; it may have none yet. -/
def give? (o : Options) (name value : String) : Option Options :=
  if (o.value? name).isSome then none else some { o with values := o.values ++ [(name, value)] }

/-- The switch for JSON; it may be given once. -/
def giveJson? (o : Options) : Option Options :=
  if o.asJson then none else some { o with asJson := true }

end Options

/-- An argument that can stand as the value of the option before it. -/
def isValue (s : String) : Bool := s == "-" || !s.startsWith "-"

/-- The name and the value of an argument `--name=value`. -/
def attached? (s : String) : Option (String × String) :=
  let chars := s.toList
  match chars.dropWhile (· ≠ '=') with
  | [] => none
  | _ :: value => some (String.ofList (chars.takeWhile (· ≠ '=')), String.ofList value)

/-- Reads options. `named` are those that take a value. -/
def readOptions (named : List String) : List String → Options → Option Options
  | [], o => some o
  | ["--"], o => some o
  | arg :: rest, o =>
    if arg == "--json" then
      match o.giveJson? with
      | some o => readOptions named rest o
      | none => none
    else if named.contains arg then
      match rest with
      | value :: rest =>
        if isValue value then
          match o.give? arg value with
          | some o => readOptions named rest o
          | none => none
        else none
      | [] => none
    else
      match attached? arg with
      | some (name, value) =>
        if named.contains name then
          match o.give? name value with
          | some o => readOptions named rest o
          | none => none
        else none
      | none => none

/-- The command that arguments stand for; none if they are misused. -/
def ofArguments? : List String → Option Command
  | "translate" :: rest => do
    let o ← readOptions ["--criteria", "--config"] rest {}
    let criteria ← o.value? "--criteria"
    some (translate criteria (o.value? "--config") o.asJson)
  | "render" :: rest => do
    let o ← readOptions ["--criteria", "--config", "--table", "--dialect"] rest {}
    let criteria ← o.value? "--criteria"
    some (render criteria (o.value? "--config") (o.value? "--table") (o.value? "--dialect")
      o.asJson)
  | _ => none

end Command

end QueryCriteria
