import QueryCriteria.Decimal.Layout
import QueryCriteria.Json.Basic

/-!
JSON text of a value, in two forms: compact, without any blanks, and pretty, one item or member
to a line and two blanks of indentation for each level. Members are written in the order in which
the object holds them.
-/

namespace QueryCriteria.Json

/-- A character of a JSON string. Quote, backslash and the controls below U+0020 are escaped. -/
def escapedChar (c : Char) : List Char :=
  match c with
  | '"' => ['\\', '"']
  | '\\' => ['\\', '\\']
  | '\x08' => ['\\', 'b']
  | '\t' => ['\\', 't']
  | '\n' => ['\\', 'n']
  | '\x0c' => ['\\', 'f']
  | '\r' => ['\\', 'r']
  | c =>
    if c.toNat < 0x20 then
      ['\\', 'u', '0', '0', Nat.digitChar (c.toNat / 16), Nat.digitChar (c.toNat % 16)]
    else [c]

/-- A JSON string. -/
def quoted (s : String) : String := String.ofList ('"' :: s.toList.flatMap escapedChar ++ ['"'])

/-- Text between a pair of brackets, the parts joined by a comma. -/
def bracketed (opening closing : String) (parts : List String) : String :=
  opening ++ ",".intercalate parts ++ closing

def openBrace : String := "\x7b"

def closeBrace : String := "\x7d"

mutual

/-- The text without blanks. -/
def compact : Json → String
  | null => "null"
  | bool true => "true"
  | bool false => "false"
  | whole n => toString n.val
  | fraction x => Decimal.json.text x.val
  | text s => quoted s
  | array items => bracketed "[" "]" (compactItems items)
  | object members => bracketed openBrace closeBrace (compactMembers members)

def compactItems : List Json → List String
  | [] => []
  | j :: rest => compact j :: compactItems rest

def compactMembers : List (String × Json) → List String
  | [] => []
  | (key, j) :: rest => (quoted key ++ ":" ++ compact j) :: compactMembers rest

end

/-- A line break and the indentation of a level. -/
def newLine (level : Nat) : String := String.ofList ('\n' :: List.replicate (2 * level) ' ')

/-- Parts on lines of their own, one level further in than the brackets around them; without
parts the brackets stand alone. -/
def block (opening closing : String) (level : Nat) (parts : List String) : String :=
  if parts.isEmpty then opening ++ closing
  else
    opening ++ newLine (level + 1) ++ (("," ++ newLine (level + 1)).intercalate parts)
      ++ newLine level ++ closing

mutual

/-- The text over several lines, its brackets indented to a level. -/
def prettyAt (level : Nat) : Json → String
  | array items => block "[" "]" level (prettyItems (level + 1) items)
  | object members => block openBrace closeBrace level (prettyMembers (level + 1) members)
  | j => compact j

def prettyItems (level : Nat) : List Json → List String
  | [] => []
  | j :: rest => prettyAt level j :: prettyItems level rest

def prettyMembers (level : Nat) : List (String × Json) → List String
  | [] => []
  | (key, j) :: rest => (quoted key ++ ": " ++ prettyAt level j) :: prettyMembers level rest

end

/-- The text over several lines. -/
def pretty (j : Json) : String := prettyAt 0 j

end QueryCriteria.Json
