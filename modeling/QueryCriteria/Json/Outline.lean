import QueryCriteria.Json.Numeral
import QueryCriteria.Text.Hexadecimal

/-!
The outline of a JSON text: the tree of what stands in it, up to the first place where no text of
this shape can go on.

Reading a document has two kinds of trouble, a text that is no JSON and a value that does not fit
where it stands, and the one that comes first in the text counts. An outline keeps the faults of
the text in their places in the tree, so a walk over it in text order meets them in turn with the
complaints about the values. For the same reason a faulty string or number stays a
leaf: a walk that only passes over a value is content with less than one that reads it. A lone
half of a surrogate pair and a number too large for a double are faults to a reader only.

`Outline.json` reads a whole value, `Outline.skip` passes over one. Reading allows for a limited
number of containers inside each other, passing over does not count them.
-/

namespace QueryCriteria.Json

inductive Outline where
  /-- The text ends where a value should start. -/
  | absent
  /-- A string: what it reads as, and the fault that ends the text inside it, if there is one. -/
  | text (read : Except Fault String) (stop : Option Fault)
  /-- A null, a truth value or a number, or something that starts no value at all. -/
  | leaf (read : Except Fault Json) (stop : Option Fault)
  /-- The items, and the fault that stands in place of the closing bracket, if there is one. -/
  | array (items : List Outline) (stop : Option Fault)
  /-- Keys and values. What stands in a key's place may be no string. -/
  | object (members : List (Outline × Outline)) (stop : Option Fault)

namespace Outline

/-- The blanks of JSON. -/
def isSpace (c : Char) : Bool := c == ' ' || c == '\n' || c == '\t' || c == '\r'

def skipSpace (s : List Char) : List Char := s.dropWhile isSpace

/-- A leaf at which the text stops. -/
def stopped (f : Fault) : Outline := .leaf (.error f) (some f)

/-! ## Strings -/

/-- A string under way: what is read of it, and the text after its closing quote. -/
structure Scan where
  read : Except Fault (List Char)
  rest : Except Fault (List Char)

/-- The text stops inside the string. -/
def Scan.stop (f : Fault) : Scan := ⟨.error f, .error f⟩

/-- A character before what was scanned. -/
def Scan.push (c : Char) (x : Scan) : Scan := ⟨x.read.map (c :: ·), x.rest⟩

/-- A reader stops here, but the string goes on. -/
def Scan.unreadable (x : Scan) : Scan := ⟨.error .malformed, x.rest⟩

/-- The character meant by a letter after a backslash. -/
def escape? : Char → Option Char
  | '"' => some '"'
  | '\\' => some '\\'
  | '/' => some '/'
  | 'b' => some '\x08'
  | 'f' => some '\x0c'
  | 'n' => some '\n'
  | 'r' => some '\r'
  | 't' => some '\t'
  | _ => none

/-- The fault of an escape by number that has fewer than four characters left: the text ends
before the four bytes that the digits need, or one of these characters is no digit. -/
def quadFault (s : List Char) : Fault :=
  if s.foldl (fun n c => n + c.utf8Size) 0 < 4 then .cut else .malformed

def isHighSurrogate (n : Nat) : Bool := 0xD800 ≤ n && n ≤ 0xDBFF

def isLowSurrogate (n : Nat) : Bool := 0xDC00 ≤ n && n ≤ 0xDFFF

/-- An escape by number, after an open first half of a surrogate pair or none: the character it
completes, or the half it leaves open; an error where a half stays alone. -/
def joinSurrogates (half : Option Nat) (n : Nat) : Except Fault (Option Char × Option Nat) :=
  match half with
  | some high =>
    if isLowSurrogate n then
      .ok (some (Char.ofNat ((high - 0xD800) * 0x400 + (n - 0xDC00) + 0x10000)), none)
    else .error .malformed
  | none =>
    if isLowSurrogate n then .error .malformed
    else if isHighSurrogate n then .ok (none, some n)
    else .ok (some (Char.ofNat n), none)

/-- Scans a string after its opening quote. `half` is an open first half of a surrogate pair. -/
def scanString (half : Option Nat) : List Char → Scan
  | [] => .stop .cut
  | '"' :: s => if half.isSome then ⟨.error .malformed, .ok s⟩ else ⟨.ok [], .ok s⟩
  | ['\\'] => .stop .cut
  | '\\' :: 'u' :: a :: b :: c :: d :: s =>
    match Text.ofHex? [a, b, c, d] with
    | none => .stop .malformed
    | some n =>
      match joinSurrogates half n with
      | .error _ => (scanString none s).unreadable
      | .ok (some ch, next) => (scanString next s).push ch
      | .ok (none, next) => scanString next s
  | '\\' :: 'u' :: s => .stop (quadFault s)
  | '\\' :: e :: s =>
    match escape? e with
    | none => .stop .malformed
    | some c => if half.isSome then (scanString none s).unreadable else (scanString none s).push c
  | c :: s =>
    if c.toNat < 0x20 then .stop .malformed
    else if half.isSome then (scanString none s).unreadable
    else (scanString none s).push c

/-- The outline of a scanned string. -/
def ofScan (x : Scan) : Outline :=
  .text (x.read.map String.ofList) (match x.rest with | .error f => some f | .ok _ => none)

/-! ## Whole texts -/

/-- The letters of a name that are still to come. -/
def scanName : List Char → List Char → Except Fault (List Char)
  | [], s => .ok s
  | _ :: _, [] => .error .cut
  | n :: name, c :: s => if c = n then scanName name s else .error .malformed

/-- A leaf and the text after it. -/
def named (value : Json) (name s : List Char) : Outline × Option (List Char) :=
  match scanName name s with
  | .ok rest => (.leaf (.ok value) none, some rest)
  | .error f => (stopped f, none)

/-- A number and the text after it. Whoever passes over a number that breaks off takes it for
malformed. -/
def numeral (s : List Char) : Outline × Option (List Char) :=
  match Numeral.read s with
  | .ok (n, rest) => (.leaf n.value none, some rest)
  | .error f => (.leaf (.error f) (some .malformed), none)

mutual

/-- The outline of the value at the start of a text, and the text after it if the value is
complete. The number bounds the steps; twice the length of the text and two more are enough. -/
def scanValue : Nat → List Char → Outline × Option (List Char)
  | 0, _ => (.absent, none)
  | fuel + 1, s =>
    match skipSpace s with
    | [] => (.absent, none)
    | '"' :: s =>
      let x := scanString none s
      (ofScan x, x.rest.toOption)
    | 'n' :: s => named .null ['u', 'l', 'l'] s
    | 't' :: s => named (.bool true) ['r', 'u', 'e'] s
    | 'f' :: s => named (.bool false) ['a', 'l', 's', 'e'] s
    | '[' :: s =>
      match skipSpace s with
      | ']' :: s => (.array [] none, some s)
      | s =>
        let (items, stop, rest) := scanItems fuel s
        (.array items stop, rest)
    | '{' :: s =>
      match skipSpace s with
      | '}' :: s => (.object [] none, some s)
      | s =>
        let (members, stop, rest) := scanMembers fuel s
        (.object members stop, rest)
    | c :: s =>
      if c == '-' || c.isDigit then numeral (c :: s) else (stopped .malformed, none)

/-- Items up to the closing bracket; at least one must follow. -/
def scanItems : Nat → List Char → List Outline × Option Fault × Option (List Char)
  | 0, _ => ([], some .cut, none)
  | fuel + 1, s =>
    match scanValue fuel s with
    | (item, none) => ([item], some .malformed, none)
    | (item, some s) =>
      match skipSpace s with
      | [] => ([item], some .cut, none)
      | ']' :: s => ([item], none, some s)
      | ',' :: s =>
        let (items, stop, rest) := scanItems fuel s
        (item :: items, stop, rest)
      | _ => ([item], some .malformed, none)

/-- Members up to the closing brace; at least one must follow. -/
def scanMembers : Nat → List Char → List (Outline × Outline) × Option Fault × Option (List Char)
  | 0, _ => ([], some .cut, none)
  | fuel + 1, s =>
    match skipSpace s with
    | '"' :: s =>
      let x := scanString none s
      match x.rest with
      | .error f => ([(ofScan x, .absent)], some f, none)
      | .ok s =>
        match skipSpace s with
        | [] => ([(ofScan x, .absent)], some .cut, none)
        | ':' :: s =>
          match scanValue fuel s with
          | (value, none) => ([(ofScan x, value)], some .malformed, none)
          | (value, some s) =>
            match skipSpace s with
            | [] => ([(ofScan x, value)], some .cut, none)
            | '}' :: s => ([(ofScan x, value)], none, some s)
            | ',' :: s =>
              let (members, stop, rest) := scanMembers fuel s
              ((ofScan x, value) :: members, stop, rest)
            | _ => ([(ofScan x, value)], some .malformed, none)
        | _ => ([(ofScan x, stopped .malformed)], some .malformed, none)
    | s => ([((scanValue fuel s).1, .absent)], some .malformed, none)

end

/-- The outline of a text, and the text after it if its value is complete. -/
def ofText (s : String) : Outline × Option (List Char) :=
  let chars := s.toList
  scanValue (2 * chars.length + 2) chars

/-! ## Reading and passing over -/

/-- The fault that stands in place of a closing bracket, if there is one. -/
def closed : Option Fault → Except Fault Unit
  | none => .ok ()
  | some f => .error f

/-- How many containers may stand inside each other. -/
def depthLimit : Nat := 127

/-- A key: a string in its place. -/
def key : Outline → Except Fault String
  | text read _ => read
  | absent => .error .cut
  | _ => .error .malformed

mutual

/-- Reads a whole value in which at most so many containers stand inside each other. -/
def json (depth : Nat) : Outline → Except Fault Json
  | absent => .error .cut
  | text read _ => read.map .text
  | leaf read _ => read
  | array items stop =>
    if depth = 0 then .error .malformed
    else do
      let items ← jsonItems (depth - 1) items
      closed stop
      pure (.array items)
  | object members stop =>
    if depth = 0 then .error .malformed
    else do
      let members ← jsonMembers (depth - 1) members
      closed stop
      pure (.object members)

def jsonItems (depth : Nat) : List Outline → Except Fault (List Json)
  | [] => pure []
  | item :: rest => do
    let j ← json depth item
    pure (j :: (← jsonItems depth rest))

def jsonMembers (depth : Nat) : List (Outline × Outline) → Except Fault (List (String × Json))
  | [] => pure []
  | (k, item) :: rest => do
    let k ← k.key
    let j ← json depth item
    pure ((k, j) :: (← jsonMembers depth rest))

end

mutual

/-- Passes over a value without reading it. -/
def skip : Outline → Except Fault Unit
  | absent => .error .cut
  | text _ stop => closed stop
  | leaf _ stop => closed stop
  | array items stop => do
    skipItems items
    closed stop
  | object members stop => do
    skipMembers members
    closed stop

def skipItems : List Outline → Except Fault Unit
  | [] => pure ()
  | item :: rest => do
    skip item
    skipItems rest

def skipMembers : List (Outline × Outline) → Except Fault Unit
  | [] => pure ()
  | (k, item) :: rest => do
    match k with
    | text _ stop => closed stop
    | absent => throw .cut
    | _ => throw .malformed
    skip item
    skipMembers rest

end

mutual

/-- The outline of a value that was read before: nothing in it is faulty. -/
def ofJson : Json → Outline
  | .text s => .text (.ok s) none
  | .array items => .array (ofItems items) none
  | .object members => .object (ofMembers members) none
  | j => .leaf (.ok j) none

def ofItems : List Json → List Outline
  | [] => []
  | j :: rest => ofJson j :: ofItems rest

def ofMembers : List (String × Json) → List (Outline × Outline)
  | [] => []
  | (k, j) :: rest => (.text (.ok k) none, ofJson j) :: ofMembers rest

end

end Outline

end QueryCriteria.Json
