import QueryCriteria.Json.Mismatch

/-!
Reading typed values off an outline, in the order of the text.

A reader that meets a value of another kind complains about the kind, but it has to read a scalar
to name it, so a fault inside the scalar comes first. A list or a record goes through its parts in
turn. Records may be written as objects or as arrays of their fields in order; fields left out of
either form take what the blank record has, if they may be left out.
-/

namespace QueryCriteria.Json

/-- Where an outline comes from: a text, in which a record with too many parts breaks the text
off, or a value that was read before, in which it is a mismatch. -/
inductive Origin where
  | text
  | value
  deriving DecidableEq, Repr

abbrev Read (α : Type) := Except ReadError α

def Read.fault {α : Type} (f : Fault) : Read α := .error (.fault f)

def Read.mismatch {α : Type} (m : Mismatch) : Read α := .error (.mismatch m)

/-- A result in which only the text can be at fault. -/
def Read.ofFault {α : Type} : Except Fault α → Read α
  | .ok a => .ok a
  | .error f => .error (.fault f)

/-- One container further in, if there is room for it. -/
def enter : Nat → Read Nat
  | 0 => .fault .malformed
  | room + 1 => .ok room

namespace Outline

/-- What stands here, as a message names it. -/
def found : Outline → Except Fault Found
  | absent => .error .cut
  | text read _ => read.map .text
  | leaf read _ => read.map fun
    | .bool b => .bool b
    | .whole n => .whole n.val
    | .fraction x => .fraction x.val
    | .text s => .text s
    | .array _ => .sequence
    | .object _ => .map
    | .null => .null
  | array _ _ => .ok .sequence
  | object _ _ => .ok .map

/-- The complaint about a value of the wrong kind. -/
def unexpected {α : Type} (o : Outline) (expected : String) : Read α :=
  match o.found with
  | .ok x => .mismatch (.invalidType x expected)
  | .error f => .fault f

def readText : Outline → Read String
  | text read _ => .ofFault read
  | o => o.unexpected "a string"

/-- An unsigned number of sixty-four bits. -/
def readCount (o : Outline) : Read UInt64 :=
  match o with
  | leaf (.ok (.whole n)) _ =>
    if 0 ≤ n.val then .ok (UInt64.ofNat n.val.toNat)
    else .mismatch (.invalidValue (.whole n.val) "u64")
  | o => o.unexpected "u64"

/-- A value that may be null. -/
def readOptional {α : Type} (read : Outline → Read α) (o : Outline) : Read (Option α) :=
  match o with
  | leaf (.ok .null) _ => .ok none
  | o => (read o).map some

/-- A list whose items are read with the room inside it. -/
def readList {α : Type} (read : Nat → Outline → Read α) (room : Nat) (o : Outline) :
    Read (List α) :=
  match o with
  | array items stop => do
    let room ← enter room
    let values ← items.mapM (read room)
    Read.ofFault (closed stop)
    pure values
  | o => o.unexpected "a sequence"

/-- An object as keys and values. -/
def readMembers {α : Type} (read : Nat → Outline → Read α) (room : Nat) (o : Outline) :
    Read (List (String × α)) :=
  match o with
  | object members stop => do
    let room ← enter room
    let values ← members.mapM fun m => do
      let key ← Read.ofFault m.1.key
      pure (key, ← read room m.2)
    Read.ofFault (closed stop)
    pure values
  | o => o.unexpected "a map"

end Outline

/-- A field of a record under construction. -/
structure Field (ρ : Type) where
  name : String
  required : Bool := false
  isSet : ρ → Bool
  read : Nat → Outline → ρ → Read ρ

/-- The fields of a record and what is expected where it stands. -/
structure Shape (ρ : Type) where
  title : String
  fields : List (Field ρ)
  /-- Whether fields of other names are refused; if not, they are passed over. -/
  strict : Bool

namespace Shape

variable {ρ : Type}

/-- What an array with too few items for a record should have been. -/
def asArray (s : Shape ρ) : String :=
  s.title ++ " with " ++ toString s.fields.length ++ " elements"

/-- Reads fields from items in order. `index` is the number of the first of the fields. -/
def readItems (s : Shape ρ) (stop : Option Fault) (extra : Read ρ) (room : Nat) :
    Nat → List (Field ρ) → List Outline → ρ → Read ρ
  | _, [], [], r => do
    Read.ofFault (Outline.closed stop)
    pure r
  | _, [], _ :: _, _ => extra
  | index, f :: fields, [], r => do
    Read.ofFault (Outline.closed stop)
    if f.required then Read.mismatch (.invalidLength index s.asArray)
    else s.readItems stop extra room (index + 1) fields [] r
  | index, f :: fields, item :: items, r => do
    let r ← f.read room item r
    s.readItems stop extra room (index + 1) fields items r

/-- Reads members in the order in which they stand. -/
def readMembers (s : Shape ρ) (room : Nat) : List (Outline × Outline) → ρ → Read ρ
  | [], r => pure r
  | (k, o) :: rest, r => do
    let key ← Read.ofFault k.key
    match s.fields.find? (·.name == key) with
    | some f =>
      if f.isSet r then Read.mismatch (.duplicateField key)
      else
        let r ← f.read room o r
        s.readMembers room rest r
    | none =>
      if s.strict then Read.mismatch (.unknownField key (s.fields.map (·.name)))
      else
        Read.ofFault o.skip
        s.readMembers room rest r

/-- Reads a record, starting from a blank one. -/
def read (s : Shape ρ) (origin : Origin) (blank : ρ) (room : Nat) (o : Outline) : Read ρ :=
  match o with
  | .array items stop => do
    let room ← enter room
    let extra : Read ρ :=
      match origin with
      | .text => .fault .malformed
      | .value => .mismatch (.invalidLength items.length "fewer elements in array")
    s.readItems stop extra room 0 s.fields items blank
  | .object members stop => do
    let room ← enter room
    let r ← s.readMembers room members blank
    Read.ofFault (Outline.closed stop)
    match s.fields.find? fun f => f.required && !f.isSet r with
    | some f => Read.mismatch (.missingField f.name)
    | none => pure r
  | o => o.unexpected s.title

end Shape

/-- Reads a text that holds one value and nothing after it. -/
def readText {α : Type} (read : Outline → Read α) (s : String) : Read α := do
  let (o, rest) := Outline.ofText s
  let a ← read o
  match rest with
  | none => Read.fault .cut
  | some rest => if (Outline.skipSpace rest).isEmpty then pure a else Read.fault .malformed

/-- The JSON value of a text. -/
def ofText (s : String) : Read Json := readText (fun o => .ofFault (o.json Outline.depthLimit)) s

end QueryCriteria.Json
