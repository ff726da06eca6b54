import QueryCriteria.Sql.Dialect
import QueryCriteria.Value.Basic

/-!
A query before a dialect is chosen: the sequence of its tokens.

A token is either the same in every dialect, or a name to be quoted, or a slot for a positional
parameter, or the window of rows. A slot carries the value to be bound there, so the positional
parameters of a query are the values of its slots in order, and the number of a slot is the number
of slots before it. A fault is a placeholder that cannot be rendered; a sequence with a fault
renders to the first of its faults and to nothing else.

Because a sequence is put together by `++` alone, so are the parts of a query.
-/

namespace QueryCriteria.Sql

/-- Why a query cannot be rendered. -/
inductive RenderError where
  /-- A fragment refers to a name that no parameter has. -/
  | unboundParameter (name : String)
  /-- A parameter holds a list, and nothing says how to bind it. -/
  | untypedList (name : String)
  deriving DecidableEq, Repr

def RenderError.message : RenderError → String
  | unboundParameter name => "No value bound for parameter `" ++ name ++ "`"
  | untypedList name => "Parameter `" ++ name ++ "` holds a list but has no array type"

inductive Token where
  | text (s : List Char)
  | name (s : List Char)
  | slot (v : Value)
  | window (limit offset : Option UInt64)
  | fault (e : RenderError)
  deriving DecidableEq

namespace Token

def value? : Token → Option Value
  | slot v => some v
  | _ => none

def fault? : Token → Option RenderError
  | fault e => some e
  | _ => none

/-- The token in a dialect, when so many slots stand before it. -/
def print (d : Dialect) (before : Nat) : Token → List Char
  | text s => s
  | name s => d.quote s
  | slot _ => d.placeholder before
  | window limit offset => d.window limit offset
  | fault _ => []

end Token

/-- A word of SQL with what blanks belong to it. -/
def word (s : String) : Token := .text s.toList

/-- Sequences with one token between each two of them. -/
def joined (between : Token) (parts : List (List Token)) : List Token :=
  (parts.intersperse [between]).flatten

/-- A name, with another one and a dot before it if there is one. -/
def qualified (before : Option String) (name : String) : List Token :=
  match before with
  | none => [.name name.toList]
  | some q => [.name q.toList, word ".", .name name.toList]

/-- The values of the slots. -/
def slotValues (ts : List Token) : List Value := ts.filterMap Token.value?

/-- The first fault. -/
def firstFault? (ts : List Token) : Option RenderError := ts.findSome? Token.fault?

/-- The text of a sequence in a dialect, when so many slots stand before it. -/
def printFrom (d : Dialect) (before : Nat) : List Token → List Char
  | [] => []
  | t :: ts => t.print d before ++ printFrom d (before + (slotValues [t]).length) ts

/-- A rendered query: its text and the values of its positional parameters. -/
structure Query where
  sql : String
  parameters : List Value
  deriving DecidableEq

/-- Renders a sequence in a dialect. -/
def render (d : Dialect) (ts : List Token) : Except RenderError Query :=
  match firstFault? ts with
  | some e => .error e
  | none => .ok ⟨String.ofList (printFrom d 0 ts), slotValues ts⟩

theorem render_eq_ok_iff {d : Dialect} {ts : List Token} {r : Query} :
    render d ts = .ok r ↔
      firstFault? ts = none ∧ r = ⟨String.ofList (printFrom d 0 ts), slotValues ts⟩ := by
  unfold render
  cases firstFault? ts with
  | some e => exact ⟨nofun, fun h => nomatch h.1⟩
  | none => rw [Except.ok.injEq, eq_comm, and_iff_right rfl]

theorem render_eq_ok {d : Dialect} {ts : List Token} {r : Query} (h : render d ts = .ok r) :
    r.sql.toList = printFrom d 0 ts ∧ r.parameters = slotValues ts := by
  obtain ⟨-, rfl⟩ := render_eq_ok_iff.1 h
  exact ⟨String.toList_ofList, rfl⟩

/-! ## Sequences one after the other -/

theorem slotValues_append (ts us : List Token) :
    slotValues (ts ++ us) = slotValues ts ++ slotValues us := List.filterMap_append

theorem firstFault?_append (ts us : List Token) :
    firstFault? (ts ++ us) = (firstFault? ts).or (firstFault? us) := List.findSome?_append

theorem printFrom_append (d : Dialect) (n : Nat) (ts us : List Token) :
    printFrom d n (ts ++ us) =
      printFrom d n ts ++ printFrom d (n + (slotValues ts).length) us := by
  induction ts generalizing n with
  | nil => simp [printFrom, slotValues]
  | cons t ts ih =>
    have h : slotValues (t :: ts) = slotValues [t] ++ slotValues ts := slotValues_append [t] ts
    rw [List.cons_append, printFrom, ih, printFrom, h]
    simp [Nat.add_assoc]

end QueryCriteria.Sql
