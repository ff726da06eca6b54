/-!
JSON values. Numbers are of two kinds that never mix: whole numbers, which fit in sixty-four bits
with or without a sign, and finite doubles. An object keeps its members as they were written, in
order and with repeated keys; `canonical` sorts them by key and lets the last of equal keys win.
-/

namespace QueryCriteria

namespace Json

/-- A whole number that fits in sixty-four bits, with or without a sign. -/
structure Whole where
  val : Int
  low : -9223372036854775808 ≤ val
  high : val < 18446744073709551616
  deriving DecidableEq

/-- A finite double. -/
structure Fraction where
  val : Float
  finite : val.isFinite = true
  deriving DecidableEq

def Whole.of? (n : Int) : Option Whole :=
  if h : -9223372036854775808 ≤ n ∧ n < 18446744073709551616 then some ⟨n, h.1, h.2⟩
  else none

def Fraction.of? (x : Float) : Option Fraction :=
  if h : x.isFinite = true then some ⟨x, h⟩ else none

theorem Whole.of?_val (n : Whole) : Whole.of? n.val = some n := dif_pos ⟨n.low, n.high⟩

theorem Fraction.of?_val (x : Fraction) : Fraction.of? x.val = some x := dif_pos x.finite

/-- The whole number of a signed word. -/
def Whole.ofInt64 (n : Int64) : Whole :=
  ⟨n.toInt, n.le_toInt, by have := n.toInt_lt; omega⟩

/-- The whole number of an unsigned word. -/
def Whole.ofUInt64 (n : UInt64) : Whole :=
  ⟨n.toNat, by omega, by have := n.toNat_lt; omega⟩

/-- The signed word of a whole number, if it fits in one. -/
def Whole.toInt64? (n : Whole) : Option Int64 :=
  if n.val < 9223372036854775808 then some (Int64.ofInt n.val) else none

end Json

/-- A JSON value. -/
inductive Json where
  | null
  | bool (b : Bool)
  | whole (n : Json.Whole)
  | fraction (x : Json.Fraction)
  | text (s : String)
  | array (items : List Json)
  | object (members : List (String × Json))

namespace Json

/-- Puts a member into sorted members; one of the same key is replaced. -/
def insertMember (key : String) (value : Json) :
    List (String × Json) → List (String × Json)
  | [] => [(key, value)]
  | m :: rest =>
    if key < m.1 then (key, value) :: m :: rest
    else if key = m.1 then (key, value) :: rest
    else m :: insertMember key value rest

/-- Members sorted by key, the last of equal keys alone. Keys are ordered by code point. -/
def sortMembers (members : List (String × Json)) : List (String × Json) :=
  members.foldl (fun sorted m => insertMember m.1 m.2 sorted) []

mutual

/-- The value with the members of every object sorted and without repeated keys. -/
def canonical : Json → Json
  | array items => array (canonicalItems items)
  | object members => object (sortMembers (canonicalMembers members))
  | j => j

def canonicalItems : List Json → List Json
  | [] => []
  | j :: rest => canonical j :: canonicalItems rest

def canonicalMembers : List (String × Json) → List (String × Json)
  | [] => []
  | (key, j) :: rest => (key, canonical j) :: canonicalMembers rest

end

/-- An object from its members, in canonical order. -/
def ofMembers (members : List (String × Json)) : Json := object (sortMembers members)

end Json

end QueryCriteria
