import QueryCriteria.Text.Quoted

/-!
The SQL dialects and all that differs between them: the mark around names, the placeholder of a
positional parameter, and the window of rows.
-/

namespace QueryCriteria.Sql

inductive Dialect where
  | postgres
  | mysql
  deriving DecidableEq, Repr

namespace Dialect

def name : Dialect → String
  | postgres => "PostgreSQL"
  | mysql => "MySQL"

/-- The dialect that a user calls by one of its names, in any ASCII case. -/
def ofText? (s : String) : Option Dialect :=
  match String.ofList (s.toList.map Char.toLower) with
  | "postgres" | "postgresql" | "pg" => some postgres
  | "mysql" | "mariadb" => some mysql
  | _ => none

/-- The mark that names stand between. -/
def mark : Dialect → Char
  | postgres => '"'
  | mysql => '`'

/-- A name between its marks. -/
def quote (d : Dialect) (s : List Char) : List Char := Text.enclose d.mark s

/-- The placeholder of the parameter with this index, counted from 0. -/
def placeholder (d : Dialect) (index : Nat) : List Char :=
  match d with
  | postgres => '$' :: Nat.toDigits 10 (index + 1)
  | mysql => ['?']

/-- A word and a number after it, both with a blank before them; nothing without a number. -/
def clause (word : String) : Option UInt64 → List Char
  | none => []
  | some n => ' ' :: word.toList ++ ' ' :: Nat.toDigits 10 n.toNat

/-- The window of rows. MySQL has no offset without a limit, so the largest limit there is stands
for no limit. -/
def window (d : Dialect) (limit offset : Option UInt64) : List Char :=
  let limit := if d = mysql && limit.isNone && offset.isSome then some (-1) else limit
  clause "LIMIT" limit ++ clause "OFFSET" offset

/-- The window of rows as it reads, with the largest limit spelled out. -/
def windowText (d : Dialect) : Option UInt64 → Option UInt64 → List Char
  | none, none => []
  | some n, none => " LIMIT ".toList ++ Nat.toDigits 10 n.toNat
  | some n, some m =>
    " LIMIT ".toList ++ Nat.toDigits 10 n.toNat ++ " OFFSET ".toList ++ Nat.toDigits 10 m.toNat
  | none, some m =>
    match d with
    | postgres => " OFFSET ".toList ++ Nat.toDigits 10 m.toNat
    | mysql =>
      " LIMIT 18446744073709551615".toList ++ " OFFSET ".toList ++ Nat.toDigits 10 m.toNat

theorem window_eq_windowText (d : Dialect) (limit offset : Option UInt64) :
    d.window limit offset = d.windowText limit offset := by
  have hlimit (n : UInt64) :
      clause "LIMIT" (some n) = " LIMIT ".toList ++ Nat.toDigits 10 n.toNat := rfl
  have hoffset (m : UInt64) :
      clause "OFFSET" (some m) = " OFFSET ".toList ++ Nat.toDigits 10 m.toNat := rfl
  have hlargest : clause "LIMIT" (some (-1)) = " LIMIT 18446744073709551615".toList := by
    decide +kernel
  cases limit with
  | some n =>
    have hkept : d.window (some n) offset = clause "LIMIT" (some n) ++ clause "OFFSET" offset := by
      simp [window]
    rw [hkept, hlimit]
    cases offset with
    | none => exact List.append_nil _
    | some m =>
      rw [hoffset]
      exact (List.append_assoc ..).symm
  | none =>
    cases offset with
    | none => cases d <;> rfl
    | some m =>
      cases d with
      | postgres => exact hoffset m
      | mysql =>
        have hstandIn : mysql.window none (some m) =
            clause "LIMIT" (some (-1)) ++ clause "OFFSET" (some m) := rfl
        rw [hstandIn, hlargest, hoffset]
        exact (List.append_assoc ..).symm

end Dialect

end QueryCriteria.Sql
