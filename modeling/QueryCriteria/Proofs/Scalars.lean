import QueryCriteria.Proofs.Conversion

/-!
JSON scalars as values, and values as JSON.

Whatever is neither a container nor null becomes a value, and what it becomes is written as the
same JSON again. Whole numbers from 2 to the power of 63 on are the exception: no value stands for
them (`Value.toJson_eq_whole_iff`). They become doubles, and neighbours become the same one
(`Value.ofJson_aboveSigned`). So a document's operand is carried over unchanged if it is `Exact` in
all its parts, and in no other case (`Operand.toJson?_eq_iff`).

The other way round a value comes back unless JSON lacks its kind: UUIDs, dates and timestamps are
written as texts and stay texts, and a double that is not finite is written as null and does not
come back (`Value.ofJson_toJson`).
-/

namespace QueryCriteria

/-! ## Whole numbers in sixty-four bits -/

namespace Json

/-- The whole number fits in sixty-four bits with a sign. -/
def Whole.Signed (n : Whole) : Prop := n.val < 9223372036854775808

instance (n : Whole) : Decidable n.Signed := inferInstanceAs (Decidable (_ < _))

/-- No whole number is beyond the signed ones. -/
def Exact : Json → Prop
  | whole n => n.Signed
  | _ => True

theorem Whole.ofInt64_eq_iff {i : Int64} {n : Whole} : ofInt64 i = n ↔ i.toInt = n.val := by
  constructor
  · rintro rfl
    rfl
  · intro h
    cases n
    cases h
    rfl

/-- The signed words and the signed whole numbers are the same integers. -/
theorem Whole.toInt64?_eq_some_iff {n : Whole} {i : Int64} :
    n.toInt64? = some i ↔ i.toInt = n.val := by
  unfold toInt64?
  split
  · next hsigned =>
    have hback : (Int64.ofInt n.val).toInt = n.val := Int64.toInt_ofInt_of_le n.low hsigned
    rw [Option.some.injEq]
    constructor
    · rintro rfl
      exact hback
    · exact fun h => Int64.toInt.inj (hback.trans h.symm)
  · next hlarge =>
    have hi := i.toInt_lt
    refine ⟨(fun h => nomatch h), fun h => absurd ?_ hlarge⟩
    omega

theorem Whole.toInt64?_eq_none_iff {n : Whole} : n.toInt64? = none ↔ ¬ n.Signed := by
  unfold toInt64? Signed
  split <;> simp_all

theorem Whole.exists_toInt_iff {n : Whole} : (∃ i : Int64, i.toInt = n.val) ↔ n.Signed := by
  simp only [← toInt64?_eq_some_iff]
  rw [← Option.isSome_iff_exists, Option.isSome_iff_ne_none, ne_eq, toInt64?_eq_none_iff,
    Decidable.not_not]

end Json

/-! ## There and back -/

namespace Value

theorem toJson_float (x : Float) :
    (float x).toJson =
      if h : x.isFinite = true then .fraction ⟨x, h⟩ else .null := by
  unfold toJson Json.Fraction.of?
  by_cases hx : x.isFinite = true
  · simp [hx]
  · simp [hx]

/-- Integers alone are written as whole numbers. -/
theorem toJson_eq_whole_iff {v : Value} {n : Json.Whole} :
    v.toJson = .whole n ↔ ∃ i, v = .int i ∧ i.toInt = n.val := by
  cases v with
  | int i => simp [toJson, Json.Whole.ofInt64_eq_iff]
  | float x =>
    rw [toJson_float]
    split <;> simp
  | _ => simp [toJson]

/-- A whole number becomes itself, or the double next to it. -/
theorem ofJson_whole (n : Json.Whole) :
    (∃ i, i.toInt = n.val ∧ ofJson (.whole n) = .ok (.int i)) ∨
      ¬ n.Signed ∧ ofJson (.whole n) = .ok (.float (Float.ofNat n.val.toNat)) := by
  have hwhole : ofJson (.whole n) = .ok (ofWhole n) := rfl
  rw [hwhole, ofWhole]
  cases hn : n.toInt64? with
  | some i => exact .inl ⟨i, Json.Whole.toInt64?_eq_some_iff.1 hn, rfl⟩
  | none => exact .inr ⟨Json.Whole.toInt64?_eq_none_iff.1 hn, rfl⟩

/-- A scalar is itself again after a turn as a value if it is exact. -/
theorem toJson_eq_iff {j : Json} {v : Value} (h : ofJson j = .ok v) : v.toJson = j ↔ j.Exact := by
  cases j with
  | whole n =>
    show _ ↔ n.Signed
    rw [toJson_eq_whole_iff, ← Json.Whole.exists_toInt_iff]
    constructor
    · rintro ⟨i, -, hi⟩
      exact ⟨i, hi⟩
    · intro hsigned
      rcases ofJson_whole n with ⟨i, hi, hof⟩ | ⟨hlarge, -⟩
      · rw [hof] at h
        exact ⟨i, (Except.ok.inj h).symm, hi⟩
      · exact absurd (Json.Whole.exists_toInt_iff.1 hsigned) hlarge
  | fraction x =>
    cases h
    simp [toJson, Json.Fraction.of?_val, Json.Exact]
  | bool b =>
    cases h
    simp [toJson, Json.Exact]
  | text s =>
    cases h
    simp [toJson, plain, Json.Exact]
  | null => cases h
  | array items => cases h
  | object members => cases h

/-- What a value becomes that is written as JSON and read again. -/
def returned : Value → Except CriteriaError Value
  | int n => .ok (.int n)
  | bool b => .ok (.bool b)
  | text s => .ok (.text s)
  | float x => if x.isFinite = true then .ok (.float x) else .error (.unsupportedValue "null")
  | v => .ok (.text v.plain)

theorem ofJson_toJson (v : Value) : ofJson v.toJson = v.returned := by
  cases v with
  | int i =>
    have hi : (Json.Whole.ofInt64 i).toInt64? = some i := Json.Whole.toInt64?_eq_some_iff.2 rfl
    simp only [toJson, ofJson, ofWhole, hi, returned]
  | float x =>
    rw [toJson_float, returned]
    split
    · rfl
    · rfl
  | _ => rfl

end Value

/-! ## The operands of a document -/

/-- The operand as JSON. -/
def Operand.toJson? : Operand → Option Json
  | none => .none
  | scalar v => some v.toJson
  | list vs => some (.array (vs.map Value.toJson))

theorem Value.map_toJson_eq_iff {items : List Json} {vs : List Value}
    (h : List.Forall₂ (fun j v => ofJson j = .ok v) items vs) :
    vs.map toJson = items ↔ ∀ j ∈ items, j.Exact := by
  induction h with
  | nil => simp
  | cons hj _ ih => rw [List.map_cons, List.cons.injEq, toJson_eq_iff hj, ih, List.forall_mem_cons]

/-- An operand is the same JSON that it came from if that is exact in all its parts. -/
theorem Operand.toJson?_eq_iff {value : Option Json} {x : Operand}
    (h : FilterDocument.operand value = .ok x) :
    x.toJson? = value ↔ ∀ j ∈ FilterDocument.partsOf value, j.Exact := by
  cases FilterDocument.operand_eq_ok_iff.1 h with
  | none => simp [toJson?, FilterDocument.partsOf]
  | list hvs => simp [toJson?, FilterDocument.partsOf, Value.map_toJson_eq_iff hvs]
  | @scalar j v hv =>
    have hscalar := Value.exists_ofJson_iff.1 ⟨v, hv⟩
    rw [FilterDocument.partsOf_some fun items hj => by rw [hj] at hscalar; exact hscalar,
      List.forall_mem_singleton, ← Value.toJson_eq_iff hv, toJson?, Option.some.injEq]

/-! ## The main statement -/

namespace Value

/-- Just the scalars become values. What they become is written as the same JSON unless it is a
whole number beyond the signed ones, and this goes for the operands of documents. The other way
round values come back in the kinds that JSON has. -/
theorem json_roundTrip (j : Json) (v : Value) :
    ((∃ w, ofJson j = .ok w) ↔ j.IsScalar) ∧
      (∀ w, ofJson j = .ok w → (w.toJson = j ↔ j.Exact)) ∧
      (∀ n, j = .whole n → (∃ i, i.toInt = n.val ∧ ofJson j = .ok (.int i)) ∨
        ¬ n.Signed ∧ ofJson j = .ok (.float (Float.ofNat n.val.toNat)) ∧
          ∀ w : Value, w.toJson ≠ j) ∧
      (∀ x, FilterDocument.operand (some j) = .ok x →
        (x.toJson? = some j ↔ ∀ part ∈ FilterDocument.partsOf (some j), part.Exact)) ∧
      ofJson v.toJson = v.returned := by
  refine ⟨exists_ofJson_iff, fun w => toJson_eq_iff, ?_, fun x => Operand.toJson?_eq_iff,
    ofJson_toJson v⟩
  rintro n rfl
  refine (ofJson_whole n).imp id fun ⟨hlarge, hof⟩ => ⟨hlarge, hof, fun w hw => hlarge ?_⟩
  obtain ⟨i, -, hi⟩ := toJson_eq_whole_iff.1 hw
  exact Json.Whole.exists_toInt_iff.1 ⟨i, hi⟩

/-- The first whole number that is not signed, and the one after it. -/
def aboveSigned : Json.Whole × Json.Whole :=
  (⟨9223372036854775808, by decide, by decide⟩, ⟨9223372036854775809, by decide, by decide⟩)

/-- Both become one double, and what that is written as is neither of the two. -/
theorem ofJson_aboveSigned :
    ∃ x, ofJson (.whole aboveSigned.1) = .ok (.float x) ∧
      ofJson (.whole aboveSigned.2) = .ok (.float x) ∧
        (float x).toJson ≠ .whole aboveSigned.1 ∧ (float x).toJson ≠ .whole aboveSigned.2 := by
  have hround : Float.ofNat 9223372036854775809 = Float.ofNat 9223372036854775808 := by
    decide +kernel
  have hwhole : ∀ n, (float (Float.ofNat 9223372036854775808)).toJson ≠ .whole n := by
    intro n hn
    obtain ⟨i, hi, -⟩ := toJson_eq_whole_iff.1 hn
    cases hi
  refine ⟨Float.ofNat 9223372036854775808, rfl, ?_, hwhole _, hwhole _⟩
  rw [← hround]
  rfl

end Value

end QueryCriteria
