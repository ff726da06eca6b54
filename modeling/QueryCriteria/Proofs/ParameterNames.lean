import QueryCriteria.Proofs.Execution

/-!
When the parameters of a session have names of their own.

A parameter is named after the field of its comparison with the number of the comparison right
behind it. A field may end in digits, so a name does not say where the field ends: the field `a1`
under the number 1 and the field `a` under the number 11 both give `a11`.

`Clashing` says exactly when that happens, without names: the earlier field is the later one with
the numeral of some `w` behind it, and the later number is `w` followed by the digits of the
earlier one. `parameterName_eq_iff` is the fact about two comparisons, `Session.collisionFree_iff`
the one about a session: its names are its own, each parameter is found under its name and no
binding replaces another one, if and only if no two comparisons that bind something clash.
`Session.not_collisionFree` is a session in which two do.
-/

namespace QueryCriteria

open Sql

/-! ## Numerals one behind the other -/

namespace Numeral

/-- The numeral of `w` and behind it the one of `i` is the numeral of the number they spell. -/
theorem toDigits_append {w : Nat} (hw : 0 < w) (i : Nat) :
    Nat.toDigits 10 w ++ Nat.toDigits 10 i =
      Nat.toDigits 10 (w * 10 ^ (Nat.toDigits 10 i).length + i) := by
  induction i using Nat.strongRecOn with
  | ind i ih =>
    by_cases hi : i < 10
    · rw [Nat.toDigits_append_toDigits (by decide) hw hi, Nat.toDigits_of_lt_base hi,
        List.length_singleton, Nat.pow_one, Nat.mul_comm]
    · have hq : i / 10 < i := by omega
      have hr : i % 10 < 10 := by omega
      have hsplit : Nat.toDigits 10 i = Nat.toDigits 10 (i / 10) ++ Nat.toDigits 10 (i % 10) := by
        rw [Nat.toDigits_of_base_le (by decide) (by omega), Nat.toDigits_of_lt_base hr]
      have hpos : 0 < w * 10 ^ (Nat.toDigits 10 (i / 10)).length + i / 10 := by
        have := Nat.mul_pos hw (Nat.pow_pos (n := (Nat.toDigits 10 (i / 10)).length)
          (show 0 < 10 by decide))
        omega
      have hlen : (Nat.toDigits 10 i).length = (Nat.toDigits 10 (i / 10)).length + 1 := by
        rw [hsplit, List.length_append, Nat.toDigits_of_lt_base hr, List.length_singleton]
      rw [hlen, hsplit, ← List.append_assoc, ih _ hq,
        Nat.toDigits_append_toDigits (by decide) hpos hr]
      congr 1
      have hdiv := Nat.div_add_mod i 10
      rw [Nat.pow_succ, ← Nat.mul_assoc]
      omega

/-- What stands before a numeral at the end of a longer one, read as a number. -/
theorem eq_of_toDigits_eq_append {i j : Nat} {u : List Char}
    (h : Nat.toDigits 10 j = u ++ Nat.toDigits 10 i) :
    j = Nat.ofDigitChars 10 u 0 * 10 ^ (Nat.toDigits 10 i).length + i := by
  have hj := Nat.ofDigitChars_ten_toDigits (n := j)
  rw [h, Nat.ofDigitChars_append, Nat.ofDigitChars_eq_ofDigitChars_zero,
    Nat.ofDigitChars_ten_toDigits, Nat.mul_comm] at hj
  exact hj.symm

/-- A numeral at the end of a longer one: what stands before it is a numeral. -/
theorem toDigits_eq_append_iff {i j : Nat} (hij : i < j) (u : List Char) :
    Nat.toDigits 10 j = u ++ Nat.toDigits 10 i ↔
      ∃ w, 0 < w ∧ u = Nat.toDigits 10 w ∧ j = w * 10 ^ (Nat.toDigits 10 i).length + i := by
  constructor
  · intro h
    have hj := eq_of_toDigits_eq_append h
    have hw : 0 < Nat.ofDigitChars 10 u 0 := by
      rcases Nat.eq_zero_or_pos (Nat.ofDigitChars 10 u 0) with hz | hpos
      · rw [hz, Nat.zero_mul, Nat.zero_add] at hj
        omega
      · exact hpos
    refine ⟨_, hw, ?_, hj⟩
    have happ := toDigits_append hw i
    rw [← hj, h] at happ
    exact (List.append_cancel_right happ).symm
  · rintro ⟨w, hw, rfl, rfl⟩
    exact (toDigits_append hw i).symm

end Numeral

/-! ## Two comparisons -/

/-- Two numbered comparisons whose names run together: behind the field of the later one the
earlier field has the numeral of some `w`, and the later number is `w` with the digits of the
earlier one behind it. -/
def Clashing (x y : Comparison × Nat) : Prop :=
  ∃ w, 0 < w ∧ x.1.field = y.1.field ++ toString w ∧
    y.2 = w * 10 ^ (Nat.toDigits 10 x.2).length + x.2

theorem toList_parameterName (c : Comparison) (number : Nat) :
    (c.parameterName number).toList = c.field.toList ++ Nat.toDigits 10 number := by
  unfold Comparison.parameterName
  rw [String.toList_append, Nat.toString_eq_repr, Nat.toList_repr]

/-- Two comparisons get one name exactly when they clash. -/
theorem parameterName_eq_iff {x y : Comparison × Nat} (h : x.2 < y.2) :
    x.1.parameterName x.2 = y.1.parameterName y.2 ↔ Clashing x y := by
  rw [← String.toList_inj, toList_parameterName, toList_parameterName]
  constructor
  · intro he
    rcases List.append_eq_append_iff.1 he with ⟨u, -, hu⟩ | ⟨u, hu, hd⟩
    · -- the later number would be an end of the earlier, smaller one
      have hx := Numeral.eq_of_toDigits_eq_append hu
      have := Nat.le_add_left y.2
        (Nat.ofDigitChars 10 u 0 * 10 ^ (Nat.toDigits 10 y.2).length)
      omega
    · obtain ⟨w, hw, hwu, hy⟩ := (Numeral.toDigits_eq_append_iff h u).1 hd
      refine ⟨w, hw, ?_, hy⟩
      rw [← String.toList_inj, String.toList_append, Nat.toString_eq_repr, Nat.toList_repr,
        hu, hwu]
  · rintro ⟨w, hw, hf, hy⟩
    have hd := (Numeral.toDigits_eq_append_iff h (Nat.toDigits 10 w)).2 ⟨w, hw, rfl, hy⟩
    rw [hf, String.toList_append, Nat.toString_eq_repr, Nat.toList_repr, hd, List.append_assoc]

/-- A later number is not the front of an earlier one. -/
theorem Clashing.lt {x y : Comparison × Nat} (h : Clashing x y) : x.2 < y.2 := by
  obtain ⟨w, hw, -, hy⟩ := h
  have := Nat.mul_pos hw (Nat.pow_pos (n := (Nat.toDigits 10 x.2).length)
    (show 0 < 10 by decide))
  omega

/-! ## A session -/

/-- The comparisons of criteria that bind something, each with its number in a session. -/
def Criteria.binding (cs : List Criteria) : List (Comparison × Nat) :=
  (Filter.numbered 0 (allFilters cs)).filter fun x => x.1.Binds

namespace Session

/-- No two parameters of a session get in each other's way. -/
structure CollisionFree (fields : FieldMap) (cs : List Criteria) : Prop where
  /-- Any two comparisons that bind something get different names. -/
  distinct : ∀ x ∈ Criteria.binding cs, ∀ y ∈ Criteria.binding cs, x.2 ≠ y.2 →
    x.1.parameterName x.2 ≠ y.1.parameterName y.2
  /-- In the clauses of each criteria a parameter is what stands under its name. -/
  found : ∀ t ∈ (start fields).executeAll cs, ∀ p ∈ t.parameters,
    t.parameter? p.name = some p
  /-- No binding takes the place of an earlier one of the session. -/
  kept : ∀ before p after,
    ((start fields).executeAll cs).flatMap Clauses.additions = before ++ .parameter p :: after →
      ∀ p', Addition.parameter p' ∈ before → p'.name ≠ p.name

/-- The names of a session's parameters, in the order in which they are bound. -/
theorem names_executeAll (fields : FieldMap) (cs : List Criteria) :
    (((start fields).executeAll cs).flatMap Clauses.parameters).map Parameter.name =
      (Criteria.binding cs).map fun x => x.1.parameterName x.2 := by
  have h := parameters_executeAll fields 0 cs
  unfold start Criteria.binding
  rw [h]
  generalize Filter.numbered 0 (Criteria.allFilters cs) = xs
  induction xs with
  | nil => rfl
  | cons x xs ih =>
    rw [List.flatMap_cons, List.map_append, ih, Comparison.map_name_parameters]
    by_cases hb : x.1.Binds <;> simp [hb]

theorem pairwise_binding (cs : List Criteria) :
    (Criteria.binding cs).Pairwise fun x y => x.2 < y.2 :=
  (Filter.pairwise_numbered 0 _).filter _

/-- Without a clash the names of a session are distinct. -/
theorem nodup_names (fields : FieldMap) {cs : List Criteria}
    (h : ∀ x ∈ Criteria.binding cs, ∀ y ∈ Criteria.binding cs, ¬ Clashing x y) :
    ((((start fields).executeAll cs).flatMap Clauses.parameters).map Parameter.name).Nodup := by
  rw [names_executeAll, List.Nodup, List.pairwise_map]
  refine (pairwise_binding cs).imp_of_mem ?_
  intro x y hx hy hlt he
  exact h x hx y hy ((parameterName_eq_iff hlt).1 he)

/-- A session's parameters do not get in each other's way exactly when no two of the comparisons
that bind something clash. -/
theorem collisionFree_iff (fields : FieldMap) (cs : List Criteria) :
    CollisionFree fields cs ↔
      ∀ x ∈ Criteria.binding cs, ∀ y ∈ Criteria.binding cs, ¬ Clashing x y := by
  constructor
  · intro h x hx y hy hc
    exact h.distinct x hx y hy (Nat.ne_of_lt hc.lt) ((parameterName_eq_iff hc.lt).2 hc)
  · intro h
    have hnodup := nodup_names fields h
    refine ⟨?_, ?_, ?_⟩
    · intro x hx y hy hne he
      rcases Nat.lt_or_gt_of_ne hne with hlt | hgt
      · exact h x hx y hy ((parameterName_eq_iff hlt).1 he)
      · exact h y hy x hx ((parameterName_eq_iff hgt).1 he.symm)
    · intro t ht p hp
      have hsub : (t.parameters.map Parameter.name).Sublist
          ((((start fields).executeAll cs).flatMap Clauses.parameters).map Parameter.name) :=
        (List.sublist_flatten_of_mem (List.mem_map_of_mem ht)).map _
      exact Keyed.find?_of_mem Parameter.name (hnodup.sublist hsub) hp
    · intro before p after hsplit p' hp' he
      have hpars : ((start fields).executeAll cs).flatMap Clauses.parameters =
          before.filterMap Addition.parameter? ++ p :: after.filterMap Addition.parameter? := by
        have hmap := congrArg (List.filterMap Addition.parameter?) hsplit
        rw [List.filterMap_flatMap, List.filterMap_append] at hmap
        simp only [Clauses.filterMap_parameter] at hmap
        exact hmap
      rw [hpars, List.map_append, List.map_cons, List.nodup_append] at hnodup
      have hmem : p'.name ∈ (before.filterMap Addition.parameter?).map Parameter.name :=
        List.mem_map_of_mem (List.mem_filterMap.2 ⟨_, hp', rfl⟩)
      exact hnodup.2.2 _ hmem _ (List.mem_cons_self ..) he

/-- `a1 = 1`, nine conditions that bind nothing, and `a = 2`. -/
def elevenConditions : Criteria :=
  { Criteria.empty with
    filters := .comparison ⟨"a1", .equal, .scalar (.int 1), by decide, rfl⟩
      :: List.replicate 9 (.comparison ⟨"x", .isNull, .none, by decide, rfl⟩)
      ++ [.comparison ⟨"a", .equal, .scalar (.int 2), by decide, rfl⟩] }

/-- The first and the eleventh parameter are both called `a11`. -/
theorem not_collisionFree : ¬ CollisionFree FieldMap.empty [elevenConditions] := by
  intro h
  refine h.distinct (⟨"a1", .equal, .scalar (.int 1), by decide, rfl⟩, 1) ?_
    (⟨"a", .equal, .scalar (.int 2), by decide, rfl⟩, 11) ?_ (by decide) (by decide)
  · decide
  · decide

end Session

end QueryCriteria
