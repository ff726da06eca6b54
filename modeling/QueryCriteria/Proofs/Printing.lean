import QueryCriteria.Proofs.Layout

/-!
The text and the parameters of a query, part by part.

A token is `Mute` if it carries no value and no fault, so that its text is the same wherever it
stands. Of a query to which fragments come only as predicates, all is mute but the predicates: what
stands before them (`Select.opening`) and what stands behind them (`Select.closing`) only frames
them (`Select.render_framed`, `Select.render_eq`). Sequences with mute tokens between them are printed one after the
other, each from the number of slots before it (`printAll`); so are the conditions of a query
(`printFrom_whereTokens`).

The last section is about the one place where values become slots: what the parameter of a
comparison puts in its hole has the comparison's values and its placeholders
(`slotValues_referenceTokens`, `printFrom_referenceTokens`).
-/

namespace QueryCriteria

namespace Sql

/-! ## Tokens without values -/

/-- A token with neither a value nor a fault. -/
def Token.Mute (t : Token) : Prop := t.value? = none ∧ t.fault? = none

theorem slotValues_of_mute {ts : List Token} (h : ∀ t ∈ ts, t.Mute) : slotValues ts = [] :=
  List.filterMap_eq_nil_iff.2 fun t ht => (h t ht).1

theorem firstFault?_eq_none {ts : List Token} : firstFault? ts = none ↔ ∀ t ∈ ts, t.fault? = none :=
  List.findSome?_eq_none_iff

theorem firstFault?_of_mute {ts : List Token} (h : ∀ t ∈ ts, t.Mute) : firstFault? ts = none :=
  firstFault?_eq_none.2 fun t ht => (h t ht).2

theorem printFrom_of_mute (d : Dialect) (n m : Nat) {ts : List Token} (h : ∀ t ∈ ts, t.Mute) :
    printFrom d n ts = printFrom d m ts := by
  induction ts generalizing n m with
  | nil => rfl
  | cons t ts ih =>
    have hprint : t.print d n = t.print d m := by
      have hvalue := (h t (List.mem_cons_self ..)).1
      cases t with
      | slot v => nomatch hvalue
      | _ => rfl
    rw [printFrom, printFrom, hprint, ih _ _ fun u hu => h u (List.mem_cons_of_mem t hu)]

theorem mem_joined {between t : Token} {parts : List (List Token)} (h : t ∈ joined between parts) :
    t = between ∨ ∃ part ∈ parts, t ∈ part := by
  change t ∈ [between].intercalate parts at h
  induction parts with
  | nil => cases h
  | cons p rest ih =>
    cases rest with
    | nil =>
      rw [List.intercalate_singleton] at h
      exact .inr ⟨p, List.mem_cons_self .., h⟩
    | cons q rest =>
      rw [List.intercalate_cons_cons, List.mem_append, List.mem_append,
        List.mem_singleton] at h
      rcases h with (h | h) | h
      · exact .inr ⟨p, List.mem_cons_self .., h⟩
      · exact .inl h
      · rcases ih h with h | ⟨part, hpart, ht⟩
        · exact .inl h
        · exact .inr ⟨part, List.mem_cons_of_mem p hpart, ht⟩

theorem mem_joined_of_mem (between : Token) {t : Token} {parts : List (List Token)}
    {part : List Token} (hpart : part ∈ parts) (ht : t ∈ part) : t ∈ joined between parts := by
  show t ∈ [between].intercalate parts
  induction parts with
  | nil => cases hpart
  | cons p rest ih =>
    cases rest with
    | nil =>
      rw [List.intercalate_singleton, ← List.mem_singleton.1 hpart]
      exact ht
    | cons q rest =>
      rw [List.intercalate_cons_cons, List.mem_append, List.mem_append]
      rcases List.mem_cons.1 hpart with rfl | hpart
      · exact .inl (.inl ht)
      · exact .inr (ih hpart)

/-! ## Sequences one after the other -/

/-- The texts of sequences, each from the number of slots before it. -/
def printAll (d : Dialect) (before : Nat) : List (List Token) → List (List Char)
  | [] => []
  | p :: rest => printFrom d before p :: printAll d (before + (slotValues p).length) rest

theorem printFrom_joined (d : Dialect) (n : Nat) (w : List Char) (parts : List (List Token)) :
    printFrom d n (joined (.text w) parts) = w.intercalate (printAll d n parts) := by
  change printFrom d n ([Token.text w].intercalate parts) = _
  induction parts generalizing n with
  | nil => rfl
  | cons p rest ih =>
    cases rest with
    | nil => rw [List.intercalate_singleton, printAll, printAll, List.intercalate_singleton]
    | cons q rest =>
      have ih := ih (n + (slotValues p).length)
      have hbetween : slotValues (p ++ [Token.text w]) = slotValues p := by
        rw [slotValues_append]
        exact List.append_nil _
      have htext : printFrom d (n + (slotValues p).length) [Token.text w] = w := List.append_nil w
      rw [List.intercalate_cons_cons, printFrom_append, hbetween, ih, printFrom_append, htext]
      exact List.intercalate_cons_cons.symm

/-- What tokens carry that copied text does not: slots and faults. -/
theorem filterMap_joined {β : Type} {f : Token → Option β} (hf : ∀ w, f (.text w) = none)
    (w : List Char) (parts : List (List Token)) :
    (joined (.text w) parts).filterMap f = parts.flatMap (List.filterMap f) := by
  change List.filterMap f ([Token.text w].intercalate parts) = _
  induction parts with
  | nil => rfl
  | cons p rest ih =>
    cases rest with
    | nil => rw [List.intercalate_singleton, List.flatMap_cons, List.flatMap_nil, List.append_nil]
    | cons q rest =>
      rw [List.intercalate_cons_cons, List.filterMap_append, List.filterMap_append, ih,
        List.filterMap_cons_none (hf w), List.filterMap_nil, List.append_nil]
      exact List.flatMap_cons.symm

theorem slotValues_joined (w : List Char) (parts : List (List Token)) :
    slotValues (joined (.text w) parts) = parts.flatMap slotValues :=
  filterMap_joined (fun _ => rfl) w parts

/-! ## The conditions of a query -/

/-- Conditions as they stand in a query: one alone, several in parentheses each. -/
def whereText : List (List Char) → List Char
  | [] => []
  | [p] => " WHERE ".toList ++ p
  | ps => " WHERE ".toList ++ " AND ".toList.intercalate (ps.map fun p => '(' :: p ++ [')'])

theorem filterMap_group {β : Type} {f : Token → Option β} (hf : ∀ w, f (.text w) = none)
    (p : List Token) : (word "(" :: p ++ [word ")"]).filterMap f = p.filterMap f := by
  rw [List.cons_append, word, List.filterMap_cons_none (hf _), List.filterMap_append, word,
    List.filterMap_cons_none (hf _), List.filterMap_nil, List.append_nil]

theorem slotValues_group (p : List Token) :
    slotValues (word "(" :: p ++ [word ")"]) = slotValues p := filterMap_group (fun _ => rfl) p

theorem printAll_group (d : Dialect) (n : Nat) (parts : List (List Token)) :
    printAll d n (parts.map fun p => word "(" :: p ++ [word ")"]) =
      (printAll d n parts).map fun p => '(' :: p ++ [')'] := by
  induction parts generalizing n with
  | nil => rfl
  | cons p rest ih =>
    have hprint : printFrom d n (word "(" :: p ++ [word ")"]) = '(' :: printFrom d n p ++ [')'] :=
      congrArg ('(' :: ·) (printFrom_append d n p [word ")"])
    rw [List.map_cons, printAll, printAll, List.map_cons, slotValues_group, hprint, ih]

theorem printFrom_whereTokens (d : Dialect) (n : Nat) (parts : List (List Token)) :
    printFrom d n (whereTokens parts) = whereText (printAll d n parts) := by
  cases parts with
  | nil => rfl
  | cons p rest =>
    cases rest with
    | nil => rfl
    | cons q rest =>
      have h := printFrom_joined d n " AND ".toList
        ((p :: q :: rest).map fun p => word "(" :: p ++ [word ")"])
      rw [printAll_group] at h
      exact congrArg (" WHERE ".toList ++ ·) h

theorem filterMap_whereTokens {β : Type} {f : Token → Option β} (hf : ∀ w, f (.text w) = none)
    (parts : List (List Token)) :
    (whereTokens parts).filterMap f = parts.flatMap (List.filterMap f) := by
  cases parts with
  | nil => rfl
  | cons p rest =>
    cases rest with
    | nil =>
      rw [whereTokens, word, List.filterMap_cons_none (hf _), List.flatMap_cons, List.flatMap_nil,
        List.append_nil]
    | cons q rest =>
      have h := filterMap_joined hf " AND ".toList
        ((p :: q :: rest).map fun p => word "(" :: p ++ [word ")"])
      rw [List.flatMap_map] at h
      simp only [filterMap_group hf] at h
      exact (List.filterMap_cons_none (hf _)).trans h

theorem slotValues_whereTokens (parts : List (List Token)) :
    slotValues (whereTokens parts) = parts.flatMap slotValues :=
  filterMap_whereTokens (fun _ => rfl) parts

theorem mem_whereTokens {t : Token} {parts : List (List Token)} (h : t ∈ whereTokens parts) :
    t.Mute ∨ ∃ part ∈ parts, t ∈ part := by
  cases parts with
  | nil => cases h
  | cons p rest =>
    cases rest with
    | nil =>
      rcases List.mem_cons.1 h with rfl | h
      · exact .inl ⟨rfl, rfl⟩
      · exact .inr ⟨p, List.mem_cons_self .., h⟩
    | cons q rest =>
      rcases List.mem_cons.1 h with rfl | h
      · exact .inl ⟨rfl, rfl⟩
      · rcases mem_joined h with rfl | ⟨part, hpart, ht⟩
        · exact .inl ⟨rfl, rfl⟩
        · obtain ⟨p', hp', rfl⟩ := List.mem_map.1 hpart
          rw [List.cons_append, List.mem_cons, List.mem_append, List.mem_singleton] at ht
          rcases ht with rfl | ht | rfl
          · exact .inl ⟨rfl, rfl⟩
          · exact .inr ⟨p', hp', ht⟩
          · exact .inl ⟨rfl, rfl⟩

theorem mem_whereTokens_of_mem {t : Token} {parts : List (List Token)} {part : List Token}
    (hpart : part ∈ parts) (ht : t ∈ part) : t ∈ whereTokens parts := by
  cases parts with
  | nil => cases hpart
  | cons p rest =>
    cases rest with
    | nil =>
      rw [← List.mem_singleton.1 hpart]
      exact List.mem_cons_of_mem _ ht
    | cons q rest =>
      refine List.mem_cons_of_mem _ ?_
      refine mem_joined_of_mem (word " AND ") (List.mem_map_of_mem hpart) ?_
      exact List.mem_cons_of_mem _ (List.mem_append_left _ ht)

/-! ## The frame around the conditions -/

namespace Select

/-- The columns and the table. -/
def opening (q : Select) : List Token :=
  word "SELECT " :: joined (word ", ") (q.columns.map (Expr.tokens q.parameters))
    ++ match q.source with
      | none => []
      | some f => word " " :: f.tokens

/-- The sort keys and the window of rows. -/
def closing (q : Select) : List Token :=
  (if q.sorting.isEmpty then []
    else word " ORDER BY " :: joined (word ", ") (q.sorting.map (SortKey.tokens q.parameters)))
    ++ [.window q.limit q.offset]

theorem tokens_eq (q : Select) :
    q.tokens =
      q.opening ++ whereTokens (q.predicates.map (Expr.tokens q.parameters)) ++ q.closing := by
  unfold tokens opening closing
  cases q.source with
  | none => simp only [List.append_assoc, List.nil_append]
  | some f => simp only [List.append_assoc]

end Select

theorem mute_qualified {before : Option String} {name : String} :
    ∀ t ∈ qualified before name, t.Mute := by
  intro t ht
  cases before with
  | none =>
    rw [List.mem_singleton.1 ht]
    exact ⟨rfl, rfl⟩
  | some q =>
    simp only [qualified, List.mem_cons, List.not_mem_nil, or_false] at ht
    rcases ht with rfl | rfl | rfl <;> exact ⟨rfl, rfl⟩

/-- Names and copied text are mute. -/
theorem Expr.mute_tokens (ps : List Parameter) {e : Expr} (h : ∀ s, e ≠ .fragment s) :
    ∀ t ∈ e.tokens ps, t.Mute := by
  cases e with
  | name q n => exact mute_qualified
  | verbatim s =>
    intro t ht
    rw [List.mem_singleton.1 ht]
    exact ⟨rfl, rfl⟩
  | fragment s => exact absurd rfl (h s)

theorem FromClause.mute_tokens (f : FromClause) : ∀ t ∈ f.tokens, t.Mute := by
  intro t ht
  unfold tokens at ht
  rw [List.cons_append, List.mem_cons, List.mem_append] at ht
  rcases ht with rfl | ht | ht
  · exact ⟨rfl, rfl⟩
  · exact mute_qualified t ht
  · cases hc : f.calledAs with
    | none =>
      rw [hc] at ht
      cases ht
    | some a =>
      rw [hc] at ht
      simp only [List.mem_cons, List.not_mem_nil, or_false] at ht
      rcases ht with rfl | rfl <;> exact ⟨rfl, rfl⟩

theorem SortKey.mute_tokens (ps : List Parameter) {k : SortKey} (h : ∀ s, k.expr ≠ .fragment s) :
    ∀ t ∈ k.tokens ps, t.Mute := by
  intro t ht
  rcases List.mem_append.1 ht with ht | ht
  · exact Expr.mute_tokens ps h t ht
  · cases hd : k.direction with
    | none =>
      rw [hd] at ht
      cases ht
    | some d =>
      rw [hd] at ht
      simp only [List.mem_cons, List.not_mem_nil, or_false] at ht
      rcases ht with rfl | rfl <;> exact ⟨rfl, rfl⟩

/-- Mute sequences with a mute token between them. -/
theorem mute_joined {α : Type} {between : Token} (hb : between.Mute) {f : α → List Token}
    {xs : List α} (h : ∀ x ∈ xs, ∀ t ∈ f x, t.Mute) :
    ∀ t ∈ joined between (xs.map f), t.Mute := by
  intro t ht
  rcases mem_joined ht with rfl | ⟨part, hpart, ht⟩
  · exact hb
  · obtain ⟨x, hx, rfl⟩ := List.mem_map.1 hpart
    exact h x hx t ht

namespace Select

theorem mute_opening {q : Select} (h : ∀ e ∈ q.columns, ∀ s, e ≠ .fragment s) :
    ∀ t ∈ q.opening, t.Mute := by
  intro t ht
  unfold opening at ht
  rw [List.cons_append, List.mem_cons, List.mem_append] at ht
  rcases ht with rfl | ht | ht
  · exact ⟨rfl, rfl⟩
  · exact mute_joined ⟨rfl, rfl⟩ (fun e he => Expr.mute_tokens _ (h e he)) t ht
  · cases hs : q.source with
    | none =>
      rw [hs] at ht
      cases ht
    | some f =>
      rw [hs] at ht
      rcases List.mem_cons.1 ht with rfl | ht
      · exact ⟨rfl, rfl⟩
      · exact f.mute_tokens t ht

theorem mute_closing {q : Select} (h : ∀ k ∈ q.sorting, ∀ s, k.expr ≠ .fragment s) :
    ∀ t ∈ q.closing, t.Mute := by
  intro t ht
  unfold closing at ht
  rw [List.mem_append, List.mem_singleton] at ht
  rcases ht with ht | rfl
  · split at ht
    · cases ht
    · rcases List.mem_cons.1 ht with rfl | ht
      · exact ⟨rfl, rfl⟩
      · exact mute_joined ⟨rfl, rfl⟩ (fun k hk => SortKey.mute_tokens _ (h k hk)) t ht
  · exact ⟨rfl, rfl⟩

/-- A query, unless there is a fault. -/
def outcome (fault : Option RenderError) (query : Query) : Except RenderError Query :=
  match fault with
  | some e => .error e
  | none => .ok query

/-- A query whose sort keys are mute: the conditions come after the columns, with their faults and
their placeholders. -/
theorem render_framed {q : Select} (d : Dialect) (hc : ∀ t ∈ q.closing, t.Mute) :
    q.render d =
      outcome ((firstFault? q.opening).or
          (firstFault? (whereTokens (q.predicates.map (Expr.tokens q.parameters)))))
        ⟨String.ofList (printFrom d 0 q.opening
            ++ whereText (printAll d (slotValues q.opening).length
              (q.predicates.map (Expr.tokens q.parameters)))
            ++ printFrom d 0 q.closing),
          slotValues q.opening
            ++ (q.predicates.map (Expr.tokens q.parameters)).flatMap slotValues⟩ := by
  unfold render Sql.render
  rw [tokens_eq, firstFault?_append, firstFault?_append, firstFault?_of_mute hc, Option.or_none,
    slotValues_append, slotValues_append, slotValues_of_mute hc, List.append_nil,
    printFrom_append, printFrom_append, printFrom_of_mute d _ 0 hc, slotValues_whereTokens,
    ← printFrom_whereTokens, Nat.zero_add]
  rfl

/-- Between mute parts the conditions decide about success and about the parameters. -/
theorem render_eq {q : Select} (d : Dialect) (ho : ∀ t ∈ q.opening, t.Mute)
    (hc : ∀ t ∈ q.closing, t.Mute) :
    q.render d =
      outcome (firstFault? (whereTokens (q.predicates.map (Expr.tokens q.parameters))))
        ⟨String.ofList (printFrom d 0 q.opening
            ++ whereText (printAll d 0 (q.predicates.map (Expr.tokens q.parameters)))
            ++ printFrom d 0 q.closing),
          (q.predicates.map (Expr.tokens q.parameters)).flatMap slotValues⟩ := by
  rw [render_framed d hc, firstFault?_of_mute ho, Option.none_or, slotValues_of_mute ho]
  rfl

end Select

/-! ## What stands in a hole -/

/-- Slots one after the other have successive placeholders. -/
theorem printAll_slots (d : Dialect) (n : Nat) (vs : List Value) :
    printAll d n (vs.map fun v => [.slot (.text v.plain)]) =
      (List.range vs.length).map fun i => d.placeholder (n + i) := by
  induction vs generalizing n with
  | nil => rfl
  | cons v vs ih =>
    have hprint : printFrom d n [.slot (.text v.plain)] = d.placeholder n :=
      List.append_nil (d.placeholder n)
    have hone : (slotValues [.slot (.text v.plain)]).length = 1 := rfl
    rw [List.map_cons, printAll, hprint, hone, ih, List.length_cons, List.range_succ_eq_map,
      List.map_cons, List.map_map]
    refine congrArg (d.placeholder n :: ·) (List.map_congr_left ?_)
    intro i _
    exact congrArg d.placeholder (by omega)

theorem slotValues_slots (vs : List Value) :
    slotValues (Fragment.slots vs) = vs.map fun v => .text v.plain := by
  cases vs with
  | nil => rfl
  | cons v vs =>
    show slotValues (joined (word ", ") ((v :: vs).map fun v => [.slot (.text v.plain)])) = _
    rw [word, slotValues_joined, List.flatMap_map, List.map_eq_flatMap]
    rfl

theorem fault?_slots (vs : List Value) : ∀ t ∈ Fragment.slots vs, t.fault? = none := by
  intro t ht
  cases vs with
  | nil =>
    rw [List.mem_singleton.1 ht]
    rfl
  | cons v vs =>
    have hjoined : t ∈ joined (word ", ") ((v :: vs).map fun v => [.slot (.text v.plain)]) := ht
    rcases mem_joined hjoined with rfl | ⟨part, hpart, ht⟩
    · rfl
    · obtain ⟨v', -, rfl⟩ := List.mem_map.1 hpart
      rw [List.mem_singleton.1 ht]
      rfl

end Sql

open Sql

namespace Comparison

/-- A list is bound as a list. -/
theorem parameterType_of_list {c : Comparison} {vs : List Value} (h : c.operand = .list vs) :
    c.operator.parameterType = some .stringArray := by
  have hfits := c.fits
  rw [h] at hfits
  revert hfits
  cases c.operator <;> intro hfits <;> first | rfl | nomatch hfits

/-- What a parameter of a comparison puts in a hole, by the kind of its operand. -/
theorem referenceTokens_eq {c : Comparison} {number : Nat} {p : Parameter}
    (h : p ∈ c.parameters number) :
    (∃ v, c.operand = .scalar v ∧
        Fragment.referenceTokens p = [.slot (boundValue c.operator v)]) ∨
      ∃ vs, c.operand = .list vs ∧ Fragment.referenceTokens p = Fragment.slots vs := by
  unfold parameters at h
  cases ho : c.operand with
  | none =>
    rw [ho] at h
    cases h
  | scalar v =>
    rw [ho] at h
    rw [List.mem_singleton.1 h]
    exact .inl ⟨v, rfl, rfl⟩
  | list vs =>
    rw [ho] at h
    rw [List.mem_singleton.1 h, parameterType_of_list ho]
    exact .inr ⟨vs, rfl, rfl⟩

variable {c : Comparison} {number : Nat} {p : Parameter}

theorem slotValues_referenceTokens (h : p ∈ c.parameters number) :
    slotValues (Fragment.referenceTokens p) = c.values := by
  rcases referenceTokens_eq h with ⟨v, ho, ht⟩ | ⟨vs, ho, ht⟩
  · rw [ht, values, ho]
    rfl
  · rw [ht, values, ho, slotValues_slots]

theorem fault?_referenceTokens (h : p ∈ c.parameters number) :
    ∀ t ∈ Fragment.referenceTokens p, t.fault? = none := by
  rcases referenceTokens_eq h with ⟨v, -, ht⟩ | ⟨vs, -, ht⟩
  · intro t h
    rw [ht] at h
    rw [List.mem_singleton.1 h]
    rfl
  · rw [ht]
    exact fault?_slots vs

theorem printFrom_referenceTokens (h : p ∈ c.parameters number) (d : Dialect) (n : Nat) :
    printFrom d n (Fragment.referenceTokens p) = c.placeholders d n := by
  rcases referenceTokens_eq h with ⟨v, ho, ht⟩ | ⟨vs, ho, ht⟩
  · rw [ht]
    unfold placeholders values
    rw [ho]
    rfl
  · rw [ht]
    unfold placeholders values
    rw [ho]
    cases vs with
    | nil => rfl
    | cons v vs =>
      show printFrom d n (joined (word ", ") ((v :: vs).map fun v => [.slot (.text v.plain)])) = _
      rw [word, printFrom_joined, printAll_slots, List.length_map]

end Comparison

end QueryCriteria
