import QueryCriteria.Proofs.Printing
import QueryCriteria.Proofs.Scanning

/-!
A session on a new query, from its layouts to its tokens.

A new query has columns and a table, and no column is a fragment. After a session its predicates
are the layouts of all filters with names in the holes (`executeAll_start_predicates`), its
parameters those of all comparisons bound in turn (`executeAll_start_parameters`), and everything
around the predicates is mute.

A name may be bound more than once. Under a name stands what the last comparison of that name binds
(`Criteria.speaker`, `find?_parameters`); that a comparison speaks for itself is a matter of
distinct names (`speaker_of_nodup`) and not assumed here.

A hole is met inside a literal or outside (`Segment.holes`). Those outside give the values and the
faults of a predicate (`slotValues_readAll`, `fault?_readAll`).
-/

namespace QueryCriteria

open Sql Sql.Fragment

/-! ## The parameters of a session -/

/-- What a session binds, in the order of its comparisons. -/
def Criteria.parameters (cs : List Criteria) : List Parameter :=
  (binding cs).flatMap fun x => x.1.parameters x.2

/-- The name of the parameter of a numbered comparison. -/
def nameOf (x : Comparison × Nat) : String := x.1.parameterName x.2

/-- The last comparison that binds something under the name of this one. -/
def Criteria.speaker (cs : List Criteria) (x : Comparison × Nat) : Comparison :=
  match (binding cs).reverse.find? fun y => nameOf y == nameOf x with
  | some y => y.1
  | none => x.1

theorem Comparison.parameters_of_not_binds {c : Comparison} (h : ¬ c.Binds) (number : Nat) :
    c.parameters number = [] := by
  unfold parameters
  rw [Decidable.not_not.1 h]

/-- A comparison that binds something has one parameter. -/
theorem Comparison.parameters_of_binds {c : Comparison} (h : c.Binds) (number : Nat) :
    ∃ p, c.parameters number = [p] ∧ p.name = c.parameterName number := by
  have hnames := c.map_name_parameters number
  rw [if_pos h] at hnames
  obtain ⟨p, hp, hname⟩ := List.map_eq_singleton_iff.1 hnames
  exact ⟨p, hp, hname⟩

namespace Criteria

variable {cs : List Criteria}

theorem binds_of_mem_binding {x : Comparison × Nat} (hx : x ∈ binding cs) : x.1.Binds :=
  of_decide_eq_true (List.mem_filter.1 hx).2

theorem mem_comparisons_of_mem_binding {x : Comparison × Nat} (hx : x ∈ binding cs) :
    x.1 ∈ (allFilters cs).flatMap Filter.comparisons :=
  List.fst_mem_of_mem_zipIdx (List.mem_filter.1 hx).1

/-- Only comparisons that bind something have parameters. -/
theorem flatMap_parameters_numbered (cs : List Criteria) :
    ((Filter.numbered 0 (allFilters cs)).flatMap fun x => x.1.parameters x.2) = parameters cs := by
  unfold parameters binding
  induction Filter.numbered 0 (allFilters cs) with
  | nil => rfl
  | cons x xs ih =>
    rw [List.flatMap_cons, List.filter_cons, ih]
    by_cases hb : x.1.Binds
    · rw [if_pos (decide_eq_true hb), List.flatMap_cons]
    · rw [if_neg (by simpa using hb), Comparison.parameters_of_not_binds hb, List.nil_append]

theorem map_name_parameters (cs : List Criteria) :
    (parameters cs).map Parameter.name = (binding cs).map nameOf := by
  have h := Session.names_executeAll FieldMap.empty cs
  have hparameters := Session.parameters_executeAll FieldMap.empty 0 cs
  unfold Session.start at h
  rw [hparameters, flatMap_parameters_numbered] at h
  exact h

end Criteria

/-! ## What stands under a name -/

namespace Sql

theorem mem_bindAll {p : Parameter} {ps qs : List Parameter} (h : p ∈ bindAll ps qs) :
    p ∈ ps ∨ p ∈ qs := by
  induction qs generalizing ps with
  | nil => exact .inl h
  | cons q qs ih =>
    rw [bindAll_cons] at h
    rcases ih h with h | h
    · rcases Keyed.mem_put Parameter.name h with rfl | h
      · exact .inr (List.mem_cons_self ..)
      · exact .inl h
    · exact .inr (List.mem_cons_of_mem q h)

/-- The last binding of a name counts. -/
theorem find?_bindAll (k : String) (ps qs : List Parameter) :
    Keyed.find? Parameter.name k (bindAll ps qs) =
      (qs.reverse.find? fun q => q.name == k).or (Keyed.find? Parameter.name k ps) := by
  induction qs generalizing ps with
  | nil => rfl
  | cons q qs ih =>
    rw [bindAll_cons, ih, List.reverse_cons, List.find?_append, Option.or_assoc]
    refine congrArg (Option.or _) ?_
    by_cases hk : q.name = k
    · subst hk
      have hself := Keyed.find?_put_self Parameter.name q ps
      unfold Sql.bind
      simp [hself]
    · have hother := Keyed.find?_put_of_ne Parameter.name q ps (Ne.symm hk)
      unfold Sql.bind
      rw [hother]
      simp [hk]

end Sql

namespace Criteria

variable {cs : List Criteria}

/-- Among the parameters of comparisons the first of a name is the first such comparison's. -/
theorem find?_flatMap_parameters {xs : List (Comparison × Nat)} (hxs : ∀ x ∈ xs, x.1.Binds)
    (k : String) :
    (∃ y p, xs.find? (fun y => nameOf y == k) = some y ∧ p ∈ y.1.parameters y.2 ∧
        (xs.flatMap fun x => (x.1.parameters x.2).reverse).find? (fun p => p.name == k) = some p) ∨
      ∀ x ∈ xs, nameOf x ≠ k := by
  induction xs with
  | nil => exact .inr fun x hx => nomatch hx
  | cons x xs ih =>
    obtain ⟨p, hp, hname⟩ := Comparison.parameters_of_binds (hxs x (List.mem_cons_self ..)) x.2
    rw [List.flatMap_cons, hp, List.reverse_singleton, List.singleton_append]
    rw [List.find?_cons, List.find?_cons, hname]
    by_cases hk : nameOf x = k
    · have hbeq : (nameOf x == k) = true := beq_iff_eq.2 hk
      unfold nameOf at hbeq ⊢
      rw [hbeq]
      exact .inl ⟨x, p, rfl, hp ▸ List.mem_singleton_self p, rfl⟩
    · have hbeq : (nameOf x == k) = false := beq_eq_false_iff_ne.2 hk
      unfold nameOf at hbeq ⊢
      rw [hbeq]
      rcases ih fun y hy => hxs y (List.mem_cons_of_mem x hy) with h | h
      · exact .inl h
      · refine .inr fun y hy => ?_
        rcases List.mem_cons.1 hy with rfl | hy
        · exact hk
        · exact h y hy

/-- Under the name of a comparison stands what its speaker binds. -/
theorem find?_parameters {x : Comparison × Nat} (hx : x ∈ binding cs) :
    ∃ p number, p ∈ (speaker cs x).parameters number ∧
      Keyed.find? Parameter.name (nameOf x) (bindAll [] (parameters cs)) = some p := by
  have hbinds : ∀ y ∈ (binding cs).reverse, y.1.Binds := fun y hy =>
    binds_of_mem_binding (List.mem_reverse.1 hy)
  rcases find?_flatMap_parameters hbinds (nameOf x) with ⟨y, p, hy, hp, hfind⟩ | hnone
  · refine ⟨p, y.2, ?_, ?_⟩
    · unfold speaker
      rw [hy]
      exact hp
    · rw [find?_bindAll, parameters, List.reverse_flatMap]
      exact Option.or_eq_some_iff.2 (.inl hfind)
  · exact absurd rfl (hnone x (List.mem_reverse.2 hx))

theorem name_mem_bindAll {x : Comparison × Nat} (hx : x ∈ binding cs) :
    nameOf x ∈ (bindAll [] (parameters cs)).map Parameter.name := by
  obtain ⟨p, -, -, hfind⟩ := find?_parameters hx
  exact List.mem_map.2 ⟨p, Keyed.of_find?_eq_some Parameter.name hfind⟩

theorem mem_names_of_mem_bindAll {a : String}
    (ha : a ∈ (bindAll [] (parameters cs)).map Parameter.name) : a ∈ (binding cs).map nameOf := by
  obtain ⟨p, hp, rfl⟩ := List.mem_map.1 ha
  rw [← map_name_parameters]
  exact List.mem_map_of_mem ((mem_bindAll hp).resolve_left List.not_mem_nil)

/-- With distinct names every comparison speaks for itself. -/
theorem speaker_of_nodup (h : ((binding cs).map nameOf).Nodup) {x : Comparison × Nat}
    (hx : x ∈ binding cs) : speaker cs x = x.1 := by
  have hreverse : ((binding cs).reverse.map nameOf).Nodup := by
    rw [List.map_reverse]
    exact List.pairwise_reverse.2 (h.imp Ne.symm)
  have hfind := Keyed.find?_of_mem nameOf hreverse (List.mem_reverse.2 hx)
  unfold Keyed.find? at hfind
  unfold speaker
  rw [hfind]

end Criteria

/-! ## The query after a session -/

namespace Sql.Select

variable (columns : List Expr) (source : FromClause) (fields : FieldMap) (cs : List Criteria)

theorem executeAll_start_predicates :
    ((start columns source).executeAll fields cs).predicates =
      (Filter.layouts fields 0 (Criteria.allFilters cs)).map fun segments =>
        .fragment (String.ofList (segments.flatMap Segment.named)) := by
  rw [executeAll_predicates, Filter.named_layouts, List.map_map]
  rfl

theorem executeAll_start_parameters :
    ((start columns source).executeAll fields cs).parameters =
      bindAll [] (Criteria.parameters cs) := by
  rw [executeAll_parameters, Criteria.flatMap_parameters_numbered]
  rfl

/-- The tokens of the predicates. -/
def conditions : List (List Token) :=
  (Filter.layouts fields 0 (Criteria.allFilters cs)).map fun segments =>
    Fragment.tokens (bindAll [] (Criteria.parameters cs))
      (String.ofList (segments.flatMap Segment.named))

/-- The predicates of the query are the conditions. -/
theorem map_tokens_predicates :
    ((start columns source).executeAll fields cs).predicates.map
        (Expr.tokens ((start columns source).executeAll fields cs).parameters) =
      conditions fields cs := by
  rw [executeAll_start_predicates, executeAll_start_parameters, List.map_map]
  rfl

/-- What a session sorts by refers to nothing. -/
theorem mute_closing_executeAll :
    ∀ t ∈ ((start columns source).executeAll fields cs).closing, t.Mute := by
  refine mute_closing ?_
  intro k hk s he
  rcases executeAll_sorting _ fields cs hk with hk | ⟨s', hs'⟩
  · cases hk
  · rw [hs'] at he
    cases he

variable {columns}

theorem mute_opening_executeAll (hcolumns : ∀ e ∈ columns, ∀ s, e ≠ .fragment s) :
    ∀ t ∈ ((start columns source).executeAll fields cs).opening, t.Mute := by
  refine mute_opening ?_
  rw [executeAll_columns]
  exact hcolumns

/-- The conditions alone decide about success and about the parameters. -/
theorem render_executeAll_start (hcolumns : ∀ e ∈ columns, ∀ s, e ≠ .fragment s) (d : Dialect) :
    ((start columns source).executeAll fields cs).render d =
      outcome (firstFault? (whereTokens (conditions fields cs)))
        ⟨String.ofList (printFrom d 0 ((start columns source).executeAll fields cs).opening
            ++ whereText (printAll d 0 (conditions fields cs))
            ++ printFrom d 0 ((start columns source).executeAll fields cs).closing),
          (conditions fields cs).flatMap slotValues⟩ := by
  rw [render_eq d (mute_opening_executeAll source fields cs hcolumns)
    (mute_closing_executeAll columns source fields cs), map_tokens_predicates]

theorem firstFault?_conditions {fields : FieldMap} {cs : List Criteria}
    (h : ∀ part ∈ conditions fields cs, ∀ t ∈ part, t.fault? = none) :
    firstFault? (whereTokens (conditions fields cs)) = none := by
  rw [firstFault?_eq_none]
  intro t ht
  rcases mem_whereTokens ht with hmute | ⟨part, hpart, ht⟩
  · exact hmute.2
  · exact h part hpart t ht

end Sql.Select

/-! ## The predicates of a session -/

theorem Filter.mem_layouts {fields : FieldMap} {count : Nat} {fs : List Filter}
    {segments : List Segment} (h : segments ∈ layouts fields count fs) :
    ∃ f ∈ fs, ∃ n, segments = f.layout fields n := by
  induction fs generalizing count with
  | nil => cases h
  | cons f fs ih =>
    rcases List.mem_cons.1 h with rfl | h
    · exact ⟨f, List.mem_cons_self .., count, rfl⟩
    · obtain ⟨g, hg, n, hn⟩ := ih h
      exact ⟨g, List.mem_cons_of_mem f hg, n, hn⟩

theorem Criteria.mem_binding_of_mem_layouts {cs : List Criteria} {fields : FieldMap}
    {segments : List Segment} (h : segments ∈ Filter.layouts fields 0 (allFilters cs))
    {x : Comparison × Nat} (hx : x ∈ segments.filterMap Segment.operand?) : x ∈ binding cs := by
  unfold binding
  rw [← Filter.operands_layouts fields]
  exact List.mem_flatMap.2 ⟨segments, h, hx⟩

/-- A predicate of a session, scanned with the parameters of the session. -/
theorem Segment.pieces_of_mem_layouts {cs : List Criteria} {fields : FieldMap}
    {segments : List Segment} (h : segments ∈ Filter.layouts fields 0 (Criteria.allFilters cs))
    (hstop : NamesStop ((Criteria.binding cs).map nameOf))
    (hlegible : ∀ x ∈ Criteria.binding cs, Legible (nameOf x).toList)
    (hinert : CopiedInert false segments) :
    Fragment.pieces (bindAll [] (Criteria.parameters cs)) (segments.flatMap named) =
      readAll (bindAll [] (Criteria.parameters cs)) false segments := by
  obtain ⟨f, -, n, hn⟩ := Filter.mem_layouts h
  have hspaced : WellSpaced segments := hn ▸ f.wellSpaced_layout fields n
  have hnodup : ((bindAll [] (Criteria.parameters cs)).map Parameter.name).Nodup :=
    nodup_bindAll _ List.nodup_nil
  refine piecesFrom_layout hnodup ?_ hspaced hinert ?_
  · intro a ha b hb
    exact hstop a (Criteria.mem_names_of_mem_bindAll ha) b (Criteria.mem_names_of_mem_bindAll hb)
  · intro x hx
    have hbinding := Criteria.mem_binding_of_mem_layouts h hx
    exact ⟨Criteria.name_mem_bindAll hbinding, hlegible x hbinding⟩

/-! ## What the holes give -/

theorem Sql.Fragment.tokens_plain (s : List Char) :
    (s.map Piece.plain).flatMap Piece.tokens = s.map fun c => Token.text [c] := by
  induction s with
  | nil => rfl
  | cons c s ih => exact congrArg (Token.text [c] :: ·) ih

theorem Sql.mute_texts (s : List Char) : ∀ t ∈ s.map (fun c => Token.text [c]), t.Mute := by
  intro t ht
  obtain ⟨c, -, rfl⟩ := List.mem_map.1 ht
  exact ⟨rfl, rfl⟩

namespace Segment

/-- The holes that the scanner meets inside of literals, or those outside. -/
def holes (inside quoted : Bool) : List Segment → List (Comparison × Nat)
  | [] => []
  | x :: rest =>
    (if quoted = inside then x.operand?.toList else []) ++ holes inside (x.after quoted) rest

theorem operands_cons (x : Segment) (rest : List Segment) :
    (x :: rest).filterMap operand? = x.operand?.toList ++ rest.filterMap operand? := by
  rw [List.filterMap_cons]
  cases x.operand? <;> rfl

theorem holes_sublist (inside quoted : Bool) (segments : List Segment) :
    (holes inside quoted segments).Sublist (segments.filterMap operand?) := by
  induction segments generalizing quoted with
  | nil => exact List.Sublist.refl _
  | cons x rest ih =>
    rw [operands_cons, holes]
    refine List.Sublist.append ?_ (ih _)
    split
    · exact List.Sublist.refl _
    · exact List.nil_sublist _

/-- The tokens of a hole outside of literals. -/
theorem tokens_read_operand {ps : List Parameter} {c : Comparison} {number : Nat} {p : Parameter}
    (h : Keyed.find? Parameter.name (c.parameterName number) ps = some p) :
    ((operand c number).read ps false).flatMap Piece.tokens = referenceTokens p := by
  rw [read, if_neg (by decide), h]
  exact List.append_nil _

/-- Every hole finds a parameter of the comparison that speaks for it. -/
def Found (ps : List Parameter) (who : Comparison × Nat → Comparison)
    (xs : List (Comparison × Nat)) : Prop :=
  ∀ x ∈ xs, ∃ p number, p ∈ (who x).parameters number ∧
    Keyed.find? Parameter.name (nameOf x) ps = some p

variable {ps : List Parameter} {who : Comparison × Nat → Comparison}

/-- The values of a predicate are those of its holes outside of literals. -/
theorem slotValues_readAll {quoted : Bool} {segments : List Segment}
    (h : Found ps who (holes false quoted segments)) :
    slotValues ((readAll ps quoted segments).flatMap Piece.tokens) =
      (holes false quoted segments).flatMap fun x => (who x).values := by
  induction segments generalizing quoted with
  | nil => rfl
  | cons x rest ih =>
    have ih := ih fun y hy => h y (List.mem_append_right _ hy)
    rw [readAll, List.flatMap_append, slotValues_append, ih, holes, List.flatMap_append]
    refine congrArg (· ++ _) ?_
    cases x with
    | copied s =>
      rw [read, tokens_plain, slotValues_of_mute (mute_texts s)]
      split <;> rfl
    | operand c number =>
      cases quoted with
      | true =>
        rw [read, if_pos rfl, tokens_plain, slotValues_of_mute (mute_texts _)]
        rfl
      | false =>
        obtain ⟨p, k, hp, hfind⟩ :=
          h (c, number) (List.mem_append_left _ (List.mem_singleton_self _))
        rw [tokens_read_operand hfind, Comparison.slotValues_referenceTokens hp]
        exact (List.append_nil _).symm

theorem fault?_readAll {quoted : Bool} {segments : List Segment}
    (h : Found ps who (holes false quoted segments)) :
    ∀ t ∈ (readAll ps quoted segments).flatMap Piece.tokens, t.fault? = none := by
  induction segments generalizing quoted with
  | nil => exact fun t ht => nomatch ht
  | cons x rest ih =>
    have ih := ih fun y hy => h y (List.mem_append_right _ hy)
    intro t ht
    rw [readAll, List.flatMap_append, List.mem_append] at ht
    rcases ht with ht | ht
    · cases x with
      | copied s =>
        rw [read, tokens_plain] at ht
        exact (mute_texts s t ht).2
      | operand c number =>
        cases quoted with
        | true =>
          rw [read, if_pos rfl, tokens_plain] at ht
          exact (mute_texts _ t ht).2
        | false =>
          obtain ⟨p, k, hp, hfind⟩ :=
            h (c, number) (List.mem_append_left _ (List.mem_singleton_self _))
          rw [tokens_read_operand hfind] at ht
          exact Comparison.fault?_referenceTokens hp t ht
    · exact ih t ht

end Segment

end QueryCriteria
