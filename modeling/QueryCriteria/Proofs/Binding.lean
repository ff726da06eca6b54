import QueryCriteria.Proofs.Reading

/-!
A session on a new query binds what its criteria say.

The statement (`Select.render_executeAll`) is about plain fields and balanced columns:

  * a plain field has no blank, closing parenthesis, colon or single quote in it and does not end
    in a digit (`PlainField`);
  * in a balanced column single quotes come in pairs, and outside of what they enclose every run of
    colons is of even length, as in a cast (`BalancedColumn`).

A session of such criteria on a query that is nothing but columns and a table, none of the columns
a fragment, is rendered in every dialect. The text has the layouts of all filters in its conditions
with successive placeholders in their holes, and the parameters are the values of all comparisons
from left to right.

The argument goes through the scanner. Plain fields do not end in digits, so no two parameters
share a name (`not_clashing`) and binding in turn is appending; they have neither blank nor
parenthesis, so no name runs over the end of another one (`namesStop_binding`). Balanced columns
are copied and leave no literal open (`balancedColumn_iff`), so the scanner is outside of literals
at every hole.
-/

namespace QueryCriteria

open Sql Sql.Fragment

/-! ## Columns -/

/-- Quotes come in pairs; outside of what they enclose, every run of colons is of even length. -/
structure BalancedColumn (column : List Char) : Prop where
  quotes : column.count '\'' % 2 = 0
  colons : ∀ before n after, column = before ++ List.replicate n ':' ++ after →
    before.count '\'' % 2 = 0 → before.getLast? ≠ some ':' → after.head? ≠ some ':' → n % 2 = 0

/-- From a state of the scanner on, the runs of colons that stand outside of literals are of even
length. -/
def RunsEven (quoted : Bool) (s : List Char) : Prop :=
  ∀ before n after, s = before ++ List.replicate n ':' ++ after →
    quotedAfter quoted before = false → before.getLast? ≠ some ':' → after.head? ≠ some ':' →
    n % 2 = 0

theorem RunsEven.tail {quoted : Bool} {c : Char} {s : List Char} (h : RunsEven quoted (c :: s))
    (hc : quoted = true ∨ c ≠ ':') : RunsEven (if c = '\'' then !quoted else quoted) s := by
  intro before n after hs hquoted hlast hhead
  refine h (c :: before) n after (by rw [hs]; rfl) hquoted ?_ hhead
  cases before with
  | cons b before => exact hlast
  | nil =>
    -- a colon inside of a literal, which the state after it is not
    intro he
    have hcolon : c = ':' := Option.some.inj he
    subst hcolon
    rcases hc with rfl | hc
    · exact Bool.noConfusion hquoted
    · exact hc rfl

/-- Outside of literals a colon is followed by another one. -/
theorem RunsEven.cast {s : List Char} (h : RunsEven false (':' :: s)) :
    ∃ t, s = ':' :: t ∧ RunsEven false t := by
  have hhead : s.head? = some ':' := by
    rcases Decidable.em (s.head? = some ':') with he | hne
    · exact he
    · have hone := h [] 1 s rfl rfl (by decide) hne
      exact absurd hone (by decide)
  obtain ⟨t, rfl⟩ : ∃ t, s = ':' :: t := by
    cases s with
    | nil => nomatch hhead
    | cons c t => exact ⟨t, congrArg (· :: t) (Option.some.inj hhead)⟩
  refine ⟨t, rfl, ?_⟩
  intro before n after hs hquoted hlast hafter
  cases before with
  | cons b before =>
    exact h (':' :: ':' :: b :: before) n after (by rw [hs]; rfl) hquoted hlast hafter
  | nil =>
    have htwo := h [] (n + 2) after (by rw [hs]; rfl) rfl hlast hafter
    omega

theorem inert_of_runsEven {quoted : Bool} {s : List Char} (h : RunsEven quoted s) :
    Inert quoted s := by
  induction hn : s.length using Nat.strongRecOn generalizing quoted s with
  | ind n ih =>
    subst hn
    cases s with
    | nil => exact .nil quoted
    | cons c s =>
      by_cases hc : quoted = true ∨ c ≠ ':'
      · exact .char hc (ih _ (by simp) (h.tail hc) rfl)
      · obtain ⟨hquoted, hcolon⟩ := not_or.1 hc
        rw [Bool.not_eq_true] at hquoted
        rw [Decidable.not_not] at hcolon
        subst hquoted hcolon
        obtain ⟨t, rfl, ht⟩ := h.cast
        exact .cast (ih _ (by simp only [List.length_cons]; omega) ht rfl)

theorem runsEven_of_inert {quoted : Bool} {s : List Char} (h : Inert quoted s) :
    RunsEven quoted s := by
  induction h with
  | nil quoted =>
    intro before n after hs _ _ _
    cases n with
    | zero => rfl
    | succ n => simp [List.replicate_succ] at hs
  | @char quoted c s hc _ ih =>
    intro before n after hs hquoted hlast hafter
    cases before with
    | cons b before =>
      obtain ⟨rfl, htail⟩ := List.cons.inj hs
      refine ih before n after htail hquoted ?_ hafter
      cases before with
      | nil => exact fun he => nomatch he
      | cons b before => exact hlast
    | nil =>
      cases n with
      | zero => rfl
      | succ n =>
        -- a run starts inside of a literal
        have hcolon : c = ':' := (List.cons.inj hs).1
        exact absurd hcolon (hc.resolve_left fun he => Bool.noConfusion (he.symm.trans hquoted))
  | @cast s _ ih =>
    intro before n after hs hquoted hlast hafter
    match before, n with
    | [], 0 => rfl
    | [], 1 =>
      have htail : ':' :: s = after := (List.cons.inj hs).2
      exact absurd (htail ▸ rfl) hafter
    | [], n + 2 =>
      have htail : s = [] ++ List.replicate n ':' ++ after :=
        (List.cons.inj (List.cons.inj hs).2).2
      have := ih [] n after htail rfl (fun he => nomatch he) hafter
      omega
    | [b], n =>
      have hb : ':' = b := (List.cons.inj hs).1
      exact absurd (congrArg some hb.symm) hlast
    | b :: b' :: before, n =>
      obtain ⟨hb, hs'⟩ := List.cons.inj hs
      obtain ⟨hb', htail⟩ := List.cons.inj hs'
      subst hb hb'
      refine ih before n after htail hquoted ?_ hafter
      cases before with
      | nil => exact fun he => nomatch he
      | cons b before => exact hlast

/-- For the scanner: a balanced column is copied and leaves no literal open. -/
theorem balancedColumn_iff {column : List Char} :
    BalancedColumn column ↔ Inert false column ∧ quotedAfter false column = false := by
  have hcount : ∀ s, quotedAfter false s = false ↔ s.count '\'' % 2 = 0 := by
    intro s
    rw [quotedAfter_eq]
    split <;> simp_all
  constructor
  · intro h
    refine ⟨inert_of_runsEven ?_, (hcount _).2 h.quotes⟩
    intro before n after hs hquoted
    exact h.colons before n after hs ((hcount _).1 hquoted)
  · rintro ⟨hinert, hquoted⟩
    refine ⟨(hcount _).1 hquoted, ?_⟩
    intro before n after hs heven
    exact runsEven_of_inert hinert before n after hs ((hcount _).2 heven)

instance (column : List Char) : Decidable (BalancedColumn column) :=
  decidable_of_iff _ balancedColumn_iff.symm

/-! ## Fields -/

/-- No character of the field means anything to the scanner, and a numeral behind the field can be
told from it. -/
structure PlainField (field : String) : Prop where
  blank : ' ' ∉ field.toList
  parenthesis : ')' ∉ field.toList
  dull : Dull field.toList
  undigited : field.toList.getLast?.any Char.isDigit = false

instance (field : String) : Decidable (PlainField field) :=
  decidable_of_iff (' ' ∉ field.toList ∧ ')' ∉ field.toList ∧ Dull field.toList ∧
      field.toList.getLast?.any Char.isDigit = false)
    ⟨fun h => ⟨h.1, h.2.1, h.2.2.1, h.2.2.2⟩,
      fun h => ⟨h.blank, h.parenthesis, h.dull, h.undigited⟩⟩

/-- A name has the characters of the field and digits. -/
theorem Comparison.not_mem_parameterName {c : Comparison} {x : Char} (hfield : x ∉ c.field.toList)
    (hdigit : x.isDigit = false) (number : Nat) : x ∉ (c.parameterName number).toList := by
  intro hx
  rw [toList_parameterName, List.mem_append] at hx
  rcases hx with hx | hx
  · exact hfield hx
  · have h := Nat.isDigit_of_mem_toDigits (by decide) (by decide) hx
    rw [hdigit] at h
    exact Bool.noConfusion h

/-- Plain fields do not clash: a clash puts digits at the end of one of the two. -/
theorem not_clashing {x y : Comparison × Nat} (hx : PlainField x.1.field) : ¬ Clashing x y := by
  rintro ⟨w, -, hfield, -⟩
  have hc := List.getLast?_eq_some_getLast (Nat.toDigits_ne_nil (n := w) (b := 10))
  generalize (Nat.toDigits 10 w).getLast Nat.toDigits_ne_nil = c at hc
  have hlast : x.1.field.toList.getLast? = some c := by
    rw [hfield, String.toList_append, Nat.toString_eq_repr, Nat.toList_repr,
      List.getLast?_append, hc]
    rfl
  have hdigit := Nat.isDigit_of_mem_toDigits (by decide) (by decide) (List.mem_of_getLast? hc)
  have hnone := hx.undigited
  rw [hlast, Option.any_some, hdigit] at hnone
  exact Bool.noConfusion hnone

/-- Names without blanks and parentheses do not run over the end of one another. -/
theorem namesStop_of_not_mem {names : List String}
    (h : ∀ a ∈ names, ' ' ∉ a.toList ∧ ')' ∉ a.toList) : NamesStop names := by
  intro a _ b hb u hu hstops
  cases u with
  | nil => rfl
  | cons x u =>
    have hx : x ∈ b.toList := by
      rw [hu]
      exact List.mem_append_right _ (List.mem_cons_self ..)
    obtain ⟨hblank, hparenthesis⟩ := h b hb
    rcases hstops x rfl with rfl | rfl
    · exact absurd hx hblank
    · exact absurd hx hparenthesis

/-! ## Closed layouts -/

namespace Segment

/-- Copied text is inert outside of literals and leaves none open. -/
def Closed (segments : List Segment) : Prop :=
  ∀ s, copied s ∈ segments → Inert false s ∧ quotedAfter false s = false

variable {segments : List Segment}

theorem Closed.after {x : Segment} (h : Closed (x :: segments)) : x.after false = false := by
  cases x with
  | copied s => exact (h s (List.mem_cons_self ..)).2
  | operand c number => rfl

theorem Closed.tail {x : Segment} (h : Closed (x :: segments)) : Closed segments :=
  fun s hs => h s (List.mem_cons_of_mem x hs)

theorem Closed.copiedInert (h : Closed segments) : CopiedInert false segments := by
  induction segments with
  | nil => exact trivial
  | cons x rest ih =>
    refine ⟨?_, ?_⟩
    · rintro s rfl
      exact (h s (List.mem_cons_self ..)).1
    · rw [h.after]
      exact ih h.tail

/-- All holes of a closed layout are outside of literals. -/
theorem Closed.holes (h : Closed segments) :
    holes false false segments = segments.filterMap operand? := by
  induction segments with
  | nil => rfl
  | cons x rest ih =>
    rw [Segment.holes, if_pos rfl, h.after, ih h.tail, operands_cons]

theorem printFrom_texts (d : Dialect) (n : Nat) (s : List Char) :
    printFrom d n (s.map fun c => .text [c]) = s := by
  induction s with
  | nil => rfl
  | cons c s ih => exact congrArg (c :: ·) ih

/-- A closed layout whose holes speak for themselves is printed with placeholders in the holes. -/
theorem Closed.printFrom_readAll {ps : List Parameter} (h : Closed segments)
    (hfound : Found ps Prod.fst (segments.filterMap operand?)) (d : Dialect) (n : Nat) :
    printFrom d n ((readAll ps false segments).flatMap Piece.tokens) = fill d n segments := by
  induction segments generalizing n with
  | nil => rfl
  | cons x rest ih =>
    rw [readAll, List.flatMap_append, printFrom_append, h.after]
    cases x with
    | copied s =>
      rw [read, tokens_plain, printFrom_texts, slotValues_of_mute (mute_texts s),
        ih h.tail hfound]
      rfl
    | operand c number =>
      obtain ⟨p, k, hp, hfind⟩ := hfound (c, number) (List.mem_cons_self ..)
      rw [tokens_read_operand hfind, Comparison.printFrom_referenceTokens hp,
        Comparison.slotValues_referenceTokens hp,
        ih h.tail fun x hx => hfound x (List.mem_cons_of_mem _ hx)]
      rfl

theorem Closed.slotValues_readAll {ps : List Parameter} (h : Closed segments)
    (hfound : Found ps Prod.fst (segments.filterMap operand?)) :
    slotValues ((readAll ps false segments).flatMap Piece.tokens) = values segments := by
  rw [← h.holes] at hfound
  rw [Segment.slotValues_readAll hfound, h.holes]
  rfl

theorem Closed.fault?_readAll {ps : List Parameter} (h : Closed segments)
    (hfound : Found ps Prod.fst (segments.filterMap operand?)) :
    ∀ t ∈ (readAll ps false segments).flatMap Piece.tokens, t.fault? = none := by
  rw [← h.holes] at hfound
  exact Segment.fault?_readAll hfound

/-- Layouts one after the other. -/
theorem printAll_readAll {ps : List Parameter} {layouts : List (List Segment)}
    (h : ∀ l ∈ layouts, Closed l ∧ Found ps Prod.fst (l.filterMap operand?)) (d : Dialect)
    (n : Nat) :
    printAll d n (layouts.map fun l => (readAll ps false l).flatMap Piece.tokens) =
      fillAll d n layouts := by
  induction layouts generalizing n with
  | nil => rfl
  | cons l rest ih =>
    obtain ⟨hclosed, hfound⟩ := h l (List.mem_cons_self ..)
    rw [List.map_cons, printAll, fillAll, hclosed.printFrom_readAll hfound,
      hclosed.slotValues_readAll hfound, ih fun k hk => h k (List.mem_cons_of_mem l hk)]

theorem slotValues_layouts_readAll {ps : List Parameter} {layouts : List (List Segment)}
    (h : ∀ l ∈ layouts, Closed l ∧ Found ps Prod.fst (l.filterMap operand?)) :
    (layouts.map fun l => (readAll ps false l).flatMap Piece.tokens).flatMap slotValues =
      layouts.flatMap values := by
  rw [List.flatMap_map, List.flatMap_def, List.flatMap_def]
  refine congrArg List.flatten (List.map_congr_left fun l hl => ?_)
  obtain ⟨hclosed, hfound⟩ := h l hl
  exact hclosed.slotValues_readAll hfound

end Segment

/-- Dull text behind a balanced column leaves it balanced. -/
theorem Segment.closed_append {column rest : List Char}
    (h : Inert false column ∧ quotedAfter false column = false) (hrest : Dull rest) :
    Inert false (column ++ rest) ∧ quotedAfter false (column ++ rest) = false := by
  refine ⟨inert_append h.1 (inert_of_not_mem _ hrest.2), ?_⟩
  rw [quotedAfter_append, h.2, quotedAfter_of_not_mem _ hrest.1]

/-- Dull fields and balanced columns make what is copied closed. -/
theorem Segment.CopiedFrom.closed {fields : FieldMap} {comparisons : List Comparison}
    {s : List Char} (h : CopiedFrom fields comparisons s)
    (hmap : ∀ e ∈ fields.entries, BalancedColumn e.2.toList)
    (hfields : ∀ c ∈ comparisons, Dull c.field.toList) :
    Inert false s ∧ quotedAfter false s = false := by
  obtain ⟨column, rest, rfl, hrest, hcolumn⟩ := h
  have hcolumn : Inert false column ∧ quotedAfter false column = false := by
    rcases hcolumn with rfl | ⟨c, hc, rfl⟩
    · exact ⟨.nil false, rfl⟩
    · rcases fields.resolve_cases c.field with he | ⟨e, hmem, he⟩
      · rw [he]
        have hdull := hfields c hc
        exact ⟨inert_of_not_mem _ hdull.2, quotedAfter_of_not_mem _ hdull.1⟩
      · rw [he]
        exact balancedColumn_iff.1 (hmap e hmem)
  exact closed_append hcolumn hrest

theorem Segment.closed_of_mem_layouts {cs : List Criteria} {fields : FieldMap}
    {segments : List Segment} (h : segments ∈ Filter.layouts fields 0 (Criteria.allFilters cs))
    (hmap : ∀ e ∈ fields.entries, BalancedColumn e.2.toList)
    (hfields : ∀ c ∈ (Criteria.allFilters cs).flatMap Filter.comparisons, Dull c.field.toList) :
    Closed segments := by
  obtain ⟨f, hf, n, hn⟩ := Filter.mem_layouts h
  intro s hs
  rw [hn] at hs
  refine (Filter.copied_of_mem_layout hs).closed hmap fun c hc => ?_
  exact hfields c (List.mem_flatMap.2 ⟨f, hf, hc⟩)

/-! ## The main statement -/

section Plain

variable {cs : List Criteria}
  (hfields : ∀ c ∈ (Criteria.allFilters cs).flatMap Filter.comparisons, PlainField c.field)

include hfields

theorem Criteria.nodup_names : ((binding cs).map nameOf).Nodup := by
  have hclash : ∀ x ∈ binding cs, ∀ y ∈ binding cs, ¬ Clashing x y := fun x hx _ _ =>
    not_clashing (hfields x.1 (mem_comparisons_of_mem_binding hx))
  have h := Session.nodup_names FieldMap.empty hclash
  rw [Session.names_executeAll] at h
  exact h

theorem Criteria.namesStop_binding : NamesStop ((binding cs).map nameOf) := by
  refine namesStop_of_not_mem fun a ha => ?_
  obtain ⟨x, hx, rfl⟩ := List.mem_map.1 ha
  have hplain := hfields x.1 (mem_comparisons_of_mem_binding hx)
  exact ⟨Comparison.not_mem_parameterName hplain.blank (by decide) x.2,
    Comparison.not_mem_parameterName hplain.parenthesis (by decide) x.2⟩

theorem Criteria.legible_nameOf {x : Comparison × Nat} (hx : x ∈ binding cs) :
    Legible (nameOf x).toList := by
  have hplain := hfields x.1 (mem_comparisons_of_mem_binding hx)
  exact legible_of_not_mem (Comparison.not_mem_parameterName hplain.dull.2 (by decide) x.2)

section Predicate

variable {fields : FieldMap} {segments : List Segment}
  (h : segments ∈ Filter.layouts fields 0 (Criteria.allFilters cs))

include h

/-- Every hole finds its own parameter. -/
theorem Segment.found_of_mem_layouts :
    Found (bindAll [] (Criteria.parameters cs)) Prod.fst (segments.filterMap operand?) := by
  intro x hx
  have hbinding := Criteria.mem_binding_of_mem_layouts h hx
  have hfound := Criteria.find?_parameters hbinding
  rw [Criteria.speaker_of_nodup (Criteria.nodup_names hfields) hbinding] at hfound
  exact hfound

/-- The tokens of a predicate whose copied text is closed. -/
theorem Segment.tokens_of_closed (hclosed : Closed segments) :
    Fragment.tokens (bindAll [] (Criteria.parameters cs)) (String.ofList (segments.flatMap named)) =
      (readAll (bindAll [] (Criteria.parameters cs)) false segments).flatMap Piece.tokens := by
  unfold Fragment.tokens
  rw [String.toList_ofList, pieces_of_mem_layouts h (Criteria.namesStop_binding hfields)
    (fun x hx => Criteria.legible_nameOf hfields hx) hclosed.copiedInert]

theorem Segment.tokens_of_mem_layouts (hmap : ∀ e ∈ fields.entries, BalancedColumn e.2.toList) :
    Fragment.tokens (bindAll [] (Criteria.parameters cs)) (String.ofList (segments.flatMap named)) =
      (readAll (bindAll [] (Criteria.parameters cs)) false segments).flatMap Piece.tokens :=
  tokens_of_closed hfields h (closed_of_mem_layouts h hmap fun c hc => (hfields c hc).dull)

end Predicate

/-- Rendering succeeds; the holes of the predicates hold successive placeholders and the
parameters are the values of the comparisons from left to right. -/
theorem Sql.Select.render_executeAll {columns : List Expr} (source : FromClause)
    (hcolumns : ∀ e ∈ columns, ∀ s, e ≠ .fragment s) {fields : FieldMap}
    (hmap : ∀ e ∈ fields.entries, BalancedColumn e.2.toList) (d : Dialect) :
    let q := (Select.start columns source).executeAll fields cs
    let layouts := Filter.layouts fields 0 (Criteria.allFilters cs)
    ((Session.start fields).executeAll cs).flatMap Clauses.predicates =
        layouts.map (fun segments => String.ofList (segments.flatMap Segment.named)) ∧
      q.render d =
        .ok ⟨String.ofList (printFrom d 0 q.opening ++ whereText (Segment.fillAll d 0 layouts)
            ++ printFrom d 0 q.closing),
          ((Criteria.allFilters cs).flatMap Filter.comparisons).flatMap Comparison.values⟩ := by
  intro q layouts
  refine ⟨(Session.predicates_executeAll fields 0 cs).trans (Filter.named_layouts _ _ _), ?_⟩
  have hlayout : ∀ l ∈ layouts, Segment.Closed l ∧
      Segment.Found (bindAll [] (Criteria.parameters cs)) Prod.fst
        (l.filterMap Segment.operand?) := fun l h =>
    ⟨Segment.closed_of_mem_layouts h hmap fun c hc => (hfields c hc).dull,
      Segment.found_of_mem_layouts hfields h⟩
  have hconditions : conditions fields cs = layouts.map fun l =>
      (Segment.readAll (bindAll [] (Criteria.parameters cs)) false l).flatMap Piece.tokens :=
    List.map_congr_left fun _ h => Segment.tokens_of_mem_layouts hfields h hmap
  have htexts := Segment.printAll_readAll hlayout d 0
  rw [← hconditions] at htexts
  have hvalues : (conditions fields cs).flatMap slotValues =
      ((Criteria.allFilters cs).flatMap Filter.comparisons).flatMap Comparison.values := by
    rw [hconditions, Segment.slotValues_layouts_readAll hlayout]
    exact Filter.values_layouts fields 0 _
  have hfault : firstFault? (whereTokens (conditions fields cs)) = none := by
    refine firstFault?_conditions ?_
    rw [hconditions]
    intro part hpart
    obtain ⟨l, hl, rfl⟩ := List.mem_map.1 hpart
    obtain ⟨hclosed, hfound⟩ := hlayout l hl
    exact hclosed.fault?_readAll hfound
  have hrender := render_executeAll_start source fields cs hcolumns d
  rw [hfault, htexts, hvalues] at hrender
  exact hrender

end Plain

/-- Two criteria for one session; the last of their filters has an empty list. -/
def ordersOf (customer : String) : List Criteria :=
  [{ Criteria.empty with
      filters := [
        .or (.comparison ⟨"customer", .contains, .scalar (.text customer), by decide, rfl⟩)
          (.comparison ⟨"total", .gte, .scalar (.int 100), by decide, rfl⟩)] },
    ⟨[.comparison ⟨"day", .isIn, .list [.text "Mon", .text "Tue"], by decide, rfl⟩,
        .comparison ⟨"state", .notIn, .list [], by decide, rfl⟩], [], none, some 10, by decide⟩]

def orderColumns : FieldMap :=
  FieldMap.ofList [("customer", "data->>'who'"), ("day", "created::text")]

theorem Sql.Select.render_ordersOf :
    (∀ c ∈ (Criteria.allFilters (ordersOf "Ann")).flatMap Filter.comparisons, PlainField c.field) ∧
      (∀ e ∈ orderColumns.entries, BalancedColumn e.2.toList) ∧
      ((start [.name none "id"] ⟨⟨none, "orders"⟩, none⟩).executeAll orderColumns
          (ordersOf "Ann")).render .postgres =
        .ok ⟨"SELECT \"id\" FROM \"orders\" WHERE (( data->>'who' LIKE $1 OR total >= $2 ))"
            ++ " AND (created::text IN ($3, $4)) AND (state NOT IN (NULL)) LIMIT 10",
          [.text "%Ann%", .int 100, .text "Mon", .text "Tue"]⟩ := by
  have hfields : ∀ c ∈ (Criteria.allFilters (ordersOf "Ann")).flatMap Filter.comparisons,
      PlainField c.field := by decide +kernel
  have hmap : ∀ e ∈ orderColumns.entries, BalancedColumn e.2.toList := by decide +kernel
  have hcolumns : ∀ e ∈ [Expr.name none "id"], ∀ s, e ≠ .fragment s := by
    intro e he s
    rw [List.mem_singleton.1 he]
    exact fun h => nomatch h
  obtain ⟨-, h⟩ :=
    Select.render_executeAll hfields ⟨⟨none, "orders"⟩, none⟩ hcolumns hmap .postgres
  refine ⟨hfields, hmap, ?_⟩
  rw [h]
  exact congrArg Except.ok (by decide +kernel)

end QueryCriteria
