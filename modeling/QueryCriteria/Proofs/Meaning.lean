import QueryCriteria.Proofs.Binding
import QueryCriteria.Proofs.Grammar

/-!
What the clause of a query means.

Criteria have a meaning of their own: once it is known which comparisons are true, a filter holds or
does not (`Filter.holds`), and criteria hold if all their filters do. The clause of a rendered query
has a meaning by the way it is read (`Condition.Reading`). The two agree if fields and columns are
dotted names (`Comparison.Dotted`). The clause can be read in one way only: as the filters joined
from left to right, with the text of each comparison at its place (`Sql.Select.reading_render`).

  * Layouts with placeholders in the holes are the texts of the filters as conditions
    (`Filter.fillAll_layouts`).
  * The text of a comparison on a dotted column is one atom to the lexer: none of its words joins
    conditions, and the parentheses in it stand behind IN (`Comparison.Dotted.atomic_text`).
  * So the clause is read as the grammar says such texts are read (`Filter.exists_clause`).
  * Dotted names mean nothing to the scanner, and two parameters have two names; so what is rendered
    is these layouts (`Sql.Select.render_dotted`).

The columns of the query may be anything. If there are fragments among them that refer to
parameters, the placeholders of the clause have the numbers after theirs; if one of them refers to
nothing, there is no query and no clause.
-/

namespace QueryCriteria

open Sql Sql.Fragment

/-! ## What criteria mean -/

namespace Filter

/-- The truth of a filter whose comparisons have numbers from `count + 1` on. -/
def holds (truth : Nat → Bool) (count : Nat) : Filter → Bool
  | comparison _ => truth (count + 1)
  | and left right =>
    left.holds truth count && right.holds truth (count + left.comparisonCount)
  | or left right =>
    left.holds truth count || right.holds truth (count + left.comparisonCount)

/-- All filters hold. -/
def allHold (truth : Nat → Bool) (count : Nat) : List Filter → Bool
  | [] => true
  | f :: fs => f.holds truth count && allHold truth (count + f.comparisonCount) fs

/-- A filter and the filters after it as one condition. -/
def joined (f : Filter) (fs : List Filter) : Condition Comparison :=
  .all f.condition (fs.map condition)

theorem length_atoms_condition (f : Filter) : f.condition.atoms.length = f.comparisonCount := by
  rw [atoms_condition, length_comparisons]

theorem holds_condition (truth : Nat → Bool) (count : Nat) (f : Filter) :
    f.condition.holds truth count = f.holds truth count := by
  induction f generalizing count with
  | comparison c => rfl
  | and l r hl hr => rw [condition, Condition.holds, length_atoms_condition, hl, hr, holds]
  | or l r hl hr => rw [condition, Condition.holds, length_atoms_condition, hl, hr, holds]

theorem holds_all (truth : Nat → Bool) (count : Nat) (c : Condition Comparison)
    (fs : List Filter) :
    (Condition.all c (fs.map condition)).holds truth count =
      (c.holds truth count && allHold truth (count + c.atoms.length) fs) := by
  induction fs generalizing c with
  | nil => exact (Bool.and_true _).symm
  | cons f fs ih =>
    have hstep : Condition.all c ((f :: fs).map condition) =
        Condition.all (.and c f.condition) (fs.map condition) := rfl
    rw [hstep, ih, Condition.holds, Condition.atoms, List.length_append, length_atoms_condition,
      holds_condition, allHold, Bool.and_assoc, Nat.add_assoc]

/-- A condition put together from filters holds if they all do. -/
theorem holds_joined (truth : Nat → Bool) (f : Filter) (fs : List Filter) :
    (joined f fs).holds truth 0 = allHold truth 0 (f :: fs) := by
  rw [joined, holds_all, holds_condition, length_atoms_condition, allHold]

end Filter

/-! ## The text with placeholders -/

namespace Comparison

/-- The number of values that the comparison binds. -/
def width (c : Comparison) : Nat := c.values.length

/-- The text of the comparison in a query, when so many placeholders stand before it. -/
def text (fields : FieldMap) (d : Dialect) (before : Nat) (c : Comparison) : List Char :=
  c.phrase (fields.resolve c.field).toList (c.placeholders d before)

theorem fill_layout (fields : FieldMap) (d : Dialect) (before : Nat) (c : Comparison)
    (number : Nat) : Segment.fill d before (c.layout fields number) = c.text fields d before := by
  unfold layout text phrase behind
  cases c.operand <;> simp [Segment.fill]

end Comparison

namespace Segment

theorem fill_append (d : Dialect) (before : Nat) (left right : List Segment) :
    fill d before (left ++ right) =
      fill d before left ++ fill d (before + (values left).length) right := by
  induction left generalizing before with
  | nil => rfl
  | cons x left ih =>
    cases x with
    | copied s =>
      show s ++ fill d before (left ++ right) = s ++ fill d before left ++ _
      rw [ih, List.append_assoc]
      rfl
    | operand c number =>
      have hvalues : values (operand c number :: left) = c.values ++ values left := rfl
      rw [List.cons_append, fill, ih, fill, hvalues, List.length_append, List.append_assoc,
        Nat.add_assoc]

theorem fill_grouped (d : Dialect) (before : Nat) (left : List Segment) (word : String)
    (right : List Segment) :
    fill d before (grouped left word right) =
      Condition.paired (fill d before left) word
        (fill d (before + (values left).length) right) := by
  have hopening : values (copied ['(', ' '] :: left) = values left := rfl
  unfold grouped
  rw [fill_append, fill_append, fill, fill, hopening]
  simp [fill, Condition.paired]

end Segment

namespace Filter

theorem length_values_layout (fields : FieldMap) (count : Nat) (f : Filter) :
    (Segment.values (f.layout fields count)).length = f.condition.extent Comparison.width := by
  have hvalues := values_layouts fields count [f]
  rw [layouts, layouts, List.flatMap_singleton, List.flatMap_singleton] at hvalues
  rw [hvalues, List.length_flatMap, Condition.extent, atoms_condition]
  rfl

theorem fill_layout (fields : FieldMap) (d : Dialect) (before count : Nat) (f : Filter) :
    Segment.fill d before (f.layout fields count) =
      (f.condition.label (Comparison.text fields d) Comparison.width before).text := by
  induction f generalizing before count with
  | comparison c => exact c.fill_layout fields d before (count + 1)
  | and l r hl hr =>
    rw [layout, Segment.fill_grouped, hl, hr, length_values_layout]
    rfl
  | or l r hl hr =>
    rw [layout, Segment.fill_grouped, hl, hr, length_values_layout]
    rfl

theorem fillAll_layouts (fields : FieldMap) (d : Dialect) (before count : Nat) (fs : List Filter) :
    Segment.fillAll d before (layouts fields count fs) =
      (Condition.labelAll (Comparison.text fields d) Comparison.width before
        (fs.map condition)).map Condition.text := by
  induction fs generalizing before count with
  | nil => rfl
  | cons f fs ih =>
    rw [layouts, Segment.fillAll, fill_layout, length_values_layout, ih]
    rfl

end Filter

/-! ## Names -/

/-- An ASCII letter or digit, an underscore or a dot. -/
def isDotted (c : Char) : Bool := c.isAlphanum || c == '_' || c == '.'

/-- Letters, digits, underscores and dots, and in no case one of the words that conditions are
written with. -/
structure DottedName (name : List Char) : Prop where
  nonempty : name ≠ []
  characters : name.all isDotted = true
  unreserved : ∀ w ∈ ["AND", "OR", "NOT", "IN", "IS", "LIKE"], Condition.spells w name = false

instance (name : List Char) : Decidable (DottedName name) :=
  decidable_of_iff (name ≠ [] ∧ name.all isDotted = true ∧
      ∀ w ∈ ["AND", "OR", "NOT", "IN", "IS", "LIKE"], Condition.spells w name = false)
    ⟨fun h => ⟨h.1, h.2.1, h.2.2⟩, fun h => ⟨h.nonempty, h.characters, h.unreserved⟩⟩

namespace DottedName

variable {name : List Char}

theorem not_mem (h : DottedName name) {c : Char} (hc : isDotted c = false) : c ∉ name := by
  intro hmem
  have hdotted := List.all_eq_true.1 h.characters c hmem
  rw [hc] at hdotted
  cases hdotted

theorem dull (h : DottedName name) : Dull name :=
  ⟨h.not_mem (by decide), h.not_mem (by decide)⟩

theorem isPlain (h : DottedName name) : Condition.IsPlain name :=
  ⟨⟨h.nonempty, h.not_mem (by decide), h.not_mem (by decide), h.not_mem (by decide)⟩,
    h.unreserved "AND" (by decide), h.unreserved "OR" (by decide)⟩

end DottedName

/-- A comparison whose field and column are dotted names. A numeral behind the field can be told
from it. -/
structure Comparison.Dotted (fields : FieldMap) (c : Comparison) : Prop where
  field : DottedName c.field.toList
  undigited : c.field.toList.getLast?.any Char.isDigit = false
  column : DottedName (fields.resolve c.field).toList

instance (fields : FieldMap) (c : Comparison) : Decidable (c.Dotted fields) :=
  decidable_of_iff (DottedName c.field.toList ∧ c.field.toList.getLast?.any Char.isDigit = false ∧
      DottedName (fields.resolve c.field).toList)
    ⟨fun h => ⟨h.1, h.2.1, h.2.2⟩, fun h => ⟨h.field, h.undigited, h.column⟩⟩

theorem Comparison.Dotted.plainField {fields : FieldMap} {c : Comparison} (h : c.Dotted fields) :
    PlainField c.field :=
  ⟨h.field.not_mem (by decide), h.field.not_mem (by decide), h.field.dull, h.undigited⟩

/-! ## The text of a comparison is an atom -/

open Condition (Atomic IsPlain)

/-- Placeholders are words, with a comma behind them or without. -/
theorem Sql.Dialect.isPlain_placeholder (d : Dialect) (index : Nat) {comma : List Char}
    (h : comma = [] ∨ comma = [',']) : IsPlain (d.placeholder index ++ comma) := by
  have hdigits : ∀ c, c.isDigit = false → c ∉ Nat.toDigits 10 (index + 1) := by
    intro c hc hmem
    rw [Nat.isDigit_of_mem_toDigits (by decide) (by decide) hmem] at hc
    cases hc
  have hcomma : ' ' ∉ comma ∧ '(' ∉ comma ∧ ')' ∉ comma := by
    rcases h with rfl | rfl <;> decide
  cases d with
  | postgres =>
    refine ⟨⟨List.cons_ne_nil _ _, ?_, ?_, ?_⟩, rfl, rfl⟩ <;>
      simp [placeholder, hdigits _, hcomma]
  | mysql => refine ⟨⟨List.cons_ne_nil _ _, ?_, ?_, ?_⟩, rfl, rfl⟩ <;> simp [placeholder, hcomma]

/-- Words with commas between them are an atom. -/
theorem Condition.atomic_intercalate {ws : List (List Char)} (hws : ws ≠ [])
    (h : ∀ w ∈ ws, IsPlain w ∧ IsPlain (w ++ [','])) : Atomic (", ".toList.intercalate ws) := by
  induction ws with
  | nil => exact absurd rfl hws
  | cons w rest ih =>
    cases rest with
    | nil =>
      rw [List.intercalate_singleton]
      exact (h w (List.mem_cons_self ..)).1.atomic
    | cons w' rest =>
      have ih := ih (List.cons_ne_nil _ _) fun v hv => h v (List.mem_cons_of_mem w hv)
      have hfirst := (h w (List.mem_cons_self ..)).2.atomic_blank ih
      rw [List.intercalate_cons_cons]
      simpa using hfirst

namespace Operator

variable {op : Operator} {a : List Char}

-- one lemma for each number of values that an operator takes

theorem atomic_of_nullary (h : op.arity = .nullary) : Atomic op.sql.toList := by
  have hnull : IsPlain "NULL".toList := by decide
  have hnot : IsPlain "NOT".toList := by decide
  have his : IsPlain "IS".toList := by decide
  obtain rfl | rfl : op = .isNull ∨ op = .isNotNull := by
    revert h
    cases op <;> decide
  · exact his.atomic_blank hnull.atomic
  · exact his.atomic_blank (hnot.atomic_blank hnull.atomic)

theorem atomic_of_scalar (h : op.arity = .scalar) (ha : Atomic a) :
    Atomic (op.sql.toList ++ ' ' :: a) := by
  have hop : IsPlain op.sql.toList := by
    revert h
    cases op <;> decide
  exact hop.atomic_blank ha

theorem atomic_of_list (h : op.arity = .list) (ha : Atomic a) :
    Atomic (op.sql.toList ++ ' ' :: '(' :: (a ++ [')'])) := by
  have hnot : IsPlain "NOT".toList := by decide
  obtain rfl | rfl : op = .isIn ∨ op = .notIn := by
    revert h
    cases op <;> decide
  · exact ha.list
  · exact hnot.atomic_blank ha.list

end Operator

namespace Comparison

theorem atomic_placeholders {c : Comparison} (hc : c.Binds) (d : Dialect) (before : Nat) :
    Atomic (c.placeholders d before) := by
  have hjoined : c.values ≠ [] → Atomic (", ".toList.intercalate
      ((List.range c.values.length).map fun i => d.placeholder (before + i))) := by
    intro hvalues
    refine Condition.atomic_intercalate ?_ ?_
    · simpa using hvalues
    · intro w hw
      obtain ⟨i, -, rfl⟩ := List.mem_map.1 hw
      have hbare := d.isPlain_placeholder (before + i) (.inl rfl)
      rw [List.append_nil] at hbare
      exact ⟨hbare, d.isPlain_placeholder (before + i) (.inr rfl)⟩
  unfold placeholders
  unfold values at hjoined ⊢
  cases ho : c.operand with
  | none => exact absurd ho hc
  | scalar v =>
    rw [ho] at hjoined
    exact hjoined (List.cons_ne_nil _ _)
  | list vs =>
    rw [ho] at hjoined
    cases vs with
    | nil =>
      have hnull : IsPlain "NULL".toList := by decide
      exact hnull.atomic
    | cons v vs => exact hjoined (List.cons_ne_nil _ _)

theorem Dotted.atomic_text {fields : FieldMap} {c : Comparison} (h : c.Dotted fields)
    (d : Dialect) (before : Nat) : Atomic (c.text fields d before) := by
  have hfits := c.fits
  unfold text phrase behind
  refine h.column.isPlain.atomic_blank ?_
  cases ho : c.operand with
  | none =>
    rw [ho] at hfits
    rw [List.append_nil]
    exact Operator.atomic_of_nullary hfits.symm
  | scalar v =>
    have hbinds : c.Binds := fun h => nomatch ho.symm.trans h
    rw [ho] at hfits
    exact Operator.atomic_of_scalar hfits.symm (atomic_placeholders hbinds d before)
  | list vs =>
    have hbinds : c.Binds := fun h => nomatch ho.symm.trans h
    rw [ho] at hfits
    exact Operator.atomic_of_list hfits.symm (atomic_placeholders hbinds d before)

end Comparison

/-! ## The clause -/

theorem Sql.whereText_map_text (c : Condition (List Char)) (cs : List (Condition (List Char))) :
    whereText ((c :: cs).map Condition.text) = " WHERE ".toList ++ Condition.jointText c cs := by
  cases cs with
  | nil => rfl
  | cons c' cs =>
    have hmap : ((c :: c' :: cs).map Condition.text).map (fun p => '(' :: p ++ [')']) =
        (c :: c' :: cs).map fun c => '(' :: c.text ++ [')'] := List.map_map
    exact congrArg (fun ps => " WHERE ".toList ++ " AND ".toList.intercalate ps) hmap

namespace Filter

variable {fields : FieldMap}

theorem atomic_of_mem_labelAll {fs : List Filter}
    (hfs : ∀ c ∈ fs.flatMap comparisons, c.Dotted fields) {d : Dialect} {before : Nat}
    {t : Condition (List Char)}
    (ht : t ∈ Condition.labelAll (Comparison.text fields d) Comparison.width before
      (fs.map condition)) : ∀ a ∈ t.atoms, Atomic a := by
  intro a ha
  obtain ⟨t', ht', n, rfl⟩ := Condition.mem_labelAll ht
  obtain ⟨f, hf, rfl⟩ := List.mem_map.1 ht'
  obtain ⟨c, hc, m, rfl⟩ := Condition.mem_atoms_label ha
  rw [atoms_condition] at hc
  exact (hfs c (List.mem_flatMap.2 ⟨f, hf, hc⟩)).atomic_text d m

/-- Layouts with placeholders in the holes make up a clause that is read as the filters joined. -/
theorem exists_clause {f : Filter} {fs : List Filter}
    (hfs : ∀ c ∈ (f :: fs).flatMap comparisons, c.Dotted fields) (d : Dialect)
    (before count : Nat) :
    ∃ clause, whereText (Segment.fillAll d before (layouts fields count (f :: fs))) =
        " WHERE ".toList ++ clause ∧
      ∀ c, Condition.Reading clause c ↔
        c = (joined f fs).label (Comparison.text fields d) Comparison.width before := by
  have hatomic : ∀ t ∈ Condition.labelAll (Comparison.text fields d) Comparison.width before
      ((f :: fs).map condition), ∀ a ∈ t.atoms, Atomic a := fun t ht =>
    atomic_of_mem_labelAll hfs ht
  rw [List.map_cons, Condition.labelAll] at hatomic
  refine ⟨Condition.jointText (f.condition.label (Comparison.text fields d) Comparison.width before)
    (Condition.labelAll (Comparison.text fields d) Comparison.width
      (before + f.condition.extent Comparison.width) (fs.map condition)), ?_, fun c => ?_⟩
  · rw [fillAll_layouts, List.map_cons, Condition.labelAll, whereText_map_text]
  · rw [Condition.reading_jointText_iff hatomic, joined, Condition.label_all]

end Filter

/-! ## The rendered query -/

theorem Segment.closed_of_dull {segments : List Segment}
    (h : ∀ s, copied s ∈ segments → Dull s) : Closed segments :=
  fun s hs => ⟨inert_of_not_mem _ (h s hs).2, quotedAfter_of_not_mem _ (h s hs).1⟩

/-- Dotted columns make what is copied closed. -/
theorem Filter.closed_layout {fields : FieldMap} {f : Filter}
    (hf : ∀ c ∈ f.comparisons, c.Dotted fields) (count : Nat) :
    Segment.Closed (f.layout fields count) := by
  refine Segment.closed_of_dull fun s hs => ?_
  obtain ⟨column, rest, rfl, hrest, hcolumn⟩ := copied_of_mem_layout hs
  refine dull_append.2 ⟨?_, hrest⟩
  rcases hcolumn with rfl | ⟨c, hc, rfl⟩
  · decide
  · exact (hf c hc).column.dull

namespace Sql.Select

theorem of_outcome_eq_ok {fault : Option RenderError} {query query' : Query}
    (h : outcome fault query = .ok query') : query = query' := by
  cases fault with
  | none => exact Except.ok.inj h
  | some e => cases h

section Dotted

variable {fields : FieldMap} {cs : List Criteria}
  (hdotted : ∀ c ∈ (Criteria.allFilters cs).flatMap Filter.comparisons, c.Dotted fields)

include hdotted

/-- The query has the layouts of the filters with placeholders in the holes, from the number of
placeholders in its columns on. -/
theorem render_dotted (columns : List Expr) (source : FromClause) (d : Dialect) :
    let q := (start columns source).executeAll fields cs
    ∃ values, q.render d = outcome (firstFault? q.opening)
      ⟨String.ofList (printFrom d 0 q.opening
          ++ whereText (Segment.fillAll d (slotValues q.opening).length
            (Filter.layouts fields 0 (Criteria.allFilters cs)))
          ++ printFrom d 0 q.closing), values⟩ := by
  intro q
  have hplain : ∀ c ∈ (Criteria.allFilters cs).flatMap Filter.comparisons, PlainField c.field :=
    fun c hc => (hdotted c hc).plainField
  have hlayout : ∀ l ∈ Filter.layouts fields 0 (Criteria.allFilters cs), Segment.Closed l ∧
      Segment.Found (bindAll [] (Criteria.parameters cs)) Prod.fst
        (l.filterMap Segment.operand?) := by
    intro l hl
    refine ⟨?_, Segment.found_of_mem_layouts hplain hl⟩
    obtain ⟨f, hf, n, rfl⟩ := Filter.mem_layouts hl
    exact f.closed_layout (fun c hc => hdotted c (List.mem_flatMap.2 ⟨f, hf, hc⟩)) n
  have hconditions : conditions fields cs =
      (Filter.layouts fields 0 (Criteria.allFilters cs)).map fun l =>
        (Segment.readAll (bindAll [] (Criteria.parameters cs)) false l).flatMap Piece.tokens :=
    List.map_congr_left fun l hl => Segment.tokens_of_closed hplain hl (hlayout l hl).1
  have hfault : firstFault? (whereTokens (conditions fields cs)) = none := by
    refine firstFault?_conditions fun part hpart => ?_
    rw [hconditions] at hpart
    obtain ⟨l, hl, rfl⟩ := List.mem_map.1 hpart
    exact (hlayout l hl).1.fault?_readAll (hlayout l hl).2
  -- the columns are not mute: they decide about success and take the first placeholders
  have hrender := render_framed d (mute_closing_executeAll columns source fields cs)
  have htexts := Segment.printAll_readAll hlayout d (slotValues q.opening).length
  rw [← hconditions] at htexts
  rw [map_tokens_predicates, hfault, Option.or_none, htexts] at hrender
  exact ⟨_, hrender⟩

/-- The clause of a rendered query is read as the filters joined in order, with the text of each
comparison at its place, and as nothing else; so it is true just when the criteria hold. Only a
fragment among the columns can keep the query from being rendered. -/
theorem reading_render {f : Filter} {fs : List Filter} (hcs : Criteria.allFilters cs = f :: fs)
    (columns : List Expr) (source : FromClause) (d : Dialect) :
    let q := (start columns source).executeAll fields cs
    ((∀ e ∈ columns, ∀ s, e ≠ .fragment s) → ∃ query, q.render d = .ok query) ∧
      ∀ query, q.render d = .ok query → ∃ clause,
        query.sql.toList =
            printFrom d 0 q.opening ++ " WHERE ".toList ++ clause ++ printFrom d 0 q.closing ∧
          (∀ c, Condition.Reading clause c ↔ c = (Filter.joined f fs).label
            (Comparison.text fields d) Comparison.width (slotValues q.opening).length) ∧
          ∀ c, Condition.Reading clause c →
            ∀ truth, c.holds truth 0 = Filter.allHold truth 0 (Criteria.allFilters cs) := by
  intro q
  obtain ⟨values, hrender⟩ := render_dotted hdotted columns source d
  refine ⟨fun hmute => ?_, fun query hquery => ?_⟩
  · have hopening := mute_opening_executeAll source fields cs hmute
    rw [firstFault?_of_mute hopening] at hrender
    exact ⟨_, hrender⟩
  · obtain ⟨clause, hclause, hreading⟩ :=
      Filter.exists_clause (hcs ▸ hdotted) d (slotValues q.opening).length 0
    rw [hrender] at hquery
    have hsql : _ = query.sql.toList :=
      congrArg (fun query => query.sql.toList) (of_outcome_eq_ok hquery)
    rw [hcs, hclause, String.toList_ofList, ← List.append_assoc] at hsql
    refine ⟨clause, hsql.symm, hreading, fun c hc truth => ?_⟩
    rw [(hreading c).1 hc, Condition.holds_label, Filter.holds_joined, hcs]

end Dotted

/-- Books by an author, or long ones on two shelves; and none that is lent. -/
def booksAtHand : List Criteria :=
  [{ Criteria.empty with
      filters := [.or
        (.comparison ⟨"author", .contains, .scalar (.text "Eco"), by decide, rfl⟩)
        (.and (.comparison ⟨"pages", .gte, .scalar (.int 500), by decide, rfl⟩)
          (.comparison ⟨"shelf", .isIn, .list [.text "A", .text "B"], by decide, rfl⟩))] },
    { Criteria.empty with
      filters := [.comparison ⟨"lent", .isNull, .none, by decide, by decide⟩] }]

/-- In the clause AND stands between the criteria and, in parentheses, within the first one. -/
theorem reading_render_booksAtHand :
    (∀ c ∈ (Criteria.allFilters booksAtHand).flatMap Filter.comparisons,
        c.Dotted (FieldMap.ofList [("shelf", "b.shelf")])) ∧
      ∃ query clause, ((start [.verbatim "*"] ⟨⟨none, "books"⟩, none⟩).executeAll
          (FieldMap.ofList [("shelf", "b.shelf")]) booksAtHand).render .postgres = .ok query ∧
        query.sql.toList = "SELECT * FROM \"books\" WHERE ".toList ++ clause ∧
          Condition.Reading clause
            (.and (.or (.atom "author LIKE $1".toList)
              (.and (.atom "pages >= $2".toList) (.atom "b.shelf IN ($3, $4)".toList)))
              (.atom "lent IS NULL".toList)) := by
  have hdotted : ∀ c ∈ (Criteria.allFilters booksAtHand).flatMap Filter.comparisons,
      c.Dotted (FieldMap.ofList [("shelf", "b.shelf")]) := by decide +kernel
  have hcolumns : ∀ e ∈ [Expr.verbatim "*"], ∀ s, e ≠ .fragment s := by simp
  obtain ⟨hok, hclause⟩ :=
    reading_render hdotted rfl [.verbatim "*"] ⟨⟨none, "books"⟩, none⟩ .postgres
  obtain ⟨query, hquery⟩ := hok hcolumns
  obtain ⟨clause, hsql, hreading, -⟩ := hclause query hquery
  refine ⟨hdotted, query, clause, hquery, ?_, (hreading _).2 (by decide +kernel)⟩
  have hopening : printFrom .postgres 0 ((start [.verbatim "*"] ⟨⟨none, "books"⟩, none⟩).executeAll
      (FieldMap.ofList [("shelf", "b.shelf")]) booksAtHand).opening =
        "SELECT * FROM \"books\"".toList := by decide +kernel
  have hclosing : printFrom .postgres 0 ((start [.verbatim "*"] ⟨⟨none, "books"⟩, none⟩).executeAll
      (FieldMap.ofList [("shelf", "b.shelf")]) booksAtHand).closing = [] := by decide +kernel
  rw [hsql, hopening, hclosing, List.append_nil]
  exact congrArg (· ++ clause) (by decide)

end Sql.Select

end QueryCriteria
