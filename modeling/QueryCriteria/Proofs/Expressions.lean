import QueryCriteria.Proofs.Conversion
import QueryCriteria.Proofs.Faults
import QueryCriteria.Proofs.FromClause
import QueryCriteria.Proofs.Writing

/-!
A query is rendered piece by piece.

All expressions of a query are written into one text and bind their values in one list. What goes
over from one of them to the next is the number of values bound so far and nothing else, so each
expression can be rendered alone. The text that it has alone falls into `Stretch`es: what is
copied, and placeholders with their indices. In a query it has the same stretches, with its
placeholders raised by the number of values before it (`printFrom_raised`), and the clauses only
stand around it (`Select.skeleton`).

`Expr.write_alone` says the same of a writer in any state: an expression that can be rendered
alone appends its raised text and its values, and leaves the rest of the state as it is. How the
expressions before it were read, with a quote left open or a colon at the end, has no part in
that.
-/

namespace QueryCriteria.Sql

/-! ## Stretches of a text -/

/-- A part of a rendered text. -/
inductive Stretch where
  | copied (s : List Char)
  /-- The placeholder of the parameter with this index, counted from 0. -/
  | placeholder (index : Nat)
  deriving DecidableEq

namespace Stretch

def text (d : Dialect) : Stretch → List Char
  | copied s => s
  | placeholder i => d.placeholder i

def index? : Stretch → Option Nat
  | copied _ => none
  | placeholder i => some i

/-- The same part when so many more parameters stand before it. -/
def raise (k : Nat) : Stretch → Stretch
  | copied s => copied s
  | placeholder i => placeholder (i + k)

def spell (d : Dialect) (ss : List Stretch) : List Char := ss.flatMap (text d)

end Stretch

/-- What a token becomes when so many slots stand before it. -/
def Token.stretch (d : Dialect) (before : Nat) : Token → Stretch
  | .slot _ => .placeholder before
  | t => .copied (t.print d before)

/-- The text of a sequence by its stretches. -/
def stretchesFrom (d : Dialect) (before : Nat) : List Token → List Stretch
  | [] => []
  | t :: ts => t.stretch d before :: stretchesFrom d (before + (slotValues [t]).length) ts

theorem spell_stretchesFrom (d : Dialect) (n : Nat) (ts : List Token) :
    Stretch.spell d (stretchesFrom d n ts) = printFrom d n ts := by
  induction ts generalizing n with
  | nil => rfl
  | cons t ts ih =>
    have hone : (t.stretch d n).text d = t.print d n := by cases t <;> rfl
    have hspell : Stretch.spell d (stretchesFrom d n (t :: ts)) =
        (t.stretch d n).text d ++ Stretch.spell d (stretchesFrom d _ ts) := List.flatMap_cons
    rw [hspell, hone, ih, printFrom]

/-- Only the placeholders know how many slots stand before them. -/
theorem stretchesFrom_add (d : Dialect) (n k : Nat) (ts : List Token) :
    stretchesFrom d (n + k) ts = (stretchesFrom d n ts).map (Stretch.raise k) := by
  induction ts generalizing n with
  | nil => rfl
  | cons t ts ih =>
    have hone : t.stretch d (n + k) = (t.stretch d n).raise k := by cases t <;> rfl
    rw [stretchesFrom, stretchesFrom, List.map_cons, ← ih, hone, Nat.add_right_comm]

theorem filterMap_index?_stretchesFrom (d : Dialect) (n : Nat) (ts : List Token) :
    (stretchesFrom d n ts).filterMap Stretch.index? = List.range' n (slotValues ts).length := by
  induction ts generalizing n with
  | nil => rfl
  | cons t ts ih =>
    have hsplit : slotValues (t :: ts) = slotValues [t] ++ slotValues ts := slotValues_append [t] ts
    have hone : (t.stretch d n).index?.toList = List.range' n (slotValues [t]).length := by
      cases t <;> rfl
    rw [stretchesFrom, hsplit, List.length_append, ← List.range'_append_1, ← hone, ← ih,
      List.filterMap_eq_flatMap_toList, List.flatMap_cons, ← List.filterMap_eq_flatMap_toList]

/-- A sequence that stands behind slots has the text that it has alone, with its placeholders
raised. -/
theorem printFrom_raised (d : Dialect) (n : Nat) (ts : List Token) :
    printFrom d n ts = Stretch.spell d ((stretchesFrom d 0 ts).map (Stretch.raise n)) := by
  rw [← stretchesFrom_add, Nat.zero_add, spell_stretchesFrom]

theorem printAll_append (d : Dialect) (n : Nat) (parts others : List (List Token)) :
    printAll d n (parts ++ others) =
      printAll d n parts ++ printAll d (n + (parts.flatMap slotValues).length) others := by
  induction parts generalizing n with
  | nil => rfl
  | cons p parts ih =>
    rw [List.cons_append, printAll, printAll, ih, List.cons_append, List.flatMap_cons,
      List.length_append, Nat.add_assoc]

theorem length_printAll (d : Dialect) (n : Nat) (parts : List (List Token)) :
    (printAll d n parts).length = parts.length := by
  induction parts generalizing n with
  | nil => rfl
  | cons p parts ih => rw [printAll, List.length_cons, ih, List.length_cons]

/-! ## Expressions alone -/

namespace Expr

/-- An expression by itself, with these parameters bound. -/
def render (d : Dialect) (ps : List Parameter) (e : Expr) : Except RenderError Query :=
  Sql.render d (e.tokens ps)

/-- The text of an expression by itself. -/
def stretches (d : Dialect) (ps : List Parameter) (e : Expr) : List Stretch :=
  stretchesFrom d 0 (e.tokens ps)

/-- The text of an expression behind so many parameters. -/
def raisedText (d : Dialect) (ps : List Parameter) (before : Nat) (e : Expr) : List Char :=
  Stretch.spell d ((e.stretches d ps).map (Stretch.raise before))

variable {d : Dialect} {ps : List Parameter} {e : Expr} {a : Query}

theorem render_eq_ok_iff :
    e.render d ps = .ok a ↔
      firstFault? (e.tokens ps) = none ∧
        a = ⟨String.ofList (printFrom d 0 (e.tokens ps)), slotValues (e.tokens ps)⟩ :=
  Sql.render_eq_ok_iff

/-- It is what a writer makes of the expression that has written nothing yet. -/
theorem render_eq_finish (d : Dialect) (ps : List Parameter) (e : Expr) :
    e.render d ps = (e.write { dialect := d, named := ps }).finish := by
  rw [e.write_eq, Writer.finish_putAll]
  rfl

/-- The text of an expression falls into its stretches, and its placeholders have the indices of its
parameters, one after the other. -/
theorem spell_stretches (h : e.render d ps = .ok a) :
    a.sql.toList = Stretch.spell d (e.stretches d ps) ∧
      (e.stretches d ps).filterMap Stretch.index? = List.range a.parameters.length := by
  obtain ⟨-, rfl⟩ := render_eq_ok_iff.1 h
  exact ⟨String.toList_ofList.trans (spell_stretchesFrom d 0 _).symm,
    (filterMap_index?_stretchesFrom d 0 _).trans List.range_eq_range'.symm⟩

end Expr

/-- Without a fault a run appends to the text and to the values. -/
theorem Writer.putAll_eq (w : Writer) {ts : List Token} (h : firstFault? ts = none) :
    w.putAll ts =
      { w with
        sql := w.sql ++ printFrom w.dialect w.values.length ts
        values := w.values ++ slotValues ts } := by
  have hfault : (w.putAll ts).fault = w.fault := by rw [fault_putAll, h, Option.or_none]
  have hrest : ∀ v : Writer, v.dialect = w.dialect → v.named = w.named → v.fault = w.fault →
      v = { w with sql := v.sql, values := v.values } := by
    rintro ⟨dialect, named, sql, values, fault⟩ rfl rfl rfl
    rfl
  rw [hrest _ (w.dialect_putAll ts) (w.named_putAll ts) hfault, w.sql_putAll h, w.values_putAll]

/-- An expression that can be rendered alone is written behind whatever was written before. -/
theorem Expr.write_alone {e : Expr} {w : Writer} {a : Query}
    (h : e.render w.dialect w.named = .ok a) :
    e.write w =
      { w with
        sql := w.sql ++ e.raisedText w.dialect w.named w.values.length
        values := w.values ++ a.parameters } := by
  obtain ⟨hfault, rfl⟩ := render_eq_ok_iff.1 h
  rw [e.write_eq, w.putAll_eq hfault, printFrom_raised]
  rfl

/-! ## Expressions one after the other -/

/-- The texts of expressions that stand one after the other behind so many parameters. Each comes
with what it is rendered to alone. -/
def raisedTexts (d : Dialect) (ps : List Parameter) : Nat → List (Expr × Query) → List (List Char)
  | _, [] => []
  | before, (e, alone) :: rest =>
    e.raisedText d ps before :: raisedTexts d ps (before + alone.parameters.length) rest

theorem raisedTexts_zip {d : Dialect} {ps : List Parameter} {es : List Expr} {alone : List Query}
    (h : List.Forall₂ (fun e a => e.render d ps = .ok a) es alone) (n : Nat) :
    raisedTexts d ps n (es.zip alone) = printAll d n (es.map (Expr.tokens ps)) := by
  induction h generalizing n with
  | nil => rfl
  | cons hea _ ih =>
    obtain ⟨-, rfl⟩ := Expr.render_eq_ok_iff.1 hea
    rw [List.zip_cons_cons, raisedTexts, ih, List.map_cons, printAll, Expr.raisedText,
      Expr.stretches, ← printFrom_raised]

theorem flatMap_parameters {d : Dialect} {ps : List Parameter} {es : List Expr}
    {alone : List Query} (h : List.Forall₂ (fun e a => e.render d ps = .ok a) es alone) :
    alone.flatMap Query.parameters = es.flatMap fun e => slotValues (e.tokens ps) := by
  induction h with
  | nil => rfl
  | cons hea _ ih =>
    obtain ⟨-, rfl⟩ := Expr.render_eq_ok_iff.1 hea
    rw [List.flatMap_cons, List.flatMap_cons, ih]

/-- Expressions can be rendered one by one if none of them has a fault. -/
theorem exists_forall₂_render {d : Dialect} {ps : List Parameter} {es : List Expr} :
    (∃ alone, List.Forall₂ (fun e a => e.render d ps = .ok a) es alone) ↔
      ∀ e ∈ es, firstFault? (e.tokens ps) = none := by
  have hone (e : Expr) : (∃ a, e.render d ps = .ok a) ↔ firstFault? (e.tokens ps) = none := by
    simp only [Expr.render_eq_ok_iff, exists_and_left, exists_eq, and_true]
  have hall : (∃ alone, es.mapM (Expr.render d ps) = .ok alone) ↔
      ∀ e ∈ es, ∃ a, e.render d ps = .ok a := exists_mapM_eq_ok_iff
  simp only [mapM_eq_ok_iff, hone] at hall
  exact hall

/-! ## The clauses around them -/

/-- The direction behind a sort key. -/
def directionText : Option Direction → List Char
  | none => []
  | some d => ' ' :: d.sql.toList

/-- Sort keys with their directions; nothing without a key. -/
def sortingText (directions : List (Option Direction)) (keys : List (List Char)) : List Char :=
  if directions.isEmpty then []
  else
    " ORDER BY ".toList
      ++ ", ".toList.intercalate (keys.zipWith (fun key d => key ++ directionText d) directions)

/-- The table of a query, if it has one. -/
def sourceText (d : Dialect) : Option FromClause → List Char
  | none => []
  | some f => ' ' :: f.text d

namespace Select

/-- The expressions in the order in which they are rendered. -/
def expressions (q : Select) : List Expr :=
  q.columns ++ q.predicates ++ q.sorting.map SortKey.expr

/-- A query with these texts in place of its expressions. -/
def skeleton (q : Select) (d : Dialect) (texts : List (List Char)) : List Char :=
  let columns := texts.take q.columns.length
  let predicates := (texts.drop q.columns.length).take q.predicates.length
  let keys := texts.drop (q.columns.length + q.predicates.length)
  "SELECT ".toList ++ ", ".toList.intercalate columns
    ++ sourceText d q.source
    ++ whereText predicates
    ++ sortingText (q.sorting.map SortKey.direction) keys
    ++ d.windowText q.limit q.offset

theorem skeleton_append {q : Select} {d : Dialect} {columns predicates : List (List Char)}
    (hc : columns.length = q.columns.length) (hp : predicates.length = q.predicates.length)
    (keys : List (List Char)) :
    q.skeleton d (columns ++ predicates ++ keys) =
      "SELECT ".toList ++ ", ".toList.intercalate columns
        ++ sourceText d q.source
        ++ whereText predicates
        ++ sortingText (q.sorting.map SortKey.direction) keys
        ++ d.windowText q.limit q.offset := by
  unfold skeleton
  rw [← hc, ← hp, ← List.length_append, List.drop_left, List.append_assoc columns,
    List.take_left, List.drop_left, List.take_left]

end Select

theorem slotValues_sortKey (ps : List Parameter) (k : SortKey) :
    slotValues (k.tokens ps) = slotValues (k.expr.tokens ps) := carried_value.sortKey ps k

theorem printFrom_sortKey (d : Dialect) (ps : List Parameter) (n : Nat) (k : SortKey) :
    printFrom d n (k.tokens ps) =
      printFrom d n (k.expr.tokens ps) ++ directionText k.direction := by
  unfold SortKey.tokens
  rw [printFrom_append]
  cases k.direction with
  | none => rfl
  | some dir => simp [printFrom, directionText, word, Token.print]

theorem printAll_sortKeys (d : Dialect) (ps : List Parameter) (n : Nat) (ks : List SortKey) :
    printAll d n (ks.map (SortKey.tokens ps)) =
      (printAll d n ((ks.map SortKey.expr).map (Expr.tokens ps))).zipWith
        (fun key d => key ++ directionText d) (ks.map SortKey.direction) := by
  induction ks generalizing n with
  | nil => rfl
  | cons k ks ih =>
    simp only [List.map_cons, printAll, List.zipWith_cons_cons]
    rw [slotValues_sortKey, printFrom_sortKey, ih]

theorem printFrom_sortingTokens (d : Dialect) (ps : List Parameter) (n : Nat) (ks : List SortKey) :
    printFrom d n (sortingTokens ps ks) =
      sortingText (ks.map SortKey.direction)
        (printAll d n ((ks.map SortKey.expr).map (Expr.tokens ps))) := by
  unfold sortingTokens sortingText
  rw [List.isEmpty_map]
  split
  · rfl
  · have hkeys := printFrom_joined d n ", ".toList (ks.map (SortKey.tokens ps))
    rw [printAll_sortKeys] at hkeys
    exact congrArg (" ORDER BY ".toList ++ ·) hkeys

namespace Select

variable (q : Select) (d : Dialect)

theorem printFrom_opening :
    printFrom d 0 q.opening =
      "SELECT ".toList
        ++ ", ".toList.intercalate (printAll d 0 (q.columns.map (Expr.tokens q.parameters)))
        ++ sourceText d q.source := by
  have hcolumns := printFrom_joined d 0 ", ".toList (q.columns.map (Expr.tokens q.parameters))
  unfold opening
  rw [printFrom_append]
  refine congrArg₂ (· ++ ·) (congrArg ("SELECT ".toList ++ ·) hcolumns) ?_
  cases q.source with
  | none => rfl
  | some f => exact congrArg (' ' :: ·) (f.printFrom_tokens d _)

/-- A query is its skeleton with the texts of its expressions. -/
theorem printFrom_tokens :
    printFrom d 0 q.tokens =
      q.skeleton d (printAll d 0 (q.expressions.map (Expr.tokens q.parameters))) := by
  have hopening : slotValues q.opening =
      (q.columns.map (Expr.tokens q.parameters)).flatMap slotValues := by
    rw [List.flatMap_map]
    exact carried_value.opening q
  have hclosing : q.closing = sortingTokens q.parameters q.sorting ++ [.window q.limit q.offset] :=
    rfl
  have hwindow (n : Nat) :
      printFrom d n [.window q.limit q.offset] = d.windowText q.limit q.offset :=
    (List.append_nil _).trans (d.window_eq_windowText _ _)
  unfold expressions
  rw [List.map_append, List.map_append, printAll_append, printAll_append,
    skeleton_append (by rw [length_printAll, List.length_map])
      (by rw [length_printAll, List.length_map]),
    tokens_eq, hclosing, ← List.append_assoc, printFrom_append, printFrom_append,
    printFrom_append, printFrom_opening, printFrom_whereTokens, printFrom_sortingTokens, hwindow,
    slotValues_append, slotValues_whereTokens, hopening, List.flatMap_append]

theorem slotValues_tokens :
    slotValues q.tokens = q.expressions.flatMap fun e => slotValues (e.tokens q.parameters) :=
  carried_value.expressions q

theorem firstFault?_tokens_eq_none_iff :
    firstFault? q.tokens = none ↔
      ∀ e ∈ q.expressions, firstFault? (e.tokens q.parameters) = none := by
  have hfaults (ts : List Token) : firstFault? ts = none ↔ ts.filterMap Token.fault? = [] := by
    rw [firstFault?_eq_none, List.filterMap_eq_nil_iff]
  simp only [hfaults]
  rw [carried_fault.expressions, List.flatMap_eq_nil_iff]
  rfl

/-! ## The main statement -/

/-- A query is rendered if each of its expressions is when it stands alone. Its parameters are those
of its expressions, one after the other, and its text is its skeleton with theirs, each raised by
the number of parameters before it. The text that an expression has alone is its stretches, in which
the placeholders are numbered through; and whatever a writer has written before, of an expression it
appends the raised text and the parameters. Alone means for a writer that has written nothing. -/
theorem render_expressions :
    (∀ r, q.render d = .ok r ↔ ∃ alone : List Query,
      List.Forall₂ (fun e a => e.render d q.parameters = .ok a) q.expressions alone ∧
        r.parameters = alone.flatMap Query.parameters ∧
        r.sql.toList =
          q.skeleton d (raisedTexts d q.parameters 0 (q.expressions.zip alone))) ∧
      ∀ e : Expr,
        e.render d q.parameters =
            (e.write { dialect := d, named := q.parameters }).finish ∧
          ∀ a, e.render d q.parameters = .ok a →
            a.sql.toList = Stretch.spell d (e.stretches d q.parameters) ∧
            (e.stretches d q.parameters).filterMap Stretch.index? =
              List.range a.parameters.length ∧
            ∀ w : Writer, w.dialect = d → w.named = q.parameters →
              e.write w =
                { w with
                  sql := w.sql ++ e.raisedText d q.parameters w.values.length
                  values := w.values ++ a.parameters } := by
  refine ⟨fun r => ?_, fun e => ⟨e.render_eq_finish d q.parameters, fun a h => ?_⟩⟩
  · obtain ⟨sql, parameters⟩ := r
    unfold render
    rw [render_eq_ok_iff, firstFault?_tokens_eq_none_iff, ← exists_forall₂_render (d := d),
      ← exists_and_right]
    refine exists_congr fun alone => and_congr_right fun h => ?_
    rw [flatMap_parameters h, raisedTexts_zip h, ← slotValues_tokens, ← printFrom_tokens,
      Query.mk.injEq, and_comm, ← String.ofList_inj, String.ofList_toList]
  · obtain ⟨hsql, hindices⟩ := Expr.spell_stretches h
    refine ⟨hsql, hindices, ?_⟩
    rintro w rfl hnamed
    rw [← hnamed] at h ⊢
    exact e.write_alone h

/-- Behind a quote that is left open and two values. -/
theorem render_expressions_behind :
    let x : Parameter := ⟨"x", .scalar (.int 7), none⟩
    let w : Writer :=
      { dialect := .postgres, named := [x], sql := "a = 'open ".toList, values := [.int 1, .int 2] }
    (Expr.fragment "b = :x").render .postgres [x] = .ok ⟨"b = $1", [.int 7]⟩ ∧
      (Expr.fragment "b = :x").write w =
        { w with sql := "a = 'open b = $3".toList, values := [.int 1, .int 2, .int 7] } := by
  intro x w
  have halone : (Expr.fragment "b = :x").render .postgres [x] = .ok ⟨"b = $1", [.int 7]⟩ := by
    rw [Expr.render_eq_ok_iff]
    decide +kernel
  obtain ⟨-, hexpr⟩ := render_expressions { parameters := [x] } .postgres
  have hwrite := ((hexpr _).2 _ halone).2.2 w rfl rfl
  have htext : (Expr.fragment "b = :x").raisedText .postgres [x] 2 = "b = $3".toList := by
    decide +kernel
  exact ⟨halone, hwrite.trans (by rw [show w.values.length = 2 from rfl, htext]; rfl)⟩

/-- A quote that is left open and a colon at the end are of no account for what stands behind
them. -/
example :
    let q : Select := {
      columns := [.fragment ":x"]
      predicates := [.fragment "a = 'open", .fragment "b = :x AND c:", .fragment "d = :x"]
      parameters := [⟨"x", .scalar (.int 7), none⟩] }
    (q.render .postgres).toOption =
      some ⟨"SELECT $1 WHERE (a = 'open) AND (b = $2 AND c:) AND (d = $3)",
        [.int 7, .int 7, .int 7]⟩ := by
  decide +kernel

end Select

end QueryCriteria.Sql
