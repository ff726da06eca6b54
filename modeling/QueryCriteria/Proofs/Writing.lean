import QueryCriteria.Proofs.Printing

/-!
A query written in one pass.

`Select.render` first makes the tokens of a query and then prints them for a dialect. A `Writer`
does everything at once: it holds the text so far, the values bound so far and the first fault,
reads a fragment character by character, and asks its dialect whenever it comes to a name, to a
placeholder or to the window of rows. So it has the dialect at hand while it decides what to do
next, and whether its decisions depend on it is a question that can be put to it.

`Select.render_eq_finish` says that the two ways lead to one result. The step between them is `put`,
which writes one token: each operation of a writer is a run of it.
-/

namespace QueryCriteria.Sql

/-- A query under way. -/
structure Writer where
  dialect : Dialect
  /-- The parameters that fragments refer to. -/
  named : List Parameter
  sql : List Char := []
  values : List Value := []
  fault : Option RenderError := none

namespace Writer

/-- Copies a text. -/
def push (w : Writer) (s : List Char) : Writer := { w with sql := w.sql ++ s }

/-- Binds a value to the next placeholder. -/
def bindValue (w : Writer) (v : Value) : Writer :=
  { w with
    sql := w.sql ++ w.dialect.placeholder w.values.length
    values := w.values ++ [v] }

/-- Notes a fault. The first one stays. -/
def fail (w : Writer) (e : RenderError) : Writer := { w with fault := w.fault.or (some e) }

/-- What is written by `write`, with a text between each two. -/
def separated {α : Type} (between : List Char) (write : α → Writer → Writer) :
    List α → Writer → Writer
  | [], w => w
  | x :: xs, w => xs.foldl (fun w x => write x (w.push between)) (write x w)

/-- Binds values as texts. -/
def bindTexts (w : Writer) (vs : List Value) : Writer :=
  if vs.isEmpty then w.push "NULL".toList
  else separated ", ".toList (fun v w => w.bindValue (.text v.plain)) vs w

/-- A placeholder of a bound parameter. An untyped list is a fault, and its name is copied. -/
def reference (p : Parameter) (w : Writer) : Writer :=
  match p.value, p.type with
  | .scalar v, _ => w.bindValue v
  | .list vs, some .stringArray => w.bindTexts vs
  | .list _, none => (w.fail (.untypedList p.name)).push (':' :: p.name.toList)

/-- Whether a literal is open after one more character. -/
def quotedNext (quoted : Bool) (c : Char) : Bool := if c = '\'' then !quoted else quoted

open Fragment in
/-- A fragment from some place on, inside of a literal or not. A name that nothing is bound to is a
fault, and it is copied. -/
def scan (quoted : Bool) (s : List Char) (w : Writer) : Writer :=
  match s with
  | [] => w
  | c :: s =>
    if quoted || c ≠ ':' then scan (quotedNext quoted c) s (w.push [c])
    else if s.head? = some ':' then scan false (s.drop 1) (w.push [':', ':'])
    else
      match reference? w.named s with
      | some p => scan false (s.drop p.name.length) (w.reference p)
      | none =>
        match strayName s with
        | [] => scan false s (w.push [':'])
        | name =>
          scan false (s.drop name.length)
            ((w.fail (.unboundParameter (String.ofList name))).push (':' :: name))
termination_by s.length

/-- The query, or the fault. -/
def finish (w : Writer) : Except RenderError Query :=
  match w.fault with
  | some e => .error e
  | none => .ok ⟨String.ofList w.sql, w.values⟩

/-- A name in quotes, with another one before it if there is one. -/
def qualified (before : Option String) (name : String) (w : Writer) : Writer :=
  match before with
  | none => w.push (w.dialect.quote name.toList)
  | some q =>
    ((w.push (w.dialect.quote q.toList)).push ['.']).push (w.dialect.quote name.toList)

end Writer

/-! ## Writing a query -/

def Expr.write (e : Expr) (w : Writer) : Writer :=
  match e with
  | name q n => w.qualified q n
  | verbatim s => w.push s.toList
  | fragment s => w.scan false s.toList

def FromClause.write (f : FromClause) (w : Writer) : Writer :=
  let w := (w.push "FROM ".toList).qualified f.table.schema f.table.name
  match f.calledAs with
  | none => w
  | some a => (w.push " AS ".toList).push (w.dialect.quote a.toList)

def SortKey.write (k : SortKey) (w : Writer) : Writer :=
  let w := k.expr.write w
  match k.direction with
  | none => w
  | some d => (w.push [' ']).push d.sql.toList

def writeConditions (es : List Expr) (w : Writer) : Writer :=
  match es with
  | [] => w
  | [e] => e.write (w.push " WHERE ".toList)
  | es =>
    .separated " AND ".toList (fun e w => (e.write (w.push ['('])).push [')']) es
      (w.push " WHERE ".toList)

/-- The columns and the table. -/
def Select.writeOpening (q : Select) (w : Writer) : Writer :=
  let w := .separated ", ".toList Expr.write q.columns (w.push "SELECT ".toList)
  match q.source with
  | none => w
  | some f => f.write (w.push [' '])

def writeSorting (ks : List SortKey) (w : Writer) : Writer :=
  if ks.isEmpty then w
  else .separated ", ".toList SortKey.write ks (w.push " ORDER BY ".toList)

/-- All of a query but the window of rows. -/
def Select.writeBody (q : Select) (w : Writer) : Writer :=
  writeSorting q.sorting (writeConditions q.predicates (q.writeOpening w))

def Select.write (q : Select) (d : Dialect) : Writer :=
  (q.writeBody { dialect := d, named := q.parameters }).push (d.window q.limit q.offset)

/-! ## Token by token -/

/-- The name that a fault is about. -/
def RenderError.name : RenderError → String
  | unboundParameter name => name
  | untypedList name => name

namespace Writer

/-- Writes a token. -/
def put (w : Writer) : Token → Writer
  | .text s => w.push s
  | .name s => w.push (w.dialect.quote s)
  | .slot v => w.bindValue v
  | .window limit offset => w.push (w.dialect.window limit offset)
  | .fault e => (w.fail e).push (':' :: e.name.toList)

def putAll (w : Writer) (ts : List Token) : Writer := ts.foldl put w

theorem putAll_append (w : Writer) (ts us : List Token) :
    w.putAll (ts ++ us) = (w.putAll ts).putAll us := List.foldl_append

theorem push_push (w : Writer) (s t : List Char) : (w.push s).push t = w.push (s ++ t) := by
  unfold push
  simp only [List.append_assoc]

theorem named_put (w : Writer) (t : Token) : (w.put t).named = w.named := by
  cases t <;> rfl

theorem dialect_put (w : Writer) (t : Token) : (w.put t).dialect = w.dialect := by
  cases t <;> rfl

theorem named_putAll (w : Writer) (ts : List Token) : (w.putAll ts).named = w.named := by
  induction ts generalizing w with
  | nil => rfl
  | cons t ts ih => exact (ih (w.put t)).trans (w.named_put t)

theorem dialect_putAll (w : Writer) (ts : List Token) : (w.putAll ts).dialect = w.dialect := by
  induction ts generalizing w with
  | nil => rfl
  | cons t ts ih => exact (ih (w.put t)).trans (w.dialect_put t)

/-- What a run has bound. -/
theorem values_putAll (w : Writer) (ts : List Token) :
    (w.putAll ts).values = w.values ++ slotValues ts := by
  induction ts generalizing w with
  | nil => exact (List.append_nil _).symm
  | cons t ts ih =>
    have hone : (w.put t).values = w.values ++ slotValues [t] := by
      cases t <;> simp [put, push, bindValue, fail, slotValues, Token.value?]
    have hsplit : slotValues (t :: ts) = slotValues [t] ++ slotValues ts := slotValues_append [t] ts
    rw [hsplit, ← List.append_assoc, ← hone]
    exact ih (w.put t)

theorem fault_putAll (w : Writer) (ts : List Token) :
    (w.putAll ts).fault = w.fault.or (firstFault? ts) := by
  induction ts generalizing w with
  | nil => exact (Option.or_none).symm
  | cons t ts ih =>
    have hone : (w.put t).fault = w.fault.or (firstFault? [t]) := by
      cases t <;> simp [put, push, bindValue, fail, firstFault?, Token.fault?]
    have hsplit : firstFault? (t :: ts) = (firstFault? [t]).or (firstFault? ts) :=
      firstFault?_append [t] ts
    rw [hsplit, ← Option.or_assoc, ← hone]
    exact ih (w.put t)

/-- Without a fault the text of a run is the text of its tokens. -/
theorem sql_putAll (w : Writer) {ts : List Token} (h : firstFault? ts = none) :
    (w.putAll ts).sql = w.sql ++ printFrom w.dialect w.values.length ts := by
  induction ts generalizing w with
  | nil => exact (List.append_nil _).symm
  | cons t ts ih =>
    have hsplit : firstFault? (t :: ts) = (firstFault? [t]).or (firstFault? ts) :=
      firstFault?_append [t] ts
    obtain ⟨ht, hts⟩ := Option.or_eq_none_iff.1 (hsplit ▸ h)
    have hone : (w.put t).sql = w.sql ++ t.print w.dialect w.values.length := by
      cases t with
      | fault e => cases ht
      | _ => rfl
    have hvalues : (w.put t).values.length = w.values.length + (slotValues [t]).length := by
      have := values_putAll w [t]
      rw [← List.length_append, ← this]
      rfl
    have ih := ih (w.put t) hts
    rw [hone, hvalues, dialect_put, List.append_assoc] at ih
    exact ih

theorem finish_putAll (d : Dialect) (ps : List Parameter) (ts : List Token) :
    (putAll { dialect := d, named := ps } ts).finish = render d ts := by
  unfold finish render
  rw [fault_putAll]
  show (match firstFault? ts with | some e => _ | none => _) = _
  cases h : firstFault? ts with
  | some e => rfl
  | none =>
    simp only [sql_putAll _ h, values_putAll]
    rfl

end Writer

theorem joined_cons (between : Token) (p : List Token) (parts : List (List Token)) :
    joined between (p :: parts) = p ++ parts.flatMap (between :: ·) := by
  induction parts generalizing p with
  | nil => simp [joined]
  | cons q parts ih =>
    have hcons : joined between (p :: q :: parts) = p ++ [between] ++ joined between (q :: parts) :=
      List.intercalate_cons_cons
    rw [hcons, ih, List.flatMap_cons]
    simp

namespace Writer

variable {ps : List Parameter}

/-- Parts that are written as their tokens are so with a text between them too. -/
theorem separated_eq {α : Type} {between : List Char} {write : α → Writer → Writer}
    {tokens : α → List Token}
    (h : ∀ x w, w.named = ps → write x w = w.putAll (tokens x)) (xs : List α) {w : Writer}
    (hw : w.named = ps) :
    separated between write xs w = w.putAll (joined (.text between) (xs.map tokens)) := by
  have hrest : ∀ w : Writer, w.named = ps →
      xs.tail.foldl (fun w x => write x (w.push between)) w =
        w.putAll ((xs.tail.map tokens).flatMap (.text between :: ·)) := by
    induction xs.tail with
    | nil => exact fun _ _ => rfl
    | cons x xs ih =>
      intro w hw
      have hnamed : ((w.push between).putAll (tokens x)).named = ps := (named_putAll _ _).trans hw
      rw [List.foldl_cons, h x (w.push between) hw, ih _ hnamed, List.map_cons, List.flatMap_cons,
        putAll_append]
      rfl
  cases xs with
  | nil => rfl
  | cons x xs =>
    have hnamed : (write x w).named = ps := by
      rw [h x w hw]
      exact (named_putAll _ _).trans hw
    rw [List.map_cons, joined_cons, putAll_append, ← h x w hw]
    exact hrest _ hnamed

theorem bindTexts_eq (vs : List Value) (w : Writer) :
    w.bindTexts vs = w.putAll (Fragment.slots vs) := by
  cases vs with
  | nil => rfl
  | cons v vs =>
    have htext : ∀ (v : Value) (u : Writer), u.named = w.named →
        u.bindValue (.text v.plain) = u.putAll [.slot (.text v.plain)] := fun _ _ _ => rfl
    exact separated_eq htext (v :: vs) rfl

theorem reference_eq (p : Parameter) (w : Writer) :
    reference p w = w.putAll (Fragment.referenceTokens p) := by
  unfold reference Fragment.referenceTokens
  cases p.value with
  | scalar v => rfl
  | list vs =>
    cases p.type with
    | none => rfl
    | some t =>
      cases t
      exact bindTexts_eq vs w

/-- Reading and writing at once leads to the tokens of the pieces. -/
theorem scan_eq (quoted : Bool) (s : List Char) (w : Writer) :
    w.scan quoted s =
      w.putAll ((Fragment.piecesFrom w.named quoted 0 s).flatMap Fragment.Piece.tokens) := by
  fun_induction scan quoted s w with
  | case1 => rfl
  | case2 quoted w c s hplain ih =>
    rw [ih, Fragment.piecesFrom, if_pos hplain]
    rfl
  | case3 quoted w c s hcolon hcast ih =>
    rw [ih, Fragment.piecesFrom, if_neg hcolon, if_pos hcast, Fragment.piecesFrom_drop _ _ 1]
    exact congrArg (putAll · _) (push_push w [':'] [':']).symm
  | case4 quoted w c s hcolon hcast p hp ih =>
    rw [ih, Fragment.piecesFrom, if_neg hcolon, if_neg hcast, hp, reference_eq, named_putAll]
    simp only
    rw [Fragment.piecesFrom_drop _ _ p.name.length, List.flatMap_cons, putAll_append]
    rfl
  | case5 quoted w c s hcolon hcast hnone hempty ih =>
    rw [ih, Fragment.piecesFrom, if_neg hcolon, if_neg hcast, hnone]
    simp only [hempty]
    rfl
  | case6 quoted w c s hcolon hcast hnone hname ih =>
    have hput : (w.fail (.unboundParameter (String.ofList (Fragment.strayName s)))).push
        (':' :: Fragment.strayName s) =
        w.putAll (Fragment.Piece.unbound (Fragment.strayName s)).tokens := by
      simp [putAll, put, Fragment.Piece.tokens, RenderError.name]
    rw [ih, Fragment.piecesFrom, if_neg hcolon, if_neg hcast, hnone, hput, named_putAll]
    simp only
    rw [Fragment.piecesFrom_drop _ _ (Fragment.strayName s).length, List.flatMap_cons,
      putAll_append]

theorem named_scan (quoted : Bool) (s : List Char) (w : Writer) :
    (w.scan quoted s).named = w.named := by
  rw [scan_eq, named_putAll]

theorem values_scan (quoted : Bool) (s : List Char) (w : Writer) :
    (w.scan quoted s).values =
      w.values ++
        slotValues ((Fragment.piecesFrom w.named quoted 0 s).flatMap Fragment.Piece.tokens) := by
  rw [scan_eq, values_putAll]

theorem fault_scan (quoted : Bool) (s : List Char) (w : Writer) :
    (w.scan quoted s).fault =
      w.fault.or
        (firstFault? ((Fragment.piecesFrom w.named quoted 0 s).flatMap Fragment.Piece.tokens)) := by
  rw [scan_eq, fault_putAll]

theorem qualified_eq (before : Option String) (name : String) (w : Writer) :
    w.qualified before name = w.putAll (Sql.qualified before name) := by
  cases before <;> rfl

end Writer

open Writer

theorem Expr.write_eq (e : Expr) (w : Writer) : e.write w = w.putAll (e.tokens w.named) := by
  cases e with
  | name q n => exact qualified_eq q n w
  | verbatim s => rfl
  | fragment s => exact scan_eq false s.toList w

theorem FromClause.write_eq (f : FromClause) (w : Writer) : f.write w = w.putAll f.tokens := by
  unfold write tokens
  rw [qualified_eq, putAll_append]
  cases f.calledAs <;> rfl

theorem SortKey.write_eq (k : SortKey) (w : Writer) : k.write w = w.putAll (k.tokens w.named) := by
  unfold write tokens
  rw [Expr.write_eq, putAll_append]
  cases k.direction <;> rfl

theorem writeConditions_eq (es : List Expr) (w : Writer) :
    writeConditions es w = w.putAll (whereTokens (es.map (Expr.tokens w.named))) := by
  cases es with
  | nil => rfl
  | cons e es =>
    cases es with
    | nil => exact e.write_eq _
    | cons e' es =>
      have hgroup : ∀ (e : Expr) (v : Writer), v.named = w.named →
          (e.write (v.push ['('])).push [')'] =
            v.putAll (word "(" :: e.tokens w.named ++ [word ")"]) := by
        intro e v hv
        rw [Expr.write_eq, putAll_append, ← hv]
        rfl
      have h : separated " AND ".toList _ (e :: e' :: es) (w.push " WHERE ".toList) = _ :=
        separated_eq hgroup (e :: e' :: es) rfl
      show _ = w.putAll (word " WHERE " :: joined (word " AND ")
        (((e :: e' :: es).map (Expr.tokens w.named)).map fun p => word "(" :: p ++ [word ")"]))
      rw [List.map_map]
      exact h

theorem Select.writeOpening_eq (q : Select) {w : Writer} (hw : w.named = q.parameters) :
    q.writeOpening w = w.putAll q.opening := by
  have hcolumns : separated ", ".toList Expr.write q.columns (w.push "SELECT ".toList) =
      w.putAll (word "SELECT " :: joined (word ", ") (q.columns.map (Expr.tokens q.parameters))) :=
    separated_eq (fun e w hw => hw ▸ Expr.write_eq e w) q.columns hw
  unfold writeOpening opening
  simp only [putAll_append]
  rw [hcolumns]
  cases q.source with
  | none => rfl
  | some f => exact f.write_eq _

/-- The sort keys of a query. -/
def sortingTokens (ps : List Parameter) (ks : List SortKey) : List Token :=
  if ks.isEmpty then []
  else word " ORDER BY " :: joined (word ", ") (ks.map (SortKey.tokens ps))

theorem writeSorting_eq (ks : List SortKey) (w : Writer) :
    writeSorting ks w = w.putAll (sortingTokens w.named ks) := by
  unfold writeSorting sortingTokens
  split
  · rfl
  · exact separated_eq (fun k w hw => hw ▸ SortKey.write_eq k w) ks rfl

namespace Select

/-- The tokens of all of a query but the window of rows. -/
def bodyTokens (q : Select) : List Token :=
  q.opening ++ whereTokens (q.predicates.map (Expr.tokens q.parameters))
    ++ sortingTokens q.parameters q.sorting

theorem writeBody_eq (q : Select) {w : Writer} (hw : w.named = q.parameters) :
    q.writeBody w = w.putAll q.bodyTokens := by
  unfold writeBody bodyTokens
  rw [q.writeOpening_eq hw, writeConditions_eq, writeSorting_eq]
  simp only [named_putAll, hw, putAll_append]

theorem write_eq (q : Select) (d : Dialect) :
    q.write d = putAll { dialect := d, named := q.parameters } q.tokens := by
  have htokens : q.tokens = q.bodyTokens ++ [.window q.limit q.offset] := by
    have hclosing : q.closing =
        sortingTokens q.parameters q.sorting ++ [.window q.limit q.offset] := rfl
    rw [tokens_eq, bodyTokens, hclosing]
    simp only [List.append_assoc]
  have hbody := q.writeBody_eq (w := { dialect := d, named := q.parameters }) rfl
  have hdialect : (q.writeBody { dialect := d, named := q.parameters }).dialect = d := by
    rw [hbody, dialect_putAll]
  rw [htokens, putAll_append, ← hbody]
  unfold write putAll
  rw [List.foldl_cons, List.foldl_nil, put, hdialect]

/-- A query that is written in one pass is the query that is rendered. -/
theorem render_eq_finish (q : Select) (d : Dialect) : q.render d = (q.write d).finish := by
  rw [write_eq, finish_putAll]
  rfl

end Select

end QueryCriteria.Sql
