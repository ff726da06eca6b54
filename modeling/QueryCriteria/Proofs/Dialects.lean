import QueryCriteria.Proofs.Writing

/-!
The two dialects agree.

One query is written for PostgreSQL and for MySQL side by side, and the two writers are compared
after every operation. They are `Twin`s when they have bound the same values and met the same first
fault, and when their texts are `Parallel`: printed from one sequence of tokens, each of which is
copied into both texts or differs in one of three ways, the marks around a name, the placeholder of
a value, and the limit that MySQL needs before an offset.

Each operation keeps twins twins. A writer does have its dialect at hand; what an operation decides,
it decides by the query and by the parameters alone, and these the twins share. `Twin.scan` is where
the most is decided: a character opens a literal, is one half of a cast, or begins a name, and only
then something is written.
-/

namespace QueryCriteria.Sql

/-! ## Two texts from the same tokens -/

/-- The texts of a sequence in PostgreSQL and in MySQL, token by token. There is no fault in it. -/
inductive Parallel : List Token → List Char → List Char → Prop where
  | nil : Parallel [] [] []
  | text {ts : List Token} {pg my : List Char} (s : List Char) : Parallel ts pg my →
    Parallel (ts ++ [.text s]) (pg ++ s) (my ++ s)
  | name {ts : List Token} {pg my : List Char} (s : List Char) : Parallel ts pg my →
    Parallel (ts ++ [.name s]) (pg ++ Text.enclose '"' s) (my ++ Text.enclose '`' s)
  /-- The placeholder of the k-th value is `$k` in the one text and `?` in the other. -/
  | slot {ts : List Token} {pg my : List Char} (v : Value) : Parallel ts pg my →
    Parallel (ts ++ [.slot v]) (pg ++ '$' :: Nat.toDigits 10 ((slotValues ts).length + 1))
      (my ++ ['?'])
  /-- A window of rows that is not an offset alone. -/
  | window {ts : List Token} {pg my : List Char} {limit offset : Option UInt64}
    (h : offset.isSome → limit.isSome) : Parallel ts pg my →
    Parallel (ts ++ [.window limit offset])
      (pg ++ (Dialect.clause "LIMIT" limit ++ Dialect.clause "OFFSET" offset))
      (my ++ (Dialect.clause "LIMIT" limit ++ Dialect.clause "OFFSET" offset))
  | offset {ts : List Token} {pg my : List Char} (n : UInt64) : Parallel ts pg my →
    Parallel (ts ++ [.window none (some n)])
      (pg ++ Dialect.clause "OFFSET" (some n))
      (my ++ (" LIMIT 18446744073709551615".toList ++ Dialect.clause "OFFSET" (some n)))

/-! ## Two writers side by side -/

/-- The same query under way in PostgreSQL and in MySQL. -/
structure Writer.Twin (pg my : Writer) : Prop where
  postgres : pg.dialect = .postgres
  mysql : my.dialect = .mysql
  named : my.named = pg.named
  fault : my.fault = pg.fault
  printed : ∃ ts, Parallel ts pg.sql my.sql ∧ pg.values = slotValues ts ∧ my.values = slotValues ts

namespace Writer.Twin

variable {pg my : Writer}

theorem begin (ps : List Parameter) :
    Twin { dialect := .postgres, named := ps } { dialect := .mysql, named := ps } :=
  ⟨rfl, rfl, rfl, rfl, [], .nil, rfl, rfl⟩

/-- A token without a value, written in the way of each. -/
theorem copy (h : Twin pg my) {t : Token} (ht : t.value? = none) {s s' : List Char}
    (hs : ∀ ts, Parallel ts pg.sql my.sql → Parallel (ts ++ [t]) (pg.sql ++ s) (my.sql ++ s')) :
    Twin (pg.push s) (my.push s') := by
  obtain ⟨ts, hts, hpg, hmy⟩ := h.printed
  have hnone : slotValues [t] = [] := List.filterMap_cons_none ht
  have hvalues : slotValues (ts ++ [t]) = slotValues ts := by
    rw [slotValues_append, hnone, List.append_nil]
  exact ⟨h.postgres, h.mysql, h.named, h.fault, _, hs ts hts, hpg.trans hvalues.symm,
    hmy.trans hvalues.symm⟩

theorem push (h : Twin pg my) (s : List Char) : Twin (pg.push s) (my.push s) :=
  h.copy rfl fun _ hts => hts.text s

theorem quote (h : Twin pg my) (s : List Char) :
    Twin (pg.push (pg.dialect.quote s)) (my.push (my.dialect.quote s)) := by
  rw [h.postgres, h.mysql]
  exact h.copy rfl fun _ hts => hts.name s

theorem window (h : Twin pg my) (limit offset : Option UInt64) :
    Twin (pg.push (pg.dialect.window limit offset)) (my.push (my.dialect.window limit offset)) := by
  rw [h.postgres, h.mysql]
  cases limit with
  | some m => exact h.copy rfl fun _ hts => hts.window fun _ => rfl
  | none =>
    cases offset with
    | none => exact h.copy rfl fun _ hts => hts.window fun h => h
    | some n => exact h.copy rfl fun _ hts => hts.offset n

theorem fail (h : Twin pg my) (e : RenderError) : Twin (pg.fail e) (my.fail e) :=
  ⟨h.postgres, h.mysql, h.named, congrArg (Option.or · (some e)) h.fault, h.printed⟩

/-- Both have bound as many values, so the number of the placeholder is the same in both. -/
theorem bindValue (h : Twin pg my) (v : Value) : Twin (pg.bindValue v) (my.bindValue v) := by
  obtain ⟨ts, hts, hpg, hmy⟩ := h.printed
  have hvalues : slotValues (ts ++ [.slot v]) = slotValues ts ++ [v] := slotValues_append ts _
  unfold Writer.bindValue
  rw [h.postgres, h.mysql, hpg, hmy]
  exact ⟨rfl, rfl, h.named, h.fault, _, hts.slot v, hvalues.symm, hvalues.symm⟩

theorem qualified (h : Twin pg my) (before : Option String) (name : String) :
    Twin (pg.qualified before name) (my.qualified before name) := by
  cases before with
  | none => exact h.quote name.toList
  | some q => exact ((h.quote q.toList).push ['.']).quote name.toList

theorem separated {α : Type} {write : α → Writer → Writer}
    (hwrite : ∀ x {pg my : Writer}, Twin pg my → Twin (write x pg) (write x my))
    (between : List Char) (xs : List α) (h : Twin pg my) :
    Twin (separated between write xs pg) (separated between write xs my) := by
  cases xs with
  | nil => exact h
  | cons x xs =>
    have hrest {pg my : Writer} (h : Twin pg my) :
        Twin (xs.foldl (fun w x => write x (w.push between)) pg)
          (xs.foldl (fun w x => write x (w.push between)) my) := by
      induction xs generalizing pg my with
      | nil => exact h
      | cons y xs ih => exact ih (hwrite y (h.push between))
    exact hrest (hwrite x h)

theorem bindTexts (h : Twin pg my) (vs : List Value) :
    Twin (pg.bindTexts vs) (my.bindTexts vs) := by
  unfold Writer.bindTexts
  split
  · exact h.push _
  · exact separated (fun v _ _ h => h.bindValue (.text v.plain)) _ vs h

theorem reference (h : Twin pg my) (p : Parameter) :
    Twin (Writer.reference p pg) (Writer.reference p my) := by
  unfold Writer.reference
  cases p.value with
  | scalar v => exact h.bindValue v
  | list vs =>
    cases p.type with
    | none => exact (h.fail _).push _
    | some t =>
      cases t
      exact h.bindTexts vs

/-- Both read the fragment in the same way: what is a placeholder is decided by the text and by the
names of the parameters. -/
theorem scan (h : Twin pg my) (quoted : Bool) (s : List Char) :
    Twin (pg.scan quoted s) (my.scan quoted s) := by
  fun_induction Writer.scan quoted s pg generalizing my with
  | case1 quoted pg =>
    rw [Writer.scan]
    exact h
  | case2 quoted pg c s hplain ih =>
    rw [Writer.scan, if_pos hplain]
    exact ih (h.push [c])
  | case3 quoted pg c s hcolon hcast ih =>
    rw [Writer.scan, if_neg hcolon, if_pos hcast]
    exact ih (h.push [':', ':'])
  | case4 quoted pg c s hcolon hcast p hp ih =>
    rw [Writer.scan, if_neg hcolon, if_neg hcast, h.named, hp]
    exact ih (h.reference p)
  | case5 quoted pg c s hcolon hcast hnone hempty ih =>
    rw [Writer.scan, if_neg hcolon, if_neg hcast, h.named, hnone]
    simp only [hempty]
    exact ih (h.push [':'])
  | case6 quoted pg c s hcolon hcast hnone hname ih =>
    rw [Writer.scan, if_neg hcolon, if_neg hcast, h.named, hnone]
    simp only
    exact ih ((h.fail _).push _)

/-! ## The parts of a query -/

theorem expr (h : Twin pg my) (e : Expr) : Twin (e.write pg) (e.write my) := by
  cases e with
  | name q n => exact h.qualified q n
  | verbatim s => exact h.push s.toList
  | fragment s => exact h.scan false s.toList

theorem source (h : Twin pg my) (f : FromClause) : Twin (f.write pg) (f.write my) := by
  have htable := (h.push "FROM ".toList).qualified f.table.schema f.table.name
  unfold FromClause.write
  cases f.calledAs with
  | none => exact htable
  | some a => exact (htable.push " AS ".toList).quote a.toList

theorem sortKey (h : Twin pg my) (k : SortKey) : Twin (k.write pg) (k.write my) := by
  unfold SortKey.write
  cases k.direction with
  | none => exact h.expr k.expr
  | some d => exact ((h.expr k.expr).push [' ']).push d.sql.toList

theorem conditions (h : Twin pg my) (es : List Expr) :
    Twin (writeConditions es pg) (writeConditions es my) := by
  have hwhere := h.push " WHERE ".toList
  match es with
  | [] => exact h
  | [e] => exact hwhere.expr e
  | e :: e' :: es =>
    exact separated (fun e _ _ h => ((h.push ['(']).expr e).push [')']) _ (e :: e' :: es) hwhere

theorem opening (h : Twin pg my) (q : Select) : Twin (q.writeOpening pg) (q.writeOpening my) := by
  have hcolumns := separated (fun e _ _ h => h.expr e) ", ".toList q.columns
    (h.push "SELECT ".toList)
  unfold Select.writeOpening
  cases q.source with
  | none => exact hcolumns
  | some f => exact (hcolumns.push [' ']).source f

theorem sorting (h : Twin pg my) (ks : List SortKey) :
    Twin (writeSorting ks pg) (writeSorting ks my) := by
  unfold writeSorting
  split
  · exact h
  · exact separated (fun k _ _ h => h.sortKey k) _ ks (h.push _)

theorem body (h : Twin pg my) (q : Select) : Twin (q.writeBody pg) (q.writeBody my) :=
  ((h.opening q).conditions q.predicates).sorting q.sorting

end Writer.Twin

open Writer

theorem Select.twin_write (q : Select) : Twin (q.write .postgres) (q.write .mysql) := by
  have hbody := (Twin.begin q.parameters).body q
  have hwindow := hbody.window q.limit q.offset
  rw [hbody.postgres, hbody.mysql] at hwindow
  exact hwindow

/-- For every query the two dialects fail with the same fault, or both succeed with the same
parameters and with texts that are printed from the same tokens. -/
theorem Select.dialects_agree (q : Select) :
    (∃ e, ∀ d, q.render d = .error e) ∨
    ∃ ts pg my, Parallel ts pg my ∧
      q.render .postgres = .ok ⟨String.ofList pg, slotValues ts⟩ ∧
      q.render .mysql = .ok ⟨String.ofList my, slotValues ts⟩ := by
  have h := q.twin_write
  obtain ⟨ts, hts, hpg, hmy⟩ := h.printed
  simp only [render_eq_finish, finish]
  cases hfault : (q.write .postgres).fault with
  | some e =>
    left
    refine ⟨e, fun d => ?_⟩
    cases d with
    | postgres => rw [hfault]
    | mysql => rw [h.fault, hfault]
  | none =>
    right
    refine ⟨ts, _, _, hts, ?_, ?_⟩
    · rw [hpg]
    · rw [h.fault, hfault, hmy]

end QueryCriteria.Sql
