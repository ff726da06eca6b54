import QueryCriteria.Proofs.WellFormed

/-!
A query does not show how it came about.

A query that has its columns and its table takes calls of several kinds (`Sql.Call`): the calls of
its own, single additions as clauses make them, and sessions that execute any number of criteria.
What a run of calls leaves of the query can be read off the calls part by part, each part in the
order of the calls (`Changes`, `Select.callAll_eq`); no call makes one part depend on another.

Of these parts rendering uses less than there is. Of the limits and the offsets the last one counts,
and of the bindings of a name the last one (`Changes.lastBinding?`). Two runs that agree in the rest
(`Changes.Alike`) may bind names in different orders, so their queries list their parameters in
different orders, and are rendered alike all the same (`Select.render_callAll`): a placeholder
refers to the longest name that stands behind it, names that stand at one place and are equally
long are equal, and a name is bound once. So it does not matter which parameter comes first
(`Fragment.reference?_congr`). Which names there are does not matter either; they may be fronts of
one another, or empty, or hold any characters.
-/

namespace QueryCriteria.Sql

/-! ## Calls -/

/-- A call on a query that has its columns and its table. -/
inductive Call where
  | filter (e : Expr)
  | bind (p : Parameter)
  | orderBy (k : SortKey)
  | takeRows (n : UInt64)
  | skipRows (n : UInt64)
  /-- One addition, as clauses make them. -/
  | add (a : Addition)
  /-- A session that begins here and executes criteria in turn. -/
  | execute (fields : FieldMap) (cs : List Criteria)

namespace Select

def call (q : Select) : Call → Select
  | .filter e => q.filter e
  | .bind p => q.bind p
  | .orderBy k => q.orderBy k
  | .takeRows n => q.takeRows n
  | .skipRows n => q.skipRows n
  | .add a => q.add a
  | .execute fields cs => q.executeAll fields cs

/-- The query after calls in turn. -/
def callAll (q : Select) (calls : List Call) : Select := calls.foldl call q

end Select

/-! ## What calls change -/

/-- What is done to the parts of a query, for each part in order. -/
structure Changes where
  predicates : List Expr := []
  sorting : List SortKey := []
  limits : List UInt64 := []
  offsets : List UInt64 := []
  bindings : List Parameter := []

namespace Changes

def ofAdditions (as : List Addition) : Changes where
  predicates := as.filterMap Addition.predicate?
  sorting := as.filterMap Addition.sortKey?
  limits := as.filterMap Addition.limit?
  offsets := as.filterMap Addition.offset?
  bindings := as.filterMap Addition.parameter?

/-- What one call changes. A session changes what the clauses of its criteria add. -/
def ofCall : Call → Changes
  | .filter e => { predicates := [e] }
  | .bind p => { bindings := [p] }
  | .orderBy k => { sorting := [k] }
  | .takeRows n => { limits := [n] }
  | .skipRows n => { offsets := [n] }
  | .add a => ofAdditions [a]
  | .execute fields cs =>
    ofAdditions (((Session.start fields).executeAll cs).flatMap Clauses.additions)

/-- What calls change in turn. -/
def ofCalls (calls : List Call) : Changes where
  predicates := calls.flatMap fun x => (ofCall x).predicates
  sorting := calls.flatMap fun x => (ofCall x).sorting
  limits := calls.flatMap fun x => (ofCall x).limits
  offsets := calls.flatMap fun x => (ofCall x).offsets
  bindings := calls.flatMap fun x => (ofCall x).bindings

/-- The last parameter that was bound to a name. -/
def lastBinding? (x : Changes) (name : String) : Option Parameter :=
  x.bindings.reverse.find? fun p => p.name == name

/-- The same predicates and the same sort keys in the same order, the same limit and the same
offset in the end, and in the end the same parameter under every name. -/
structure Alike (x y : Changes) : Prop where
  predicates : x.predicates = y.predicates
  sorting : x.sorting = y.sorting
  limit : x.limits.getLast? = y.limits.getLast?
  offset : x.offsets.getLast? = y.offsets.getLast?
  bindings : ∀ name, x.lastBinding? name = y.lastBinding? name

end Changes

namespace Select

/-- The query with changes made to its parts. -/
def changed (q : Select) (x : Changes) : Select where
  columns := q.columns
  source := q.source
  predicates := q.predicates ++ x.predicates
  sorting := q.sorting ++ x.sorting
  limit := x.limits.getLast?.or q.limit
  offset := x.offsets.getLast?.or q.offset
  parameters := bindAll q.parameters x.bindings

theorem addAll_eq_changed (q : Select) (as : List Addition) :
    q.addAll as = q.changed (.ofAdditions as) :=
  q.addAll_eq as

theorem call_eq (q : Select) (x : Call) : q.call x = q.changed (.ofCall x) := by
  cases x with
  | add a => exact q.addAll_eq_changed [a]
  | execute fields cs =>
    exact (q.executeAll_eq_addAll fields cs).trans (q.addAll_eq_changed _)
  | _ => simp [call, changed, Changes.ofCall, filter, bind, orderBy, takeRows, skipRows, bindAll]

/-- Changes one after the other. -/
theorem changed_changed (q : Select) (x : Call) (calls : List Call) :
    (q.changed (.ofCall x)).changed (.ofCalls calls) = q.changed (.ofCalls (x :: calls)) := by
  simp [changed, Changes.ofCalls, bindAll, List.getLast?_append, Option.or_assoc]

theorem callAll_eq (q : Select) (calls : List Call) :
    q.callAll calls = q.changed (.ofCalls calls) := by
  induction calls generalizing q with
  | nil => simp [callAll, changed, Changes.ofCalls, bindAll]
  | cons x calls ih =>
    have hstep : q.callAll (x :: calls) = (q.call x).callAll calls := rfl
    rw [hstep, ih, call_eq, changed_changed]

end Select

/-! ## Names and their last bindings -/

namespace Select

variable (columns : List Expr) (source : FromClause)

theorem parameters_callAll (calls : List Call) :
    ((start columns source).callAll calls).parameters =
      bindAll [] (Changes.ofCalls calls).bindings := by
  rw [callAll_eq]
  rfl

/-- No name is bound twice. -/
theorem nodup_callAll (calls : List Call) :
    (((start columns source).callAll calls).parameters.map Parameter.name).Nodup := by
  rw [parameters_callAll]
  exact nodup_bindAll _ List.nodup_nil

/-- Every name holds its last binding. -/
theorem mem_parameters_callAll (calls : List Call) (p : Parameter) :
    p ∈ ((start columns source).callAll calls).parameters ↔
      (Changes.ofCalls calls).lastBinding? p.name = some p := by
  have hfind := find?_bindAll p.name [] (Changes.ofCalls calls).bindings
  have hnone : Keyed.find? Parameter.name p.name [] = none := rfl
  rw [hnone, Option.or_none, ← parameters_callAll columns source] at hfind
  rw [Changes.lastBinding?, ← hfind]
  constructor
  · exact Keyed.find?_of_mem Parameter.name (nodup_callAll columns source calls)
  · exact fun h => (Keyed.of_find?_eq_some Parameter.name h).1

end Select

/-! ## Parameters in another order -/

namespace Fragment

/-- In whatever order they are listed, the parameters of distinct names are referred to alike. -/
theorem reference?_congr {ps qs : List Parameter} (hnodup : (ps.map Parameter.name).Nodup)
    (hmem : ∀ p, p ∈ ps ↔ p ∈ qs) (s : List Char) : reference? ps s = reference? qs s := by
  cases hq : reference? qs s with
  | none =>
    rw [reference?_eq_none_iff] at hq ⊢
    exact fun p hp => hq p ((hmem p).1 hp)
  | some q =>
    have hresolves := resolves_of_reference? hq
    exact Resolves.reference? hnodup ⟨(hmem q).2 hresolves.mem, hresolves.stands,
      fun p hp => hresolves.longest p ((hmem p).1 hp)⟩

/-- The scanner asks the parameters for nothing but references. -/
theorem piecesFrom_congr {ps qs : List Parameter}
    (h : ∀ s, reference? ps s = reference? qs s) (quoted : Bool) (n : Nat) (s : List Char) :
    piecesFrom ps quoted n s = piecesFrom qs quoted n s := by
  fun_induction piecesFrom ps quoted n s with
  | case1 => simp [piecesFrom]
  | case2 quoted pass c s ih => rw [ih, piecesFrom]
  | case3 quoted c s hplain ih => rw [ih, piecesFrom, if_pos hplain]
  | case4 quoted c s hcolon hcast ih => rw [ih, piecesFrom, if_neg hcolon, if_pos hcast]
  | case5 quoted c s hcolon hcast p hp ih =>
    rw [h] at hp
    rw [ih, piecesFrom, if_neg hcolon, if_neg hcast, hp]
  | case6 quoted c s hcolon hcast hnone hempty ih =>
    rw [h] at hnone
    rw [ih, piecesFrom, if_neg hcolon, if_neg hcast, hnone]
    simp only [hempty]
  | case7 quoted c s hcolon hcast hnone hname ih =>
    rw [h] at hnone
    rw [ih, piecesFrom, if_neg hcolon, if_neg hcast, hnone]
    simp only

theorem tokens_congr {ps qs : List Parameter} (h : ∀ s, reference? ps s = reference? qs s) :
    tokens ps = tokens qs := by
  funext s
  unfold tokens pieces
  rw [piecesFrom_congr h]

end Fragment

theorem Expr.tokens_congr {ps qs : List Parameter}
    (h : ∀ s, Fragment.reference? ps s = Fragment.reference? qs s) :
    Expr.tokens ps = Expr.tokens qs := by
  funext e
  cases e with
  | fragment s => exact congrFun (Fragment.tokens_congr h) s
  | _ => rfl

/-- Queries that differ in the order of their parameters only are one sequence of tokens. -/
theorem Select.tokens_congr (q : Select) {ps qs : List Parameter}
    (h : ∀ s, Fragment.reference? ps s = Fragment.reference? qs s) :
    { q with parameters := ps }.tokens = { q with parameters := qs }.tokens := by
  have hexpr := Expr.tokens_congr h
  have hkey : SortKey.tokens ps = SortKey.tokens qs := by
    funext k
    unfold SortKey.tokens
    rw [hexpr]
  unfold tokens
  simp only [hexpr, hkey]

/-! ## The main statement -/

namespace Select

variable (columns : List Expr) (source : FromClause)

/-- After alike changes two queries differ in the order of their parameters only. -/
theorem changed_of_alike (q : Select) {x y : Changes} (h : x.Alike y) :
    { q.changed x with parameters := (q.changed y).parameters } = q.changed y := by
  unfold changed
  rw [h.predicates, h.sorting, h.limit, h.offset]

theorem mem_parameters_of_alike {first second : List Call}
    (h : (Changes.ofCalls first).Alike (.ofCalls second)) (p : Parameter) :
    p ∈ ((start columns source).callAll first).parameters ↔
      p ∈ ((start columns source).callAll second).parameters := by
  rw [mem_parameters_callAll, mem_parameters_callAll, h.bindings]

/-- Whatever is called on a new query, its names are distinct and each holds its last binding; and
runs of calls that are alike are rendered alike, whether to a query or to an error. -/
theorem render_callAll :
    (∀ calls, (((start columns source).callAll calls).parameters.map Parameter.name).Nodup ∧
      ∀ p, p ∈ ((start columns source).callAll calls).parameters ↔
        (Changes.ofCalls calls).lastBinding? p.name = some p) ∧
      ∀ first second, (Changes.ofCalls first).Alike (.ofCalls second) → ∀ d,
        ((start columns source).callAll first).render d =
          ((start columns source).callAll second).render d := by
  refine ⟨fun calls => ⟨nodup_callAll columns source calls,
    mem_parameters_callAll columns source calls⟩, ?_⟩
  intro first second h d
  have hreference := Fragment.reference?_congr (nodup_callAll columns source first)
    (mem_parameters_of_alike columns source h)
  have htokens := ((start columns source).callAll first).tokens_congr hreference
  rw [callAll_eq, callAll_eq, changed_of_alike _ h] at htokens
  unfold render
  rw [callAll_eq, callAll_eq]
  exact congrArg (Sql.render d) htokens

/-- One condition, `part = 7`; its parameter is called `part1`. -/
def oneCondition : Criteria :=
  { Criteria.empty with
    filters := [.comparison ⟨"part", .equal, .scalar (.int 7), by decide, rfl⟩] }

def elevenLast : List Call :=
  [.execute FieldMap.empty [oneCondition], .bind ⟨"part11", .scalar (.int 11), none⟩, .takeRows 5,
    .filter (.fragment "b = :part11")]

def elevenFirst : List Call :=
  [.bind ⟨"part11", .list [.int 10], none⟩, .takeRows 7, .execute FieldMap.empty [oneCondition],
    .add (.predicate "b = :part11"), .add (.parameter ⟨"part11", .scalar (.int 11), none⟩),
    .add (.limit 5)]

theorem alike_eleven : (Changes.ofCalls elevenLast).Alike (.ofCalls elevenFirst) := by
  refine ⟨by decide, by decide, by decide, by decide, fun name => ?_⟩
  have hlast : (Changes.ofCalls elevenLast).bindings =
      [⟨"part1", .scalar (.int 7), none⟩, ⟨"part11", .scalar (.int 11), none⟩] := by decide
  have hfirst : (Changes.ofCalls elevenFirst).bindings =
      [⟨"part11", .list [.int 10], none⟩, ⟨"part1", .scalar (.int 7), none⟩,
        ⟨"part11", .scalar (.int 11), none⟩] := by decide
  unfold Changes.lastBinding?
  rw [hlast, hfirst]
  by_cases ha : "part11" = name <;> by_cases hb : "part1" = name <;> simp [ha, hb]

/-- The parameters stand in different orders, and one name is a front of the other. -/
theorem render_eleven :
    let q := start [.name none "id"] ⟨⟨none, "t"⟩, none⟩
    (Changes.ofCalls elevenLast).Alike (.ofCalls elevenFirst) ∧
      (q.callAll elevenLast).parameters ≠ (q.callAll elevenFirst).parameters ∧
        (q.callAll elevenLast).render .postgres = (q.callAll elevenFirst).render .postgres := by
  intro q
  obtain ⟨-, hrender⟩ := render_callAll [.name none "id"] ⟨⟨none, "t"⟩, none⟩
  exact ⟨alike_eleven, by decide, hrender _ _ alike_eleven .postgres⟩

end Select

end QueryCriteria.Sql
