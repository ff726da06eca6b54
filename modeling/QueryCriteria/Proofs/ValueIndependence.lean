import Mathlib.Data.List.Forall2
import QueryCriteria.Proofs.Execution

/-!
The text of a rendered query does not depend on the values in it.

Two criteria are `Alike` when they agree in everything but operand values: the same trees, fields
and operators, an operand of the same kind at the same place, lists of one length. Executed for one
query they leave two queries that are alike in the same sense: all is equal but the values of
parameters. No step from there to the text looks at a value, so `render_alike`: both fail with one
error, or both succeed with one text and with equally many positional parameters.

Nothing is assumed of fields, columns or names. A quote in a field may open a literal and one name
may be the front of another; both queries then go astray in the same way.

The relation is carried through the translation, through binding, through the scanner and through
printing by one lemma each, in this order.
-/

namespace QueryCriteria

open Sql

/-! ## Criteria that differ in values only -/

/-- Operands of one kind; lists are of one length. -/
def Operand.Alike : Operand → Operand → Prop
  | .none, .none => True
  | .scalar _, .scalar _ => True
  | .list vs, .list ws => vs.length = ws.length
  | _, _ => False

structure Comparison.Alike (c c' : Comparison) : Prop where
  field : c.field = c'.field
  operator : c.operator = c'.operator
  operand : c.operand.Alike c'.operand

/-- One tree with alike comparisons at its leaves. -/
inductive Filter.Alike : Filter → Filter → Prop where
  | comparison {c c' : Comparison} : c.Alike c' → Alike (.comparison c) (.comparison c')
  | and {l l' r r' : Filter} : Alike l l' → Alike r r' → Alike (.and l r) (.and l' r')
  | or {l l' r r' : Filter} : Alike l l' → Alike r r' → Alike (.or l r) (.or l' r')

structure Criteria.Alike (c c' : Criteria) : Prop where
  filters : List.Forall₂ Filter.Alike c.filters c'.filters
  sorting : c.sorting = c'.sorting
  offset : c.offset = c'.offset
  limit : c.limit = c'.limit

/-- Both succeed with one text and with equally many parameters, or both fail with one error. -/
inductive SameOutcome : Except RenderError Query → Except RenderError Query → Prop where
  | ok {a b : Query} : a.sql = b.sql → a.parameters.length = b.parameters.length →
    SameOutcome (.ok a) (.ok b)
  | error (e : RenderError) : SameOutcome (.error e) (.error e)

/-! ## Parameters -/

def Sql.ParameterValue.Alike : ParameterValue → ParameterValue → Prop
  | .scalar _, .scalar _ => True
  | .list vs, .list ws => vs.length = ws.length
  | _, _ => False

structure Sql.Parameter.Alike (p p' : Parameter) : Prop where
  name : p.name = p'.name
  type : p.type = p'.type
  value : p.value.Alike p'.value

theorem Sql.Parameter.Alike.refl (p : Parameter) : p.Alike p := by
  refine ⟨rfl, rfl, ?_⟩
  cases p.value with
  | scalar v => exact trivial
  | list vs => exact rfl

/-! ## Translation -/

theorem Comparison.Alike.parameters {c c' : Comparison} (h : c.Alike c') (number : Nat) :
    List.Forall₂ Parameter.Alike (c.parameters number) (c'.parameters number) := by
  have hname : c.parameterName number = c'.parameterName number := by
    unfold parameterName
    rw [h.field]
  have hx := h.operand
  unfold Comparison.parameters
  rw [hname, h.operator]
  cases ho : c.operand <;> cases ho' : c'.operand <;> rw [ho, ho'] at hx
  case none.none => exact .nil
  case scalar.scalar => exact .cons ⟨rfl, rfl, trivial⟩ .nil
  case list.list => exact .cons ⟨rfl, rfl, hx⟩ .nil
  all_goals exact hx.elim

theorem Comparison.Alike.condition_fst {c c' : Comparison} (h : c.Alike c') (fields : FieldMap)
    (number : Nat) : (c.condition fields number).1 = (c'.condition fields number).1 := by
  have hname : c.parameterName number = c'.parameterName number := by
    unfold parameterName
    rw [h.field]
  have hx := h.operand
  unfold condition
  rw [hname, h.field, h.operator]
  cases ho : c.operand <;> cases ho' : c'.operand <;> rw [ho, ho'] at hx <;>
    first | rfl | exact hx.elim

namespace Filter

theorem Alike.comparisons {f f' : Filter} (h : f.Alike f') :
    List.Forall₂ Comparison.Alike f.comparisons f'.comparisons := by
  induction h with
  | comparison hc => exact .cons hc .nil
  | and _ _ hl hr => exact List.rel_append hl hr
  | or _ _ hl hr => exact List.rel_append hl hr

theorem Alike.comparisonCount {f f' : Filter} (h : f.Alike f') :
    f.comparisonCount = f'.comparisonCount := by
  rw [← length_comparisons, ← length_comparisons]
  exact h.comparisons.length_eq

/-- The text of a predicate and the parameters that go with it. -/
theorem Alike.predicate {f f' : Filter} (h : f.Alike f') (fields : FieldMap) (count : Nat) :
    (f.predicate fields count).result = (f'.predicate fields count).result ∧
      List.Forall₂ Parameter.Alike (f.predicate fields count).parameters
        (f'.predicate fields count).parameters := by
  induction h generalizing count with
  | comparison hc =>
    refine ⟨hc.condition_fst fields (count + 1), ?_⟩
    simp only [Filter.predicate]
    rw [Comparison.condition_snd, Comparison.condition_snd]
    exact hc.parameters (count + 1)
  | and hl _ ihl ihr =>
    obtain ⟨el, pl⟩ := ihl count
    obtain ⟨er, pr⟩ := ihr (count + _)
    simp only [Filter.predicate, count_predicate]
    rw [← hl.comparisonCount, el, er]
    exact ⟨rfl, List.rel_append pl pr⟩
  | or hl _ ihl ihr =>
    obtain ⟨el, pl⟩ := ihl count
    obtain ⟨er, pr⟩ := ihr (count + _)
    simp only [Filter.predicate, count_predicate]
    rw [← hl.comparisonCount, el, er]
    exact ⟨rfl, List.rel_append pl pr⟩

theorem Alike.predicates {fs fs' : List Filter} (h : List.Forall₂ Filter.Alike fs fs')
    (fields : FieldMap) (count : Nat) :
    (predicates fields count fs).result = (predicates fields count fs').result ∧
      List.Forall₂ Parameter.Alike (predicates fields count fs).parameters
        (predicates fields count fs').parameters := by
  induction h generalizing count with
  | nil => exact ⟨rfl, .nil⟩
  | cons hf _ ih =>
    obtain ⟨ef, pf⟩ := hf.predicate fields count
    obtain ⟨er, pr⟩ := ih (count + _)
    simp only [Filter.predicates, count_predicate]
    rw [← hf.comparisonCount, ef, er]
    exact ⟨rfl, List.rel_append pf pr⟩

theorem Alike.totalCount {fs fs' : List Filter} (h : List.Forall₂ Filter.Alike fs fs') :
    totalCount fs = totalCount fs' := by
  induction h with
  | nil => rfl
  | cons hf _ ih =>
    have hc := hf.comparisonCount
    unfold Filter.totalCount at ih ⊢
    rw [List.foldr_cons, List.foldr_cons, hc, ih]

end Filter

/-! ## Execution -/

/-- Additions of one kind that agree in everything but values. -/
inductive Addition.Alike : Addition → Addition → Prop where
  | refl (a : Addition) : Alike a a
  | parameter {p p' : Parameter} : p.Alike p' → Alike (.parameter p) (.parameter p')

structure Sql.Select.Alike (q q' : Select) : Prop where
  columns : q.columns = q'.columns
  source : q.source = q'.source
  predicates : q.predicates = q'.predicates
  sorting : q.sorting = q'.sorting
  limit : q.limit = q'.limit
  offset : q.offset = q'.offset
  parameters : List.Forall₂ Parameter.Alike q.parameters q'.parameters

theorem Criteria.Alike.additions {c c' : Criteria} (h : c.Alike c') (fields : FieldMap)
    (count : Nat) :
    List.Forall₂ Addition.Alike (c.clausesFrom fields count).additions
      (c'.clausesFrom fields count).additions := by
  obtain ⟨hresult, hpars⟩ := Filter.Alike.predicates h.filters fields count
  have hsame : ∀ as : List Addition, List.Forall₂ Addition.Alike as as := fun as =>
    List.forall₂_same.2 fun a _ => .refl a
  unfold Clauses.additions clausesFrom
  simp only
  rw [hresult, h.sorting, h.offset, h.limit]
  refine List.rel_append (List.rel_append (List.rel_append (List.rel_append (hsame _) ?_)
    (hsame _)) (hsame _)) (hsame _)
  exact List.rel_map (fun _ _ hp => Addition.Alike.parameter hp) hpars

theorem Session.additions_alike {cs cs' : List Criteria} (h : List.Forall₂ Criteria.Alike cs cs')
    (fields : FieldMap) (count : Nat) :
    List.Forall₂ Addition.Alike
      (((Session.mk fields count).executeAll cs).flatMap Clauses.additions)
      (((Session.mk fields count).executeAll cs').flatMap Clauses.additions) := by
  induction h generalizing count with
  | nil => exact .nil
  | @cons c c' cs cs' hc _ ih =>
    have hcount : c.comparisonCount = c'.comparisonCount := Filter.Alike.totalCount hc.filters
    have hrest := ih (count + c.comparisonCount)
    simp only [Session.executeAll, Session.execute, List.flatMap_cons]
    rw [← hcount]
    exact List.rel_append (hc.additions fields count) hrest

namespace Sql

/-- Names decide where a parameter is put, and they agree. -/
theorem bind_alike {p p' : Parameter} (hp : p.Alike p') {ps ps' : List Parameter}
    (h : List.Forall₂ Parameter.Alike ps ps') :
    List.Forall₂ Parameter.Alike (bind p ps) (bind p' ps') := by
  unfold bind
  induction h with
  | nil => exact .cons hp .nil
  | @cons b b' rest rest' hb hrest ih =>
    unfold Keyed.put
    rw [hb.name, hp.name]
    split
    · exact .cons hp hrest
    · exact .cons hb ih

namespace Select

theorem Alike.refl (q : Select) : q.Alike q :=
  ⟨rfl, rfl, rfl, rfl, rfl, rfl, List.forall₂_same.2 fun p _ => .refl p⟩

/-- One addition. -/
theorem Alike.add {q q' : Select} (h : q.Alike q') {a a' : Addition} (ha : a.Alike a') :
    (q.add a).Alike (q'.add a') := by
  obtain ⟨hc, hs, hp, ho, hl, hf, hps⟩ := h
  cases ha with
  | refl a =>
    cases a with
    | predicate s => exact ⟨hc, hs, congrArg (· ++ _) hp, ho, hl, hf, hps⟩
    | parameter p => exact ⟨hc, hs, hp, ho, hl, hf, bind_alike (.refl p) hps⟩
    | sortColumn c => exact ⟨hc, hs, hp, congrArg (· ++ _) ho, hl, hf, hps⟩
    | offset n => exact ⟨hc, hs, hp, ho, hl, rfl, hps⟩
    | limit n => exact ⟨hc, hs, hp, ho, rfl, hf, hps⟩
  | parameter hpar => exact ⟨hc, hs, hp, ho, hl, hf, bind_alike hpar hps⟩

/-- A run of additions. -/
theorem Alike.addAll {q q' : Select} (h : q.Alike q') {as as' : List Addition}
    (ha : List.Forall₂ Addition.Alike as as') : (q.addAll as).Alike (q'.addAll as') := by
  induction ha generalizing q q' with
  | nil => exact h
  | cons hx _ ih => exact ih (h.add hx)

theorem executeAll_alike (q : Select) (fields : FieldMap) {cs cs' : List Criteria}
    (h : List.Forall₂ Criteria.Alike cs cs') :
    (q.executeAll fields cs).Alike (q.executeAll fields cs') := by
  rw [executeAll_eq_addAll, executeAll_eq_addAll]
  exact (Alike.refl q).addAll (Session.additions_alike h fields 0)

end Select

/-! ## Scanning -/

namespace Fragment

/-- Pieces of one kind; the parameters they refer to are alike. -/
inductive Piece.Alike : Piece → Piece → Prop where
  | plain (c : Char) : Alike (.plain c) (.plain c)
  | bound {p p' : Parameter} : p.Alike p' → Alike (.bound p) (.bound p')
  | unbound (name : List Char) : Alike (.unbound name) (.unbound name)

theorem standsAt_alike {p p' : Parameter} (h : p.Alike p') (s : List Char) :
    standsAt p s = standsAt p' s := by
  unfold standsAt
  rw [h.name]

/-- The choice between two names is one between their lengths. -/
theorem longer_alike {best best' : Option Parameter} (hb : Option.Rel Parameter.Alike best best')
    {p p' : Parameter} (hp : p.Alike p') :
    Option.Rel Parameter.Alike (longer best p) (longer best' p') := by
  cases hb with
  | none => exact .some hp
  | @some b b' hbb =>
    unfold longer
    simp only
    rw [hbb.name, hp.name]
    split
    · exact .some hp
    · exact .some hbb

theorem reference?_alike {ps ps' : List Parameter} (h : List.Forall₂ Parameter.Alike ps ps')
    (s : List Char) : Option.Rel Parameter.Alike (reference? ps s) (reference? ps' s) := by
  have hfold : ∀ {best best' : Option Parameter}, Option.Rel Parameter.Alike best best' →
      Option.Rel Parameter.Alike ((ps.filter (standsAt · s)).foldl longer best)
        ((ps'.filter (standsAt · s)).foldl longer best') := by
    induction h with
    | nil => exact fun hb => hb
    | cons hp _ ih =>
      intro best best' hb
      rw [List.filter_cons, List.filter_cons, standsAt_alike hp s]
      split
      · exact ih (longer_alike hb hp)
      · exact ih hb
  exact hfold .none

/-- The scanner takes the same way through the text. -/
theorem piecesFrom_alike {ps ps' : List Parameter} (h : List.Forall₂ Parameter.Alike ps ps')
    (quoted : Bool) (pass : Nat) (s : List Char) :
    List.Forall₂ Piece.Alike (piecesFrom ps quoted pass s) (piecesFrom ps' quoted pass s) := by
  induction s generalizing quoted pass with
  | nil =>
    unfold piecesFrom
    exact .nil
  | cons c s ih =>
    cases pass with
    | succ pass => exact ih quoted pass
    | zero =>
      unfold piecesFrom
      split
      · exact .cons (.plain c) (ih _ 0)
      · split
        · exact .cons (.plain ':') (.cons (.plain ':') (ih false 1))
        · have hr := reference?_alike h s
          revert hr
          cases reference? ps s <;> cases reference? ps' s <;> intro hr
          case none.none =>
            cases strayName s with
            | nil => exact .cons (.plain ':') (ih false 0)
            | cons d name => exact .cons (.unbound _) (ih false _)
          case some.some p p' =>
            cases hr with
            | some hp =>
              simp only
              rw [hp.name]
              exact .cons (.bound hp) (ih false _)
          all_goals cases hr

end Fragment

/-! ## Tokens -/

/-- One token, or two slots with whatever values in them. -/
inductive Token.Alike : Token → Token → Prop where
  | refl (t : Token) : Alike t t
  | slot (v w : Value) : Alike (.slot v) (.slot w)

theorem Token.Alike.fault? {t u : Token} (h : t.Alike u) : t.fault? = u.fault? := by
  cases h <;> rfl

theorem Token.Alike.print {t u : Token} (h : t.Alike u) (d : Dialect) (before : Nat) :
    t.print d before = u.print d before := by
  cases h <;> rfl

theorem tokens_alike_refl (ts : List Token) : List.Forall₂ Token.Alike ts ts :=
  List.forall₂_same.2 fun t _ => .refl t

theorem joined_alike (between : Token) {parts parts' : List (List Token)}
    (h : List.Forall₂ (List.Forall₂ Token.Alike) parts parts') :
    List.Forall₂ Token.Alike (joined between parts) (joined between parts') := by
  unfold joined
  refine List.rel_flatten ?_
  induction h with
  | nil => exact .nil
  | cons hp hrest ih =>
    cases hrest with
    | nil => exact .cons hp .nil
    | cons hq hrest =>
      rw [List.intersperse_cons_cons, List.intersperse_cons_cons]
      exact .cons hp (.cons (tokens_alike_refl _) ih)

namespace Fragment

theorem slots_alike {vs ws : List Value} (h : vs.length = ws.length) :
    List.Forall₂ Token.Alike (slots vs) (slots ws) := by
  cases vs <;> cases ws <;> simp only [List.length_nil, List.length_cons] at h
  case nil.nil => exact tokens_alike_refl _
  case cons.cons v vs w ws =>
    refine joined_alike _ ?_
    rw [List.forall₂_iff_get]
    refine ⟨by simp [Nat.succ.inj h], ?_⟩
    intro i hi hi'
    simp only [List.get_eq_getElem, List.getElem_map]
    exact .cons (.slot _ _) .nil
  all_goals omega

theorem referenceTokens_alike {p p' : Parameter} (h : p.Alike p') :
    List.Forall₂ Token.Alike (referenceTokens p) (referenceTokens p') := by
  have hv := h.value
  unfold referenceTokens
  rw [h.name, h.type]
  cases hp : p.value <;> cases hp' : p'.value <;> rw [hp, hp'] at hv
  case scalar.scalar v w => exact .cons (.slot v w) .nil
  case list.list vs ws =>
    cases p'.type with
    | none => exact tokens_alike_refl _
    | some t =>
      cases t
      exact slots_alike hv
  all_goals exact hv.elim

theorem Piece.tokens_alike {x x' : Piece} (h : x.Alike x') :
    List.Forall₂ Token.Alike x.tokens x'.tokens := by
  cases h with
  | plain c => exact tokens_alike_refl _
  | bound hp => exact referenceTokens_alike hp
  | unbound name => exact tokens_alike_refl _

end Fragment

theorem Expr.tokens_alike {ps ps' : List Parameter} (h : List.Forall₂ Parameter.Alike ps ps')
    (e : Expr) : List.Forall₂ Token.Alike (e.tokens ps) (e.tokens ps') := by
  cases e with
  | name q n => exact tokens_alike_refl _
  | verbatim s => exact tokens_alike_refl _
  | fragment s =>
    exact List.rel_flatMap (Fragment.piecesFrom_alike h false 0 s.toList)
      fun _ _ hx => Fragment.Piece.tokens_alike hx

theorem SortKey.tokens_alike {ps ps' : List Parameter} (h : List.Forall₂ Parameter.Alike ps ps')
    (k : SortKey) : List.Forall₂ Token.Alike (k.tokens ps) (k.tokens ps') :=
  List.rel_append (k.expr.tokens_alike h) (tokens_alike_refl _)

theorem whereTokens_alike {parts parts' : List (List Token)}
    (h : List.Forall₂ (List.Forall₂ Token.Alike) parts parts') :
    List.Forall₂ Token.Alike (whereTokens parts) (whereTokens parts') := by
  have hgroup : ∀ {ts us : List Token}, List.Forall₂ Token.Alike ts us →
      List.Forall₂ Token.Alike (word "(" :: ts ++ [word ")"]) (word "(" :: us ++ [word ")"]) :=
    fun hts => .cons (.refl _) (List.rel_append hts (tokens_alike_refl _))
  cases h with
  | nil => exact .nil
  | cons hp hrest =>
    cases hrest with
    | nil => exact .cons (.refl _) hp
    | cons hq hrest =>
      exact .cons (.refl _)
        (joined_alike _ (List.rel_map (fun _ _ hts => hgroup hts) (.cons hp (.cons hq hrest))))

theorem Select.Alike.tokens {q q' : Select} (h : q.Alike q') :
    List.Forall₂ Token.Alike q.tokens q'.tokens := by
  have hexprs : ∀ es : List Expr, List.Forall₂ (List.Forall₂ Token.Alike)
      (es.map (Expr.tokens q.parameters)) (es.map (Expr.tokens q'.parameters)) := by
    intro es
    rw [List.forall₂_map_left_iff, List.forall₂_map_right_iff]
    exact List.forall₂_same.2 fun e _ => e.tokens_alike h.parameters
  have hkeys : List.Forall₂ (List.Forall₂ Token.Alike)
      (q.sorting.map (SortKey.tokens q.parameters))
      (q.sorting.map (SortKey.tokens q'.parameters)) := by
    rw [List.forall₂_map_left_iff, List.forall₂_map_right_iff]
    exact List.forall₂_same.2 fun k _ => k.tokens_alike h.parameters
  unfold Select.tokens
  rw [← h.columns, ← h.source, ← h.predicates, ← h.sorting, ← h.limit, ← h.offset]
  refine List.rel_append (List.rel_append (List.rel_append (List.rel_append ?_
    (tokens_alike_refl _)) (whereTokens_alike (hexprs _))) ?_) (tokens_alike_refl _)
  · exact .cons (.refl _) (joined_alike _ (hexprs _))
  · split
    · exact .nil
    · exact .cons (.refl _) (joined_alike _ hkeys)

/-! ## Printing -/

theorem firstFault?_alike {ts us : List Token} (h : List.Forall₂ Token.Alike ts us) :
    firstFault? ts = firstFault? us := by
  induction h with
  | nil => rfl
  | cons ht _ ih =>
    unfold firstFault? at ih ⊢
    rw [List.findSome?_cons, List.findSome?_cons, ht.fault?, ih]

theorem length_slotValues_alike {ts us : List Token} (h : List.Forall₂ Token.Alike ts us) :
    (slotValues ts).length = (slotValues us).length := by
  induction h with
  | nil => rfl
  | @cons t u ts us ht _ ih =>
    rw [← List.singleton_append, ← List.singleton_append (l := us), slotValues_append,
      slotValues_append, List.length_append, List.length_append, ih]
    cases ht <;> rfl

/-- The placeholder of a slot depends on the number of slots before it. -/
theorem printFrom_alike (d : Dialect) (before : Nat) {ts us : List Token}
    (h : List.Forall₂ Token.Alike ts us) : printFrom d before ts = printFrom d before us := by
  induction h generalizing before with
  | nil => rfl
  | cons ht _ ih =>
    have hlength := length_slotValues_alike (.cons ht .nil)
    rw [printFrom, printFrom, hlength, ht.print, ih]

theorem render_tokens_alike (d : Dialect) {ts us : List Token}
    (h : List.Forall₂ Token.Alike ts us) : SameOutcome (Sql.render d ts) (Sql.render d us) := by
  unfold Sql.render
  rw [firstFault?_alike h]
  cases firstFault? us with
  | some e => exact .error e
  | none => exact .ok (congrArg String.ofList (printFrom_alike d 0 h)) (length_slotValues_alike h)

/-! ## The main statement -/

/-- Criteria that differ in values only are rendered to one text, or fail with one error,
whatever query they are executed on. -/
theorem Select.render_alike (q : Select) (fields : FieldMap) {cs cs' : List Criteria}
    (h : List.Forall₂ Criteria.Alike cs cs') (d : Dialect) :
    SameOutcome ((q.executeAll fields cs).render d) ((q.executeAll fields cs').render d) :=
  render_tokens_alike d (executeAll_alike q fields h).tokens

/-- A person of this name whose number is one of two. -/
def person (name first second : Value) : Criteria :=
  { Criteria.empty with
    filters := [.and (.comparison ⟨"name", .equal, .scalar name, by decide, rfl⟩)
      (.comparison ⟨"id", .isIn, .list [first, second], by decide, rfl⟩)] }

theorem person_alike (v w v₁ w₁ v₂ w₂ : Value) : (person v v₁ v₂).Alike (person w w₁ w₂) :=
  ⟨.cons (.and (.comparison ⟨rfl, rfl, trivial⟩) (.comparison ⟨rfl, rfl, rfl⟩)) .nil,
    rfl, rfl, rfl⟩

/-- An honest lookup and one whose values would like to be SQL. -/
theorem Select.render_person :
    let q := start [.name none "id"] ⟨⟨none, "people"⟩, none⟩
    let honest := [person (.text "Ann") (.int 1) (.int 2)]
    let hostile := [person (.text "' OR 1 = 1 --") (.text ":name1") (.bool true)]
    List.Forall₂ Criteria.Alike honest hostile ∧
      SameOutcome ((q.executeAll FieldMap.empty honest).render .postgres)
        ((q.executeAll FieldMap.empty hostile).render .postgres) := by
  intro q honest hostile
  have h : List.Forall₂ Criteria.Alike honest hostile := .cons (person_alike ..) .nil
  exact ⟨h, Select.render_alike q FieldMap.empty h .postgres⟩

end Sql

end QueryCriteria
