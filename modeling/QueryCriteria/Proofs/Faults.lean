import Mathlib.Data.List.Forall2
import QueryCriteria.Proofs.Boundaries
import QueryCriteria.Proofs.Printing

/-!
Which placeholder makes a query fail.

`Met` says what the placeholders of a text are without saying how they are looked for: which names
stand where (`Stands`), that the longest of them is meant (`Resolves`), and that behind a colon with
no such name a whole run of name characters and dots (`Run`) is a name that is not bound. Every text
has one list of placeholders and no other (`met_iff`), and the placeholders of a query are those of
its fragments in the order in which the fragments stand (`Select.Meets`).

The scanner is left behind at this point. A query carries the errors and the values of its
placeholders and no others (`Carried.select`), so its placeholders decide about success and about
the parameters (`Select.map_parameters_render`), and of several errors the first one is returned.
-/

namespace QueryCriteria.Sql

/-! ## Placeholders -/

inductive Placeholder where
  /-- It refers to a parameter. -/
  | bound (p : Parameter)
  /-- It has a name that no parameter has. -/
  | unbound (name : String)
  deriving DecidableEq

/-- Why a placeholder cannot be rendered: its name is not bound, or its parameter is a list and
nothing says how to bind it. -/
def Placeholder.error? : Placeholder → Option RenderError
  | bound p =>
    match p.value, p.type with
    | .list _, none => some (.untypedList p.name)
    | _, _ => none
  | unbound name => some (.unboundParameter name)

namespace Fragment

/-- A name, not empty, stands at the start of a text and ends there. -/
def Stands (name : String) (s : List Char) : Prop :=
  name ≠ "" ∧ ∃ rest, s = name.toList ++ rest ∧ ∀ c, rest.head? = some c → isNameChar c = false

/-- Of the parameters whose names stand at the start of a text one has the longest name. -/
structure Resolves (ps : List Parameter) (s : List Char) (p : Parameter) : Prop where
  mem : p ∈ ps
  stands : Stands p.name s
  longest : ∀ q ∈ ps, Stands q.name s → q.name.length ≤ p.name.length

/-- What a name that is not bound may consist of. -/
def isStrayChar (c : Char) : Bool := isNameChar c || c == '.'

/-- A text begins with a run of such characters, and the run does not go on. -/
structure Run (s run rest : List Char) : Prop where
  eq_append : s = run ++ rest
  stray : ∀ c ∈ run, isStrayChar c = true
  ends : ∀ c, rest.head? = some c → isStrayChar c = false

/-- The placeholders of a text in their order. A quote opens or closes a literal, two colons outside
of literals are passed over as a pair, and of a placeholder the whole name is. -/
inductive Met (ps : List Parameter) : Bool → List Char → List Placeholder → Prop where
  | nil (quoted : Bool) : Met ps quoted [] []
  | char {quoted : Bool} {c : Char} {s : List Char} {xs : List Placeholder} :
    quoted = true ∨ c ≠ ':' → Met ps (if c = '\'' then !quoted else quoted) s xs →
    Met ps quoted (c :: s) xs
  | cast {s : List Char} {xs : List Placeholder} : Met ps false s xs →
    Met ps false (':' :: ':' :: s) xs
  | bound {s rest : List Char} {p : Parameter} {xs : List Placeholder} : s.head? ≠ some ':' →
    Resolves ps s p → s = p.name.toList ++ rest → Met ps false rest xs →
    Met ps false (':' :: s) (.bound p :: xs)
  | unbound {s run rest : List Char} {xs : List Placeholder} : s.head? ≠ some ':' →
    (∀ p ∈ ps, ¬ Stands p.name s) → Run s run rest → run ≠ [] → Met ps false rest xs →
    Met ps false (':' :: s) (.unbound (String.ofList run) :: xs)
  | colon {s : List Char} {xs : List Placeholder} : s.head? ≠ some ':' →
    (∀ p ∈ ps, ¬ Stands p.name s) → Run s [] s → Met ps false s xs → Met ps false (':' :: s) xs

/-! ## What the scanner finds -/

theorem standsAt_iff {p : Parameter} {s : List Char} :
    standsAt p s = true ↔ Stands p.name s := by
  constructor
  · intro h
    obtain ⟨rest, rfl⟩ := eq_append_of_standsAt h
    simp only [standsAt, List.drop_left, Bool.and_eq_true, Bool.not_eq_true',
      List.isEmpty_eq_false_iff] at h
    refine ⟨fun he => h.1.1 (by rw [he]; rfl), rest, rfl, fun c hc => ?_⟩
    have hnext := h.2
    rw [hc] at hnext
    exact hnext
  · rintro ⟨hne, rest, rfl, hnext⟩
    have hrest : rest.head?.any isNameChar = false := by
      cases hc : rest.head? with
      | none => rfl
      | some c => exact hnext c hc
    simp [standsAt, hne, hrest]

theorem reference?_eq_none_iff_stands {ps : List Parameter} {s : List Char} :
    reference? ps s = none ↔ ∀ p ∈ ps, ¬ Stands p.name s := by
  simp only [reference?_eq_none_iff, ← standsAt_iff, Bool.not_eq_true]

theorem resolves_of_reference? {ps : List Parameter} {s : List Char} {p : Parameter}
    (h : reference? ps s = some p) : Resolves ps s p := by
  refine ⟨mem_of_reference? h, standsAt_iff.1 (standsAt_of_reference? h), fun q hq hqs => ?_⟩
  exact (length_le_of_foldl_longer h).1 q (List.mem_filter.2 ⟨hq, standsAt_iff.2 hqs⟩)

/-- Under distinct names no two of them that stand at one place are equally long. -/
theorem Resolves.reference? {ps : List Parameter} (hnodup : (ps.map Parameter.name).Nodup)
    {s : List Char} {p : Parameter} (h : Resolves ps s p) : reference? ps s = some p := by
  have hp := standsAt_iff.2 h.stands
  refine reference?_eq_some h.mem hp fun q hq hqs hqp => ?_
  have hle := h.longest q hq (standsAt_iff.1 hqs)
  refine Nat.lt_of_le_of_ne hle fun hlength => hqp ?_
  exact Keyed.eq_of_key_eq Parameter.name hnodup hq h.mem (name_eq_of_standsAt hqs hp hlength)

theorem run_strayName (s : List Char) : Run s (strayName s) (s.drop (strayName s).length) := by
  have hsplit : strayName s ++ s.dropWhile isStrayChar = s := List.takeWhile_append_dropWhile
  have hdrop : s.drop (strayName s).length = s.dropWhile isStrayChar :=
    (congrArg (List.drop (strayName s).length) hsplit).symm.trans List.drop_left
  rw [hdrop]
  refine ⟨hsplit.symm, fun c hc => ?_, fun c hc => ?_⟩
  · exact List.all_eq_true.1 (List.all_takeWhile (l := s) (p := isStrayChar)) c hc
  · have hhead := List.head?_dropWhile_not isStrayChar s
    rw [hc] at hhead
    exact hhead

/-- A text begins with one run only. -/
theorem Run.eq_strayName {s run rest : List Char} (h : Run s run rest) :
    strayName s = run ∧ s.drop (strayName s).length = rest := by
  have hrest : rest.takeWhile isStrayChar = [] := by
    cases rest with
    | nil => rfl
    | cons c rest => rw [List.takeWhile_cons_of_neg (Bool.eq_false_iff.1 (h.ends c rfl))]
  have hname : strayName s = run := by
    show s.takeWhile isStrayChar = run
    rw [h.eq_append, List.takeWhile_append_of_pos h.stray, hrest, List.append_nil]
  refine ⟨hname, ?_⟩
  rw [hname, h.eq_append]
  exact List.drop_left

/-- The placeholder of a piece that is not copied. -/
def Piece.placeholder? : Piece → Option Placeholder
  | plain _ => none
  | bound p => some (.bound p)
  | unbound name => some (.unbound (String.ofList name))

/-- The placeholders that the scanner finds. -/
def placeholders (ps : List Parameter) (quoted : Bool) (s : List Char) : List Placeholder :=
  (piecesFrom ps quoted 0 s).filterMap Piece.placeholder?

section Placeholders

variable {ps : List Parameter} {quoted : Bool} {s : List Char}

/-- The scanner finds placeholders that a text has. -/
theorem met_placeholders (ps : List Parameter) (quoted : Bool) (s : List Char) :
    Met ps quoted s (placeholders ps quoted s) := by
  unfold placeholders
  induction quoted, s using piecewise ps with
  | nil quoted => exact .nil quoted
  | char quoted c s hc ih =>
    rw [piecesFrom_char hc]
    exact .char hc ih
  | cast s ih =>
    rw [piecesFrom_cast]
    exact .cast ih
  | bound s p hcast hp ih =>
    have hsplit : s = p.name.toList ++ s.drop p.name.length := by
      rw [← take_of_standsAt (standsAt_of_reference? hp), List.take_append_drop]
    rw [piecesFrom_bound hcast hp]
    exact .bound hcast (resolves_of_reference? hp) hsplit ih
  | unbound s hcast hnone hname ih =>
    rw [piecesFrom_unbound hcast hnone hname]
    exact .unbound hcast (reference?_eq_none_iff_stands.1 hnone) (run_strayName s) hname ih
  | colon s hcast hnone hempty ih =>
    -- an empty run: what follows the colon begins no name
    have hrun : Run s [] s := by
      have h := run_strayName s
      rwa [hempty] at h
    rw [piecesFrom_colon hcast hnone hempty]
    exact .colon hcast (reference?_eq_none_iff_stands.1 hnone) hrun ih

/-- There are no others. -/
theorem Met.eq_placeholders (hnodup : (ps.map Parameter.name).Nodup) {xs : List Placeholder}
    (h : Met ps quoted s xs) : xs = placeholders ps quoted s := by
  unfold placeholders
  -- distinct names are needed for the longest one only: two of a length would be the same
  induction h with
  | nil quoted => rfl
  | char hc _ ih =>
    rw [piecesFrom_char hc]
    exact ih
  | cast _ ih =>
    rw [piecesFrom_cast]
    exact ih
  | @bound s rest p xs hcast hp hsplit _ ih =>
    have hdrop : s.drop p.name.length = rest := by
      rw [hsplit, ← String.length_toList, List.drop_left]
    rw [piecesFrom_bound hcast (hp.reference? hnodup), hdrop, ih]
    rfl
  | unbound hcast hnone hrun hne _ ih =>
    obtain ⟨hname, hdrop⟩ := hrun.eq_strayName
    rw [piecesFrom_unbound hcast (reference?_eq_none_iff_stands.2 hnone) (hname ▸ hne), hdrop,
      hname, ih]
    rfl
  | colon hcast hnone hrun _ ih =>
    rw [piecesFrom_colon hcast (reference?_eq_none_iff_stands.2 hnone) hrun.eq_strayName.1]
    exact ih

theorem met_iff (hnodup : (ps.map Parameter.name).Nodup) {xs : List Placeholder} :
    Met ps quoted s xs ↔ xs = placeholders ps quoted s :=
  ⟨fun h => h.eq_placeholders hnodup, fun h => h ▸ met_placeholders ps quoted s⟩

/-- The same for texts one by one. -/
theorem forall₂_met_iff (hnodup : (ps.map Parameter.name).Nodup) (ss : List String)
    (parts : List (List Placeholder)) :
    List.Forall₂ (fun s part => Met ps false s.toList part) ss parts ↔
      ss.map (fun s => placeholders ps false s.toList) = parts := by
  induction ss generalizing parts with
  | nil => rw [List.forall₂_nil_left_iff, List.map_nil, eq_comm]
  | cons s ss ih =>
    cases parts with
    | nil => simp
    | cons part parts =>
      rw [List.forall₂_cons, met_iff hnodup, ih, List.map_cons, List.cons_eq_cons, eq_comm]

end Placeholders

/-! ## Parameters without a placeholder -/

/-- Parameters that are not referred to may be left out. -/
theorem reference?_of_sublist {ps ps' : List Parameter} (hnodup : (ps.map Parameter.name).Nodup)
    (hsub : ps'.Sublist ps) {s : List Char} (h : ∀ p, reference? ps s = some p → p ∈ ps') :
    reference? ps' s = reference? ps s := by
  cases href : reference? ps s with
  | none =>
    rw [reference?_eq_none_iff] at href ⊢
    exact fun p hp => href p (hsub.subset hp)
  | some p =>
    have hp := resolves_of_reference? href
    refine Resolves.reference? (hnodup.sublist (hsub.map _)) ⟨h p href, hp.stands, ?_⟩
    exact fun q hq => hp.longest q (hsub.subset hq)

theorem piecesFrom_of_sublist {ps ps' : List Parameter} (hnodup : (ps.map Parameter.name).Nodup)
    (hsub : ps'.Sublist ps) (quoted : Bool) (s : List Char)
    (h : ∀ p, .bound p ∈ placeholders ps quoted s → p ∈ ps') :
    piecesFrom ps' quoted 0 s = piecesFrom ps quoted 0 s := by
  unfold placeholders at h
  induction quoted, s using piecewise ps with
  | nil quoted => rfl
  | char quoted c s hc ih =>
    rw [piecesFrom_char hc] at h ⊢
    rw [piecesFrom_char hc, ih h]
  | cast s ih =>
    rw [piecesFrom_cast] at h ⊢
    rw [piecesFrom_cast, ih h]
  | bound s p hcast hp ih =>
    rw [piecesFrom_bound hcast hp] at h ⊢
    -- the parameter met here is kept, and so it is still the longest
    have hp' : reference? ps' s = some p := by
      rw [← hp]
      refine reference?_of_sublist hnodup hsub fun q hq => ?_
      obtain rfl := Option.some.inj (hp.symm.trans hq)
      exact h _ (List.mem_cons_self ..)
    rw [piecesFrom_bound hcast hp', ih fun q hq => h q (List.mem_cons_of_mem _ hq)]
  | unbound s hcast hnone hname ih =>
    have hnone' := reference?_of_sublist hnodup hsub fun p hp => nomatch hnone.symm.trans hp
    rw [piecesFrom_unbound hcast hnone hname] at h ⊢
    rw [piecesFrom_unbound hcast (hnone'.trans hnone) hname,
      ih fun q hq => h q (List.mem_cons_of_mem _ hq)]
  | colon s hcast hnone hempty ih =>
    have hnone' := reference?_of_sublist hnodup hsub fun p hp => nomatch hnone.symm.trans hp
    rw [piecesFrom_colon hcast hnone hempty] at h ⊢
    rw [piecesFrom_colon hcast (hnone'.trans hnone) hempty, ih h]

end Fragment

/-! ## The placeholders of a query -/

/-- The text of a fragment. -/
def Expr.fragment? : Expr → Option String
  | fragment s => some s
  | _ => none

theorem Expr.fragment?_eq_none {e : Expr} (h : ∀ s, e ≠ .fragment s) : e.fragment? = none := by
  cases e with
  | name q n => rfl
  | verbatim s => rfl
  | fragment s => exact absurd rfl (h s)

namespace Select

/-- The fragments among the columns, the predicates and the sort keys. -/
def fragments (q : Select) : List String :=
  (q.columns ++ q.predicates ++ q.sorting.map SortKey.expr).filterMap Expr.fragment?

/-- The placeholders of the fragments, each of which is scanned from its start. -/
def Meets (q : Select) (xs : List Placeholder) : Prop :=
  ∃ parts, List.Forall₂ (fun s part => Fragment.Met q.parameters false s.toList part)
    q.fragments parts ∧ xs = parts.flatten

def placeholders (q : Select) : List Placeholder :=
  q.fragments.flatMap fun s => Fragment.placeholders q.parameters false s.toList

theorem meets_iff {q : Select} (hnodup : (q.parameters.map Parameter.name).Nodup)
    {xs : List Placeholder} : q.Meets xs ↔ xs = q.placeholders := by
  have hparts := Fragment.forall₂_met_iff hnodup q.fragments
  unfold Meets placeholders
  simp only [hparts, exists_eq_left']
  rfl

end Select

/-! ## What placeholders carry -/

/-- What is bound for a placeholder. -/
def Placeholder.values : Placeholder → List Value
  | bound p => slotValues (Fragment.referenceTokens p)
  | unbound _ => []

/-- Something that tokens carry for a placeholder: there is nothing of it in mute tokens, and in the
tokens of a piece what the placeholder has, if the piece is one. -/
structure Carried {β : Type} (f : Token → Option β) (g : Placeholder → List β) : Prop where
  mute : ∀ t : Token, t.Mute → f t = none
  piece : ∀ x : Fragment.Piece, x.tokens.filterMap f = x.placeholder?.toList.flatMap g

theorem carried_fault : Carried Token.fault? fun x => x.error?.toList := by
  refine ⟨fun _ h => h.2, fun x => ?_⟩
  cases x with
  | plain c => rfl
  | unbound name => rfl
  | bound p =>
    obtain ⟨name, value, type⟩ := p
    cases value with
    | scalar v => rfl
    | list vs =>
      cases type with
      | none => rfl
      | some type =>
        cases type
        exact List.filterMap_eq_nil_iff.2 (fault?_slots vs)

theorem carried_value : Carried Token.value? Placeholder.values := by
  refine ⟨fun _ h => h.1, fun x => ?_⟩
  cases x with
  | plain c => rfl
  | unbound name => rfl
  | bound p => exact (List.append_nil _).symm

namespace Carried

variable {β : Type} {f : Token → Option β} {g : Placeholder → List β} (h : Carried f g)

include h

theorem of_mute {ts : List Token} (hts : ∀ t ∈ ts, t.Mute) : ts.filterMap f = [] :=
  List.filterMap_eq_nil_iff.2 fun t ht => h.mute t (hts t ht)

theorem joined (w : String) (parts : List (List Token)) :
    (Sql.joined (word w) parts).filterMap f = parts.flatMap (List.filterMap f) :=
  filterMap_joined (fun _ => h.mute _ ⟨rfl, rfl⟩) _ parts

theorem fragment (ps : List Parameter) (s : String) :
    (Fragment.tokens ps s).filterMap f =
      (Fragment.placeholders ps false s.toList).flatMap g := by
  unfold Fragment.tokens Fragment.placeholders Fragment.pieces
  rw [List.filterMap_flatMap, List.filterMap_eq_flatMap_toList, List.flatMap_assoc]
  exact List.flatMap_congr fun x _ => h.piece x

theorem expr (ps : List Parameter) (e : Expr) :
    (e.tokens ps).filterMap f = e.fragment?.toList.flatMap fun s =>
      (Fragment.placeholders ps false s.toList).flatMap g := by
  cases e with
  | name q n | verbatim s => exact h.of_mute (Expr.mute_tokens ps nofun)
  | fragment s =>
    rw [Expr.fragment?, Option.toList_some, List.flatMap_singleton]
    exact h.fragment ps s

/-- The direction behind a sort key is mute. -/
theorem sortKey (ps : List Parameter) (k : SortKey) :
    (k.tokens ps).filterMap f = (k.expr.tokens ps).filterMap f := by
  unfold SortKey.tokens
  rw [List.filterMap_append]
  cases k.direction with
  | none => exact List.append_nil _
  | some d =>
    rw [h.of_mute (List.forall_mem_cons.2 ⟨⟨rfl, rfl⟩, List.forall_mem_singleton.2 ⟨rfl, rfl⟩⟩)]
    exact List.append_nil _

theorem opening (q : Select) :
    q.opening.filterMap f = q.columns.flatMap fun e => (e.tokens q.parameters).filterMap f := by
  unfold Select.opening
  rw [List.cons_append, List.filterMap_cons_none (h.mute _ ⟨rfl, rfl⟩), List.filterMap_append,
    h.joined, List.flatMap_map]
  cases q.source with
  | none => exact List.append_nil _
  | some s =>
    simp only
    rw [h.of_mute (List.forall_mem_cons.2 ⟨⟨rfl, rfl⟩, s.mute_tokens⟩), List.append_nil]

theorem closing (q : Select) :
    q.closing.filterMap f =
      q.sorting.flatMap fun k => (k.expr.tokens q.parameters).filterMap f := by
  unfold Select.closing
  rw [List.filterMap_append, h.of_mute (List.forall_mem_singleton.2 ⟨rfl, rfl⟩), List.append_nil]
  cases q.sorting with
  | nil => rfl
  | cons k rest =>
    rw [List.isEmpty_cons, if_neg Bool.false_ne_true,
      List.filterMap_cons_none (h.mute _ ⟨rfl, rfl⟩), h.joined, List.flatMap_map]
    simp only [h.sortKey]

/-- A query carries what its expressions carry. -/
theorem expressions (q : Select) :
    q.tokens.filterMap f =
      (q.columns ++ q.predicates ++ q.sorting.map SortKey.expr).flatMap fun e =>
        (e.tokens q.parameters).filterMap f := by
  rw [q.tokens_eq, List.filterMap_append, List.filterMap_append, h.opening,
    filterMap_whereTokens fun _ => h.mute _ ⟨rfl, rfl⟩, h.closing, List.flatMap_map,
    List.flatMap_append, List.flatMap_append, List.flatMap_map]

/-- A query carries what its placeholders carry. -/
theorem select (q : Select) : q.tokens.filterMap f = q.placeholders.flatMap g := by
  unfold Select.placeholders Select.fragments
  rw [h.expressions, List.filterMap_eq_flatMap_toList, List.flatMap_assoc, List.flatMap_assoc]
  simp only [h.expr]

end Carried

namespace Select

theorem firstFault?_tokens (q : Select) :
    firstFault? q.tokens = q.placeholders.findSome? Placeholder.error? := by
  unfold firstFault?
  rw [← List.head?_filterMap, ← List.head?_filterMap, carried_fault.select,
    List.filterMap_eq_flatMap_toList]

theorem render_eq_error_iff {q : Select} {d : Dialect} {e : RenderError} :
    q.render d = .error e ↔ q.placeholders.findSome? Placeholder.error? = some e := by
  unfold render Sql.render
  rw [firstFault?_tokens]
  cases q.placeholders.findSome? Placeholder.error? with
  | none => exact ⟨nofun, nofun⟩
  | some e' => rw [Except.error.injEq, Option.some.injEq]

/-- The placeholders decide about success and about the parameters. -/
theorem map_parameters_render (q : Select) (d : Dialect) :
    (q.render d).map Query.parameters =
      match q.placeholders.findSome? Placeholder.error? with
      | some e => .error e
      | none => .ok (q.placeholders.flatMap Placeholder.values) := by
  unfold render Sql.render
  rw [firstFault?_tokens, ← carried_value.select]
  cases q.placeholders.findSome? Placeholder.error? <;> rfl

/-- Parameters without a placeholder are of no account. -/
theorem tokens_of_sublist {q : Select} (hnodup : (q.parameters.map Parameter.name).Nodup)
    {ps : List Parameter} (hsub : ps.Sublist q.parameters)
    (h : ∀ p, .bound p ∈ q.placeholders → p ∈ ps) :
    tokens { q with parameters := ps } = q.tokens := by
  have hexpr : ∀ e ∈ q.columns ++ q.predicates ++ q.sorting.map SortKey.expr,
      e.tokens ps = e.tokens q.parameters := by
    intro e he
    cases e with
    | name a n => rfl
    | verbatim s => rfl
    | fragment s =>
      have hs : s ∈ q.fragments := List.mem_filterMap.2 ⟨.fragment s, he, rfl⟩
      have hpieces := Fragment.piecesFrom_of_sublist hnodup hsub false s.toList fun p hp =>
        h p (List.mem_flatMap.2 ⟨s, hs, hp⟩)
      exact congrArg (List.flatMap Fragment.Piece.tokens) hpieces
  have hcolumns : q.columns.map (Expr.tokens ps) = q.columns.map (Expr.tokens q.parameters) :=
    List.map_congr_left fun e he =>
      hexpr e (List.mem_append_left _ (List.mem_append_left _ he))
  have hpredicates :
      q.predicates.map (Expr.tokens ps) = q.predicates.map (Expr.tokens q.parameters) :=
    List.map_congr_left fun e he =>
      hexpr e (List.mem_append_left _ (List.mem_append_right _ he))
  have hkeys : q.sorting.map (SortKey.tokens ps) = q.sorting.map (SortKey.tokens q.parameters) :=
    List.map_congr_left fun k hk => by
      unfold SortKey.tokens
      rw [hexpr k.expr (List.mem_append_right _ (List.mem_map_of_mem hk))]
  unfold tokens
  simp only [hcolumns, hpredicates, hkeys]

/-! ## The main statement -/

/-- Each query has its placeholders, and these decide: rendering fails if one of them has an error,
with the error of the first such one, and parameters that no placeholder refers to may be left
out. -/
theorem render_fails_at_first {q : Select} (hnodup : (q.parameters.map Parameter.name).Nodup) :
    ∃ xs, (∀ ys, q.Meets ys ↔ ys = xs) ∧ ∀ d,
      ((∃ e, q.render d = .error e) ↔ ∃ x ∈ xs, x.error? ≠ none) ∧
      (∀ e, q.render d = .error e ↔ ∃ before x after, xs = before ++ x :: after ∧
        (∀ y ∈ before, y.error? = none) ∧ x.error? = some e) ∧
      ∀ ps, ps.Sublist q.parameters → (∀ p, .bound p ∈ xs → p ∈ ps) →
        render { q with parameters := ps } d = q.render d := by
  refine ⟨q.placeholders, fun ys => meets_iff hnodup, fun d => ⟨?_, fun e => ?_, ?_⟩⟩
  · simp only [render_eq_error_iff]
    rw [← Option.isSome_iff_exists, List.findSome?_isSome_iff]
    simp only [Option.isSome_iff_ne_none]
  · rw [render_eq_error_iff, List.findSome?_eq_some_iff]
    simp only [and_comm]
  · intro ps hsub h
    unfold render
    rw [tokens_of_sublist hnodup hsub h]

/-- A longer name around a shorter one, a name with a quote in it, and a literal, a cast and a
copied text that look like placeholders; of three errors the first one counts. -/
theorem render_fails_at_first_untyped :
    let a : Parameter := ⟨"a", .scalar (.int 1), none⟩
    let ab : Parameter := ⟨"a.b", .list [.int 1], none⟩
    let o : Parameter := ⟨"o'", .scalar (.int 2), none⟩
    let unused : Parameter := ⟨"unused", .list [], none⟩
    let q : Select := {
      columns := [.fragment "x::text = ':none'", .verbatim ":none"]
      predicates := [.fragment "y = :a.c AND z = :o' OR :a.b IN :late.too", .name none "ok"]
      sorting := [⟨.fragment "w[1: ] + :later", some .desc⟩]
      parameters := [a, unused, ab, o] }
    q.Meets [.bound a, .bound o, .bound ab, .unbound "late.too", .unbound "later"] ∧
      ∀ d, q.render d = .error (.untypedList "a.b") ∧
        render { q with parameters := [a, ab, o] } d = q.render d := by
  intro a ab o unused q
  obtain ⟨xs, hmeets, hrender⟩ := render_fails_at_first (q := q) (by decide +kernel)
  have hplaceholders : q.placeholders =
      [.bound a, .bound o, .bound ab, .unbound "late.too", .unbound "later"] := by decide +kernel
  have hxs := (meets_iff (q := q) (by decide +kernel)).2 hplaceholders.symm
  obtain rfl := (hmeets _).1 hxs
  refine ⟨hxs, fun d => ⟨?_, ?_⟩⟩
  · exact ((hrender d).2.1 _).2 ⟨[.bound a, .bound o], .bound ab, _, rfl, by decide +kernel, rfl⟩
  · refine (hrender d).2.2 _ (.cons_cons a (.cons unused (List.Sublist.refl _))) ?_
    simp

end Select

end QueryCriteria.Sql
