import QueryCriteria.Proofs.Layout

/-!
What the scanner makes of a layout.

The scanner sees text only. It meets the holes of a layout again as long as three things hold, each
with its lemma here:

  * copied text has no colon outside of literals but in pairs (`Inert`), so the scanner copies it
    as well, and all it changes is whether a literal is open (`piecesFrom_inert`);
  * no parameter's name goes on behind another one's with a blank or a closing parenthesis
    (`NamesStop`), so that of the names that stand at a hole its own is the longest, even if others
    are fronts of it (`reference?_name`);
  * names are legible (`Legible`): they do not turn the colon of their hole into a cast, and where
    they are hidden in a literal they do not bring a single colon out of it.

Quotes are not among the three. A hole inside a literal is copied with its name, and the quotes in
that name count; `Segment.after` says what a segment leaves open, `Segment.read` what the scanner
makes of it, and `piecesFrom_layout` that this is all there is to say.
-/

namespace QueryCriteria

open Sql Sql.Fragment

/-! ## The longest name -/

namespace Sql.Fragment

/-- A parameter whose name is longer than all others wins, wherever it stands among them. -/
theorem foldl_longer_eq {p : Parameter} {best : Option Parameter} {ps : List Parameter}
    (hps : ∀ q ∈ ps, q ≠ p → q.name.length < p.name.length)
    (hbest : ∀ b, best = some b → b ≠ p → b.name.length < p.name.length)
    (hp : p ∈ ps ∨ best = some p) : ps.foldl longer best = some p := by
  induction ps generalizing best with
  | nil => exact hp.resolve_left (List.not_mem_nil)
  | cons q ps ih =>
    have hrest : ∀ r ∈ ps, r ≠ p → r.name.length < p.name.length := fun r hr =>
      hps r (List.mem_cons_of_mem q hr)
    have hq := hps q (List.mem_cons_self ..)
    rw [List.foldl_cons]
    by_cases hqp : q = p
    · -- its turn: what was best before is not longer
      subst hqp
      have hnext : longer best q = some q := by
        unfold longer
        cases hb : best with
        | none => rfl
        | some b =>
          have hle : b.name.length ≤ q.name.length := by
            by_cases hbq : b = q
            · exact Nat.le_of_eq (congrArg (·.name.length) hbq)
            · exact Nat.le_of_lt (hbest b hb hbq)
          exact if_pos hle
      rw [hnext]
      exact ih hrest (fun b hb hne => absurd (Option.some.inj hb).symm hne) (.inr rfl)
    · have hlt := hq hqp
      refine ih hrest ?_ ?_
      · intro b hb hne
        unfold longer at hb
        cases hbest' : best with
        | none =>
          rw [hbest'] at hb
          rw [← Option.some.inj hb]
          exact hlt
        | some b' =>
          rw [hbest'] at hb
          simp only at hb
          split at hb
          · rw [← Option.some.inj hb]
            exact hlt
          · rw [Option.some.inj hb] at hbest'
            exact hbest b hbest' hne
      · rcases hp with hp | hp
        · rcases List.mem_cons.1 hp with rfl | hp
          · exact absurd rfl hqp
          · exact .inl hp
        · -- nothing shorter takes its place
          right
          rw [hp]
          exact if_neg (Nat.not_le.2 hlt)

theorem reference?_eq_some {ps : List Parameter} {p : Parameter} {s : List Char} (hp : p ∈ ps)
    (hs : standsAt p s = true)
    (hlongest : ∀ q ∈ ps, standsAt q s = true → q ≠ p → q.name.length < p.name.length) :
    reference? ps s = some p := by
  unfold reference?
  refine foldl_longer_eq ?_ (fun b hb => nomatch hb) (.inl (List.mem_filter.2 ⟨hp, hs⟩))
  intro q hq
  obtain ⟨hq, hqs⟩ := List.mem_filter.1 hq
  exact hlongest q hq hqs

/-- The longer of parameters is one of them. -/
theorem mem_of_foldl_longer {best : Option Parameter} {ps : List Parameter} {p : Parameter}
    (h : ps.foldl longer best = some p) : p ∈ ps ∨ best = some p := by
  induction ps generalizing best with
  | nil => exact .inr h
  | cons q ps ih =>
    rcases ih h with hp | hlonger
    · exact .inl (List.mem_cons_of_mem q hp)
    · have hcases : longer best q = some q ∨ longer best q = best := by
        cases best with
        | none => exact .inl rfl
        | some b =>
          by_cases hle : b.name.length ≤ q.name.length
          · exact .inl (if_pos hle)
          · exact .inr (if_neg hle)
      rcases hcases with he | he
      · rw [he] at hlonger
        exact .inl (Option.some.inj hlonger ▸ List.mem_cons_self ..)
      · exact .inr (he ▸ hlonger)

theorem mem_of_reference? {ps : List Parameter} {s : List Char} {p : Parameter}
    (h : reference? ps s = some p) : p ∈ ps := by
  rcases mem_of_foldl_longer h with h | h
  · exact (List.mem_filter.1 h).1
  · cases h

theorem standsAt_of_reference? {ps : List Parameter} {s : List Char} {p : Parameter}
    (h : reference? ps s = some p) : standsAt p s = true := by
  rcases mem_of_foldl_longer h with h | h
  · exact (List.mem_filter.1 h).2
  · cases h

/-- What wins is at least as long as all others. -/
theorem length_le_of_foldl_longer {best : Option Parameter} {ps : List Parameter} {p : Parameter}
    (h : ps.foldl longer best = some p) :
    (∀ q ∈ ps, q.name.length ≤ p.name.length) ∧
      ∀ b, best = some b → b.name.length ≤ p.name.length := by
  induction ps generalizing best with
  | nil =>
    refine ⟨(fun q hq => nomatch hq), fun b hb => ?_⟩
    have hbp : best = some p := h
    rw [hb] at hbp
    exact Nat.le_of_eq (congrArg (·.name.length) (Option.some.inj hbp))
  | cons q ps ih =>
    obtain ⟨hps, hlonger⟩ := ih h
    have hq : q.name.length ≤ p.name.length ∧ ∀ b, best = some b →
        b.name.length ≤ p.name.length := by
      cases best with
      | none => exact ⟨hlonger q rfl, (fun b hb => nomatch hb)⟩
      | some b =>
        by_cases hle : b.name.length ≤ q.name.length
        · have hqp := hlonger q (if_pos hle)
          exact ⟨hqp, fun b' hb' => Option.some.inj hb' ▸ Nat.le_trans hle hqp⟩
        · have hbp := hlonger b (if_neg hle)
          exact ⟨by omega, fun b' hb' => Option.some.inj hb' ▸ hbp⟩
    exact ⟨List.forall_mem_cons.2 ⟨hq.1, hps⟩, hq.2⟩

theorem foldl_longer_ne_none (b : Parameter) (ps : List Parameter) :
    ps.foldl longer (some b) ≠ none := by
  induction ps generalizing b with
  | nil => exact fun h => nomatch h
  | cons q ps ih =>
    rw [List.foldl_cons]
    by_cases hle : b.name.length ≤ q.name.length
    · rw [show longer (some b) q = some q from if_pos hle]
      exact ih q
    · rw [show longer (some b) q = some b from if_neg hle]
      exact ih b

/-- Nothing is referred to only where no name stands. -/
theorem reference?_eq_none_iff {ps : List Parameter} {s : List Char} :
    reference? ps s = none ↔ ∀ p ∈ ps, standsAt p s = false := by
  unfold reference?
  constructor
  · intro h p hp
    cases hfilter : ps.filter (standsAt · s) with
    | nil =>
      exact Bool.eq_false_iff.2 fun hs => List.not_mem_nil (hfilter ▸ List.mem_filter.2 ⟨hp, hs⟩)
    | cons q rest =>
      rw [hfilter] at h
      exact absurd h (foldl_longer_ne_none q rest)
  · intro h
    rw [List.filter_eq_nil_iff.2 fun p hp => Bool.eq_false_iff.1 (h p hp)]
    rfl

/-! ## A name and what follows it -/

theorem not_isNameChar_of_stops {t : List Char} (h : Stops t) : t.head?.any isNameChar = false := by
  cases t with
  | nil => rfl
  | cons c t =>
    have hc : isNameChar c = false := by rcases h c rfl with rfl | rfl <;> decide
    exact hc

theorem standsAt_name {p : Parameter} (hp : p.name.toList ≠ []) {t : List Char} (ht : Stops t) :
    standsAt p (p.name.toList ++ t) = true := by
  have hnext := not_isNameChar_of_stops ht
  unfold standsAt
  simp [hp, hnext]

theorem eq_append_of_standsAt {q : Parameter} {s : List Char} (h : standsAt q s = true) :
    ∃ r, s = q.name.toList ++ r := by
  simp only [standsAt, Bool.and_eq_true, List.isPrefixOf_iff_prefix] at h
  obtain ⟨r, hr⟩ := h.1.2
  exact ⟨r, hr.symm⟩

/-- Equally long names that stand at one place are equal. -/
theorem name_eq_of_standsAt {p q : Parameter} {s : List Char} (hp : standsAt p s = true)
    (hq : standsAt q s = true) (hlength : p.name.length = q.name.length) : p.name = q.name := by
  obtain ⟨r, hr⟩ := eq_append_of_standsAt hp
  obtain ⟨r', hr'⟩ := eq_append_of_standsAt hq
  rw [← String.length_toList, ← String.length_toList] at hlength
  exact String.toList_inj.1 (List.append_inj_left (hr.symm.trans hr') hlength)

/-- No name goes on behind another one with a blank or a closing parenthesis. -/
def NamesStop (names : List String) : Prop :=
  ∀ a ∈ names, ∀ b ∈ names, ∀ u, b.toList = a.toList ++ u → Stops u → u = []

/-- Where a bound name stands and stops, it is the one that is meant. -/
theorem reference?_name {ps : List Parameter} (hnodup : (ps.map Parameter.name).Nodup)
    (hstop : NamesStop (ps.map Parameter.name)) {p : Parameter} (hp : p ∈ ps)
    (hne : p.name.toList ≠ []) {t : List Char} (ht : Stops t) :
    reference? ps (p.name.toList ++ t) = some p := by
  refine reference?_eq_some hp (standsAt_name hne ht) ?_
  intro q hq hqs hqp
  have hname : q.name ≠ p.name := fun he =>
    hqp (Keyed.eq_of_key_eq Parameter.name hnodup hq hp he)
  obtain ⟨r, hr⟩ := eq_append_of_standsAt hqs
  rcases List.append_eq_append_iff.1 hr with ⟨u, hu, htu⟩ | ⟨u, hu, -⟩
  · -- the other name would go on where this one stops
    have hstops : Stops u := by
      intro c hc
      refine ht c ?_
      rw [htu, List.head?_append, hc]
      rfl
    have hnil := hstop _ (List.mem_map_of_mem hp) _ (List.mem_map_of_mem hq) u hu hstops
    rw [hnil, List.append_nil, String.toList_inj] at hu
    exact absurd hu hname
  · have hlen : p.name.toList.length = q.name.toList.length + u.length := by
      rw [hu, List.length_append]
    have hpos : u ≠ [] := by
      intro hnil
      rw [hnil, List.append_nil, String.toList_inj] at hu
      exact hname hu.symm
    have := List.length_pos_iff.2 hpos
    rw [String.length_toList, String.length_toList] at hlen
    omega

/-! ## Copied text -/

/-- Whether a literal is open after a text: every quote opens or closes one. -/
def quotedAfter : Bool → List Char → Bool
  | quoted, [] => quoted
  | quoted, c :: s => quotedAfter (if c = '\'' then !quoted else quoted) s

/-- Outside of literals there are no colons in the text but in pairs. -/
inductive Inert : Bool → List Char → Prop where
  | nil (quoted : Bool) : Inert quoted []
  | char {quoted : Bool} {c : Char} {s : List Char} :
    quoted = true ∨ c ≠ ':' → Inert (if c = '\'' then !quoted else quoted) s → Inert quoted (c :: s)
  | cast {s : List Char} : Inert false s → Inert false (':' :: ':' :: s)

theorem quotedAfter_append (quoted : Bool) (s t : List Char) :
    quotedAfter quoted (s ++ t) = quotedAfter (quotedAfter quoted s) t := by
  induction s generalizing quoted with
  | nil => rfl
  | cons c s ih => exact ih _

theorem quotedAfter_of_not_mem (quoted : Bool) {s : List Char} (h : '\'' ∉ s) :
    quotedAfter quoted s = quoted := by
  induction s with
  | nil => rfl
  | cons c s ih =>
    rw [List.mem_cons, not_or] at h
    rw [quotedAfter, if_neg fun he => h.1 he.symm]
    exact ih h.2

/-- Quotes count by twos. -/
theorem quotedAfter_eq (quoted : Bool) (s : List Char) :
    quotedAfter quoted s = if s.count '\'' % 2 = 0 then quoted else !quoted := by
  induction s generalizing quoted with
  | nil => rfl
  | cons c s ih =>
    rw [quotedAfter, ih, List.count_cons]
    by_cases hc : c = '\''
    · subst hc
      rcases Nat.mod_two_eq_zero_or_one (s.count '\'') with h | h
      · have h' : (s.count '\'' + 1) % 2 = 1 := by omega
        simp [h, h']
      · have h' : (s.count '\'' + 1) % 2 = 0 := by omega
        simp [h, h']
    · simp [hc]

theorem inert_append {quoted : Bool} {s t : List Char} (hs : Inert quoted s)
    (ht : Inert (quotedAfter quoted s) t) : Inert quoted (s ++ t) := by
  induction hs with
  | nil quoted => exact ht
  | char h _ ih => exact .char h (ih ht)
  | cast _ ih => exact .cast (ih ht)

theorem inert_of_not_mem (quoted : Bool) {s : List Char} (h : ':' ∉ s) : Inert quoted s := by
  induction s generalizing quoted with
  | nil => exact .nil quoted
  | cons c s ih =>
    rw [List.mem_cons, not_or] at h
    exact .char (.inr fun he => h.1 he.symm) (ih _ h.2)

theorem Inert.tail {quoted : Bool} {c : Char} {s : List Char} (h : Inert quoted (c :: s))
    (hc : quoted = true ∨ c ≠ ':') : Inert (if c = '\'' then !quoted else quoted) s := by
  cases h with
  | char _ hs => exact hs
  | cast _ => exact absurd hc (by decide)

/-- Outside of literals a colon is followed by another one. -/
theorem Inert.of_colon {quoted : Bool} {s : List Char} (h : Inert quoted (':' :: s))
    (hquoted : ¬ quoted = true) : ∃ t, s = ':' :: t ∧ Inert false t := by
  cases h with
  | char hc _ => exact absurd rfl (hc.resolve_left hquoted)
  | cast ht => exact ⟨_, rfl, ht⟩

/-- The check of a text for colons that are not in pairs. -/
def isInert : Bool → List Char → Bool
  | _, [] => true
  | true, c :: s => isInert (c ≠ '\'') s
  | false, ':' :: ':' :: s => isInert false s
  | false, c :: s => c ≠ ':' && isInert (c = '\'') s

theorem isInert_iff (quoted : Bool) (s : List Char) : isInert quoted s = true ↔ Inert quoted s := by
  fun_induction isInert quoted s with
  | case1 quoted => exact ⟨fun _ => .nil quoted, fun _ => rfl⟩
  | case2 c s ih =>
    have hstate : (if c = '\'' then !true else true) = decide (c ≠ '\'') := by
      by_cases hc : c = '\'' <;> simp [hc]
    rw [ih, ← hstate]
    exact ⟨.char (.inl rfl), fun h => h.tail (.inl rfl)⟩
  | case3 s ih =>
    rw [ih]
    constructor
    · exact .cast
    · intro h
      obtain ⟨t, ht, h⟩ := h.of_colon (by decide)
      exact (List.cons.inj ht).2 ▸ h
  | case4 c s hpair ih =>
    have hstate : (if c = '\'' then !false else false) = decide (c = '\'') := by
      by_cases hc : c = '\'' <;> simp [hc]
    rw [Bool.and_eq_true, ih, ← hstate, decide_eq_true_iff]
    constructor
    · rintro ⟨hc, h⟩
      exact .char (.inr hc) h
    · intro h
      have hc : c ≠ ':' := by
        rintro rfl
        obtain ⟨t, rfl, -⟩ := h.of_colon (by decide)
        exact hpair t rfl rfl
      exact ⟨hc, h.tail (.inr hc)⟩

instance (quoted : Bool) (s : List Char) : Decidable (Inert quoted s) :=
  decidable_of_iff _ (isInert_iff quoted s)

/-- The scanner copies inert text, whatever comes behind it. -/
theorem piecesFrom_inert (ps : List Parameter) {quoted : Bool} {s : List Char}
    (h : Inert quoted s) (t : List Char) :
    piecesFrom ps quoted 0 (s ++ t) =
      s.map .plain ++ piecesFrom ps (quotedAfter quoted s) 0 t := by
  induction h with
  | nil quoted => rfl
  | @char quoted c s hc _ ih =>
    have hplain : (quoted || decide (c ≠ ':')) = true := by
      rcases hc with hc | hc
      · rw [hc, Bool.true_or]
      · rw [decide_eq_true hc, Bool.or_true]
    rw [List.cons_append, piecesFrom, if_pos hplain, ih]
    rfl
  | @cast s _ ih =>
    have hcolon : ¬ (false || decide ((':' : Char) ≠ ':')) = true := by decide
    rw [List.cons_append, List.cons_append, piecesFrom, if_neg hcolon,
      if_pos (show (':' :: (s ++ t)).head? = some ':' from rfl)]
    exact congrArg (fun x => Piece.plain ':' :: Piece.plain ':' :: x) ih

/-! ## A placeholder -/

/-- The name does not begin with a colon, and scanned inside of a literal it is copied. -/
def Legible (name : List Char) : Prop := name.head? ≠ some ':' ∧ Inert true name

instance (name : List Char) : Decidable (Legible name) := inferInstanceAs (Decidable (_ ∧ _))

theorem legible_of_not_mem {name : List Char} (h : ':' ∉ name) : Legible name :=
  ⟨fun he => h (List.mem_of_head? he), inert_of_not_mem true h⟩

/-- Outside of literals a colon and a bound name are a placeholder. -/
theorem piecesFrom_name {ps : List Parameter} (hnodup : (ps.map Parameter.name).Nodup)
    (hstop : NamesStop (ps.map Parameter.name)) {p : Parameter} (hp : p ∈ ps)
    (hne : p.name.toList ≠ []) (hhead : p.name.toList.head? ≠ some ':') {t : List Char}
    (ht : Stops t) :
    piecesFrom ps false 0 (':' :: (p.name.toList ++ t)) = .bound p :: piecesFrom ps false 0 t := by
  have hhead : ¬ (p.name.toList ++ t).head? = some ':' := by
    obtain ⟨c, n, hn⟩ := List.exists_cons_of_ne_nil hne
    rw [hn] at hhead ⊢
    exact hhead
  have hnot : ¬ (false || decide ((':' : Char) ≠ ':')) = true := by decide
  rw [piecesFrom, if_neg hnot, if_neg hhead, reference?_name hnodup hstop hp hne ht]
  simp only
  rw [piecesFrom_drop, ← String.length_toList, List.drop_left]

end Sql.Fragment

/-! ## A layout -/

namespace Segment

/-- Whether a literal is open after the segment. -/
def after (quoted : Bool) : Segment → Bool
  | copied s => quotedAfter quoted s
  | operand c number => quoted && quotedAfter quoted (c.parameterName number).toList

/-- What the scanner makes of a segment: inside a literal the name in a hole is but text. -/
def read (ps : List Parameter) (quoted : Bool) : Segment → List Piece
  | copied s => s.map .plain
  | operand c number =>
    if quoted then (':' :: (c.parameterName number).toList).map .plain
    else (Keyed.find? Parameter.name (c.parameterName number) ps).toList.map .bound

def readAll (ps : List Parameter) (quoted : Bool) : List Segment → List Piece
  | [] => []
  | x :: rest => x.read ps quoted ++ readAll ps (x.after quoted) rest

/-- All copied text is inert in the state in which the scanner comes to it. -/
def CopiedInert (quoted : Bool) : List Segment → Prop
  | [] => True
  | x :: rest => (∀ s, x = copied s → Inert quoted s) ∧ CopiedInert (x.after quoted) rest

end Segment

theorem Comparison.parameterName_ne_nil (c : Comparison) (number : Nat) :
    (c.parameterName number).toList ≠ [] := by
  rw [toList_parameterName]
  exact List.append_ne_nil_of_right_ne_nil _ Nat.toDigits_ne_nil

/-- The scanner finds the segments of a layout again. -/
theorem Segment.piecesFrom_layout {ps : List Parameter} (hnodup : (ps.map Parameter.name).Nodup)
    (hstop : NamesStop (ps.map Parameter.name)) {quoted : Bool} {segments : List Segment}
    (hspaced : WellSpaced segments) (hinert : CopiedInert quoted segments)
    (hnames : ∀ x ∈ segments.filterMap operand?, x.1.parameterName x.2 ∈ ps.map Parameter.name ∧
      Legible (x.1.parameterName x.2).toList) :
    piecesFrom ps quoted 0 (segments.flatMap named) = readAll ps quoted segments := by
  induction segments generalizing quoted with
  | nil => rfl
  | cons x rest ih =>
    cases x with
    | copied s =>
      have ih := ih hspaced hinert.2 fun x hx => hnames x hx
      have hs := hinert.1 s rfl
      rw [List.flatMap_cons, readAll, ← ih]
      exact piecesFrom_inert ps hs _
    | operand c number =>
      have ih := ih hspaced.2 hinert.2 fun x hx => hnames x (List.mem_cons_of_mem _ hx)
      obtain ⟨hbound, hhead, hcopied⟩ := hnames (c, number) (List.mem_cons_self ..)
      rw [List.flatMap_cons, readAll, ← ih]
      cases quoted with
      | true =>
        have hs : Inert true (':' :: (c.parameterName number).toList) :=
          .char (.inl rfl) hcopied
        exact piecesFrom_inert ps hs _
      | false =>
        obtain ⟨p, hp, hname⟩ := List.mem_map.1 hbound
        have hfind : Keyed.find? Parameter.name (c.parameterName number) ps = some p :=
          hname ▸ Keyed.find?_of_mem Parameter.name hnodup hp
        have hne := c.parameterName_ne_nil number
        show piecesFrom ps false 0 (':' :: ((c.parameterName number).toList ++ _)) = _
        rw [← hname] at hne hhead ⊢
        rw [piecesFrom_name hnodup hstop hp hne hhead hspaced.1]
        simp only [read, after, Bool.false_and, hfind]
        rfl

end QueryCriteria
