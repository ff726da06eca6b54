import QueryCriteria.Proofs.Scanning
import QueryCriteria.Proofs.Writing

/-!
Where a fragment may be cut in two.

The scanner looks ahead: behind a colon it wants to know which names stand there, what follows
them, and whether there is another colon. So a text is in general not scanned piece by piece; of
`:ab` neither `:a` nor `b` can be scanned alone. It can be cut before a character at which all of
this ends (`Boundary`): one that no name goes on with and that is in the name of no parameter. Then
nothing that is decided before the cut depends on what stands behind it, and all that is handed over
is whether a literal is open (`piecesFrom_append`).

What is open after a text follows from its pieces (`openAfter`): a placeholder is passed over with
the quotes in its name. If no parameter's name has a quote in it, the quotes of the text alone count
(`openAfter_piecesFrom`).

Names mostly consist of letters, digits, underscores and dots (`NameText`). For these a text may be
cut wherever none of those characters and no colon follows (`Apart`) and no literal is open: its
parts are scanned one after the other by the same writer (`Writer.scan_append`), two of them or any
number (`Writer.scan_flatten`). Less will not do: every other character goes on with something
behind a colon (`Writer.apart_of_splits`), and an open literal hides the placeholders of the text
behind it (`Writer.even_of_splits`).
-/

namespace QueryCriteria.Sql.Fragment

/-! ## What a piece leaves open -/

/-- The character of a piece that is copied. -/
def Piece.char? : Piece → Option Char
  | plain c => some c
  | _ => none

/-- Whether a literal is open after pieces. -/
def openAfter (quoted : Bool) (xs : List Piece) : Bool :=
  quotedAfter quoted (xs.filterMap Piece.char?)

theorem quotedAfter_drop {quoted : Bool} {s : List Char} {n : Nat} (h : '\'' ∉ s.take n) :
    quotedAfter quoted (s.drop n) = quotedAfter quoted s := by
  have hsplit := quotedAfter_append quoted (s.take n) (s.drop n)
  rw [List.take_append_drop, quotedAfter_of_not_mem quoted h] at hsplit
  exact hsplit.symm

/-- A name that stands at the start of a text is what the text begins with. -/
theorem take_of_standsAt {p : Parameter} {s : List Char} (h : standsAt p s = true) :
    s.take p.name.length = p.name.toList := by
  obtain ⟨r, rfl⟩ := eq_append_of_standsAt h
  rw [← String.length_toList, List.take_left]

theorem length_le_of_standsAt {p : Parameter} {s : List Char} (h : standsAt p s = true) :
    p.name.length ≤ s.length := by
  obtain ⟨r, rfl⟩ := eq_append_of_standsAt h
  rw [List.length_append, String.length_toList]
  exact Nat.le_add_right _ _

theorem take_strayName (s : List Char) : s.take (strayName s).length = strayName s :=
  List.prefix_iff_eq_take.1 (List.takeWhile_prefix _) |>.symm

theorem quote_not_mem_strayName (s : List Char) : '\'' ∉ strayName s := by
  intro h
  have hall := List.all_takeWhile (l := s) (p := fun c => isNameChar c || c == '.')
  exact absurd (List.all_eq_true.1 hall _ h) (by decide)

/-- If there is no quote in the names, the quotes of the text are those of the pieces. -/
theorem openAfter_piecesFrom {ps : List Parameter} (hps : ∀ p ∈ ps, '\'' ∉ p.name.toList)
    (quoted : Bool) (s : List Char) :
    openAfter quoted (piecesFrom ps quoted 0 s) = quotedAfter quoted s := by
  induction quoted, s using piecewise ps with
  | nil quoted => rfl
  | char quoted c s hc ih =>
    rw [piecesFrom_char hc]
    exact ih
  | cast s ih => exact ih
  | bound s p hcast hp ih =>
    have hname : '\'' ∉ s.take p.name.length := by
      rw [take_of_standsAt (standsAt_of_reference? hp)]
      exact hps p (mem_of_reference? hp)
    rw [piecesFrom_bound hcast hp]
    exact ih.trans (quotedAfter_drop hname)
  | unbound s hcast hnone hname ih =>
    have hstray : '\'' ∉ s.take (strayName s).length := by
      rw [take_strayName]
      exact quote_not_mem_strayName s
    rw [piecesFrom_unbound hcast hnone hname]
    exact ih.trans (quotedAfter_drop hstray)
  | colon s hcast hnone hempty ih =>
    rw [piecesFrom_colon hcast hnone hempty]
    exact ih

/-! ## Cutting a text -/

/-- The text is empty, or nothing that the scanner looks for goes on into it. -/
def Boundary (ps : List Parameter) (t : List Char) : Prop :=
  ∀ c, t.head? = some c →
    isNameChar c = false ∧ c ≠ '.' ∧ c ≠ ':' ∧ ∀ p ∈ ps, c ∉ p.name.toList

variable {ps : List Parameter} {t : List Char}

theorem Boundary.head?_any (h : Boundary ps t) : t.head?.any isNameChar = false := by
  cases t with
  | nil => rfl
  | cons c t => exact (h c rfl).1

theorem Boundary.head?_append (h : Boundary ps t) {s : List Char} (hs : s.head? ≠ some ':') :
    (s ++ t).head? ≠ some ':' := by
  cases s with
  | nil => exact fun hc => (h ':' hc).2.2.1 rfl
  | cons c s => exact hs

/-- No name runs over a boundary. -/
theorem Boundary.standsAt_append (h : Boundary ps t) {p : Parameter} (hp : p ∈ ps)
    (s : List Char) : standsAt p (s ++ t) = standsAt p s := by
  by_cases hprefix : p.name.toList <+: s
  · -- the name ends before the boundary, which goes on with no name
    obtain ⟨r, rfl⟩ := hprefix
    have hnext : (r ++ t).head?.any isNameChar = r.head?.any isNameChar := by
      cases r with
      | nil => exact h.head?_any
      | cons c r => rfl
    simp only [standsAt, List.append_assoc, List.drop_left, hnext, List.isPrefixOf_iff_prefix.2,
      List.prefix_append]
  · have hover : ¬ p.name.toList <+: s ++ t := by
      rintro ⟨u, hu⟩
      rcases List.append_eq_append_iff.1 hu with ⟨r, hr, -⟩ | ⟨r, hr, ht⟩
      · exact hprefix ⟨r, hr.symm⟩
      · cases r with
        | nil => exact hprefix ⟨[], by simpa using hr⟩
        | cons c r =>
          refine (h c (by rw [ht]; rfl)).2.2.2 p hp ?_
          rw [hr]
          exact List.mem_append_right _ (List.mem_cons_self ..)
    rw [← List.isPrefixOf_iff_prefix, Bool.not_eq_true] at hprefix hover
    simp only [standsAt, hprefix, hover, Bool.and_false, Bool.false_and]

theorem Boundary.reference?_append (h : Boundary ps t) (s : List Char) :
    reference? ps (s ++ t) = reference? ps s := by
  unfold reference?
  rw [List.filter_congr fun p hp => h.standsAt_append hp s]

theorem Boundary.strayName_append (h : Boundary ps t) (s : List Char) :
    strayName (s ++ t) = strayName s := by
  have hstop : t.takeWhile (fun c => isNameChar c || c == '.') = [] := by
    cases t with
    | nil => rfl
    | cons c t =>
      obtain ⟨hname, hdot, -⟩ := h c rfl
      simp [hname, hdot]
  unfold strayName
  rw [List.takeWhile_append, hstop, List.append_nil]
  split
  · next hall => exact (List.takeWhile_prefix _).eq_of_length hall |>.symm
  · rfl

/-- Before a boundary a text is scanned as if it ended there. -/
theorem Boundary.piecesFrom_append (h : Boundary ps t) (quoted : Bool) (s : List Char) :
    piecesFrom ps quoted 0 (s ++ t) =
      piecesFrom ps quoted 0 s ++
        piecesFrom ps (openAfter quoted (piecesFrom ps quoted 0 s)) 0 t := by
  induction quoted, s using piecewise ps with
  | nil quoted => rfl
  | char quoted c s hc ih =>
    rw [List.cons_append, piecesFrom_char hc, piecesFrom_char hc, ih]
    rfl
  | cast s ih =>
    rw [List.cons_append, List.cons_append, piecesFrom_cast, piecesFrom_cast, ih]
    rfl
  | bound s p hcast hp ih =>
    have hp' := (h.reference?_append s).trans hp
    have hlength := length_le_of_standsAt (standsAt_of_reference? hp)
    rw [List.cons_append, piecesFrom_bound (h.head?_append hcast) hp', piecesFrom_bound hcast hp,
      List.drop_append_of_le_length hlength, ih]
    rfl
  | unbound s hcast hnone hname ih =>
    have hnone' := (h.reference?_append s).trans hnone
    have hstray := h.strayName_append s
    have hlength : (strayName s).length ≤ s.length := (List.takeWhile_prefix _).length_le
    rw [List.cons_append, piecesFrom_unbound (h.head?_append hcast) hnone' (by rwa [hstray]),
      piecesFrom_unbound hcast hnone hname, hstray, List.drop_append_of_le_length hlength, ih]
    rfl
  | colon s hcast hnone hempty ih =>
    have hnone' := (h.reference?_append s).trans hnone
    have hstray := (h.strayName_append s).trans hempty
    rw [List.cons_append, piecesFrom_colon (h.head?_append hcast) hnone' hstray,
      piecesFrom_colon hcast hnone hempty, ih]
    rfl

/-- Without quotes in the names it is in the text what is open at the boundary. -/
theorem Boundary.piecesFrom_append_of_quoteless (h : Boundary ps t)
    (hps : ∀ p ∈ ps, '\'' ∉ p.name.toList) (quoted : Bool) (s : List Char) :
    piecesFrom ps quoted 0 (s ++ t) =
      piecesFrom ps quoted 0 s ++ piecesFrom ps (quotedAfter quoted s) 0 t := by
  rw [h.piecesFrom_append, openAfter_piecesFrom hps]

/-! ## Names of letters, digits, underscores and dots -/

/-- Letters, digits, underscores and dots. -/
def NameText (s : List Char) : Prop := ∀ c ∈ s, isNameChar c = true ∨ c = '.'

/-- The text is empty, or neither a name nor a colon before it goes on with its first character. -/
def Apart (t : List Char) : Prop :=
  ∀ c, t.head? = some c → isNameChar c = false ∧ c ≠ '.' ∧ c ≠ ':'

instance : DecidablePred NameText := fun s =>
  decidable_of_iff ((s.all fun c => isNameChar c || c == '.') = true) (by simp [NameText])

instance : DecidablePred Apart := fun t =>
  decidable_of_iff ((t.head?.all fun c => !isNameChar c && c != '.' && c != ':') = true)
    (by cases t <;> simp [Apart, and_assoc])

theorem NameText.quote_not_mem {s : List Char} (h : NameText s) : '\'' ∉ s := fun hc =>
  absurd (h _ hc) (by decide)

theorem Apart.boundary (h : Apart t) (hps : ∀ p ∈ ps, NameText p.name.toList) :
    Boundary ps t := by
  intro c hc
  obtain ⟨hname, hdot, hcolon⟩ := h c hc
  refine ⟨hname, hdot, hcolon, fun p hp hmem => ?_⟩
  rcases hps p hp c hmem with h | h
  · exact Bool.false_ne_true (hname.symm.trans h)
  · exact hdot h

theorem Apart.piecesFrom_append (h : Apart t) (hps : ∀ p ∈ ps, NameText p.name.toList)
    (quoted : Bool) (s : List Char) :
    piecesFrom ps quoted 0 (s ++ t) =
      piecesFrom ps quoted 0 s ++ piecesFrom ps (quotedAfter quoted s) 0 t :=
  (h.boundary hps).piecesFrom_append_of_quoteless (fun p hp => (hps p hp).quote_not_mem) quoted s

theorem apart_flatten {texts : List (List Char)} (h : ∀ t ∈ texts, Apart t) :
    Apart texts.flatten := by
  induction texts with
  | nil => exact fun c hc => nomatch hc
  | cons t texts ih =>
    obtain ⟨ht, htexts⟩ := List.forall_mem_cons.1 h
    cases t with
    | nil => exact ih htexts
    | cons c t => exact ht

end QueryCriteria.Sql.Fragment

/-! ## Writing on from a cut -/

namespace QueryCriteria.Sql.Writer

open Fragment

variable {w : Writer}

/-- All that one text hands over to the next is whether a literal is open. -/
theorem scan_apart (hnames : ∀ p ∈ w.named, NameText p.name.toList) {t : List Char}
    (ht : Apart t) (quoted : Bool) (s : List Char) :
    w.scan quoted (s ++ t) = (w.scan quoted s).scan (quotedAfter quoted s) t := by
  rw [scan_eq, ht.piecesFrom_append hnames, List.flatMap_append, putAll_append, ← scan_eq,
    scan_eq _ t, named_scan]

/-- Texts that begin apart and leave no literal open are written one after the other. -/
theorem scan_flatten (hnames : ∀ p ∈ w.named, NameText p.name.toList) {texts : List (List Char)}
    (h : ∀ s ∈ texts, s.count '\'' % 2 = 0 ∧ Apart s) :
    w.scan false texts.flatten = texts.foldl (fun w s => w.scan false s) w := by
  induction texts generalizing w with
  | nil => rw [List.flatten_nil, scan, List.foldl_nil]
  | cons s texts ih =>
    obtain ⟨⟨hs, -⟩, htexts⟩ := List.forall_mem_cons.1 h
    have hrest : Apart texts.flatten := apart_flatten fun t ht => (htexts t ht).2
    have hnames' : ∀ p ∈ (w.scan false s).named, NameText p.name.toList := by rwa [named_scan]
    rw [List.flatten_cons, scan_apart hnames hrest, quotedAfter_eq, if_pos hs, ih hnames' htexts,
      List.foldl_cons]

/-! ## The main statement -/

/-- To scan two texts as one fragment is to scan them one after the other, if the first one leaves
no literal open and the second one begins where no name goes on: text, values and first fault are
the same, whatever was written, bound or failed before; and the tokens of the one fragment are those
of the two. -/
theorem scan_append (hnames : ∀ p ∈ w.named, NameText p.name.toList) {a b : String}
    (ha : a.toList.count '\'' % 2 = 0) (hb : Apart b.toList) :
    w.scan false (a ++ b).toList = (w.scan false a.toList).scan false b.toList ∧
      Fragment.tokens w.named (a ++ b) =
        Fragment.tokens w.named a ++ Fragment.tokens w.named b := by
  have hopen : quotedAfter false a.toList = false := by rw [quotedAfter_eq, if_pos ha]
  have hwrite := scan_apart hnames hb false a.toList
  have hpieces := hb.piecesFrom_append hnames false a.toList
  rw [hopen, ← String.toList_append] at hwrite hpieces
  refine ⟨hwrite, ?_⟩
  unfold Fragment.tokens pieces
  rw [hpieces, List.flatMap_append]

/-- A literal that looks like a placeholder, a placeholder right before the cut, and a name with a
dot in it behind the cut. -/
theorem scan_append_days :
    let w : Writer :=
      { dialect := .postgres
        named := [⟨"day", .scalar (.text "Mon"), none⟩, ⟨"u.day", .scalar (.text "Tue"), none⟩]
        sql := "a = $1 AND ".toList
        values := [.int 1] }
    let a := "(note <> 'it''s :day' AND day = :day"
    let b := ") OR u.day = :u.day::text"
    (∀ p ∈ w.named, NameText p.name.toList) ∧ a.toList.count '\'' % 2 = 0 ∧ Apart b.toList ∧
      (w.scan false (a ++ b).toList).finish =
        .ok ⟨"a = $1 AND (note <> 'it''s :day' AND day = $2) OR u.day = $3::text",
          [.int 1, .text "Mon", .text "Tue"]⟩ := by
  intro w a b
  have hnames : ∀ p ∈ w.named, NameText p.name.toList := by decide
  have ha : a.toList.count '\'' % 2 = 0 := by decide
  have hb : Apart b.toList := by decide
  obtain ⟨hscan, -⟩ := scan_append hnames ha hb
  refine ⟨hnames, ha, hb, ?_⟩
  rw [hscan, scan_eq, scan_eq]
  decide +kernel

/-! ## Less will not do -/

/-- The second text may be written by itself behind the first one. -/
def Splits (w : Writer) (a b : List Char) : Prop :=
  w.scan false (a ++ b) = (w.scan false a).scan false b

/-- If all texts that begin with a character may be written by themselves, neither a name nor a cast
goes on with it: behind a colon it would. -/
theorem apart_of_splits {c : Char}
    (h : ∀ (w : Writer) (a t : List Char), (∀ p ∈ w.named, NameText p.name.toList) →
      a.count '\'' % 2 = 0 → w.Splits a (c :: t)) : Apart [c] := by
  have hfault (t : List Char) :
      firstFault? ((piecesFrom [] false 0 (':' :: c :: t)).flatMap Piece.tokens) =
        firstFault? ((piecesFrom [] false 0 (c :: t)).flatMap Piece.tokens) := by
    have hsplit := h { dialect := .postgres, named := [] } [':'] t (List.forall_mem_nil _)
      (by decide)
    have hfaults := congrArg fault hsplit
    simp only [fault_scan, named_scan] at hfaults
    exact hfaults
  -- together two colons are a cast, apart the second one stands before a name
  have hcolon : c ≠ ':' := by
    rintro rfl
    exact absurd (hfault ['x']) (by decide)
  -- together the colon stands before a name, apart it stands alone
  have hname : ¬ (isNameChar c || c == '.') = true := by
    intro hc
    have hstray : strayName [c] = [c] := by simp [strayName, hc]
    have hcast : [c].head? ≠ some ':' := by simpa using hcolon
    have hone := hfault []
    rw [piecesFrom_unbound hcast rfl (by simp [hstray]), piecesFrom_char (.inr hcolon)] at hone
    exact absurd hone nofun
  intro c' hc'
  obtain rfl := Option.some.inj hc'
  simpa [hcolon] using hname

/-- If all texts that begin apart may be written by themselves behind a text, it leaves no literal
open. -/
theorem even_of_splits {a : List Char}
    (h : ∀ (w : Writer) (t : List Char), (∀ p ∈ w.named, NameText p.name.toList) → Apart t →
      w.Splits a t) : a.count '\'' % 2 = 0 := by
  by_contra hodd
  -- the placeholder binds a value unless a literal is open
  let w : Writer := { dialect := .postgres, named := [⟨"x", .scalar (.int 0), none⟩] }
  have hnames : ∀ p ∈ w.named, NameText p.name.toList := by decide
  have hapart : Apart " :x".toList := by decide
  have hopen : quotedAfter false a = true := by rw [quotedAfter_eq, if_neg hodd, Bool.not_false]
  have hsplit : w.scan false (a ++ " :x".toList) = (w.scan false a).scan false " :x".toList :=
    h w _ hnames hapart
  rw [scan_apart hnames hapart, hopen] at hsplit
  have hvalues := congrArg values hsplit
  rw [values_scan true _ (w.scan false a), values_scan false _ (w.scan false a), named_scan,
    List.append_cancel_left_eq] at hvalues
  exact absurd hvalues (by decide)

end QueryCriteria.Sql.Writer
