import QueryCriteria.Proofs.Boundaries
import QueryCriteria.Proofs.Reading
import QueryCriteria.Proofs.Writing

/-!
A value written out in a fragment.

Texts, uuids, dates and timestamps stand in SQL between single quotes, with the quotes inside
doubled (`Value.sql`). The scanner knows nothing of doubling: for it every quote opens a literal or
closes one. The two agree all the same. A doubled quote closes a literal and opens the next one with
nothing between, so all else in the value is inside of a literal, and after the last quote none is
open (`inert_enclose`, `quotedAfter_enclose`).

So a fragment with such a value in it is scanned as if it ended before the value and another one
began behind it, and the value is copied (`Value.sql_inert`). What the text before the value needs
is that it leaves no literal open; what the parameters need is that no name has a quote in it, for
such a name could go on into the value.
-/

namespace QueryCriteria

open Sql Sql.Fragment

/-- Texts, uuids, dates and timestamps, which SQL writes in quotes. -/
def Value.Quoted : Value → Prop
  | text _ | uuid _ | date _ | timestamp _ => True
  | int _ | float _ | bool _ => False

theorem Value.Quoted.sql_eq {v : Value} (h : v.Quoted) :
    v.sql.toList = Text.enclose '\'' v.plain.toList := by
  have hquoted : ∀ s, (Value.quoted s).toList = Text.enclose '\'' s.toList := fun s =>
    String.toList_ofList
  cases v with
  | int _ | float _ | bool _ => exact h.elim
  | text _ | uuid _ | date _ | timestamp _ => exact hquoted _

namespace Sql.Fragment

/-! ## Quoted text as the scanner sees it -/

/-- Inside of a literal doubled quotes leave it open. -/
theorem quotedAfter_double (s : List Char) : quotedAfter true (Text.double '\'' s) = true := by
  induction s with
  | nil => rfl
  | cons c s ih =>
    by_cases hc : c = '\''
    · rw [Text.double, if_pos hc]
      exact ih
    · rw [Text.double, if_neg hc, quotedAfter, if_neg hc]
      exact ih

theorem quotedAfter_enclose (s : List Char) : quotedAfter false (Text.enclose '\'' s) = false := by
  show quotedAfter true (Text.double '\'' s ++ ['\'']) = false
  rw [quotedAfter_append, quotedAfter_double]
  rfl

/-- The literal that a doubled quote closes is opened again before the next character. -/
theorem inert_double (s : List Char) : Inert true (Text.double '\'' s) := by
  induction s with
  | nil => exact .nil true
  | cons c s ih =>
    by_cases hc : c = '\''
    · rw [Text.double, if_pos hc]
      exact .char (.inl rfl) (.char (.inr (by decide)) ih)
    · rw [Text.double, if_neg hc]
      refine .char (.inl rfl) ?_
      rw [if_neg hc]
      exact ih

theorem inert_enclose (s : List Char) : Inert false (Text.enclose '\'' s) := by
  refine .char (.inr (by decide)) (inert_append (inert_double s) ?_)
  exact inert_of_not_mem _ (by decide)

/-- A quote is a boundary if no parameter's name has one in it. -/
theorem boundary_quote {ps : List Parameter} (hps : ∀ p ∈ ps, '\'' ∉ p.name.toList)
    (t : List Char) : Boundary ps ('\'' :: t) := by
  intro c hc
  obtain rfl := Option.some.inj hc
  exact ⟨by decide, by decide, by decide, hps⟩

/-- A quoted text is copied, and the text behind it is scanned like one of its own. -/
theorem pieces_enclose {ps : List Parameter} (hps : ∀ p ∈ ps, '\'' ∉ p.name.toList)
    {a : List Char} (ha : a.count '\'' % 2 = 0) (s b : List Char) :
    pieces ps (a ++ (Text.enclose '\'' s ++ b)) =
      pieces ps a ++ ((Text.enclose '\'' s).map .plain ++ pieces ps b) := by
  have hquote := boundary_quote hps (Text.double '\'' s ++ ['\''] ++ b)
  have hbefore := hquote.piecesFrom_append_of_quoteless hps false a
  rw [quotedAfter_eq, if_pos ha] at hbefore
  have hvalue := piecesFrom_inert ps (inert_enclose s) b
  rw [quotedAfter_enclose] at hvalue
  unfold pieces
  rw [← hvalue]
  exact hbefore

end Sql.Fragment

/-! ## The main statement -/

namespace Sql.Writer

/-- Text that is written character by character. -/
theorem putAll_texts (w : Writer) (s : List Char) :
    w.putAll (s.map fun c => .text [c]) = w.push s := by
  induction s generalizing w with
  | nil => simp [putAll, push]
  | cons c s ih =>
    have hstep := ih (w.push [c])
    rw [push_push] at hstep
    exact hstep

end Sql.Writer

open Sql.Writer in
/-- A quoted value in a fragment is copied, whatever is in it. For whoever writes the fragment, with
anything written, bound or failed before, this comes to the same as to scan the text before the
value, to copy the value and to scan the text behind it; as expressions of a query the three have
one outcome; and the value is read back from between its quotes. -/
theorem Value.sql_inert {v : Value} (hv : v.Quoted) {w : Writer}
    (hnames : ∀ p ∈ w.named, '\'' ∉ p.name.toList) {a : String}
    (ha : a.toList.count '\'' % 2 = 0) (b : String) :
    w.scan false (a ++ v.sql ++ b).toList =
        ((w.scan false a.toList).push v.sql.toList).scan false b.toList ∧
      (∀ d, render d ((Expr.fragment (a ++ v.sql ++ b)).tokens w.named) =
        render d ((Expr.fragment a).tokens w.named ++ (Expr.verbatim v.sql).tokens w.named
          ++ (Expr.fragment b).tokens w.named)) ∧
      Text.readEnclosed '\'' v.sql.toList = some (v.plain.toList, []) := by
  have hpieces : pieces w.named (a ++ v.sql ++ b).toList =
      pieces w.named a.toList ++ (v.sql.toList.map .plain ++ pieces w.named b.toList) := by
    rw [String.toList_append, String.toList_append, List.append_assoc, hv.sql_eq]
    exact pieces_enclose hnames ha _ _
  have hwrite : ∀ u : Writer,
      u.putAll (Fragment.tokens w.named (a ++ v.sql ++ b)) =
        ((u.putAll (Fragment.tokens w.named a)).push v.sql.toList).putAll
          (Fragment.tokens w.named b) := by
    intro u
    unfold Fragment.tokens
    rw [hpieces, List.flatMap_append, List.flatMap_append, putAll_append, putAll_append,
      tokens_plain, putAll_texts]
  refine ⟨?_, fun d => ?_, ?_⟩
  · have hnamed : ((w.putAll (Fragment.tokens w.named a)).push v.sql.toList).named = w.named :=
      named_putAll w _
    have hscan := scan_eq false b.toList ((w.putAll (Fragment.tokens w.named a)).push v.sql.toList)
    rw [hnamed] at hscan
    rw [scan_eq false (a ++ v.sql ++ b).toList w, scan_eq false a.toList w]
    exact (hwrite w).trans hscan.symm
  · rw [← finish_putAll d w.named, ← finish_putAll d w.named, putAll_append, putAll_append]
    exact congrArg finish (hwrite _)
  · rw [hv.sql_eq]
    have hread := @Text.readEnclosed_enclose '\'' v.plain.toList [] (by decide)
    rwa [List.append_nil] at hread

/-- A note that holds quotes and the name of a parameter, between two placeholders of that name. -/
theorem Value.sql_inert_note :
    let note : Value := .text "it's ':day' o'clock"
    let w : Writer := { dialect := .postgres, named := [⟨"day", .scalar (.text "Mon"), none⟩] }
    let a := "day = :day AND place <> 'a:day' AND note = "
    note.Quoted ∧ (∀ p ∈ w.named, '\'' ∉ p.name.toList) ∧ a.toList.count '\'' % 2 = 0 ∧
      note.sql = "'it''s '':day'' o''clock'" ∧
      render .postgres ((Expr.fragment (a ++ note.sql ++ "::text OR due < :day")).tokens w.named) =
        .ok ⟨"day = $1 AND place <> 'a:day' AND note = 'it''s '':day'' o''clock'::text OR due < $2",
          [.text "Mon", .text "Mon"]⟩ := by
  intro note w a
  have hquoted : note.Quoted := trivial
  have hnames : ∀ p ∈ w.named, '\'' ∉ p.name.toList := by decide
  have ha : a.toList.count '\'' % 2 = 0 := by decide
  obtain ⟨-, hrender, -⟩ := Value.sql_inert hquoted hnames ha "::text OR due < :day"
  refine ⟨hquoted, hnames, ha, by decide, ?_⟩
  rw [hrender .postgres]
  decide +kernel

end QueryCriteria
