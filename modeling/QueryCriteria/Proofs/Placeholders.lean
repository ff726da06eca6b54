import QueryCriteria.Proofs.WellFormed
import QueryCriteria.Proofs.Writing

/-!
Placeholders and positional parameters line up.

A finished text does not say where it came from, so its placeholders are read out of it: wherever
`$` and digits stand, with all the digits that follow, or in MySQL wherever `?` stands
(`Dialect.placeholders`). The text of a user may hold such characters too; if it does not, what is
read are the placeholders of the bound values, in order, each where its value was bound
(`Select.placeholders_in_step`).

`Orderly` is what a sequence of tokens needs for that. Its copied text and its names hold no sigil,
which they have from the query; and behind no slot stands a digit, which would make another number
of a `$k`. Between the parts of a query stand words that begin with a blank or a sign
(`Separates`), so the second is a matter of one fragment, and there a placeholder ends where its
name does: the name of a parameter is not found where a letter, a digit or an underscore goes on
with it (`unnumbered_of_reference?`).
-/

namespace QueryCriteria.Sql

/-! ## Reading placeholders -/

namespace Dialect

/-- The character that a placeholder begins with. -/
def sigil : Dialect → Char
  | postgres => '$'
  | mysql => '?'

/-- The placeholder at the start of a text. -/
def placeholder? (d : Dialect) (s : List Char) : Option (List Char) :=
  match d, s with
  | postgres, '$' :: s =>
    let digits := s.takeWhile Char.isDigit
    if digits.isEmpty then none else some ('$' :: digits)
  | mysql, '?' :: _ => some ['?']
  | _, _ => none

/-- The placeholders of a text and their places in it, when so many characters stand before it. -/
def placeholdersFrom (d : Dialect) (before : Nat) : List Char → List (Nat × List Char)
  | [] => []
  | c :: s =>
    (d.placeholder? (c :: s)).toList.map (before, ·) ++ placeholdersFrom d (before + 1) s

/-- The placeholders of a text and their places in it, from left to right. -/
def placeholders (d : Dialect) (s : List Char) : List (Nat × List Char) := d.placeholdersFrom 0 s

end Dialect

/-- The text does not begin with a digit. -/
def Unnumbered (s : List Char) : Prop := s.head?.any Char.isDigit = false

theorem unnumbered_append {s t : List Char} (hs : Unnumbered s) (ht : Unnumbered t) :
    Unnumbered (s ++ t) := by
  cases s with
  | nil => exact ht
  | cons c s => exact hs

namespace Dialect

theorem placeholder?_eq_none {d : Dialect} {c : Char} (h : d.sigil ≠ c) (s : List Char) :
    d.placeholder? (c :: s) = none := by
  unfold placeholder?
  split
  · rename_i he
    exact absurd (List.cons.inj he).1.symm h
  · rename_i he
    exact absurd (List.cons.inj he).1.symm h
  · rfl

/-- Text without the sigil is passed over. -/
theorem placeholdersFrom_append {d : Dialect} {s : List Char} (h : d.sigil ∉ s) (before : Nat)
    (t : List Char) :
    d.placeholdersFrom before (s ++ t) = d.placeholdersFrom (before + s.length) t := by
  induction s generalizing before with
  | nil => rfl
  | cons c s ih =>
    rw [List.mem_cons, not_or] at h
    have hplace : before + 1 + s.length = before + (c :: s).length := by
      rw [List.length_cons]
      omega
    rw [List.cons_append, placeholdersFrom, placeholder?_eq_none h.1, ih h.2, hplace]
    rfl

/-- A placeholder is read to its end, unless a digit goes on with it. -/
theorem placeholdersFrom_placeholder (d : Dialect) (before k : Nat) {t : List Char}
    (ht : Unnumbered t) :
    d.placeholdersFrom before (d.placeholder k ++ t) =
      (before, d.placeholder k) ::
        d.placeholdersFrom (before + (d.placeholder k).length) t := by
  cases d with
  | mysql => rfl
  | postgres =>
    have hdigits : ∀ c ∈ Nat.toDigits 10 (k + 1), c.isDigit = true := fun c hc =>
      Nat.isDigit_of_mem_toDigits (by decide) (by decide) hc
    have hstop : t.takeWhile Char.isDigit = [] := by
      cases t with
      | nil => rfl
      | cons c t =>
        have hc : c.isDigit = false := ht
        rw [List.takeWhile_cons, hc]
        rfl
    have hread : (Nat.toDigits 10 (k + 1) ++ t).takeWhile Char.isDigit =
        Nat.toDigits 10 (k + 1) := by
      rw [List.takeWhile_append_of_pos hdigits, hstop, List.append_nil]
    have hsigil : sigil postgres ∉ Nat.toDigits 10 (k + 1) := fun h => nomatch hdigits _ h
    have hplace : before + 1 + (Nat.toDigits 10 (k + 1)).length =
        before + ('$' :: Nat.toDigits 10 (k + 1)).length := by
      rw [List.length_cons]
      omega
    have hnonempty : (Nat.toDigits 10 (k + 1)).isEmpty = false := by
      rw [List.isEmpty_eq_false_iff]
      exact Nat.toDigits_ne_nil
    show placeholdersFrom postgres before ('$' :: (Nat.toDigits 10 (k + 1) ++ t)) = _
    rw [placeholdersFrom, placeholdersFrom_append hsigil, hplace, placeholder?, hread]
    simp only [hnonempty]
    rfl

/-- In MySQL every question mark is read. -/
theorem length_placeholdersFrom_mysql (before : Nat) (s : List Char) :
    (placeholdersFrom mysql before s).length = s.count '?' := by
  induction s generalizing before with
  | nil => rfl
  | cons c s ih =>
    rw [placeholdersFrom, List.length_append, ih, List.count_cons]
    by_cases hc : c = '?'
    · subst hc
      exact Nat.add_comm 1 _
    · rw [placeholder?_eq_none (Ne.symm hc), if_neg (by simpa using hc)]
      exact Nat.zero_add _

end Dialect

/-! ## Sequences whose slots can be told -/

/-- What is copied holds no sigil, and what follows a slot does not begin with a digit. -/
def Orderly (d : Dialect) : List Token → Prop
  | [] => True
  | .slot _ :: ts => (∀ n, Unnumbered (printFrom d n ts)) ∧ Orderly d ts
  | t :: ts => d.sigil ∉ t.print d 0 ∧ Orderly d ts

/-- One token: a slot has a placeholder, all else is passed over. -/
theorem placeholdersFrom_cons {d : Dialect} {t : Token} {ts : List Token}
    (h : Orderly d (t :: ts)) (before n : Nat) :
    d.placeholdersFrom before (printFrom d n (t :: ts)) =
      (slotValues [t]).map (fun _ => (before, d.placeholder n)) ++
        d.placeholdersFrom (before + (t.print d n).length)
          (printFrom d (n + (slotValues [t]).length) ts) := by
  cases t with
  | slot v => exact d.placeholdersFrom_placeholder before n (h.1 (n + 1))
  | _ => exact Dialect.placeholdersFrom_append h.1 before _

theorem Orderly.tail {d : Dialect} {t : Token} {ts : List Token} (h : Orderly d (t :: ts)) :
    Orderly d ts := by
  cases t <;> exact h.2

/-- The placeholders of an orderly sequence are those of its slots. -/
theorem Orderly.placeholders {d : Dialect} {ts : List Token} (h : Orderly d ts) (before n : Nat) :
    (d.placeholdersFrom before (printFrom d n ts)).map Prod.snd =
      (List.range (slotValues ts).length).map fun k => d.placeholder (n + k) := by
  induction ts generalizing before n with
  | nil => rfl
  | cons t ts ih =>
    have hsplit : slotValues (t :: ts) = slotValues [t] ++ slotValues ts := slotValues_append [t] ts
    rw [placeholdersFrom_cons h, List.map_append, ih h.tail, hsplit]
    cases t with
    | slot v =>
      have hnext (k : Nat) : n + 1 + k = n + (k + 1) := by omega
      show d.placeholder n :: (List.range _).map (fun k => d.placeholder (n + 1 + k)) =
        (List.range ([v] ++ slotValues ts).length).map _
      rw [List.singleton_append, List.length_cons, List.range_succ_eq_map, List.map_cons,
        List.map_map]
      simp only [hnext]
      rfl
    | _ => rfl

/-- The placeholder of a slot stands behind the text before the slot. -/
theorem Orderly.placeholder_slot {d : Dialect} {ts us : List Token} {v : Value}
    (h : Orderly d (ts ++ .slot v :: us)) (before n : Nat) :
    (d.placeholdersFrom before (printFrom d n (ts ++ .slot v :: us)))[(slotValues ts).length]? =
      some (before + (printFrom d n ts).length, d.placeholder (n + (slotValues ts).length)) := by
  induction ts generalizing before n with
  | nil =>
    rw [List.nil_append, placeholdersFrom_cons h]
    rfl
  | cons t ts ih =>
    have hsplit : slotValues (t :: ts) = slotValues [t] ++ slotValues ts := slotValues_append [t] ts
    have hlength : (slotValues (t :: ts)).length =
        ((slotValues [t]).map fun _ => (before, d.placeholder n)).length +
          (slotValues ts).length := by
      rw [hsplit, List.length_append, List.length_map]
    rw [List.cons_append] at h ⊢
    rw [placeholdersFrom_cons h, hlength, List.getElem?_append_right (Nat.le_add_right _ _),
      Nat.add_sub_cancel_left, ih h.tail, List.length_map, printFrom, List.length_append]
    simp only [Nat.add_assoc]

/-! ## Orderly parts -/

/-- An orderly sequence that may follow a slot. -/
structure MayFollow (d : Dialect) (ts : List Token) : Prop where
  orderly : Orderly d ts
  unnumbered : ∀ n, Unnumbered (printFrom d n ts)

variable {d : Dialect}

theorem MayFollow.nil : MayFollow d [] := ⟨trivial, fun _ => rfl⟩

theorem unnumbered_printFrom_append {n : Nat} {ts us : List Token}
    (hts : Unnumbered (printFrom d n ts)) (hus : ∀ n, Unnumbered (printFrom d n us)) :
    Unnumbered (printFrom d n (ts ++ us)) := by
  rw [printFrom_append]
  exact unnumbered_append hts (hus _)

theorem Orderly.append {ts us : List Token} (hts : Orderly d ts) (hus : MayFollow d us) :
    Orderly d (ts ++ us) := by
  induction ts with
  | nil => exact hus.orderly
  | cons t ts ih =>
    have ih := ih hts.tail
    cases t with
    | slot v => exact ⟨fun n => unnumbered_printFrom_append (hts.1 n) hus.unnumbered, ih⟩
    | _ => exact ⟨hts.1, ih⟩

theorem MayFollow.append {ts us : List Token} (hts : MayFollow d ts) (hus : MayFollow d us) :
    MayFollow d (ts ++ us) :=
  ⟨hts.orderly.append hus, fun n => unnumbered_printFrom_append (hts.unnumbered n) hus.unnumbered⟩

/-- A text that may stand behind any part: no sigil is in it, and it begins with something else than
a digit. -/
def Separates (w : List Char) : Prop := '$' ∉ w ∧ '?' ∉ w ∧ w ≠ [] ∧ Unnumbered w

instance (w : List Char) : Decidable (Separates w) :=
  inferInstanceAs (Decidable (_ ∧ _ ∧ _ ∧ _ = _))

theorem Separates.sigil_not_mem {w : List Char} (h : Separates w) : d.sigil ∉ w := by
  cases d with
  | postgres => exact h.1
  | mysql => exact h.2.1

theorem Separates.mayFollow {w : List Char} (hw : Separates w) {ts : List Token}
    (h : Orderly d ts) : MayFollow d (.text w :: ts) := by
  refine ⟨⟨hw.sigil_not_mem, h⟩, fun n => ?_⟩
  obtain ⟨-, -, hne, hw⟩ := hw
  cases w with
  | nil => exact absurd rfl hne
  | cons c w => exact hw

/-- Parts with a text before each. -/
theorem mayFollow_flatMap {w : List Char} (hw : Separates w) {parts : List (List Token)}
    (h : ∀ p ∈ parts, Orderly d p) : MayFollow d (parts.flatMap (.text w :: ·)) := by
  induction parts with
  | nil => exact .nil
  | cons p parts ih =>
    obtain ⟨hp, hparts⟩ := List.forall_mem_cons.1 h
    exact (hw.mayFollow hp).append (ih hparts)

theorem orderly_joined {w : List Char} (hw : Separates w) {parts : List (List Token)}
    (h : ∀ p ∈ parts, Orderly d p) : Orderly d (joined (.text w) parts) := by
  cases parts with
  | nil => trivial
  | cons p parts =>
    obtain ⟨hp, hparts⟩ := List.forall_mem_cons.1 h
    rw [joined_cons]
    exact hp.append (mayFollow_flatMap hw hparts)

theorem Dialect.unnumbered_placeholder (d : Dialect) (k : Nat) : Unnumbered (d.placeholder k) := by
  cases d <;> rfl

theorem mayFollow_slot (v : Value) : MayFollow d [.slot v] := by
  refine ⟨⟨fun _ => rfl, trivial⟩, fun n => ?_⟩
  exact unnumbered_append (d.unnumbered_placeholder n) rfl

theorem mayFollow_name {s : List Char} (h : d.sigil ∉ s) {ts : List Token} (hts : Orderly d ts) :
    MayFollow d (.name s :: ts) := by
  have hmark : d.sigil ≠ d.mark := by cases d <;> decide
  have hquote : d.sigil ∉ d.quote s := fun hmem =>
    (Text.mem_enclose hmem).elim hmark h
  refine ⟨⟨hquote, hts⟩, fun n => ?_⟩
  cases d <;> rfl

/-! ## A fragment -/

namespace Fragment

theorem isNameChar_of_isDigit {c : Char} (h : c.isDigit = true) : isNameChar c = true := by
  have hascii : c.toNat < 0x80 := by
    have hle : c.toNat ≤ '9'.toNat := (Char.isDigit_iff_toNat.1 h).2
    exact Nat.lt_of_le_of_lt hle (by decide)
  unfold isNameChar
  rw [Text.isAlphanumeric_ascii hascii, Char.isAlphanum, h, Bool.or_true, Bool.true_or]

/-- Behind the name of a parameter stands no digit. -/
theorem unnumbered_of_reference? {ps : List Parameter} {s : List Char} {p : Parameter}
    (h : reference? ps s = some p) : Unnumbered (s.drop p.name.length) := by
  have hstands := standsAt_of_reference? h
  simp only [standsAt, Bool.and_eq_true, Bool.not_eq_true', String.length_toList] at hstands
  unfold Unnumbered
  cases hs : s.drop p.name.length with
  | nil => rfl
  | cons c t =>
    have hc : isNameChar c = false := by simpa [hs] using hstands.2
    cases hdigit : c.isDigit with
    | false => exact hdigit
    | true =>
      rw [isNameChar_of_isDigit hdigit] at hc
      cases hc

theorem unnumbered_strayName (s : List Char) : Unnumbered (s.drop (strayName s).length) := by
  induction s with
  | nil => rfl
  | cons c s ih =>
    unfold strayName at ih ⊢
    rw [List.takeWhile_cons]
    split
    · exact ih
    · rename_i hc
      cases hdigit : c.isDigit with
      | false => exact hdigit
      | true => simp [isNameChar_of_isDigit hdigit] at hc

theorem mayFollow_referenceTokens (p : Parameter) : MayFollow d (referenceTokens p) := by
  unfold referenceTokens
  cases p.value with
  | scalar v => exact mayFollow_slot v
  | list vs =>
    cases p.type with
    | none => exact ⟨⟨List.not_mem_nil, trivial⟩, fun _ => rfl⟩
    | some t =>
      cases t
      cases vs with
      | nil => exact Separates.mayFollow (by decide) trivial
      | cons v vs =>
        have hcomma : Separates ", ".toList := by decide
        have hslots : ∀ p ∈ vs.map fun v => [Token.slot (.text v.plain)], Orderly d p :=
          List.forall_mem_map.2 fun v _ => (mayFollow_slot _).orderly
        have hjoined := (mayFollow_slot (.text v.plain)).append (mayFollow_flatMap hcomma hslots)
        rw [← joined_cons] at hjoined
        exact hjoined

/-- What the pieces of a text make begins with no digit, if the text does not. -/
theorem unnumbered_pieces {ps : List Parameter} {quoted : Bool} {pass : Nat} {s : List Char}
    (h : Unnumbered (s.drop pass)) (n : Nat) :
    Unnumbered (printFrom d n ((piecesFrom ps quoted pass s).flatMap Piece.tokens)) := by
  fun_induction piecesFrom ps quoted pass s generalizing n with
  | case1 => rfl
  | case2 quoted pass c s ih => exact ih h n
  | case3 quoted c s hplain ih => exact h
  | case4 quoted c s hcolon hcast ih => rfl
  | case5 quoted c s hcolon hcast p hp ih =>
    exact unnumbered_printFrom_append ((mayFollow_referenceTokens p).unnumbered n)
      (ih (unnumbered_of_reference? hp))
  | case6 quoted c s hcolon hcast hnone hempty ih => rfl
  | case7 quoted c s hcolon hcast hnone hname ih => exact ih (unnumbered_strayName s) n

/-- What the pieces of a text without a sigil make is orderly. -/
theorem orderly_pieces {ps : List Parameter} {quoted : Bool} {pass : Nat} {s : List Char}
    (h : d.sigil ∉ s) : Orderly d ((piecesFrom ps quoted pass s).flatMap Piece.tokens) := by
  fun_induction piecesFrom ps quoted pass s with
  | case1 => trivial
  | case2 quoted pass c s ih => exact ih fun hmem => h (List.mem_cons_of_mem c hmem)
  | case3 quoted c s hplain ih =>
    rw [List.mem_cons, not_or] at h
    exact ⟨fun hmem => h.1 (List.mem_singleton.1 hmem), ih h.2⟩
  | case4 quoted c s hcolon hcast ih =>
    have hs := fun hmem => h (List.mem_cons_of_mem c hmem)
    have hsigil : d.sigil ∉ [':'] := by cases d <;> decide
    exact ⟨hsigil, hsigil, ih hs⟩
  | case5 quoted c s hcolon hcast p hp ih =>
    have hs := fun hmem => h (List.mem_cons_of_mem c hmem)
    exact (mayFollow_referenceTokens p).orderly.append
      ⟨ih hs, unnumbered_pieces (unnumbered_of_reference? hp)⟩
  | case6 quoted c s hcolon hcast hnone hempty ih =>
    have hs := fun hmem => h (List.mem_cons_of_mem c hmem)
    have hsigil : d.sigil ∉ [':'] := by cases d <;> decide
    exact ⟨hsigil, ih hs⟩
  | case7 quoted c s hcolon hcast hnone hname ih =>
    exact ⟨List.not_mem_nil, ih fun hmem => h (List.mem_cons_of_mem c hmem)⟩

end Fragment

/-! ## A query -/

/-- The texts of an expression. -/
def Expr.texts : Expr → List String
  | name q n => q.toList ++ [n]
  | verbatim s => [s]
  | fragment s => [s]

/-- The schema, the table and the name it goes by. -/
def FromClause.texts (f : FromClause) : List String :=
  f.table.schema.toList ++ f.table.name :: f.calledAs.toList

/-- All texts of a query that are not its parameters. -/
def Select.texts (q : Select) : List String :=
  q.columns.flatMap Expr.texts ++ q.source.toList.flatMap FromClause.texts
    ++ q.predicates.flatMap Expr.texts ++ q.sorting.flatMap fun k => k.expr.texts

theorem mayFollow_qualified {before : Option String} {name : String}
    (hbefore : ∀ s ∈ before, d.sigil ∉ s.toList) (hname : d.sigil ∉ name.toList) :
    MayFollow d (qualified before name) := by
  have hlast : MayFollow d [.name name.toList] := mayFollow_name hname trivial
  cases before with
  | none => exact hlast
  | some q =>
    have hdot : Separates ".".toList := by decide
    exact mayFollow_name (hbefore q rfl) (hdot.mayFollow hlast.orderly).orderly

theorem Expr.orderly_tokens (ps : List Parameter) {e : Expr}
    (h : ∀ s ∈ e.texts, d.sigil ∉ s.toList) : Orderly d (e.tokens ps) := by
  cases e with
  | name q n =>
    have hq : ∀ s ∈ q, d.sigil ∉ s.toList := fun s hs =>
      h s (List.mem_append_left _ (Option.mem_toList.2 hs))
    have hn : d.sigil ∉ n.toList := h n (List.mem_append_right _ (List.mem_singleton_self n))
    exact (mayFollow_qualified hq hn).orderly
  | verbatim s => exact ⟨h s (List.mem_singleton_self s), trivial⟩
  | fragment s => exact Fragment.orderly_pieces (h s (List.mem_singleton_self s))

theorem FromClause.mayFollow_tokens {f : FromClause} (h : ∀ s ∈ f.texts, d.sigil ∉ s.toList) :
    MayFollow d f.tokens := by
  have hschema : ∀ s ∈ f.table.schema, d.sigil ∉ s.toList := fun s hs =>
    h s (List.mem_append_left _ (Option.mem_toList.2 hs))
  have hname : d.sigil ∉ f.table.name.toList :=
    h _ (List.mem_append_right _ (List.mem_cons_self ..))
  have hcalled : ∀ s ∈ f.calledAs, d.sigil ∉ s.toList := fun s hs =>
    h s (List.mem_append_right _ (List.mem_cons_of_mem _ (Option.mem_toList.2 hs)))
  have hfrom : Separates "FROM ".toList := by decide
  refine (hfrom.mayFollow (mayFollow_qualified hschema hname).orderly).append ?_
  cases ha : f.calledAs with
  | none => exact .nil
  | some a =>
    have has : Separates " AS ".toList := by decide
    have hlast : MayFollow d [.name a.toList] := mayFollow_name (hcalled a ha) trivial
    exact has.mayFollow hlast.orderly

theorem SortKey.orderly_tokens (ps : List Parameter) {k : SortKey}
    (h : ∀ s ∈ k.expr.texts, d.sigil ∉ s.toList) : Orderly d (k.tokens ps) := by
  refine (k.expr.orderly_tokens ps h).append ?_
  cases k.direction with
  | none => exact .nil
  | some direction =>
    have hblank : Separates " ".toList := by decide
    have hdirection : Separates direction.sql.toList := by cases direction <;> decide
    have hlast : MayFollow d [.text direction.sql.toList] := hdirection.mayFollow trivial
    exact hblank.mayFollow hlast.orderly

theorem mayFollow_whereTokens {parts : List (List Token)} (h : ∀ p ∈ parts, Orderly d p) :
    MayFollow d (whereTokens parts) := by
  have hwhere : Separates " WHERE ".toList := by decide
  match parts with
  | [] => exact .nil
  | [p] => exact hwhere.mayFollow (h p (List.mem_singleton_self p))
  | p :: q :: rest =>
    have hand : Separates " AND ".toList := by decide
    have hopening : Separates "(".toList := by decide
    have hclosing : Separates ")".toList := by decide
    have hgroup : ∀ part ∈ p :: q :: rest, Orderly d (word "(" :: part ++ [word ")"]) :=
      fun part hpart => (hopening.mayFollow (h part hpart)).orderly.append (hclosing.mayFollow trivial)
    exact hwhere.mayFollow (orderly_joined hand (List.forall_mem_map.2 hgroup))

theorem Dialect.sigil_not_mem_clause {word : String} (h : d.sigil ∉ word.toList)
    (n : Option UInt64) : d.sigil ∉ clause word n := by
  cases n with
  | none => exact List.not_mem_nil
  | some n =>
    have hdigits : d.sigil ∉ Nat.toDigits 10 n.toNat := by
      intro hmem
      have := Nat.isDigit_of_mem_toDigits (by decide) (by decide) hmem
      cases d <;> cases this
    have hblank : d.sigil ≠ ' ' := by cases d <;> decide
    simp [clause, h, hdigits, hblank]

theorem mayFollow_window (limit offset : Option UInt64) : MayFollow d [.window limit offset] := by
  have hunnumbered (word : String) (n : Option UInt64) : Unnumbered (Dialect.clause word n) := by
    cases n <;> rfl
  have hsigil : d.sigil ∉ d.window limit offset := by
    have hlimit : d.sigil ∉ "LIMIT".toList := by cases d <;> decide
    have hoffset : d.sigil ∉ "OFFSET".toList := by cases d <;> decide
    unfold Dialect.window
    rw [List.mem_append, not_or]
    exact ⟨Dialect.sigil_not_mem_clause hlimit _, Dialect.sigil_not_mem_clause hoffset _⟩
  refine ⟨⟨hsigil, trivial⟩, fun n => ?_⟩
  exact unnumbered_append (unnumbered_append (hunnumbered _ _) (hunnumbered _ _)) rfl

theorem mayFollow_sortingTokens (ps : List Parameter) {ks : List SortKey}
    (h : ∀ k ∈ ks, ∀ s ∈ k.expr.texts, d.sigil ∉ s.toList) : MayFollow d (sortingTokens ps ks) := by
  have horder : Separates " ORDER BY ".toList := by decide
  have hcomma : Separates ", ".toList := by decide
  unfold sortingTokens
  split
  · exact .nil
  · have hkeys : ∀ p ∈ ks.map (SortKey.tokens ps), Orderly d p :=
      List.forall_mem_map.2 fun k hk => k.orderly_tokens ps (h k hk)
    exact horder.mayFollow (orderly_joined hcomma hkeys)

namespace Select

theorem orderly_opening {q : Select} (hcolumns : ∀ e ∈ q.columns, ∀ s ∈ e.texts, d.sigil ∉ s.toList)
    (hsource : ∀ f ∈ q.source, ∀ s ∈ f.texts, d.sigil ∉ s.toList) : Orderly d q.opening := by
  have hselect : Separates "SELECT ".toList := by decide
  have hcomma : Separates ", ".toList := by decide
  have hblank : Separates " ".toList := by decide
  have hparts : ∀ p ∈ q.columns.map (Expr.tokens q.parameters), Orderly d p :=
    List.forall_mem_map.2 fun e he => e.orderly_tokens q.parameters (hcolumns e he)
  unfold opening
  refine (hselect.mayFollow (orderly_joined hcomma hparts)).orderly.append ?_
  cases hs : q.source with
  | none => exact .nil
  | some f => exact hblank.mayFollow (FromClause.mayFollow_tokens (hsource f hs)).orderly

theorem orderly_tokens {q : Select} (h : ∀ s ∈ q.texts, d.sigil ∉ s.toList) :
    Orderly d q.tokens := by
  simp only [texts, List.forall_mem_append, List.forall_mem_flatMap, Option.mem_toList] at h
  obtain ⟨⟨⟨hcolumns, hsource⟩, hpredicates⟩, hsorting⟩ := h
  have hparts : ∀ p ∈ q.predicates.map (Expr.tokens q.parameters), Orderly d p :=
    List.forall_mem_map.2 fun e he => e.orderly_tokens q.parameters (hpredicates e he)
  have hclosing : MayFollow d q.closing :=
    (mayFollow_sortingTokens q.parameters hsorting).append (mayFollow_window q.limit q.offset)
  rw [tokens_eq]
  exact ((orderly_opening hcolumns hsource).append (mayFollow_whereTokens hparts)).append hclosing

end Select

/-- A value that is bound is bound at a slot. -/
theorem exists_slot {ts : List Token} {k : Nat} {v : Value} (h : (slotValues ts)[k]? = some v) :
    ∃ before after, ts = before ++ .slot v :: after ∧ (slotValues before).length = k := by
  induction ts generalizing k with
  | nil => cases h
  | cons t ts ih =>
    cases ht : t.value? with
    | none =>
      rw [slotValues, List.filterMap_cons_none ht] at h
      obtain ⟨before, after, rfl, hk⟩ := ih h
      refine ⟨t :: before, after, rfl, ?_⟩
      rw [slotValues, List.filterMap_cons_none ht]
      exact hk
    | some u =>
      obtain rfl : t = .slot u := by
        cases t <;> cases ht
        rfl
      cases k with
      | zero =>
        obtain rfl : u = v := Option.some.inj h
        exact ⟨[], ts, rfl, rfl⟩
      | succ k =>
        obtain ⟨before, after, rfl, hk⟩ := ih (k := k) h
        exact ⟨.slot u :: before, after, rfl, congrArg (· + 1) hk⟩

/-- In a query whose own texts hold no `$`, the numbers behind `$` count the parameters from 1; in
one whose texts hold no `?`, there are as many `?` as parameters. In every query the placeholder of
a parameter stands behind all that is written before the parameter is bound; without the sigil in
the texts of the query it is also the one that is read there. -/
theorem Select.placeholders_in_step {q : Select} {r : Query} (hr : q.render d = .ok r) :
    (d = .postgres → (∀ s ∈ q.texts, '$' ∉ s.toList) →
      (Dialect.postgres.placeholders r.sql.toList).map Prod.snd =
        (List.range r.parameters.length).map fun k => '$' :: Nat.toDigits 10 (k + 1)) ∧
    (d = .mysql → (∀ s ∈ q.texts, '?' ∉ s.toList) →
      r.sql.toList.count '?' = r.parameters.length) ∧
    ∀ k v, r.parameters[k]? = some v → ∃ before after,
      q.tokens = before ++ .slot v :: after ∧ (slotValues before).length = k ∧
      r.sql.toList = printFrom d 0 before ++ d.placeholder k ++ printFrom d (k + 1) after ∧
      ((∀ s ∈ q.texts, d.sigil ∉ s.toList) →
        (d.placeholders r.sql.toList)[k]? =
          some ((printFrom d 0 before).length, d.placeholder k)) := by
  obtain ⟨hsql, hparameters⟩ := render_eq_ok hr
  have hread (h : ∀ s ∈ q.texts, d.sigil ∉ s.toList) :
      (d.placeholders r.sql.toList).map Prod.snd =
        (List.range r.parameters.length).map d.placeholder := by
    rw [hsql, hparameters, Dialect.placeholders, (orderly_tokens h).placeholders]
    simp only [Nat.zero_add]
  refine ⟨?_, ?_, ?_⟩
  · rintro rfl h
    exact hread h
  · rintro rfl h
    have hlength := congrArg List.length (hread h)
    rw [List.length_map, List.length_map, List.length_range] at hlength
    rw [← hlength]
    exact (Dialect.length_placeholdersFrom_mysql 0 _).symm
  · intro k v hv
    rw [hparameters] at hv
    obtain ⟨before, after, htokens, hk⟩ := exists_slot hv
    refine ⟨before, after, htokens, hk, ?_, fun h => ?_⟩
    · rw [hsql, htokens, printFrom_append, Nat.zero_add, hk, List.append_assoc]
      rfl
    · have horderly := orderly_tokens h
      rw [htokens] at horderly
      have hplace := horderly.placeholder_slot 0 0
      rw [hk, Nat.zero_add, Nat.zero_add] at hplace
      rw [hsql, htokens]
      exact hplace

/-- Orders of a customer: one name stands twice, one placeholder right behind another one, one
before a cast, and one for a list. -/
def Select.lateOrders : Select where
  columns := [.name (some "o") "id", .fragment ":day::date - due"]
  source := some ⟨⟨some "shop", "orders"⟩, some "o"⟩
  predicates := [.fragment "due < :day AND who = :who:mark", .fragment "state IN (:states)"]
  sorting := [⟨.fragment "rank(:who)", some .desc⟩]
  offset := some 20
  parameters := [⟨"who", .scalar (.text "Ann"), none⟩, ⟨"mark", .scalar (.int 3), none⟩,
    ⟨"day", .scalar (.text "Mon"), none⟩,
    ⟨"states", .list [.text "open", .text "held"], some .stringArray⟩]

theorem Select.placeholders_in_step_lateOrders :
    ∃ pg my, lateOrders.render .postgres = .ok pg ∧ lateOrders.render .mysql = .ok my ∧
      (Dialect.postgres.placeholders pg.sql.toList).map Prod.snd =
        (List.range 7).map (fun k => '$' :: Nat.toDigits 10 (k + 1)) ∧
      my.sql.toList.count '?' = 7 ∧
      ∃ before after, lateOrders.tokens = before ++ .slot (.int 3) :: after ∧
        (Dialect.postgres.placeholders pg.sql.toList)[3]? =
          some ((printFrom .postgres 0 before).length, "$4".toList) := by
  have hpg : lateOrders.render .postgres =
      .ok ⟨"SELECT \"o\".\"id\", $1::date - due FROM \"shop\".\"orders\" AS \"o\""
          ++ " WHERE (due < $2 AND who = $3$4) AND (state IN ($5, $6))"
          ++ " ORDER BY rank($7) DESC OFFSET 20",
        [.text "Mon", .text "Mon", .text "Ann", .int 3, .text "open", .text "held",
          .text "Ann"]⟩ := by decide +kernel
  have hmy : lateOrders.render .mysql =
      .ok ⟨"SELECT `o`.`id`, ?::date - due FROM `shop`.`orders` AS `o`"
          ++ " WHERE (due < ? AND who = ??) AND (state IN (?, ?))"
          ++ " ORDER BY rank(?) DESC LIMIT 18446744073709551615 OFFSET 20",
        [.text "Mon", .text "Mon", .text "Ann", .int 3, .text "open", .text "held",
          .text "Ann"]⟩ := by decide +kernel
  have hdollar : ∀ s ∈ lateOrders.texts, '$' ∉ s.toList := by decide
  have hquestion : ∀ s ∈ lateOrders.texts, '?' ∉ s.toList := by decide
  obtain ⟨hnumbers, -, hplaces⟩ := placeholders_in_step hpg
  obtain ⟨-, hcount, -⟩ := placeholders_in_step hmy
  obtain ⟨before, after, htokens, -, -, hplace⟩ := hplaces 3 (.int 3) rfl
  exact ⟨_, _, hpg, hmy, hnumbers rfl hdollar, hcount rfl hquestion, before, after, htokens,
    hplace hdollar⟩

end QueryCriteria.Sql
