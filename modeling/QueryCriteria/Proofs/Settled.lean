import QueryCriteria.Proofs.Binding

/-!
Rendered text has no placeholder left in it.

A text is `Settled` if, outside of literals, every colon in it is one half of a cast or stands
before something that no name begins with. Without parameters the scanner copies such a text and
nothing else happens (`Settled.pieces`), so settled texts are those that need not be rendered again.

What the scanner leaves behind is settled (`settled_printFrom`). It keeps in step with a second pass
over its own output: a placeholder goes, together with any quotes in its name, and what takes its
place has neither quote nor colon in it (`dull_printFrom_referenceTokens`); casts come out as they
went in; and the one colon that is copied alone was copied because of the character behind it, which
is copied as well.
-/

namespace QueryCriteria.Sql.Fragment

/-! ## Settled text -/

/-- Outside of literals every colon in the text is one of a pair or begins no name. -/
inductive Settled : Bool → List Char → Prop where
  | nil (quoted : Bool) : Settled quoted []
  | char {quoted : Bool} {c : Char} {s : List Char} : quoted = true ∨ c ≠ ':' →
    Settled (if c = '\'' then !quoted else quoted) s → Settled quoted (c :: s)
  | cast {s : List Char} : Settled false s → Settled false (':' :: ':' :: s)
  | colon {s : List Char} : s.head? ≠ some ':' → strayName s = [] → Settled false s →
    Settled false (':' :: s)

/-- Behind inert text settled text stays so. -/
theorem Inert.settled {quoted : Bool} {s t : List Char} (h : Inert quoted s)
    (ht : Settled (quotedAfter quoted s) t) : Settled quoted (s ++ t) := by
  induction h with
  | nil quoted => exact ht
  | char hc _ ih => exact .char hc (ih ht)
  | cast _ ih => exact .cast (ih ht)

theorem Settled.pieces {quoted : Bool} {s : List Char} (h : Settled quoted s) :
    piecesFrom [] quoted 0 s = s.map .plain := by
  induction h with
  | nil quoted => rfl
  | char hc _ ih => rw [piecesFrom_char hc, ih, List.map_cons]
  | cast _ ih => rw [piecesFrom_cast, ih, List.map_cons, List.map_cons]
  | colon hcast hname _ ih => rw [piecesFrom_colon hcast rfl hname, ih, List.map_cons]

/-! ## What the scanner leaves behind -/

theorem dull_placeholder (d : Dialect) (k : Nat) : Dull (d.placeholder k) := by
  cases d with
  | mysql => exact (by decide : Dull ['?'])
  | postgres =>
    have hdigits : ∀ c ∈ Nat.toDigits 10 (k + 1), c.isDigit = true := fun c hc =>
      Nat.isDigit_of_mem_toDigits (by decide) (by decide) hc
    refine dull_append (s := ['$']).2 ⟨by decide, fun h => ?_, fun h => ?_⟩
    · exact absurd (hdigits _ h) (by decide)
    · exact absurd (hdigits _ h) (by decide)

theorem dull_printFrom {d : Dialect} {ts : List Token} (h : ∀ t ∈ ts, ∀ n, Dull (t.print d n))
    (n : Nat) : Dull (printFrom d n ts) := by
  induction ts generalizing n with
  | nil => exact (by decide : Dull [])
  | cons t ts ih =>
    exact dull_append.2
      ⟨h t (List.mem_cons_self ..) n, ih (fun u hu => h u (List.mem_cons_of_mem t hu)) _⟩

/-- In place of a placeholder stands text without quotes and colons. -/
theorem dull_printFrom_referenceTokens (d : Dialect) (n : Nat) (p : Parameter) :
    Dull (printFrom d n (referenceTokens p)) := by
  unfold referenceTokens
  cases p.value with
  | scalar v => exact dull_append.2 ⟨dull_placeholder d n, (by decide : Dull [])⟩
  | list vs =>
    cases p.type with
    | none => exact (by decide : Dull [])
    | some type =>
      cases type
      cases vs with
      | nil => exact (by decide : Dull "NULL".toList)
      | cons v vs =>
        refine dull_printFrom (fun t ht k => ?_) n
        rcases mem_joined ht with rfl | ⟨part, hpart, ht⟩
        · exact (by decide : Dull ", ".toList)
        · obtain ⟨v', -, rfl⟩ := List.mem_map.1 hpart
          rw [List.mem_singleton.1 ht]
          exact dull_placeholder d k

/-- A first character that is not a colon is copied. -/
theorem head?_printFrom (ps : List Parameter) (d : Dialect) (n : Nat) {s : List Char}
    (h : s.head? ≠ some ':') :
    (printFrom d n ((piecesFrom ps false 0 s).flatMap Piece.tokens)).head? = s.head? := by
  cases s with
  | nil => rfl
  | cons c s =>
    rw [piecesFrom_char (.inr fun hc => h (congrArg some hc))]
    rfl

/-- Whether a name begins is a question of the first character. -/
theorem strayName_eq_nil_iff {s : List Char} :
    strayName s = [] ↔ s.head?.any (fun c => isNameChar c || c == '.') = false := by
  cases s with
  | nil => exact ⟨fun _ => rfl, fun _ => rfl⟩
  | cons c s =>
    unfold strayName
    rw [List.takeWhile_cons, List.head?_cons, Option.any_some]
    cases isNameChar c || c == '.' <;> simp

theorem printFrom_plain (d : Dialect) (n : Nat) (c : Char) (xs : List Piece) :
    printFrom d n ((.plain c :: xs).flatMap Piece.tokens) =
      c :: printFrom d n (xs.flatMap Piece.tokens) := rfl

/-- Text with its placeholders replaced is settled. -/
theorem settled_printFrom (ps : List Parameter) (d : Dialect) (n : Nat) (quoted : Bool)
    (s : List Char) :
    Settled quoted (printFrom d n ((piecesFrom ps quoted 0 s).flatMap Piece.tokens)) := by
  induction quoted, s using piecewise ps generalizing n with
  | nil quoted => exact .nil quoted
  | char quoted c s hc ih =>
    rw [piecesFrom_char hc, printFrom_plain]
    exact .char hc (ih n)
  | cast s ih =>
    rw [piecesFrom_cast, printFrom_plain, printFrom_plain]
    exact .cast (ih n)
  | bound s p hcast hp ih =>
    obtain ⟨hquote, hcolon⟩ := dull_printFrom_referenceTokens d n p
    rw [piecesFrom_bound hcast hp, List.flatMap_cons, printFrom_append]
    refine (inert_of_not_mem false hcolon).settled ?_
    rw [quotedAfter_of_not_mem false hquote]
    exact ih _
  | unbound s hcast hnone hname ih =>
    rw [piecesFrom_unbound hcast hnone hname]
    exact ih n
  | colon s hcast hnone hempty ih =>
    rw [piecesFrom_colon hcast hnone hempty, printFrom_plain]
    have hhead := head?_printFrom ps d n hcast
    refine .colon ?_ ?_ (ih n)
    · rwa [hhead]
    · rwa [strayName_eq_nil_iff, hhead, ← strayName_eq_nil_iff]

/-! ## The main statement -/

/-- A fragment that is rendered without an error is rendered again, in whatever dialect and without
parameters, to the same text and binds nothing. -/
theorem render_rendered {ps : List Parameter} {s : String} {d : Dialect} {r : Query}
    (h : render d (Fragment.tokens ps s) = .ok r) (d' : Dialect) :
    render d' (Fragment.tokens [] r.sql) = .ok ⟨r.sql, []⟩ := by
  have hsettled : Settled false r.sql.toList :=
    (render_eq_ok h).1 ▸ settled_printFrom ps d 0 false s.toList
  have htokens : Fragment.tokens [] r.sql = r.sql.toList.map fun c => .text [c] := by
    unfold Fragment.tokens pieces
    rw [hsettled.pieces, tokens_plain]
  have hmute := mute_texts r.sql.toList
  unfold render
  rw [htokens, firstFault?_of_mute hmute, slotValues_of_mute hmute]
  simp only [Segment.printFrom_texts, String.ofList_toList]

/-- Names with a quote and with a colon in them, a cast right before a placeholder, two placeholders
without anything between, plain colons, and a literal that looks like a placeholder. -/
theorem render_rendered_slices :
    let ps : List Parameter := [⟨"it's", .scalar (.int 1), none⟩, ⟨"(x:y", .scalar (.int 2), none⟩,
      ⟨"ids", .list [], some .stringArray⟩,
      ⟨"days", .list [.text "Mon", .text ":ids"], some .stringArray⟩]
    let sql := "a::NULL::text = $1 AND b[1: ] IN ($2$3, $4) AND c <> ':it''s :ids' OR d : $5::e :"
    render .postgres (Fragment.tokens ps ("a:::ids::text = :it's AND b[1: ] IN (:(x:y:days)"
        ++ " AND c <> ':it''s :ids' OR d : :(x:y::e :")) =
        .ok ⟨sql, [.int 1, .int 2, .text "Mon", .text ":ids", .int 2]⟩ ∧
      ∀ d, render d (Fragment.tokens [] sql) = .ok ⟨sql, []⟩ := by
  intro ps sql
  have h : render .postgres (Fragment.tokens ps ("a:::ids::text = :it's AND b[1: ] IN (:(x:y:days)"
      ++ " AND c <> ':it''s :ids' OR d : :(x:y::e :")) =
      .ok ⟨sql, [.int 1, .int 2, .text "Mon", .text ":ids", .int 2]⟩ := by decide +kernel
  have hagain := render_rendered h
  exact ⟨h, hagain⟩

end QueryCriteria.Sql.Fragment
