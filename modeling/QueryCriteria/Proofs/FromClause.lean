import Mathlib.Data.List.Infix
import QueryCriteria.Command.Run
import QueryCriteria.Proofs.Printing

/-!
A table cannot be named in a way that breaks out of its clause.

`FromClause.read?` reads a clause from its text: names between the marks of the dialect, in which
a doubled mark stands for one, a dot behind the schema, ` AS ` before the name that the table goes
by, and nothing after that. It knows nothing of how clauses are rendered. Each of its parts reads
what the same part of a clause is written as and nothing else (`Table.read?_eq_some_iff`,
`FromClause.readCalled?_eq_some_iff`): a name ends at a mark that is not doubled, and what may
follow it there, a dot or a blank, is no mark in either dialect. So what is rendered is read back,
and only what is rendered is read.

The settings of the command line name a table by one text. It is cut at its first dot, and the
parts with a dot between them are that text again (`Settings.dotted_splitTable`).
-/

namespace QueryCriteria

namespace Sql

theorem dropPrefix?_eq_some_iff {s w rest : List Char} :
    s.dropPrefix? w = some rest ↔ s = w ++ rest := by
  simp [List.dropPrefix?_eq_some_iff]

/-! ## Reading names -/

namespace Dialect

variable {d : Dialect} {s rest : List Char} {name : String}

/-- A name between its marks at the start of a text, and what follows it. -/
def readName? (d : Dialect) (s : List Char) : Option (String × List Char) :=
  (Text.readEnclosed d.mark s).map fun r => (String.ofList r.1, r.2)

theorem readName?_eq_some_iff :
    d.readName? s = some (name, rest) ↔
      s = d.quote name.toList ++ rest ∧ rest.head? ≠ some d.mark := by
  unfold readName? quote
  rw [Option.map_eq_some_iff]
  constructor
  · rintro ⟨r, hr, he⟩
    cases he
    rw [String.toList_ofList]
    exact Text.readEnclosed_eq_some_iff.1 hr
  · intro h
    exact ⟨(name.toList, rest), Text.readEnclosed_eq_some_iff.2 h, by rw [String.ofList_toList]⟩

theorem mark_ne_dot (d : Dialect) : d.mark ≠ '.' := by cases d <;> decide

theorem mark_ne_blank (d : Dialect) : d.mark ≠ ' ' := by cases d <;> decide

end Dialect

namespace Table

variable {d : Dialect} {s rest : List Char} {t : Table}

/-- A table as it stands in a clause. -/
def text (d : Dialect) (t : Table) : List Char :=
  match t.schema with
  | none => d.quote t.name.toList
  | some schema => d.quote schema.toList ++ '.' :: d.quote t.name.toList

/-- A table at the start of a text, and what follows it. A name with a dot behind it is a schema. -/
def read? (d : Dialect) (s : List Char) : Option (Table × List Char) :=
  match d.readName? s with
  | none => none
  | some (schema, '.' :: rest) => (d.readName? rest).map fun r => (⟨some schema, r.1⟩, r.2)
  | some (name, rest) => some (⟨none, name⟩, rest)

theorem read?_eq_some_iff :
    read? d s = some (t, rest) ↔
      s = t.text d ++ rest ∧ rest.head? ≠ some d.mark ∧
        (t.schema = none → rest.head? ≠ some '.') := by
  constructor
  · intro h
    unfold read? at h
    split at h
    · cases h
    · next schema behind hschema =>
      obtain ⟨⟨name, rest'⟩, hname, he⟩ := Option.map_eq_some_iff.1 h
      cases he
      obtain ⟨rfl, -⟩ := Dialect.readName?_eq_some_iff.1 hschema
      obtain ⟨rfl, hrest⟩ := Dialect.readName?_eq_some_iff.1 hname
      refine ⟨?_, hrest, nofun⟩
      rw [text, List.append_assoc]
      rfl
    · next name behind hdot hname =>
      cases h
      obtain ⟨rfl, hrest⟩ := Dialect.readName?_eq_some_iff.1 hname
      refine ⟨rfl, hrest, fun _ hhead => ?_⟩
      obtain ⟨tail, rfl⟩ := List.head?_eq_some_iff.1 hhead
      exact hdot tail rfl
  · obtain ⟨schema, name⟩ := t
    rintro ⟨rfl, hrest, hdot⟩
    have hname : d.readName? (d.quote name.toList ++ rest) = some (name, rest) :=
      Dialect.readName?_eq_some_iff.2 ⟨rfl, hrest⟩
    unfold read? text
    cases schema with
    | none =>
      simp only [hname]
      split
      · next h => cases h
      · next h =>
        cases h
        exact absurd rfl (hdot rfl)
      · next h =>
        cases h
        rfl
    | some schema =>
      have hmark : ('.' :: d.quote name.toList ++ rest).head? ≠ some d.mark := fun h =>
        d.mark_ne_dot (Option.some.inj h).symm
      have hschema := Dialect.readName?_eq_some_iff.2 (And.intro (Eq.refl (d.quote schema.toList ++
        ('.' :: d.quote name.toList ++ rest))) hmark)
      simp only [List.append_assoc, List.cons_append] at hschema ⊢
      rw [hschema]
      simp only [hname, Option.map_some]

end Table

namespace FromClause

variable {d : Dialect} {s : List Char}

/-! ## Reading a clause -/

/-- How the name that a table goes by stands behind it. -/
def calledText (d : Dialect) : Option String → List Char
  | none => []
  | some name => " AS ".toList ++ d.quote name.toList

/-- What follows the table: nothing, or the name that it goes by. -/
def readCalled? (d : Dialect) (s : List Char) : Option (Option String) :=
  if s.isEmpty then some none
  else
    match (s.dropPrefix? " AS ".toList).bind d.readName? with
    | some (name, []) => some (some name)
    | _ => none

theorem readCalled?_eq_some_iff {calledAs : Option String} :
    readCalled? d s = some calledAs ↔ s = calledText d calledAs := by
  unfold readCalled?
  constructor
  · intro h
    split at h
    · next hs =>
      cases h
      exact List.isEmpty_iff.1 hs
    · split at h
      · next name hread =>
        cases h
        obtain ⟨rest, hrest, hname⟩ := Option.bind_eq_some_iff.1 hread
        obtain rfl := dropPrefix?_eq_some_iff.1 hrest
        obtain ⟨rfl, -⟩ := Dialect.readName?_eq_some_iff.1 hname
        rw [calledText, List.append_nil]
      · cases h
  · rintro rfl
    cases calledAs with
    | none => rfl
    | some name =>
      have hname : d.readName? (d.quote name.toList) = some (name, []) :=
        Dialect.readName?_eq_some_iff.2 ⟨(List.append_nil _).symm, nofun⟩
      have hprefix := dropPrefix?_eq_some_iff.2 (Eq.refl (" AS ".toList ++ d.quote name.toList))
      rw [calledText, hprefix, Option.bind_some, hname]
      rfl

/-- The clause that a text is, all of it. -/
def read? (d : Dialect) (s : List Char) : Option FromClause := do
  let (table, rest) ← Table.read? d (← s.dropPrefix? "FROM ".toList)
  let calledAs ← readCalled? d rest
  some ⟨table, calledAs⟩

/-- The clause in a dialect. -/
def text (d : Dialect) (f : FromClause) : List Char :=
  "FROM ".toList ++ (f.table.text d ++ calledText d f.calledAs)

/-- What may stand behind a table begins with a blank. -/
theorem head?_calledText (d : Dialect) (calledAs : Option String) {c : Char} (hc : c ≠ ' ') :
    (calledText d calledAs).head? ≠ some c := by
  cases calledAs with
  | none => nofun
  | some name => exact fun h => hc (Option.some.inj h).symm

theorem read?_eq_some_iff {f : FromClause} : read? d s = some f ↔ s = f.text d := by
  unfold read? text
  simp only [Option.bind_eq_bind, Option.bind_eq_some_iff]
  constructor
  · rintro ⟨behind, hfrom, ⟨table, rest⟩, htable, calledAs, hcalled, he⟩
    cases he
    obtain rfl := dropPrefix?_eq_some_iff.1 hfrom
    obtain ⟨rfl, -⟩ := Table.read?_eq_some_iff.1 htable
    obtain rfl := readCalled?_eq_some_iff.1 hcalled
    rfl
  · rintro rfl
    have htable : Table.read? d (f.table.text d ++ calledText d f.calledAs) =
        some (f.table, calledText d f.calledAs) :=
      Table.read?_eq_some_iff.2 ⟨rfl, head?_calledText d f.calledAs d.mark_ne_blank,
        fun _ => head?_calledText d f.calledAs (by decide)⟩
    exact ⟨_, dropPrefix?_eq_some_iff.2 rfl, _, htable, _, readCalled?_eq_some_iff.2 rfl, rfl⟩

/-! ## What is rendered -/

theorem printFrom_qualified (d : Dialect) (n : Nat) (t : Table) :
    printFrom d n (qualified t.schema t.name) = t.text d := by
  obtain ⟨schema, name⟩ := t
  cases schema with
  | none => exact List.append_nil _
  | some schema => simp [qualified, printFrom, Table.text, word, Token.print]

theorem printFrom_tokens (d : Dialect) (n : Nat) (f : FromClause) :
    printFrom d n f.tokens = f.text d := by
  obtain ⟨table, calledAs⟩ := f
  unfold tokens text
  rw [printFrom_append, printFrom, printFrom_qualified, List.append_assoc]
  cases calledAs with
  | none => rfl
  | some name => simp [printFrom, calledText, word, Token.print]

/-- A clause is rendered in every case, and binds nothing. -/
theorem render_tokens (d : Dialect) (f : FromClause) :
    Sql.render d f.tokens = .ok ⟨String.ofList (f.text d), []⟩ := by
  unfold Sql.render
  rw [firstFault?_of_mute f.mute_tokens, slotValues_of_mute f.mute_tokens, printFrom_tokens]

end FromClause

/-! ## Tables of the settings -/

/-- The names of a table with a dot between them. -/
def Table.dotted (t : Table) : String :=
  match t.schema with
  | none => t.name
  | some schema => schema ++ "." ++ t.name

end Sql

/-- Nothing of the text is lost where it is cut. -/
theorem Settings.dotted_splitTable (s : String) : (splitTable s).dotted = s := by
  have hsplit := List.takeWhile_append_dropWhile (p := (· ≠ '.')) (l := s.toList)
  unfold splitTable
  dsimp only
  split
  · rfl
  · next c name hdrop =>
    have hc : c = '.' := by
      have hhead := List.head?_dropWhile_not (· ≠ '.') s.toList
      rw [hdrop] at hhead
      simpa using hhead
    rw [hdrop, hc] at hsplit
    show String.ofList (s.toList.takeWhile (· ≠ '.')) ++ "." ++ String.ofList name = s
    rw [← String.toList_inj]
    simp only [String.toList_append, String.toList_ofList, List.append_assoc]
    exact hsplit

/-! ## The main statement -/

namespace Sql

/-- Whatever the names in a clause are, it is rendered and read back from its text; no other text is
read as that clause; two clauses that are rendered alike are one. And the table of the settings
stands in its clause with the names that make up the text in the settings. -/
theorem FromClause.clause_readable (d : Dialect) :
    (∀ f : FromClause, ∃ r, Sql.render d f.tokens = .ok r ∧ read? d r.sql.toList = some f) ∧
      (∀ s f, read? d s = some f ↔ Sql.render d f.tokens = .ok ⟨String.ofList s, []⟩) ∧
      (∀ f g : FromClause, Sql.render d f.tokens = Sql.render d g.tokens → f = g) ∧
      ∀ (settings : Settings) (t : String), settings.table = some t →
        ∃ table r f, settings.requireTable = .ok table ∧
          Sql.render d (FromClause.tokens ⟨table, none⟩) = .ok r ∧
          read? d r.sql.toList = some f ∧ f.calledAs = none ∧ f.table.dotted = t := by
  have hread (f : FromClause) : read? d (String.ofList (f.text d)).toList = some f := by
    rw [String.toList_ofList]
    exact read?_eq_some_iff.2 rfl
  refine ⟨fun f => ⟨_, f.render_tokens d, hread f⟩, fun s f => ?_, fun f g h => ?_, ?_⟩
  · rw [read?_eq_some_iff, render_tokens, Except.ok.injEq, Query.mk.injEq, and_iff_left rfl,
      String.ofList_inj, eq_comm]
  · rw [render_tokens, render_tokens, Except.ok.injEq, Query.mk.injEq, and_iff_left rfl] at h
    exact Option.some.inj ((hread f).symm.trans (h ▸ hread g))
  · intro settings t ht
    have htable : settings.requireTable = .ok (Settings.splitTable t) := by
      unfold Settings.requireTable Settings.table?
      rw [ht]
      rfl
    exact ⟨_, _, _, htable, render_tokens d _, hread _, rfl, Settings.dotted_splitTable t⟩

/-- Marks at the ends of both names, and a second dot. -/
theorem FromClause.clause_readable_marks :
    ∃ table r f, Settings.requireTable { table := some "\".`a\".b`" } = .ok table ∧
      Sql.render .postgres (FromClause.tokens ⟨table, none⟩) = .ok r ∧
      read? .postgres r.sql.toList = some f ∧ f.calledAs = none ∧
      f.table.dotted = "\".`a\".b`" :=
  (clause_readable .postgres).2.2.2 { table := some "\".`a\".b`" } _ rfl

end Sql

end QueryCriteria
