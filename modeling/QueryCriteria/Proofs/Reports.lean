import QueryCriteria.Command.Run
import QueryCriteria.Proofs.Doubles
import QueryCriteria.Proofs.Scalars
import QueryCriteria.Proofs.WellFormed

/-!
A report in JSON says all there is to say.

A value that is written as JSON comes back if JSON has its kind (`Value.InJson`): an integer, a
truth value, a text or a finite double. UUIDs, dates, timestamps and the doubles that are not
finite do not come back, but none of them ever gets into the clauses of a document's criteria. The
values of a document come from JSON scalars (`Value.inJson_of_ofJson`); a comparison binds them as
they are or as texts, and so does a placeholder for a list (`Sql.Select.inJson_of_render`). So
reports are read back part by part, with nothing lost (`Clauses.ofJson?_toJson`,
`Sql.Query.ofJson?_toJson`).
-/

namespace QueryCriteria

open Sql

/-! ## Reading JSON values -/

namespace Json

/-- The member of an object under a key. -/
def member? (key : String) : Json → Option Json
  | object members => members.lookup key
  | _ => none

def text? : Json → Option String
  | text s => some s
  | _ => none

theorem text?_text (s : String) : (text s).text? = some s := rfl

/-- A list, each element of which can be read. -/
def list? {α : Type} (read : Json → Option α) : Json → Option (List α)
  | array items => items.mapM read
  | _ => none

/-- Null stands for nothing. -/
def optional? {α : Type} (read : Json → Option α) : Json → Option (Option α)
  | null => some none
  | j => (read j).map some

/-- A whole number without a sign. -/
def count? : Json → Option UInt64
  | whole n => if 0 ≤ n.val then some (.ofNat n.val.toNat) else none
  | _ => none

theorem lookup_cons (key k : String) (j : Json) (members : List (String × Json)) :
    ((key, j) :: members).lookup k = if k = key then some j else members.lookup k := by
  rw [List.lookup_cons]
  by_cases h : k = key
  · rw [if_pos h, beq_iff_eq.2 h]
  · rw [if_neg h, beq_eq_false_iff_ne.2 h]

theorem lookup_insertMember (key k : String) (j : Json) (members : List (String × Json)) :
    (insertMember key j members).lookup k = if k = key then some j else members.lookup k := by
  induction members with
  | nil => exact lookup_cons key k j []
  | cons m members ih =>
    obtain ⟨name, value⟩ := m
    unfold insertMember
    split
    · exact lookup_cons key k j _
    · split
      · next hname =>
        -- the member that is replaced has the same key
        obtain rfl : key = name := hname
        rw [lookup_cons, lookup_cons]
        split <;> rfl
      · next hname =>
        rw [lookup_cons, ih, lookup_cons]
        by_cases hk : k = key
        · rw [if_pos hk, if_pos hk, if_neg fun h => hname (hk.symm.trans h)]
        · rw [if_neg hk, if_neg hk]

/-- Of members with one key the last one counts. -/
theorem member?_ofMembers (key : String) (members : List (String × Json)) :
    (ofMembers members).member? key = members.reverse.lookup key := by
  have hfold : ∀ sorted : List (String × Json),
      (members.foldl (fun sorted m => insertMember m.1 m.2 sorted) sorted).lookup key =
        (members.reverse.lookup key).or (sorted.lookup key) := by
    induction members with
    | nil => exact fun _ => rfl
    | cons m members ih =>
      intro sorted
      rw [List.foldl_cons, ih, lookup_insertMember, ← lookup_cons, ← List.lookup_append,
        ← List.lookup_append, List.reverse_cons, List.append_assoc, List.singleton_append]
  exact (hfold []).trans Option.or_none

theorem list?_array_map {α : Type} {read : Json → Option α} {write : α → Json} {xs : List α}
    (h : ∀ x ∈ xs, read (write x) = some x) : (array (xs.map write)).list? read = some xs := by
  show (xs.map write).mapM read = some xs
  induction xs with
  | nil => rfl
  | cons x xs ih =>
    rw [List.map_cons, List.mapM_cons, h x (List.mem_cons_self ..),
      ih fun y hy => h y (List.mem_cons_of_mem x hy)]
    rfl

theorem optional?_ofOption {α : Type} {read : String → Option α} {write : α → String}
    (h : ∀ x, read (write x) = some x) (x : Option α) :
    (ofOption (x.map write)).optional? (fun j => j.text?.bind read) = some x := by
  cases x with
  | none => rfl
  | some x => exact congrArg (Option.map some) (h x)

theorem optional?_ofCount (n : Option UInt64) : (ofCount n).optional? count? = some n := by
  cases n with
  | none => rfl
  | some n =>
    have hn : (Whole.ofUInt64 n).val = n.toNat := rfl
    simp [ofCount, optional?, count?, hn]

end Json

/-! ## Values that come back -/

namespace Value

/-- JSON has the kind of the value. -/
def InJson : Value → Prop
  | int _ | bool _ | text _ => True
  | float x => x.isFinite = true
  | _ => False

theorem returned_of_inJson {v : Value} (h : v.InJson) : v.returned = .ok v := by
  cases v with
  | float x => exact if_pos h
  | int n | bool b | text s => rfl
  | uuid u | date d | timestamp t => exact h.elim

/-- What is read from JSON is of a kind that JSON has. A whole number beyond the signed ones becomes
a double, but a finite one. -/
theorem inJson_of_ofJson {j : Json} {v : Value} (h : ofJson j = .ok v) : v.InJson := by
  cases j with
  | null | array items | object members => cases h
  | bool b | text s =>
    cases h
    exact trivial
  | fraction x =>
    cases h
    exact x.finite
  | whole n =>
    rcases ofJson_whole n with ⟨i, -, hi⟩ | ⟨hlarge, hx⟩
    · cases h.symm.trans hi
      exact trivial
    · cases h.symm.trans hx
      have hhigh := n.high
      unfold Json.Whole.Signed at hlarge
      exact Doubles.isFinite_ofNat (by omega) (by omega)

/-- The value of a JSON scalar. -/
def ofJson? (j : Json) : Option Value := (ofJson j).toOption

theorem ofJson?_toJson {v : Value} (h : v.InJson) : ofJson? v.toJson = some v := by
  unfold ofJson?
  rw [ofJson_toJson, returned_of_inJson h]
  rfl

end Value

namespace Sql

namespace ParameterValue

def InJson : ParameterValue → Prop
  | scalar v => v.InJson
  | list vs => ∀ v ∈ vs, v.InJson

/-- A list of values, or one value. -/
def ofJson? : Json → Option ParameterValue
  | .array items => ((Json.array items).list? Value.ofJson?).map list
  | j => (Value.ofJson? j).map scalar

theorem ofJson?_toJson {x : ParameterValue} (h : x.InJson) : ofJson? x.toJson = some x := by
  cases x with
  | list vs =>
    have hvs : (Json.array (vs.map Value.toJson)).list? Value.ofJson? = some vs :=
      Json.list?_array_map fun v hv => Value.ofJson?_toJson (h v hv)
    simp only [toJson, ofJson?, hvs, Option.map_some]
  | scalar v =>
    have hv : Value.ofJson? v.toJson = some v := Value.ofJson?_toJson h
    show ofJson? v.toJson = some (scalar v)
    generalize v.toJson = j at hv ⊢
    cases j with
    | array items => cases hv
    | _ => exact congrArg (Option.map scalar) hv

end ParameterValue

namespace ParameterType

def ofName? (s : String) : Option ParameterType :=
  if s = stringArray.name then some stringArray else none

theorem ofName?_name (t : ParameterType) : ofName? t.name = some t := by
  cases t
  rfl

end ParameterType

namespace Parameter

def ofJson? (j : Json) : Option Parameter := do
  let name ← (← j.member? "name").text?
  let value ← ParameterValue.ofJson? (← j.member? "value")
  let type ← (← j.member? "type").optional? fun t => t.text?.bind ParameterType.ofName?
  some ⟨name, value, type⟩

theorem ofJson?_parameterJson {p : Parameter} (h : p.value.InJson) :
    ofJson? (Clauses.parameterJson p) = some p := by
  have hname : (Clauses.parameterJson p).member? "name" = some (.text p.name) :=
    Json.member?_ofMembers _ _
  have hvalue : (Clauses.parameterJson p).member? "value" = some p.value.toJson :=
    Json.member?_ofMembers _ _
  have htype : (Clauses.parameterJson p).member? "type" =
      some (.ofOption (p.type.map ParameterType.name)) := Json.member?_ofMembers _ _
  unfold ofJson?
  rw [hname, hvalue, htype]
  simp only [Option.bind_eq_bind, Option.bind_some, Json.text?_text,
    ParameterValue.ofJson?_toJson h, Json.optional?_ofOption ParameterType.ofName?_name]

end Parameter

end Sql

def Direction.ofSql? (s : String) : Option Direction :=
  match s with
  | "ASC" => some .asc
  | "DESC" => some .desc
  | _ => none

theorem Direction.ofSql?_sql (d : Direction) : ofSql? d.sql = some d := by
  cases d <;> rfl

def SortColumn.ofJson? (j : Json) : Option SortColumn := do
  let column ← (← j.member? "column").text?
  let direction ← Direction.ofSql? (← (← j.member? "direction").text?)
  some ⟨column, direction⟩

theorem SortColumn.ofJson?_sortColumnJson (c : SortColumn) :
    ofJson? (Clauses.sortColumnJson c) = some c := by
  have hcolumn : (Clauses.sortColumnJson c).member? "column" = some (.text c.column) :=
    Json.member?_ofMembers _ _
  have hdirection : (Clauses.sortColumnJson c).member? "direction" = some (.text c.direction.sql) :=
    Json.member?_ofMembers _ _
  unfold ofJson?
  rw [hcolumn, hdirection]
  simp only [Option.bind_eq_bind, Option.bind_some, Json.text?_text, Direction.ofSql?_sql]

namespace Clauses

/-- The clauses of a report. -/
def ofJson? (j : Json) : Option Clauses := do
  let predicates ← (← j.member? "predicates").list? Json.text?
  let parameters ← (← j.member? "params").list? Parameter.ofJson?
  let sorting ← (← j.member? "order_by").list? SortColumn.ofJson?
  let offset ← (← j.member? "offset").optional? Json.count?
  let limit ← (← j.member? "limit").optional? Json.count?
  some { predicates, parameters, sorting, offset, limit }

theorem ofJson?_toJson {c : Clauses} (h : ∀ p ∈ c.parameters, p.value.InJson) :
    ofJson? c.toJson = some c := by
  have hpredicates : c.toJson.member? "predicates" = some (.array (c.predicates.map .text)) :=
    Json.member?_ofMembers _ _
  have hparameters : c.toJson.member? "params" = some (.array (c.parameters.map parameterJson)) :=
    Json.member?_ofMembers _ _
  have hsorting : c.toJson.member? "order_by" = some (.array (c.sorting.map sortColumnJson)) :=
    Json.member?_ofMembers _ _
  have hoffset : c.toJson.member? "offset" = some (.ofCount c.offset) := Json.member?_ofMembers _ _
  have hlimit : c.toJson.member? "limit" = some (.ofCount c.limit) := Json.member?_ofMembers _ _
  unfold ofJson?
  rw [hpredicates, hparameters, hsorting, hoffset, hlimit]
  simp only [Option.bind_eq_bind, Option.bind_some, Json.optional?_ofCount,
    Json.list?_array_map fun s _ => Json.text?_text s,
    Json.list?_array_map fun p hp => Parameter.ofJson?_parameterJson (h p hp),
    Json.list?_array_map fun s _ => SortColumn.ofJson?_sortColumnJson s]

end Clauses

/-- The query of a report. -/
def Sql.Query.ofJson? (j : Json) : Option Query := do
  let sql ← (← j.member? "sql").text?
  let parameters ← (← j.member? "params").list? Value.ofJson?
  some ⟨sql, parameters⟩

theorem Sql.Query.ofJson?_toJson {q : Query} (h : ∀ v ∈ q.parameters, v.InJson) :
    ofJson? q.toJson = some q := by
  have hsql : q.toJson.member? "sql" = some (.text q.sql) := Json.member?_ofMembers _ _
  have hparameters : q.toJson.member? "params" = some (.array (q.parameters.map Value.toJson)) :=
    Json.member?_ofMembers _ _
  unfold ofJson?
  rw [hsql, hparameters]
  simp only [Option.bind_eq_bind, Option.bind_some, Json.text?_text,
    Json.list?_array_map fun v hv => Value.ofJson?_toJson (h v hv)]

/-! ## The values of a document's criteria -/

def Operand.InJson : Operand → Prop
  | none => True
  | scalar v => v.InJson
  | list vs => ∀ v ∈ vs, v.InJson

theorem forall_mem_of_forall₂ {α β : Type} {R : α → β → Prop} {Good : β → Prop}
    (hgood : ∀ x y, R x y → Good y) {xs : List α} {ys : List β} (h : List.Forall₂ R xs ys) :
    ∀ y ∈ ys, Good y := by
  induction h with
  | nil => exact nofun
  | cons hxy _ ih => exact List.forall_mem_cons.2 ⟨hgood _ _ hxy, ih⟩

theorem FilterDocument.BecomesOperand.inJson {value : Option Json} {x : Operand}
    (h : BecomesOperand value x) : x.InJson := by
  cases h with
  | none => exact trivial
  | scalar hv => exact Value.inJson_of_ofJson hv
  | list hvs => exact forall_mem_of_forall₂ (fun _ _ hj => Value.inJson_of_ofJson hj) hvs

theorem FilterDocument.Becomes.inJson {d : FilterDocument} {f : Filter} (h : d.Becomes f) :
    ∀ c ∈ f.comparisons, c.operand.InJson := by
  induction h with
  | comparison _ _ hx =>
    rw [Filter.comparisons, List.forall_mem_singleton]
    exact hx.inJson
  | and _ _ hl hr => exact List.forall_mem_append.2 ⟨hl, hr⟩
  | or _ _ hl hr => exact List.forall_mem_append.2 ⟨hl, hr⟩

theorem Value.InJson.boundValue {v : Value} (h : v.InJson) (op : Operator) :
    (Comparison.boundValue op v).InJson := by
  unfold Comparison.boundValue
  split
  · exact trivial
  · exact h

theorem Comparison.inJson_of_mem {c : Comparison} {number : Nat} {p : Parameter}
    (h : c.operand.InJson) (hp : p ∈ c.parameters number) : p.value.InJson := by
  unfold parameters at hp
  cases ho : c.operand with
  | none =>
    rw [ho] at hp
    cases hp
  | scalar v =>
    rw [ho] at h hp
    rw [List.mem_singleton.1 hp]
    exact Value.InJson.boundValue h c.operator
  | list vs =>
    rw [ho] at h hp
    rw [List.mem_singleton.1 hp]
    exact h

/-- What a document's criteria binds, JSON has the kind of. -/
theorem Document.Becomes.inJson {d : Document} {c : Criteria} (h : d.Becomes c)
    (fields : FieldMap) : ∀ p ∈ (c.clauses fields).parameters, p.value.InJson := by
  intro p hp
  have hparameters : (c.clauses fields).parameters =
      (Filter.numbered 0 c.filters).flatMap fun x => x.1.parameters x.2 :=
    Filter.parameters_predicates fields 0 c.filters
  have hfilters : ∀ f ∈ c.filters, ∀ x ∈ f.comparisons, x.operand.InJson :=
    forall_mem_of_forall₂ (fun _ _ hf => hf.inJson) h.filters
  rw [hparameters] at hp
  obtain ⟨x, hx, hpx⟩ := List.mem_flatMap.1 hp
  obtain ⟨f, hf, hxf⟩ := List.mem_flatMap.1 (List.fst_mem_of_mem_zipIdx hx)
  exact Comparison.inJson_of_mem (hfilters f hf x.1 hxf) hpx

namespace Sql

/-! ## The values of a rendered query -/

theorem Placeholder.inJson {p : Parameter} (h : p.value.InJson) :
    ∀ v ∈ (Placeholder.bound p).values, v.InJson := by
  obtain ⟨name, value, type⟩ := p
  cases value with
  | scalar v =>
    show ∀ w ∈ [v], w.InJson
    exact List.forall_mem_singleton.2 h
  | list vs =>
    cases type with
    | none =>
      exact List.forall_mem_nil _
    | some type =>
      cases type
      show ∀ v ∈ slotValues (Fragment.slots vs), v.InJson
      rw [slotValues_slots, List.forall_mem_map]
      exact fun _ _ => trivial

/-- What a query binds comes from its parameters. -/
theorem Select.inJson_of_render {q : Select} {d : Dialect} {r : Query}
    (h : ∀ p ∈ q.parameters, p.value.InJson) (hr : q.render d = .ok r) :
    ∀ v ∈ r.parameters, v.InJson := by
  intro v hv
  rw [(render_eq_ok hr).2] at hv
  have hv' : v ∈ q.placeholders.flatMap Placeholder.values := carried_value.select q ▸ hv
  obtain ⟨x, hx, hvx⟩ := List.mem_flatMap.1 hv'
  cases x with
  | unbound name => cases hvx
  | bound p => exact Placeholder.inJson (h p (mem_parameters_of_bound_mem hx)) v hvx

end Sql

/-! ## The main statement -/

namespace Document.Becomes

variable {d : Document} {c : Criteria} (h : d.Becomes c)

include h

theorem read_clauses (fields : FieldMap) :
    Clauses.ofJson? (c.clauses fields).toJson = some (c.clauses fields) :=
  Clauses.ofJson?_toJson (h.inJson fields)

theorem read_query {fields : FieldMap} {columns : List Expr} {source : FromClause}
    {dialect : Dialect} {r : Query}
    (hr : ((Select.start columns source).executeAll fields [c]).render dialect = .ok r) :
    Query.ofJson? r.toJson = some r := by
  refine Query.ofJson?_toJson (Select.inJson_of_render ?_ hr)
  intro p hp
  -- one criteria is executed by applying its clauses
  change p ∈ ((Select.start columns source).apply (c.clauses fields)).parameters at hp
  rw [Select.apply_parameters] at hp
  rcases mem_bindAll hp with hp | hp
  · cases hp
  · exact h.inJson fields p hp

end Document.Becomes

/-- Settings choose the columns, the table and the dialect. -/
theorem Settings.exists_render_of_render {settings : Settings} {c : Criteria} {r : Query}
    (h : settings.render c = .ok r) :
    ∃ source dialect, ((Select.start settings.selectList source).executeAll settings.fields
      [c]).render dialect = .ok r := by
  unfold Settings.render at h
  split at h
  · next dialect _ =>
    obtain ⟨table, -, h⟩ := bind_eq_ok_iff.1 h
    refine ⟨⟨table, none⟩, dialect, ?_⟩
    dsimp only at h
    split at h
    · next r' hr' =>
      rw [hr']
      exact congrArg Except.ok (Except.ok.inj h)
    · cases h
  · cases h

/-- The clauses of a document's criteria are read back from their report, whatever the field map;
and so is every query that is rendered with them, whether columns and table are given or come from
settings. So what is reported alike is the same. -/
theorem Criteria.report_readable {d : Document} {c : Criteria} (h : d.toCriteria = .ok c)
    (fields : FieldMap) :
    Clauses.ofJson? (c.clauses fields).toJson = some (c.clauses fields) ∧
      (∀ d' c' fields', Document.toCriteria d' = .ok c' →
        (Criteria.clauses fields' c').toJson = (c.clauses fields).toJson →
          c'.clauses fields' = c.clauses fields) ∧
      (∀ columns source dialect r,
        ((Select.start columns source).executeAll fields [c]).render dialect = .ok r →
          Query.ofJson? r.toJson = some r) ∧
      ∀ (settings : Settings) (r : Query), settings.render c = .ok r →
        Query.ofJson? r.toJson = some r := by
  have hc : d.Becomes c := Document.toCriteria_eq_ok_iff.1 h
  refine ⟨hc.read_clauses fields, fun d' c' fields' h' hsame => ?_,
    fun _ _ _ _ hr => hc.read_query hr, fun settings r hr => ?_⟩
  · have hread := (Document.toCriteria_eq_ok_iff.1 h').read_clauses fields'
    rw [hsame, hc.read_clauses fields] at hread
    exact (Option.some.inj hread).symm
  · obtain ⟨source, dialect, hr⟩ := settings.exists_render_of_render hr
    exact hc.read_query hr

/-- The largest whole number, which becomes a double, and a list of three kinds. -/
def Document.ofKinds : Document where
  filters := [.or
    (.comparison "size" ">=" (some (.whole ⟨18446744073709551615, by decide, by decide⟩)))
    (.comparison "tag" "in" (some (.array [.text "it's", .bool true,
      .whole ⟨-1, by decide, by decide⟩])))]
  sorting := [⟨"tag", .desc⟩]
  limit := some 18446744073709551615

theorem Criteria.report_readable_ofKinds :
    ∃ c, Document.ofKinds.toCriteria = .ok c ∧
      Clauses.ofJson? (c.clauses FieldMap.empty).toJson = some (c.clauses FieldMap.empty) ∧
        ∃ r, Settings.render { table := some "files" } c = .ok r ∧
          Query.ofJson? r.toJson = some r := by
  obtain ⟨c, hc⟩ : ∃ c, Document.ofKinds.toCriteria = .ok c := ⟨_, rfl⟩
  obtain ⟨hclauses, -, -, hsettings⟩ := report_readable hc FieldMap.empty
  obtain ⟨r, hr⟩ : ∃ r, Settings.render { table := some "files" } c = .ok r := by
    cases hc
    exact ⟨_, rfl⟩
  exact ⟨c, hc, hclauses, r, hr, hsettings _ r hr⟩

end QueryCriteria
