import QueryCriteria.Proofs.Conversion

/-!
What the keys of a filter document announce and what becomes of it.

The key `and` announces a conjunction, the key `or` a disjunction, the keys `field` and `operator`
together a comparison. A document is read as it is written (`AsWritten`) if every object that stands
for a node announces one of them and no other, and the node is the one announced. A condition that
is announced in a document of this kind is in the filter.

Not every document that is read is of this kind. A key that stands beside a good one, or whose
value is not good, is passed over if the object can be read without it, and the condition behind it
is dropped (`ofJson?_loneConjunct`). `asWritten_iff` says exactly when: a document is read as it is
written if and only if it is read at all and none of its objects announces two things at once.
-/

namespace QueryCriteria.FilterDocument

/-- The forms of a node. -/
inductive Form where
  | and
  | or
  | comparison
  deriving DecidableEq, Repr

/-- The keys of an object announce a node of this form. -/
def Announces (members : List (String × Json)) : Form → Prop
  | .and => "and" ∈ members.map Prod.fst
  | .or => "or" ∈ members.map Prod.fst
  | .comparison => "field" ∈ members.map Prod.fst ∧ "operator" ∈ members.map Prod.fst

instance (members : List (String × Json)) (x : Form) : Decidable (Announces members x) :=
  match x with
  | .and => inferInstanceAs (Decidable (_ ∈ _))
  | .or => inferInstanceAs (Decidable (_ ∈ _))
  | .comparison => inferInstanceAs (Decidable (_ ∧ _))

/-- No two forms are announced by one object. -/
def Unmixed (members : List (String × Json)) : Prop :=
  ∀ x y, Announces members x → Announces members y → x = y

/-- Every object announces the form of its node and no other one. -/
inductive AsWritten : Json → FilterDocument → Prop where
  | and {members : List (String × Json)} {l r : Json} {a b : FilterDocument} :
    (∀ x, Announces members x → x = .and) → only? "and" members = some (.array [l, r]) →
    AsWritten l a → AsWritten r b → AsWritten (.object members) (.and a b)
  | or {members : List (String × Json)} {l r : Json} {a b : FilterDocument} :
    (∀ x, Announces members x → x = .or) → only? "or" members = some (.array [l, r]) →
    AsWritten l a → AsWritten r b → AsWritten (.object members) (.or a b)
  | comparison {members : List (String × Json)} {field operator : String} {value : Option Json} :
    (∀ x, Announces members x → x = .comparison) →
    comparison? members = some (.comparison field operator value) →
    AsWritten (.object members) (.comparison field operator value)

/-- The objects that the nodes of a document were read from. -/
def objects : FilterDocument → Json → List (List (String × Json))
  | comparison .., .object members => [members]
  | and a b, .object members =>
    match only? "and" members with
    | some (.array [l, r]) => members :: (a.objects l ++ b.objects r)
    | _ => [members]
  | or a b, .object members =>
    match only? "or" members with
    | some (.array [l, r]) => members :: (a.objects l ++ b.objects r)
    | _ => [members]
  | _, _ => []

/-! ## Keys -/

theorem mem_keys_of_only? {α : Type} {key : String} {members : List (String × α)} {a : α}
    (h : only? key members = some a) : key ∈ members.map Prod.fst := by
  unfold only? at h
  split at h
  · next m hm =>
    have hmem : m ∈ members.filter (·.1 == key) := hm ▸ List.mem_singleton_self m
    obtain ⟨hmem, hkey⟩ := List.mem_filter.1 hmem
    exact List.mem_map.2 ⟨m, hmem, beq_iff_eq.1 hkey⟩
  · cases h

/-- A key that does not stand in the object has no value. -/
theorem only?_eq_none {α : Type} {key : String} {members : List (String × α)}
    (h : key ∉ members.map Prod.fst) : only? key members = none := by
  cases hvalue : only? key members with
  | none => rfl
  | some a => exact absurd (mem_keys_of_only? hvalue) h

theorem announces_comparison {members : List (String × Json)} {f : FilterDocument}
    (h : comparison? members = some f) : Announces members .comparison := by
  obtain ⟨_, _, _, -, -, hfield, hoperator⟩ := comparison?_eq_some h
  exact ⟨mem_keys_of_only? hfield, mem_keys_of_only? hoperator⟩

theorem Unmixed.eq {members : List (String × Json)} (h : Unmixed members) {x : Form}
    (hx : Announces members x) : ∀ y, Announces members y → y = x :=
  fun y hy => h y x hy hx

theorem unmixed_of_eq {members : List (String × Json)} {x : Form}
    (h : ∀ y, Announces members y → y = x) : Unmixed members :=
  fun y z hy hz => (h y hy).trans (h z hz).symm

/-- A good pair under a key that is not announced does not exist. -/
theorem bind_pair?_eq_none {key : String} {members : List (String × Json)}
    (h : key ∉ members.map Prod.fst) : (only? key members).bind pair? = none := by
  rw [only?_eq_none h]
  rfl

/-! ## Documents that are read as they are written -/

theorem AsWritten.read {j : Json} {f : FilterDocument} (h : AsWritten j f) :
    ofJson? j = some f := by
  induction h with
  | and _ hmember _ _ hl hr => exact ofJson?_eq_and_iff.2 ⟨_, _, _, rfl, hmember, hl, hr⟩
  | or hform hmember _ _ hl hr =>
    have hand := bind_pair?_eq_none fun hkey => nomatch hform .and hkey
    exact ofJson?_eq_or_iff.2 ⟨_, _, _, rfl, hand, hmember, hl, hr⟩
  | comparison hform h =>
    have hand := bind_pair?_eq_none fun hkey => nomatch hform .and hkey
    have hor := bind_pair?_eq_none fun hkey => nomatch hform .or hkey
    exact ofJson?_eq_comparison_iff.2 ⟨_, rfl, hand, hor, h⟩

theorem AsWritten.unmixed {j : Json} {f : FilterDocument} (h : AsWritten j f) :
    ∀ members ∈ f.objects j, Unmixed members := by
  induction h with
  | and hform hmember _ _ hl hr =>
    rw [objects, hmember, List.forall_mem_cons, List.forall_mem_append]
    exact ⟨unmixed_of_eq hform, hl, hr⟩
  | or hform hmember _ _ hl hr =>
    rw [objects, hmember, List.forall_mem_cons, List.forall_mem_append]
    exact ⟨unmixed_of_eq hform, hl, hr⟩
  | comparison hform _ =>
    rw [objects, List.forall_mem_singleton]
    exact unmixed_of_eq hform

theorem asWritten_of_unmixed {j : Json} {f : FilterDocument} (h : ofJson? j = some f)
    (hunmixed : ∀ members ∈ f.objects j, Unmixed members) : AsWritten j f := by
  induction f generalizing j with
  | comparison field operator value =>
    obtain ⟨members, rfl, -, -, h⟩ := ofJson?_eq_comparison_iff.1 h
    rw [objects, List.forall_mem_singleton] at hunmixed
    exact .comparison (hunmixed.eq (announces_comparison h)) h
  | and a b ha hb =>
    obtain ⟨members, l, r, rfl, hmember, hl, hr⟩ := ofJson?_eq_and_iff.1 h
    rw [objects, hmember, List.forall_mem_cons, List.forall_mem_append] at hunmixed
    obtain ⟨hhere, hleft, hright⟩ := hunmixed
    have hkey : Announces members .and := mem_keys_of_only? hmember
    exact .and (hhere.eq hkey) hmember (ha hl hleft) (hb hr hright)
  | or a b ha hb =>
    obtain ⟨members, l, r, rfl, -, hmember, hl, hr⟩ := ofJson?_eq_or_iff.1 h
    rw [objects, hmember, List.forall_mem_cons, List.forall_mem_append] at hunmixed
    obtain ⟨hhere, hleft, hright⟩ := hunmixed
    have hkey : Announces members .or := mem_keys_of_only? hmember
    exact .or (hhere.eq hkey) hmember (ha hl hleft) (hb hr hright)

/-! ## The main statement -/

/-- A filter document is read as it is written, with every condition that it announces, if and only
if it is read at all and none of its objects announces two conditions. What is read becomes a filter
node for node. -/
theorem asWritten_iff (j : Json) (f : FilterDocument) :
    (AsWritten j f ↔ ofJson? j = some f ∧ ∀ members ∈ f.objects j, Unmixed members) ∧
      ∀ filter, f.toFilter = .ok filter ↔ f.Becomes filter :=
  ⟨⟨fun h => ⟨h.read, h.unmixed⟩, fun h => asWritten_of_unmixed h.1 h.2⟩,
    fun _ => toFilter_eq_ok_iff⟩

/-- A conjunction with one child only, in one object with a comparison. -/
def loneConjunct : Json :=
  .object
    [("and", .array [.object [("field", .text "a"), ("operator", .text "is null")]]),
      ("field", .text "b"), ("operator", .text "is null")]

/-- The conjunction is passed over: what is left of the document is the comparison, and the
condition on the other field is dropped. -/
theorem ofJson?_loneConjunct :
    ofJson? loneConjunct = some (.comparison "b" "is null" none) ∧
      ¬ AsWritten loneConjunct (.comparison "b" "is null" none) := by
  refine ⟨rfl, ?_⟩
  intro h
  cases h with
  | comparison hform _ => exact nomatch hform .and (by decide)

end QueryCriteria.FilterDocument
