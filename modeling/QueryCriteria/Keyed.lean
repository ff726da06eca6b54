/-!
Lists whose entries carry a key. `put` takes the place of the first entry of the same key, or the
end of the list if there is none, so the order in which keys first came in is kept and, if the
keys were distinct before, they stay so (`nodup_put`). Looking a key up afterwards finds what was
put there last (`find?_put_self`) and, for any other key, what was there before
(`find?_put_of_ne`).
-/

namespace QueryCriteria.Keyed

variable {α : Type} (key : α → String)

def put (a : α) : List α → List α
  | [] => [a]
  | b :: rest => if key b = key a then a :: rest else b :: put a rest

/-- The first entry with a key. -/
def find? (k : String) (entries : List α) : Option α := entries.find? fun a => key a == k

theorem map_key_put (a : α) (entries : List α) :
    (put key a entries).map key =
      if key a ∈ entries.map key then entries.map key else entries.map key ++ [key a] := by
  induction entries with
  | nil => simp [put]
  | cons b rest ih =>
    by_cases h : key b = key a
    · simp [put, h]
    · simp only [put, h, if_false, List.map_cons, ih, List.mem_cons]
      have h' : ¬ key a = key b := fun e => h e.symm
      by_cases hm : key a ∈ rest.map key <;> simp [h', hm]

theorem nodup_put (a : α) {entries : List α} (h : (entries.map key).Nodup) :
    ((put key a entries).map key).Nodup := by
  rw [map_key_put]
  split
  · exact h
  · next hm =>
    rw [List.nodup_append]
    refine ⟨h, by simp, ?_⟩
    intro k hk l hl e
    rw [List.mem_singleton] at hl
    exact hm (hl ▸ e ▸ hk)

theorem mem_put {a b : α} {entries : List α} (h : b ∈ put key a entries) :
    b = a ∨ b ∈ entries := by
  induction entries with
  | nil => exact .inl (List.mem_singleton.1 h)
  | cons c rest ih =>
    unfold put at h
    split at h
    · exact (List.mem_cons.1 h).imp id (List.mem_cons_of_mem c)
    · rcases List.mem_cons.1 h with rfl | h
      · exact .inr (List.mem_cons_self ..)
      · exact (ih h).imp id (List.mem_cons_of_mem c)

theorem of_find?_eq_some {k : String} {entries : List α} {a : α}
    (h : find? key k entries = some a) : a ∈ entries ∧ key a = k := by
  unfold find? at h
  have hkey := List.find?_some h
  exact ⟨List.mem_of_find?_eq_some h, beq_iff_eq.1 hkey⟩

/-- Under distinct keys an entry is what its key finds. -/
theorem find?_of_mem {entries : List α} (h : (entries.map key).Nodup) {a : α}
    (ha : a ∈ entries) : find? key (key a) entries = some a := by
  induction entries with
  | nil => cases ha
  | cons b rest ih =>
    rw [List.map_cons, List.nodup_cons] at h
    rcases List.mem_cons.1 ha with rfl | hr
    · simp [find?]
    · have hb : ¬ key b = key a := fun e => h.1 (e ▸ List.mem_map_of_mem hr)
      simpa [find?, hb] using ih h.2 hr

/-- Under distinct keys no two entries share one. -/
theorem eq_of_key_eq {entries : List α} (h : (entries.map key).Nodup) {a b : α}
    (ha : a ∈ entries) (hb : b ∈ entries) (hkey : key a = key b) : a = b := by
  have hfind := find?_of_mem key h ha
  rw [hkey, find?_of_mem key h hb] at hfind
  exact (Option.some.inj hfind).symm

theorem find?_put_self (a : α) (entries : List α) :
    find? key (key a) (put key a entries) = some a := by
  induction entries with
  | nil => simp [put, find?]
  | cons b rest ih =>
    by_cases h : key b = key a
    · simp [put, find?, h]
    · simpa [put, find?, h] using ih

theorem find?_put_of_ne (a : α) (entries : List α) {k : String} (hk : k ≠ key a) :
    find? key k (put key a entries) = find? key k entries := by
  have hk' : ¬ key a = k := fun e => hk e.symm
  induction entries with
  | nil => simp [put, find?, hk']
  | cons b rest ih =>
    by_cases h : key b = key a
    · have hb : ¬ key b = k := fun e => hk (e.symm.trans h)
      simp [put, find?, h, hk']
    · by_cases hb : key b = k
      · simp [put, find?, hk, hb]
      · simpa [put, find?, h, hb] using ih

end QueryCriteria.Keyed
