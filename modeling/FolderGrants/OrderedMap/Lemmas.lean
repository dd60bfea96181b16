import FolderGrants.OrderedMap.Basic

/-!
# Look-up laws of ordered maps

Every operation is described by what it does to `get?`, and look-up decides
equality, so no later proof needs to look at the list of entries.

* `get?_empty`, `get?_insert`, `get?_filter`, `get?_erase` — each operation,
  seen through look-up;
* `mem_entries_iff` — an entry is listed exactly when look-up finds it;
* `ext_get?` — two maps with the same look-ups are equal.
-/

namespace FolderGrants.OrderedMap

variable {κ ν : Type} [Ord κ] [Std.TransOrd κ] [Std.LawfulEqOrd κ]

omit [Std.TransOrd κ] [Std.LawfulEqOrd κ] in
/-- A key that stands before all others is not found. -/
theorem find?_eq_none_of_lt {k : κ} :
    ∀ {l : List (κ × ν)}, (∀ e ∈ l, compare k e.1 = .lt) → find? k l = none
  | [], _ => rfl
  | e :: rest, h => by
    have he := h e List.mem_cons_self
    have := find?_eq_none_of_lt fun x hx => h x (List.mem_cons_of_mem _ hx)
    simp [find?, he, this]

omit [Std.TransOrd κ] in
/-- What is found is an entry of the list. -/
theorem mem_of_find? {k : κ} {v : ν} :
    ∀ {l : List (κ × ν)}, find? k l = some v → (k, v) ∈ l
  | e :: rest, h => by
    unfold find? at h
    split at h
    · next heq =>
      have hk : k = e.1 := Std.LawfulEqCmp.eq_of_compare heq
      have hv : e.2 = v := Option.some.inj h
      simp [hk, ← hv]
    · exact List.mem_cons_of_mem _ (mem_of_find? h)

omit [Std.TransOrd κ] in
/-- In a list in key order every entry is found under its key. -/
theorem find?_of_mem {k : κ} {v : ν} :
    ∀ {l : List (κ × ν)}, l.Pairwise (fun a b => compare a.1 b.1 = .lt) →
      (k, v) ∈ l → find? k l = some v
  | e :: rest, h, hm => by
    have hhead := (List.pairwise_cons.1 h).1
    rcases List.mem_cons.1 hm with rfl | hm
    · simp [find?, Std.ReflCmp.compare_self]
    · have hlt := hhead _ hm
      have hne : compare k e.1 ≠ .eq := by
        intro heq
        have : k = e.1 := Std.LawfulEqCmp.eq_of_compare heq
        simp [this, Std.ReflCmp.compare_self] at hlt
      simp [find?, hne, find?_of_mem (List.pairwise_cons.1 h).2 hm]

omit [Std.TransOrd κ] in
/-- An entry is listed exactly when look-up finds it. -/
theorem mem_entries_iff {m : OrderedMap κ ν} {k : κ} {v : ν} :
    (k, v) ∈ m.entries ↔ m.get? k = some v :=
  ⟨find?_of_mem m.ascending, mem_of_find?⟩

omit [Std.TransOrd κ] in
/-- The keys are those under which something is found. -/
theorem mem_keys_iff {m : OrderedMap κ ν} {k : κ} :
    k ∈ m.keys ↔ ∃ v, m.get? k = some v := by
  simp only [keys, List.mem_map]
  constructor
  · rintro ⟨⟨k', v⟩, hm, rfl⟩
    exact ⟨v, mem_entries_iff.1 hm⟩
  · rintro ⟨v, hv⟩
    exact ⟨(k, v), mem_entries_iff.2 hv, rfl⟩

omit [Std.TransOrd κ] [Std.LawfulEqOrd κ] in
@[simp] theorem get?_empty (k : κ) : (empty : OrderedMap κ ν).get? k = none := rfl

omit [Std.TransOrd κ] in
/-- After a value has been placed it is found under its key, and elsewhere what was found
before. -/
theorem find?_place (k k' : κ) (v : ν) :
    ∀ l : List (κ × ν), find? k' (place k v l) =
      if compare k' k = .eq then some v else find? k' l
  | [] => by simp [place, find?]
  | e :: rest => by
    unfold place
    split
    · simp [find?]
    · next heq =>
      have hk : k = e.1 := Std.LawfulEqCmp.eq_of_compare heq
      subst hk
      by_cases h : compare k' e.1 = .eq <;> simp [find?, h]
    · next hgt =>
      by_cases h : compare k' e.1 = .eq
      · have hk' : k' = e.1 := Std.LawfulEqCmp.eq_of_compare h
        have hne : compare k' k ≠ .eq := by
          intro heq
          have : k' = k := Std.LawfulEqCmp.eq_of_compare heq
          rw [← this, h] at hgt
          cases hgt
        simp [find?, h, hne]
      · simp [find?, h, find?_place k k' v rest]

/-- Look-up after an insertion. -/
theorem get?_insert (m : OrderedMap κ ν) (k k' : κ) (v : ν) :
    (m.insert k v).get? k' = if compare k' k = .eq then some v else m.get? k' :=
  find?_place k k' v m.entries

@[simp] theorem get?_insert_self (m : OrderedMap κ ν) (k : κ) (v : ν) :
    (m.insert k v).get? k = some v := by
  simp [get?_insert, Std.ReflCmp.compare_self]

theorem get?_insert_of_ne (m : OrderedMap κ ν) {k k' : κ} (v : ν) (h : k' ≠ k) :
    (m.insert k v).get? k' = m.get? k' := by
  have : compare k' k ≠ .eq := fun heq => h (Std.LawfulEqCmp.eq_of_compare heq)
  simp [get?_insert, this]

omit [Std.TransOrd κ] in
/-- Look-up after a filter. -/
theorem get?_filter (m : OrderedMap κ ν) (p : κ → ν → Bool) (k : κ) :
    (m.filter p).get? k = (m.get? k).filter (p k) := by
  apply Option.ext
  intro v
  rw [← mem_entries_iff]
  simp only [filter, List.mem_filter, mem_entries_iff, Option.filter_eq_some_iff]

omit [Std.TransOrd κ] in
/-- Look-up after a removal. -/
theorem get?_erase (m : OrderedMap κ ν) (k k' : κ) :
    (m.erase k).get? k' = if compare k k' = .eq then none else m.get? k' := by
  unfold erase
  rw [get?_filter]
  by_cases h : compare k k' = .eq <;> cases m.get? k' <;> simp [h]

/-- Two lists in key order are the same if the same is found in them. -/
theorem eq_of_find?_eq :
    ∀ {l l' : List (κ × ν)}, l.Pairwise (fun a b => compare a.1 b.1 = .lt) →
      l'.Pairwise (fun a b => compare a.1 b.1 = .lt) →
      (∀ k, find? k l = find? k l') → l = l'
  | [], [], _, _, _ => rfl
  | [], e' :: rest', _, h', hk => by
    have := find?_of_mem h' (List.mem_cons_self (a := e') (l := rest'))
    rw [← hk] at this
    cases this
  | e :: rest, [], h, _, hk => by
    have := find?_of_mem h (List.mem_cons_self (a := e) (l := rest))
    rw [hk] at this
    cases this
  | e :: rest, e' :: rest', h, h', hk => by
    have hh := List.pairwise_cons.1 h
    have hh' := List.pairwise_cons.1 h'
    have hmem : e ∈ e' :: rest' :=
      mem_of_find? (hk e.1 ▸ find?_of_mem h (List.mem_cons_self (a := e) (l := rest)))
    have hmem' : e' ∈ e :: rest :=
      mem_of_find? ((hk e'.1).symm ▸ find?_of_mem h' (List.mem_cons_self (a := e') (l := rest')))
    have he : e = e' := by
      rcases List.mem_cons.1 hmem with h1 | h1
      · exact h1
      · rcases List.mem_cons.1 hmem' with h2 | h2
        · exact h2.symm
        · have hlt := hh'.1 _ h1
          have hlt' := hh.1 _ h2
          have hgt := Std.OrientedCmp.gt_iff_lt.2 hlt'
          rw [hlt] at hgt
          cases hgt
    subst he
    congr 1
    refine eq_of_find?_eq hh.2 hh'.2 fun k => ?_
    have := hk k
    by_cases hc : compare k e.1 = .eq
    · have hke : k = e.1 := Std.LawfulEqCmp.eq_of_compare hc
      subst hke
      rw [find?_eq_none_of_lt hh.1, find?_eq_none_of_lt hh'.1]
    · simpa [find?, hc] using this

/-- Two maps with the same look-ups are equal. -/
theorem ext_get? {m m' : OrderedMap κ ν} (h : ∀ k, m.get? k = m'.get? k) : m = m' := by
  have := eq_of_find?_eq m.ascending m'.ascending h
  cases m
  cases m'
  congr

end FolderGrants.OrderedMap
