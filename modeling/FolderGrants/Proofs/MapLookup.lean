import FolderGrants.OrderedMap.Lemmas

/-!
# Look-up in maps made from lists and maps

The laws of `FolderGrants.OrderedMap.Lemmas` say what one insertion or one
removal does to look-up.  Here are the laws for the operations that put in many
entries at once, and what it means that no key is listed twice:

* `keys_nodup`, `key_ne_of_entries`, `entries_split` — a key has one entry;
* `get?_ofList` — of two entries with one key the later counts;
* `get?_ofList_eq_some_iff` — if the keys differ, look-up is membership;
* `ofList_entries` — a map is made again from its entries;
* `get?_union`, `union_eq_left_iff` — the second map goes over the first, and when it
  changes nothing;
* `get?_mapValues` — look-up, then the function.
-/

namespace FolderGrants.OrderedMap

variable {κ ν μ : Type} [Ord κ]

/-- A map contains the keys under which something is found. -/
theorem contains_iff {m : OrderedMap κ ν} {k : κ} :
    m.contains k = true ↔ ∃ v, m.get? k = some v := by
  simp only [contains, Option.isSome_iff_exists]

/-- Under the others nothing is found. -/
theorem contains_eq_false_iff {m : OrderedMap κ ν} {k : κ} :
    m.contains k = false ↔ m.get? k = none := by
  simp only [contains, Option.isSome_eq_false_iff, Option.isNone_iff_eq_none]

/-- In two lists together the first one is searched first. -/
theorem find?_append (k : κ) (l l' : List (κ × ν)) :
    find? k (l ++ l') = (find? k l).or (find? k l') := by
  induction l with
  | nil => simp [find?]
  | cons e rest ih =>
      by_cases h : compare k e.1 = .eq <;> simp [find?, h, ih]

variable [Std.TransOrd κ] [Std.LawfulEqOrd κ]

omit [Std.TransOrd κ] in
/-- No key is listed twice. -/
theorem keys_nodup (m : OrderedMap κ ν) : m.keys.Nodup := by
  rw [keys, List.Nodup, List.pairwise_map]
  refine m.ascending.imp ?_
  intro a b hlt heq
  have hself : compare b.1 b.1 = .eq := Std.ReflCmp.compare_self
  rw [heq, hself] at hlt
  cases hlt

omit [Std.TransOrd κ] in
/-- Around the entry of a key stand entries of other keys. -/
theorem key_ne_of_entries {m : OrderedMap κ ν} {k : κ} {v : ν} {before after : List (κ × ν)}
    (h : m.entries = before ++ (k, v) :: after) : ∀ e ∈ before ++ after, e.1 ≠ k := by
  have hnodup := m.keys_nodup
  rw [keys, h, List.map_append, List.map_cons] at hnodup
  have hfresh := (List.nodup_cons.1 (List.perm_middle.nodup_iff.1 hnodup)).1
  rw [← List.map_append] at hfresh
  exact fun e he hk => hfresh (List.mem_map.2 ⟨e, he, hk⟩)

omit [Std.TransOrd κ] in
/-- Every entry of a map is found under its key. -/
theorem get?_of_entries {m : OrderedMap κ ν} {k : κ} {v : ν} {before after : List (κ × ν)}
    (h : m.entries = before ++ (k, v) :: after) : m.get? k = some v :=
  mem_entries_iff.1 (h ▸ List.mem_append_right _ List.mem_cons_self)

omit [Std.TransOrd κ] in
/-- The entry of a key, and the entries of other keys around it. -/
theorem entries_split {m : OrderedMap κ ν} {k : κ} {v : ν} (h : m.get? k = some v) :
    ∃ before after, m.entries = before ++ (k, v) :: after ∧ ∀ e ∈ before ++ after, e.1 ≠ k := by
  obtain ⟨before, after, hentries⟩ := List.append_of_mem (mem_entries_iff.2 h)
  exact ⟨before, after, hentries, key_ne_of_entries hentries⟩

omit [Std.TransOrd κ] in
/-- In a list of distinct keys exactly the entries are found. -/
theorem find?_eq_some_iff_of_nodup {k : κ} {v : ν} {l : List (κ × ν)}
    (hnodup : (l.map (·.1)).Nodup) : find? k l = some v ↔ (k, v) ∈ l := by
  refine ⟨mem_of_find?, ?_⟩
  induction l with
  | nil => intro h; cases h
  | cons e rest ih =>
      intro h
      rw [List.map_cons, List.nodup_cons] at hnodup
      rcases List.mem_cons.1 h with rfl | hrest
      · simp [find?, Std.ReflCmp.compare_self]
      · have hne : compare k e.1 ≠ .eq := by
          intro heq
          have hk : k = e.1 := Std.LawfulEqCmp.eq_of_compare heq
          exact hnodup.1 (hk ▸ List.mem_map_of_mem hrest)
        simpa [find?, hne] using ih hnodup.2 hrest

omit [Std.TransOrd κ] in
@[simp] theorem get?_erase_self (m : OrderedMap κ ν) (k : κ) : (m.erase k).get? k = none := by
  rw [get?_erase, if_pos Std.ReflCmp.compare_self]

omit [Std.TransOrd κ] in
theorem get?_erase_of_ne (m : OrderedMap κ ν) {k k' : κ} (h : k' ≠ k) :
    (m.erase k).get? k' = m.get? k' := by
  have hne : compare k k' ≠ .eq := fun heq => h (Std.LawfulEqCmp.eq_of_compare heq).symm
  rw [get?_erase, if_neg hne]

/-- Look-up after inserting a list of entries one by one. -/
theorem get?_foldl_insert (l : List (κ × ν)) (m : OrderedMap κ ν) (k : κ) :
    (l.foldl (fun m e => m.insert e.1 e.2) m).get? k =
      (find? k l.reverse).or (m.get? k) := by
  induction l generalizing m with
  | nil => simp [find?]
  | cons e rest ih =>
      rw [List.foldl_cons, ih, get?_insert, List.reverse_cons, find?_append]
      by_cases h : compare k e.1 = .eq <;>
        cases find? k rest.reverse <;> simp [find?, h]

/-- Of two entries with one key the later counts. -/
theorem get?_ofList (l : List (κ × ν)) (k : κ) :
    (ofList l).get? k = find? k l.reverse := by
  rw [ofList, get?_foldl_insert, get?_empty, Option.or_none]

/-- What is found in a map that was made of a list is in the list. -/
theorem mem_of_get?_ofList {l : List (κ × ν)} {k : κ} {v : ν}
    (h : (ofList l).get? k = some v) : (k, v) ∈ l := by
  rw [get?_ofList] at h
  exact List.mem_reverse.1 (mem_of_find? h)

/-- If the keys of a list differ, look-up in its map is membership. -/
theorem get?_ofList_eq_some_iff {l : List (κ × ν)} (hnodup : (l.map (·.1)).Nodup)
    {k : κ} {v : ν} : (ofList l).get? k = some v ↔ (k, v) ∈ l := by
  have hrev : (l.reverse.map (·.1)).Nodup :=
    (l.reverse_perm.map _).nodup_iff.2 hnodup
  rw [get?_ofList, find?_eq_some_iff_of_nodup hrev, List.mem_reverse]

/-- A map is made again from its entries. -/
theorem ofList_entries (m : OrderedMap κ ν) : ofList m.entries = m := by
  apply ext_get?
  intro k
  apply Option.ext
  intro v
  rw [get?_ofList_eq_some_iff m.keys_nodup, mem_entries_iff]

/-- The second map goes over the first. -/
theorem get?_union (m other : OrderedMap κ ν) (k : κ) :
    (m.union other).get? k = (other.get? k).or (m.get? k) := by
  have hrev : (other.entries.reverse.map (·.1)).Nodup :=
    (other.entries.reverse_perm.map _).nodup_iff.2 other.keys_nodup
  have hfind : find? k other.entries.reverse = other.get? k := by
    apply Option.ext
    intro v
    rw [find?_eq_some_iff_of_nodup hrev, List.mem_reverse, mem_entries_iff]
  rw [union, get?_foldl_insert, hfind]

/-- A map goes over itself once. -/
theorem union_union_self (m other : OrderedMap κ ν) :
    (m.union other).union other = m.union other := by
  apply ext_get?
  intro k
  rw [get?_union, get?_union]
  cases other.get? k <;> rfl

/-- A map that holds all of another one stays what it is when that one goes over it, and
no other map does. -/
theorem union_eq_left_iff {m other : OrderedMap κ ν} :
    m.union other = m ↔ ∀ k v, other.get? k = some v → m.get? k = some v := by
  constructor
  · intro h k v hv
    rw [← h, get?_union, hv, Option.some_or]
  · intro h
    apply ext_get?
    intro k
    rw [get?_union]
    cases hother : other.get? k with
    | none => rw [Option.none_or]
    | some v => rw [Option.some_or, h k v hother]

omit [Std.TransOrd κ] in
/-- In a mapped map the values are found as they are mapped. -/
theorem get?_mapValues (m : OrderedMap κ ν) (f : κ → ν → μ) (k : κ) :
    (m.mapValues f).get? k = (m.get? k).map (f k) := by
  apply Option.ext
  intro v
  rw [← mem_entries_iff, Option.map_eq_some_iff]
  simp only [mapValues, List.mem_map, Prod.mk.injEq, Prod.exists]
  constructor
  · intro h
    obtain ⟨k', w, hmem, rfl, rfl⟩ := h
    exact ⟨w, mem_entries_iff.1 hmem, rfl⟩
  · intro h
    obtain ⟨w, hw, rfl⟩ := h
    exact ⟨k, w, mem_entries_iff.2 hw, rfl, rfl⟩

end FolderGrants.OrderedMap
