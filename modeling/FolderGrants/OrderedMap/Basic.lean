/-!
# Finite maps in key order

Bindings, labels, stored trees and namespaces are all kept in maps whose
listing order is visible: every report, every diff and every list answer
walks them from the smallest key to the largest.  The map is therefore a
list of entries whose keys strictly ascend, and carries the proof that they
do.

The laws that say what each operation does to look-up stand in
`FolderGrants.OrderedMap.Lemmas`.
-/

namespace FolderGrants

/-- A map from `κ` to `ν` listed by strictly ascending key. -/
structure OrderedMap (κ ν : Type) [Ord κ] where
  entries : List (κ × ν)
  ascending : entries.Pairwise fun a b => compare a.1 b.1 = .lt
  deriving DecidableEq

namespace OrderedMap

variable {κ ν : Type} [Ord κ]

/-- The map without entries. -/
def empty : OrderedMap κ ν := ⟨[], .nil⟩

instance : Inhabited (OrderedMap κ ν) := ⟨empty⟩

/-- The keys, ascending. -/
def keys (m : OrderedMap κ ν) : List κ := m.entries.map (·.1)

/-- The values, by ascending key. -/
def values (m : OrderedMap κ ν) : List ν := m.entries.map (·.2)

/-- The number of entries. -/
def size (m : OrderedMap κ ν) : Nat := m.entries.length

/-- Whether there is no entry. -/
def isEmpty (m : OrderedMap κ ν) : Bool := m.entries.isEmpty

/-- The value at `k` in a list of entries. -/
def find? (k : κ) : List (κ × ν) → Option ν
  | [] => none
  | e :: rest => if compare k e.1 = .eq then some e.2 else find? k rest

/-- The value at `k`. -/
def get? (m : OrderedMap κ ν) (k : κ) : Option ν := find? k m.entries

/-- Whether `k` is a key. -/
def contains (m : OrderedMap κ ν) (k : κ) : Bool := (m.get? k).isSome

/-- Puts `v` at `k` into an ascending list of entries. -/
def place (k : κ) (v : ν) : List (κ × ν) → List (κ × ν)
  | [] => [(k, v)]
  | e :: rest =>
    match compare k e.1 with
    | .lt => (k, v) :: e :: rest
    | .eq => (k, v) :: rest
    | .gt => e :: place k v rest

/-- Every entry of the outcome is the placed one or was there before. -/
theorem mem_place {k : κ} {v : ν} {x : κ × ν} :
    ∀ {l : List (κ × ν)}, x ∈ place k v l → x = (k, v) ∨ x ∈ l
  | [], h => by simpa [place] using h
  | e :: rest, h => by
    unfold place at h
    split at h
    · simpa using h
    · rcases List.mem_cons.1 h with h | h
      · exact .inl h
      · exact .inr (List.mem_cons_of_mem _ h)
    · rcases List.mem_cons.1 h with h | h
      · exact .inr (h ▸ List.mem_cons_self)
      · rcases mem_place h with h | h
        · exact .inl h
        · exact .inr (List.mem_cons_of_mem _ h)

variable [Std.TransOrd κ] [Std.LawfulEqOrd κ]

/-- Placing an entry keeps the keys ascending. -/
theorem place_ascending (k : κ) (v : ν) :
    ∀ {l : List (κ × ν)}, l.Pairwise (fun a b => compare a.1 b.1 = .lt) →
      (place k v l).Pairwise fun a b => compare a.1 b.1 = .lt
  | [], _ => by simp [place]
  | e :: rest, h => by
    have hhead := (List.pairwise_cons.1 h).1
    have htail := (List.pairwise_cons.1 h).2
    unfold place
    split
    · next hlt =>
      refine List.pairwise_cons.2 ⟨fun x hx => ?_, h⟩
      rcases List.mem_cons.1 hx with rfl | hx
      · exact hlt
      · exact Std.TransCmp.lt_trans hlt (hhead x hx)
    · next heq =>
      refine List.pairwise_cons.2 ⟨fun x hx => ?_, htail⟩
      have hke : k = e.1 := Std.LawfulEqCmp.eq_of_compare heq
      simpa [hke] using hhead x hx
    · next hgt =>
      refine List.pairwise_cons.2 ⟨fun x hx => ?_, place_ascending k v htail⟩
      rcases mem_place hx with rfl | hx
      · exact Std.OrientedCmp.gt_iff_lt.1 hgt
      · exact hhead x hx

/-- The map with `v` at `k`. -/
def insert (m : OrderedMap κ ν) (k : κ) (v : ν) : OrderedMap κ ν :=
  ⟨place k v m.entries, place_ascending k v m.ascending⟩

/-- The map of the given pairs; of two with one key the later counts. -/
def ofList (l : List (κ × ν)) : OrderedMap κ ν :=
  l.foldl (fun m e => m.insert e.1 e.2) empty

omit [Std.TransOrd κ] [Std.LawfulEqOrd κ] in
/-- The entries that satisfy `p`. -/
def filter (m : OrderedMap κ ν) (p : κ → ν → Bool) : OrderedMap κ ν :=
  ⟨m.entries.filter fun e => p e.1 e.2, m.ascending.filter _⟩

/-- The map without `k`. -/
def erase (m : OrderedMap κ ν) (k : κ) : OrderedMap κ ν :=
  m.filter fun k' _ => compare k k' ≠ .eq

/-- The first map with every entry of the second put over it. -/
def union (m other : OrderedMap κ ν) : OrderedMap κ ν :=
  other.entries.foldl (fun m e => m.insert e.1 e.2) m

/-- The map with every value sent through `f`. -/
def mapValues {μ : Type} (m : OrderedMap κ ν) (f : κ → ν → μ) : OrderedMap κ μ :=
  ⟨m.entries.map fun e => (e.1, f e.1 e.2), by
    simpa [List.pairwise_map] using m.ascending⟩

end OrderedMap

end FolderGrants
