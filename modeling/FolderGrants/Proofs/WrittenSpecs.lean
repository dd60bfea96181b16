import FolderGrants.Proofs.RecordReading
import FolderGrants.Tree.Wire

/-!
# Specifications that are read back

What a specification is written as is read back as that specification.  Each record is
read back if its parts are: a field that is always shown stands there once, and one that
is left out is absent, which stands for just the value that is left out.  Nodes stand in
one another, so they are read back by induction on the levels that they are written in.
-/

namespace FolderGrants

variable {α β : Type}

/-- The decoder reads back what is written. -/
def Decoder.ReadsBack (d : Decoder α) (write : α → Json) : Prop :=
  ∀ a, d.ofJson (write a) = .ok a

/-- Texts are read back. -/
theorem Decoder.text_readsBack : Decoder.text.ReadsBack .str := fun _ => rfl

theorem Decoder.bool_readsBack : Decoder.bool.ReadsBack .bool := fun _ => rfl

/-- A list is read back if its items are. -/
theorem Decoder.list_ofJson_map {d : Decoder α} {write : α → Json} {l : List α}
    (h : ∀ a ∈ l, d.ofJson (write a) = .ok a) : (list d).ofJson (.arr (l.map write)) = .ok l := by
  rw [list_ofJson_arr_iff, List.forall₂_map_left_iff, List.forall₂_same]
  exact h

namespace Record

variable {r : Record α} {f : Record (α → β)} {g : α → β} {name : String} {d : Decoder α}
variable {write : α → Json} {ms : List (String × Json)} {a : α}

/-- The record is read from the members of an object. -/
def Reads (r : Record α) (ms : List (String × Json)) (a : α) : Prop :=
  r.read (.ofMembers ms true) = .done a

/-- What is made of the values is made of those that are read. -/
theorem Reads.map (h : r.Reads ms a) (g : α → β) : (g <$> r).Reads ms (g a) :=
  Reading.map_eq_done_iff.2 ⟨a, h, rfl⟩

/-- Records that are put together are read if each of them is. -/
theorem Reads.seq (hf : f.Reads ms g) (h : r.Reads ms a) : (f <*> r).Reads ms (g a) :=
  Reading.seq_eq_done_iff.2 ⟨g, a, hf, h, rfl⟩

/-- A field that is always shown. -/
theorem reads_required (write : α → Json) (h : Json.valuesOf name ms = [write a])
    (hd : d.ofJson (write a) = .ok a) : (required name d).Reads ms a := by
  refine (Fields.required_eq_done_iff rfl).2 ⟨write a, ?_, hd⟩
  rw [Fields.valuesOf_ofMembers, h]

/-- A field that is always shown, though it need not be. -/
theorem reads_withDefault {a₀ : α} (write : α → Json) (h : Json.valuesOf name ms = [write a])
    (hd : d.ofJson (write a) = .ok a) : (withDefault name d a₀).Reads ms a := by
  refine (Fields.withDefault_eq_done_iff rfl).2 (.inr ⟨write a, ?_, hd⟩)
  rw [Fields.valuesOf_ofMembers, h]

/-- A field that is left out where there is no value. -/
theorem reads_optional {o : Option α} (h : Json.valuesOf name ms = (o.map write).toList)
    (hd : d.ReadsBack write) (hnull : ∀ a, write a ≠ .null) : (optional name d).Reads ms o := by
  refine (Fields.withDefault_eq_done_iff rfl).2 ?_
  rw [Fields.valuesOf_ofMembers, h]
  cases o with
  | none => exact .inl ⟨rfl, rfl⟩
  | some a =>
      exact .inr ⟨write a, rfl, Decoder.nullable_ofJson_iff.2 (.inr ⟨hnull a, a, hd a, rfl⟩)⟩

/-- A field that is left out where the list is empty. -/
theorem reads_list {l : List α}
    (h : Json.valuesOf name ms = if l = [] then [] else [.arr (l.map write)])
    (hd : ∀ a ∈ l, d.ofJson (write a) = .ok a) : (withDefault name (.list d) []).Reads ms l := by
  refine (Fields.withDefault_eq_done_iff rfl).2 ?_
  rw [Fields.valuesOf_ofMembers, h]
  by_cases hempty : l = []
  · exact .inl ⟨if_pos hempty, hempty.symm⟩
  · exact .inr ⟨_, if_neg hempty, Decoder.list_ofJson_map hd⟩

end Record

open Record

/-- Subjects are read back. -/
theorem Subject.readsBack : Subject.decode.ReadsBack Subject.encode := by
  intro s
  refine Decoder.declared_ofJson_obj_iff.2 ?_
  refine (((Reads.map (a := s.kind) ?_ Subject.mk).seq (a := s.name) ?_).seq (a := s.ns) ?_).seq
    (a := s.apiGroup) ?_
  · exact reads_required .str (by simp) rfl
  · exact reads_required .str (by simp) rfl
  · exact reads_optional (by simp) Decoder.text_readsBack nofun
  · exact reads_optional (by simp) Decoder.text_readsBack nofun

/-- Role references are read back. -/
theorem RoleRef.readsBack : RoleRef.decode.ReadsBack RoleRef.encode := by
  intro r
  refine Decoder.declared_ofJson_obj_iff.2 ?_
  refine ((Reads.map (a := r.apiGroup) ?_ RoleRef.mk).seq (a := r.kind) ?_).seq (a := r.name) ?_
  · exact reads_required .str (by simp) rfl
  · exact reads_required .str (by simp) rfl
  · exact reads_required .str (by simp) rfl

/-- Templates are read back. -/
theorem Template.readsBack : Template.decode.ReadsBack Template.encode := by
  intro t
  refine Decoder.declared_ofJson_obj_iff.2 ?_
  refine (((Reads.map (a := t.name) ?_ Template.mk).seq (a := t.subjects) ?_).seq
    (a := t.roleRef) ?_).seq (a := t.propagate) ?_
  · exact reads_required .str (by simp) rfl
  · exact reads_withDefault (fun l => .arr (l.map Subject.encode)) (by simp)
      (Decoder.list_ofJson_map fun s _ => Subject.readsBack s)
  · exact reads_required RoleRef.encode (by simp) (RoleRef.readsBack t.roleRef)
  · exact reads_optional (by simp) Decoder.bool_readsBack nofun

/-- Folders are read back. -/
theorem Folder.readsBack : Folder.decode.ReadsBack Folder.encode := by
  intro f
  refine Decoder.declared_ofJson_obj_iff.2 ?_
  refine ((Reads.map (a := f.name) ?_ Folder.mk).seq (a := f.templates) ?_).seq
    (a := f.namespaces) ?_
  · exact reads_required .str (by simp) rfl
  · exact reads_list (by simp) fun t _ => Template.readsBack t
  · exact reads_list (by simp) fun ns _ => Decoder.text_readsBack ns

namespace Node

/-- Nodes are written one by one. -/
theorem encodeAll_eq_map (l : List Node) : encodeAll l = l.map encode := by
  induction l with
  | nil => rfl
  | cons n rest ih => rw [encodeAll, ih, List.map_cons]

/-- A node shows the nodes below it, if there are any. -/
theorem encode_eq (n : Node) :
    n.encode = .obj ([("name", .str n.name)] ++
      Json.unlessEmpty "subfolders" encode n.subfolders) := by
  obtain ⟨name, subfolders⟩ := n
  rw [encode, encodeAll_eq_map]
  cases subfolders <;> rfl

/-- A node stands deeper than the nodes below it. -/
theorem depth_encode_lt {n child : Node} (h : child ∈ n.subfolders) :
    child.encode.depth < n.encode.depth := by
  have hlist : child.encode.depth < (Json.arr (n.subfolders.map encode)).depth :=
    Json.depth_lt_of_mem_arr (List.mem_map_of_mem h)
  have hshown : ("subfolders", Json.arr (n.subfolders.map encode)) ∈
      Json.unlessEmpty "subfolders" encode n.subfolders := by
    simp [Json.unlessEmpty, List.ne_nil_of_mem h]
  have hmember : (Json.arr (n.subfolders.map encode)).depth < n.encode.depth := by
    rw [encode_eq]
    exact Json.depth_lt_of_mem_obj (List.mem_append_right _ hshown)
  exact Nat.lt_trans hlist hmember

/-- A node is read back by a decoder of as many levels as it has, or more. -/
theorem decodeWithin_encode {levels : Nat} {n : Node} (h : n.encode.depth ≤ levels) :
    (decodeWithin levels).ofJson n.encode = .ok n := by
  induction levels generalizing n with
  | zero =>
      rw [encode_eq] at h
      cases h
  | succ levels ih =>
      obtain ⟨name, subfolders⟩ := n
      rw [encode_eq]
      refine Decoder.declared_ofJson_obj_iff.2 ?_
      refine (Reads.map (a := name) ?_ Node.mk).seq (a := subfolders) ?_
      · exact reads_required .str (by simp) rfl
      · refine reads_list (by simp) fun child hchild => ih ?_
        exact Nat.le_of_lt_succ (Nat.lt_of_lt_of_le (depth_encode_lt hchild) h)

/-- Nodes are read back. -/
theorem readsBack : decode.ReadsBack encode := fun _ => decodeWithin_encode (Nat.le_succ _)

/-- A node is not written as `null`. -/
theorem encode_ne_null (n : Node) : n.encode ≠ .null := by
  rw [encode_eq]
  nofun

end Node

/-- Specifications are read back. -/
theorem Spec.readsBack : Spec.decode.ReadsBack Spec.encode := by
  intro s
  refine Decoder.declared_ofJson_obj_iff.2 ?_
  refine (Reads.map (a := s.root) ?_ Spec.mk).seq (a := s.folders) ?_
  · exact reads_optional (by simp) Node.readsBack Node.encode_ne_null
  · exact reads_list (by simp) fun f _ => Folder.readsBack f

end FolderGrants
