import FolderGrants.Proofs.PrintedJson
import FolderGrants.Proofs.WrittenSpecs

/-!
# Specifications survive being printed

What a specification is printed as is a text that is read as that specification, if it has
no more than 127 levels, which is as far as a reader of texts goes.  A record is printed
with its fields in the order in which they are declared, so a reader finds each of them
once, and none that it does not know.

* `Record.Shows.takes` — a record whose members are fields in their order;
* `Spec.takes` — what a specification is written as is of the form that its reader wants;
* `Spec.ofText_print` — what is printed of a specification is read as it.
-/

namespace FolderGrants

variable {α β : Type}

/-- Every text is of the form that a reader of texts wants. -/
theorem Decoder.text_takes (s : String) : Decoder.text.form.Takes 3 (.str s) :=
  Json.Form.takes_text rfl

theorem Decoder.bool_takes (b : Bool) : Decoder.bool.form.Takes 3 (.bool b) :=
  Json.Form.takes_bool rfl

/-- A list is taken if its items are. -/
theorem Decoder.list_takes {d : Decoder α} {write : α → Json} {l : List α}
    (h : ∀ a ∈ l, d.form.Takes 3 (write a)) : (list d).form.Takes 3 (.arr (l.map write)) := by
  refine Json.Form.takes_list (List.forall_mem_map.2 fun a ha => ?_)
  exact (h a ha).mono (Nat.le_succ 3)

namespace Record

variable {r : Record α} {f : Record (α → β)} {name : String} {d : Decoder α} {j : Json}
variable {write : α → Json} {ms ms' : List (String × Json)}

/-- The members are fields of the record in their order. -/
def Shows (r : Record α) (ms : List (String × Json)) : Prop := Json.Form.Shown r.fields ms

/-- What is made of the values of a record does not matter to its members. -/
theorem Shows.map (h : r.Shows ms) (g : α → β) : (g <$> r).Shows ms := h

/-- Records that are put together show their members one after the other. -/
theorem Shows.seq (hf : f.Shows ms) (h : r.Shows ms') : (f <*> r).Shows (ms ++ ms') := hf.append h

/-- A record takes the members that it shows, if no field name occurs twice. -/
theorem Shows.takes (h : r.Shows ms) (hnames : r.names.Nodup) (record : String) :
    (Decoder.declared record r).form.Takes 3 (.obj ms) :=
  h.takes_declared hnames record

/-- A field that is always shown. -/
theorem shows_required (name : String) (h : d.form.Takes 3 j) :
    (required name d).Shows [(name, j)] :=
  .shown (h.mono (Nat.le_succ 3)) .nil

/-- A field that is always shown, though it need not be. -/
theorem shows_withDefault (name : String) (a₀ : α) (h : d.form.Takes 3 j) :
    (withDefault name d a₀).Shows [(name, j)] :=
  .shown (h.mono (Nat.le_succ 3)) .nil

/-- A field that is left out where there is no value. -/
theorem shows_optional (name : String) (o : Option α) (h : ∀ a ∈ o, d.form.Takes 3 (write a)) :
    (optional name d).Shows (Json.optional name write o) := by
  cases o with
  | none => exact .left nofun .nil
  | some a => exact .shown (h a rfl).nullable .nil

/-- A field that is left out where the list is empty. -/
theorem shows_list (name : String) (l : List α) (h : ∀ a ∈ l, d.form.Takes 3 (write a)) :
    (withDefault name (.list d) []).Shows (Json.unlessEmpty name write l) := by
  cases l with
  | nil => exact .left nofun .nil
  | cons a l => exact shows_withDefault name [] (Decoder.list_takes h)

end Record

open Record

/-- What a subject is written as is of the form that its reader wants. -/
theorem Subject.takes (s : Subject) : Subject.decode.form.Takes 3 s.encode := by
  have hshows := ((((shows_required "kind" (Decoder.text_takes s.kind)).map Subject.mk).seq
    (shows_required "name" (Decoder.text_takes s.name))).seq
    (shows_optional "namespace" s.ns fun ns _ => Decoder.text_takes ns)).seq
    (shows_optional "apiGroup" s.apiGroup fun group _ => Decoder.text_takes group)
  exact hshows.takes (by decide) "Subject"

/-- So is what a role reference is written as. -/
theorem RoleRef.takes (r : RoleRef) : RoleRef.decode.form.Takes 3 r.encode := by
  have hshows := (((shows_required "apiGroup" (Decoder.text_takes r.apiGroup)).map RoleRef.mk).seq
    (shows_required "kind" (Decoder.text_takes r.kind))).seq
    (shows_required "name" (Decoder.text_takes r.name))
  exact hshows.takes (by decide) "RoleRef"

/-- So is what a template is written as, since its subjects and its role reference are. -/
theorem Template.takes (t : Template) : Template.decode.form.Takes 3 t.encode := by
  have hsubjects := Decoder.list_takes fun s (_ : s ∈ t.subjects) => Subject.takes s
  have hshows := ((((shows_required "name" (Decoder.text_takes t.name)).map Template.mk).seq
    (shows_withDefault "subjects" [] hsubjects)).seq
    (shows_required "roleRef" (RoleRef.takes t.roleRef))).seq
    (shows_optional "propagate" t.propagate fun b _ => Decoder.bool_takes b)
  exact hshows.takes (by decide) "RoleBindingTemplate"

/-- So is what a folder is written as, since its templates are. -/
theorem Folder.takes (f : Folder) : Folder.decode.form.Takes 3 f.encode := by
  have hshows := (((shows_required "name" (Decoder.text_takes f.name)).map Folder.mk).seq
    (shows_list "roleBindingTemplates" f.templates fun t _ => Template.takes t)).seq
    (shows_list "namespaces" f.namespaces fun ns _ => Decoder.text_takes ns)
  exact hshows.takes (by decide) "Folder"

/-- A node is of the form of a decoder of as many levels as it has, or more. -/
theorem Node.takes_decodeWithin {levels : Nat} {n : Node} (h : n.encode.depth ≤ levels) :
    (decodeWithin levels).form.Takes 3 n.encode := by
  induction levels generalizing n with
  | zero =>
      rw [encode_eq] at h
      cases h
  | succ levels ih =>
      have hchildren : ∀ child ∈ n.subfolders,
          (decodeWithin levels).form.Takes 3 child.encode := fun child hchild =>
        ih (Nat.le_of_lt_succ (Nat.lt_of_lt_of_le (depth_encode_lt hchild) h))
      have hshows := ((shows_required "name" (Decoder.text_takes n.name)).map Node.mk).seq
        (shows_list "subfolders" n.subfolders hchildren)
      rw [encode_eq]
      exact hshows.takes (by decide : ["name", "subfolders"].Nodup) "TreeNode"

namespace Spec

/-- The node at the top has fewer levels than the whole specification. -/
theorem depth_encode_root_lt {s : Spec} {n : Node} (h : n ∈ s.root) :
    n.encode.depth < s.encode.depth := by
  have hshown : ("tree", n.encode) ∈ Json.optional "tree" Node.encode s.root := by
    rw [Option.mem_def.1 h]
    exact List.mem_cons_self
  exact Json.depth_lt_of_mem_obj (List.mem_append_left _ hshown)

/-- What a specification of no more than 127 levels is written as is of the form that its
reader wants. -/
theorem takes {s : Spec} (h : s.encode.depth < 128) : decode.form.Takes 3 s.encode := by
  have hroot : ∀ n ∈ s.root, Node.decode.form.Takes 3 n.encode := fun n hn =>
    Node.takes_decodeWithin (Nat.le_of_lt (Nat.lt_trans (depth_encode_root_lt hn) h))
  have hshows := ((shows_optional "tree" s.root hroot).map Spec.mk).seq
    (shows_list "folders" s.folders fun f _ => Folder.takes f)
  exact hshows.takes (by decide) "FolderTreeSpec"

/-- **A specification survives being printed.**  What a specification of no more than 127
levels is printed as is a text that is read, from end to end, as that specification. -/
theorem ofText_print {s : Spec} (h : s.encode.depth < 128) :
    decode.ofText s.encode.print = .ok s :=
  Decoder.ofText_print ((takes h).mono (Nat.le_succ 3)) h (readsBack s)

end Spec

end FolderGrants
