import FolderGrants.Desired.Emission

/-!
# The inheritance relation

Which template reaches which namespace on behalf of which folder, said
without a walk: a node is reached from the root along a *path*, the list of
the nodes above it.  The folder of the node gets its own templates and the
propagating templates of the folders on the path; nodes without a folder
contribute nothing.  A folder that no node names gets its own templates.

* `Node.Path` — the paths of a hierarchy;
* `Spec.Emits` — the relation;
* `Spec.mem_emissions_iff` — the walk lists exactly the related triples.
-/

namespace FolderGrants

/-- `top.Path above n`: going down from `top` through the nodes `above`, of
which `top` is the first, leads to `n`. -/
inductive Node.Path : Node → List Node → Node → Prop
  | here (n : Node) : Path n [] n
  | down {top child n : Node} {above : List Node}
      (hchild : child ∈ top.subfolders) (tail : Path child above n) :
      Path top (top :: above) n

namespace Node

/-- A path either ends at the top or goes on below it. -/
theorem path_iff {top n : Node} {above : List Node} :
    top.Path above n ↔ above = [] ∧ n = top ∨
      ∃ child ∈ top.subfolders, ∃ rest, above = top :: rest ∧ child.Path rest n := by
  constructor
  · intro h
    cases h with
    | here => exact .inl ⟨rfl, rfl⟩
    | down hchild tail => exact .inr ⟨_, hchild, _, rfl, tail⟩
  · intro h
    rcases h with ⟨rfl, rfl⟩ | ⟨child, hchild, rest, rfl, tail⟩
    · exact .here n
    · exact .down hchild tail

mutual

/-- The names of a hierarchy are the names at the ends of its paths. -/
theorem mem_names_iff {name : String} :
    ∀ {top : Node}, name ∈ top.names ↔ ∃ above n, top.Path above n ∧ n.name = name
  | ⟨topName, subfolders⟩ => by
      rw [Node.names, List.mem_cons, mem_namesOf_iff]
      constructor
      · intro h
        rcases h with rfl | ⟨child, hchild, above, n, hpath, hname⟩
        · exact ⟨[], _, .here _, rfl⟩
        · exact ⟨_, n, .down hchild hpath, hname⟩
      · intro h
        obtain ⟨above, n, hpath, hname⟩ := h
        rcases path_iff.1 hpath with ⟨rfl, rfl⟩ | ⟨child, hchild, rest, rfl, tail⟩
        · exact .inl hname.symm
        · exact .inr ⟨child, hchild, rest, n, tail, hname⟩

/-- The names below some nodes are those of the nodes that a path leads to. -/
theorem mem_namesOf_iff {name : String} :
    ∀ {nodes : List Node},
      name ∈ Node.namesOf nodes ↔
        ∃ top ∈ nodes, ∃ above n, top.Path above n ∧ n.name = name
  | [] => by simp [Node.namesOf]
  | top :: rest => by
      rw [Node.namesOf, List.mem_append, mem_names_iff, mem_namesOf_iff]
      simp only [List.mem_cons, exists_eq_or_imp]

end

end Node

/-- What a folder emits is what it names: every given template, in every one
of its namespaces. -/
theorem Folder.mem_emit_iff {f : Folder} {templates : List Template} {e : Emission} :
    e ∈ f.emit templates ↔
      e.folder = f.name ∧ e.template ∈ templates ∧ e.ns ∈ f.namespaces := by
  simp only [Folder.emit, List.mem_flatMap, List.mem_map]
  constructor
  · intro h
    obtain ⟨ns, hns, t, ht, rfl⟩ := h
    exact ⟨rfl, ht, hns⟩
  · intro h
    obtain ⟨hfolder, ht, hns⟩ := h
    exact ⟨e.ns, hns, e.template, ht, by rw [← hfolder]⟩

namespace Spec

/-- A folder that is found is listed, and has the name it is looked up by. -/
theorem folder?_eq_some {s : Spec} {f : Folder} {name : String} (h : s.folder? name = some f) :
    f ∈ s.folders ∧ f.name = name := by
  have hmem := List.mem_of_getLast? h
  simpa using hmem

/-- The templates that the folders of some nodes hand down. -/
def handedDown (s : Spec) (above : List Node) : List Template :=
  above.flatMap fun v => ((s.folder? v.name).map Folder.handedDown).getD []

/-- A template is handed down by a path if it propagates and belongs to the
folder of one of the nodes. -/
theorem mem_handedDown_iff {s : Spec} {above : List Node} {t : Template} :
    t ∈ s.handedDown above ↔
      ∃ v ∈ above, ∃ g, s.folder? v.name = some g ∧ t ∈ g.templates ∧ t.propagate = some true := by
  simp only [handedDown, List.mem_flatMap]
  refine exists_congr fun v => and_congr_right fun _ => ?_
  cases s.folder? v.name with
  | none => simp
  | some g =>
      simp [Folder.handedDown, Template.propagates, Option.getD_eq_iff]

mutual

/-- The walk over a node lists what the folders at the ends of its paths emit:
what the node inherits, what the path hands down, and what is their own. -/
theorem mem_emissionsAt_iff (s : Spec) {e : Emission} :
    ∀ {inherited : List Template} {top : Node},
      e ∈ s.emissionsAt inherited top ↔
        ∃ above n f, top.Path above n ∧ s.folder? n.name = some f ∧
          e ∈ f.emit (inherited ++ s.handedDown above ++ f.templates)
  | inherited, ⟨name, subfolders⟩ => by
      rw [emissionsAt]
      cases hf : s.folder? name with
      | none =>
          simp only
          rw [mem_emissionsBelow_iff]
          constructor
          · intro h
            obtain ⟨child, hchild, above, n, f, hpath, hn, he⟩ := h
            refine ⟨_, n, f, .down hchild hpath, hn, ?_⟩
            simpa [handedDown, hf] using he
          · intro h
            obtain ⟨above, n, f, hpath, hn, he⟩ := h
            rcases Node.path_iff.1 hpath with ⟨rfl, rfl⟩ | ⟨child, hchild, rest, rfl, tail⟩
            · simp [hf] at hn
            · refine ⟨child, hchild, rest, n, f, tail, hn, ?_⟩
              simpa [handedDown, hf] using he
      | some g =>
          simp only
          rw [List.mem_append, mem_emissionsBelow_iff]
          constructor
          · intro h
            rcases h with he | ⟨child, hchild, above, n, f, hpath, hn, he⟩
            · exact ⟨[], _, g, .here _, hf, by simpa [handedDown] using he⟩
            · refine ⟨_, n, f, .down hchild hpath, hn, ?_⟩
              simpa [handedDown, hf] using he
          · intro h
            obtain ⟨above, n, f, hpath, hn, he⟩ := h
            rcases Node.path_iff.1 hpath with ⟨rfl, rfl⟩ | ⟨child, hchild, rest, rfl, tail⟩
            · left
              obtain rfl : g = f := Option.some.inj (hf.symm.trans hn)
              simpa [handedDown] using he
            · right
              refine ⟨child, hchild, rest, n, f, tail, hn, ?_⟩
              simpa [handedDown, hf] using he

/-- What is emitted below some nodes is emitted by the folder of a node that a path leads
to. -/
theorem mem_emissionsBelow_iff (s : Spec) {e : Emission} :
    ∀ {inherited : List Template} {nodes : List Node},
      e ∈ s.emissionsBelow inherited nodes ↔
        ∃ top ∈ nodes, ∃ above n f, top.Path above n ∧ s.folder? n.name = some f ∧
          e ∈ f.emit (inherited ++ s.handedDown above ++ f.templates)
  | _, [] => by simp [emissionsBelow]
  | inherited, top :: rest => by
      rw [emissionsBelow, List.mem_append, mem_emissionsAt_iff, mem_emissionsBelow_iff]
      simp only [List.mem_cons, exists_eq_or_imp]

end

/-- `s.Emits f t ns`: the folder `f` asks for the template `t` in `ns`. -/
inductive Emits (s : Spec) : Folder → Template → String → Prop
  /-- A folder of a node, for one of its own templates or one that a folder
  above hands down. -/
  | placed {root n : Node} {above : List Node} {f : Folder} {t : Template} {ns : String}
      (hroot : s.root = some root) (hpath : root.Path above n)
      (hfolder : s.folder? n.name = some f)
      (htemplate : t ∈ f.templates ∨
        ∃ v ∈ above, ∃ g, s.folder? v.name = some g ∧ t ∈ g.templates ∧ t.propagate = some true)
      (hns : ns ∈ f.namespaces) : Emits s f t ns
  /-- A folder that no node names, for one of its own templates. -/
  | standalone {f : Folder} {t : Template} {ns : String} (hfolder : f ∈ s.folders)
      (hunnamed : ∀ root above n, s.root = some root → root.Path above n → n.name ≠ f.name)
      (htemplate : t ∈ f.templates) (hns : ns ∈ f.namespaces) : Emits s f t ns

/-- The standalone folders are those whose name stands at the end of no path. -/
theorem mem_standalone_iff {s : Spec} {f : Folder} :
    f ∈ s.standalone ↔ f ∈ s.folders ∧
      ∀ root above n, s.root = some root → root.Path above n → n.name ≠ f.name := by
  simp only [standalone, List.mem_filter, Bool.not_eq_true', List.contains_eq_mem,
    decide_eq_false_iff_not]
  refine and_congr_right fun _ => ?_
  unfold nodeNames
  cases s.root with
  | none => simp
  | some root =>
      simp only [Node.mem_names_iff, not_exists, not_and, Option.some.injEq]
      constructor
      · intro h root' above n hroot hpath
        obtain rfl := hroot
        exact h above n hpath
      · intro h above n hpath
        exact h root above n rfl hpath

/-- **The walk computes the inheritance relation.**  A demand is listed exactly
if a folder of its name emits its template into its namespace. -/
theorem mem_emissions_iff {s : Spec} {e : Emission} :
    e ∈ s.emissions ↔ ∃ f, s.Emits f e.template e.ns ∧ e.folder = f.name := by
  rw [emissions, List.mem_append, List.mem_flatMap]
  constructor
  · intro h
    rcases h with he | ⟨f, hf, he⟩
    · cases hroot : s.root with
      | none => simp [hroot] at he
      | some root =>
          rw [hroot] at he
          obtain ⟨above, n, f, hpath, hfolder, he⟩ := (mem_emissionsAt_iff s).1 he
          obtain ⟨hname, ht, hns⟩ := Folder.mem_emit_iff.1 he
          refine ⟨f, .placed hroot hpath hfolder ?_ hns, hname⟩
          rcases List.mem_append.1 ht with ht | ht
          · exact .inr (mem_handedDown_iff.1 (by simpa using ht))
          · exact .inl ht
    · obtain ⟨hname, ht, hns⟩ := Folder.mem_emit_iff.1 he
      obtain ⟨hfolder, hunnamed⟩ := mem_standalone_iff.1 hf
      exact ⟨f, .standalone hfolder hunnamed ht hns, hname⟩
  · intro h
    obtain ⟨f, hemits, hname⟩ := h
    cases hemits with
    | placed hroot hpath hfolder htemplate hns =>
        left
        rw [hroot]
        refine (mem_emissionsAt_iff s).2 ⟨_, _, f, hpath, hfolder, ?_⟩
        refine Folder.mem_emit_iff.2 ⟨hname, ?_, hns⟩
        rcases htemplate with ht | ht
        · exact List.mem_append_right _ ht
        · exact List.mem_append_left _ (by simpa using mem_handedDown_iff.2 ht)
    | standalone hfolder hunnamed ht hns =>
        right
        exact ⟨f, mem_standalone_iff.2 ⟨hfolder, hunnamed⟩,
          Folder.mem_emit_iff.2 ⟨hname, ht, hns⟩⟩

end Spec

end FolderGrants
