import FolderGrants.Proofs.Edits

/-!
# Templates that stay

A template that does not propagate is emitted by its own folder alone, into the
namespaces of that folder.  So if one entry of the folder list gets other templates of
this sort, or loses some, the walk still hands down the same templates in the same
order, and all that changes is what this one folder emits.  Seen from a namespace that
is not the folder's, the emissions stay what they were, one by one; and as the first
emission of a key makes its grant, so does the desired set.

* `Folder.SameButLocal` — two folders that hand down the same;
* `Spec.Replaces.emissions_outside` — the emissions into other namespaces;
* `FolderTree.local_templates_confined` — the grants in other namespaces.
-/

namespace FolderGrants

/-- Two folders differ in templates that stay with them at most: they have one name and
the same namespaces, and hand down the same templates in the same order. -/
structure Folder.SameButLocal (f f' : Folder) : Prop where
  name : f.name = f'.name
  namespaces : f.namespaces = f'.namespaces
  handedDown : f.handedDown = f'.handedDown

/-- Whether an emission goes into none of the namespaces. -/
def Emission.outside (namespaces : List String) (e : Emission) : Bool :=
  !namespaces.contains e.ns

/-- A folder emits into its own namespaces only. -/
theorem Folder.emit_outside (f : Folder) (templates : List Template) :
    (f.emit templates).filter (Emission.outside f.namespaces) = [] := by
  refine List.filter_eq_nil_iff.2 fun e he => ?_
  obtain ⟨-, -, hns⟩ := mem_emit_iff.1 he
  simpa [Emission.outside] using hns

namespace Spec

variable {s s' : Spec} {f f' : Folder}

mutual

/-- Where look-up finds the same folder, or the two that hand down the same, the walk
emits the same into other namespaces. -/
theorem emissionsAt_outside (hlocal : f.SameButLocal f')
    (hfind : ∀ name, s.folder? name = s'.folder? name ∨
      s.folder? name = some f ∧ s'.folder? name = some f') (inherited : List Template) :
    ∀ n : Node, (s.emissionsAt inherited n).filter (Emission.outside f.namespaces) =
      (s'.emissionsAt inherited n).filter (Emission.outside f.namespaces)
  | ⟨name, subfolders⟩ => by
      rw [emissionsAt, emissionsAt]
      rcases hfind name with hsame | ⟨hold, hnew⟩
      · rw [hsame]
        cases s'.folder? name with
        | none => exact emissionsBelow_outside hlocal hfind inherited subfolders
        | some g =>
            simp only [List.filter_append,
              emissionsBelow_outside hlocal hfind (inherited ++ g.handedDown) subfolders]
      · have hemit' := f'.emit_outside (inherited ++ f'.templates)
        rw [← hlocal.namespaces] at hemit'
        simp only [hold, hnew, List.filter_append, f.emit_outside, hemit', hlocal.handedDown,
          emissionsBelow_outside hlocal hfind (inherited ++ f'.handedDown) subfolders]

/-- The same goes for a list of nodes, one after the other. -/
theorem emissionsBelow_outside (hlocal : f.SameButLocal f')
    (hfind : ∀ name, s.folder? name = s'.folder? name ∨
      s.folder? name = some f ∧ s'.folder? name = some f') (inherited : List Template) :
    ∀ nodes : List Node,
      (s.emissionsBelow inherited nodes).filter (Emission.outside f.namespaces) =
        (s'.emissionsBelow inherited nodes).filter (Emission.outside f.namespaces)
  | [] => rfl
  | n :: rest => by
      simp only [emissionsBelow, List.filter_append, emissionsAt_outside hlocal hfind inherited n,
        emissionsBelow_outside hlocal hfind inherited rest]

end

/-- Standalone folders emit the same into other namespaces, too. -/
theorem Replaces.standalone_outside (h : Replaces f f' s s') (hlocal : f.SameButLocal f') :
    (s.standalone.flatMap fun g => g.emit g.templates).filter (Emission.outside f.namespaces) =
      (s'.standalone.flatMap fun g => g.emit g.templates).filter
        (Emission.outside f.namespaces) := by
  cases h with
  | entry root before after =>
      have hemit' := f'.emit_outside f'.templates
      rw [← hlocal.namespaces] at hemit'
      simp only [standalone, nodeNames, List.filter_append, List.filter_cons, List.flatMap_append,
        ← hlocal.name]
      split_ifs with hnamed
      · simp only [List.flatMap_cons, List.filter_append, f.emit_outside, hemit']
      · rfl

/-- **Into other namespaces the same is emitted, in the same order.** -/
theorem Replaces.emissions_outside (h : Replaces f f' s s') (hlocal : f.SameButLocal f') :
    s.emissions.filter (Emission.outside f.namespaces) =
      s'.emissions.filter (Emission.outside f.namespaces) := by
  have hroot : s.root = s'.root := by
    cases h with
    | entry root before after => rfl
  rw [emissions, emissions, List.filter_append, List.filter_append, h.standalone_outside hlocal,
    hroot]
  cases s'.root with
  | none => rfl
  | some root =>
      rw [emissionsAt_outside hlocal (h.folder?_cases hlocal.name) [] root]

end Spec

/-- What stands at a key only depends on the emissions into its namespace. -/
theorem DesiredSet.Collapses.get?_outside {b : Builder} {es : List Emission} {set : DesiredSet}
    (h : Collapses b es set) {namespaces : List String} {k : BindingKey}
    (hk : k.ns ∉ namespaces) :
    set.get? k = ((es.filter (Emission.outside namespaces)).find? fun e => e.key b = k).map
      (Emission.grant b) := by
  rw [h.get?_eq, List.find?_filter]
  congr 2
  funext e
  by_cases hkey : e.key b = k
  · have hns : e.ns = k.ns := congrArg BindingKey.ns hkey
    simp [hkey, Emission.outside, hns, hk]
  · simp [hkey]

namespace FolderTree

/-- **Templates that stay cannot reach other namespaces.**  If two trees differ in the
templates without propagation of one entry `f` of their folder lists, and both have
desired sets, then outside the namespaces of `f` these sets are the same: the same keys,
with the same folder, template and binding.  Repeated names of nodes and folders make no
difference, nor do namespaces that several folders share.  The builder stands for what
the trees have in common, their name and their owner. -/
theorem local_templates_confined {t t' : FolderTree} {f f' : Folder} {b : Builder}
    {set set' : DesiredSet} (hedit : Spec.Replaces f f' t.spec t'.spec)
    (hlocal : f.SameButLocal f') (hset : t.desired b = .ok set)
    (hset' : t'.desired b = .ok set') {k : BindingKey} (hk : k.ns ∉ f.namespaces) :
    set.get? k = set'.get? k := by
  rw [(desired_eq_ok_iff.1 hset).get?_outside hk, (desired_eq_ok_iff.1 hset').get?_outside hk,
    hedit.emissions_outside hlocal]

/-- The folder of a lab under audit by a user; the audit stays, what students may do is
handed down. -/
def auditedBy (user : String) : Folder where
  name := "lab"
  templates :=
    [⟨"audit", [.user user], .clusterRole "edit", none⟩,
      ⟨"view", [.group "students"], .clusterRole "view", some true⟩]
  namespaces := ["lab-ns"]

/-- A campus with the given folder for its lab.  The name of the lab is repeated, among
the nodes and among the folders, and two other folders share a namespace. -/
def campus (lab : Folder) : FolderTree where
  metadata := { name := some "campus" }
  spec :=
    ⟨some ⟨"lab", [⟨"annex", []⟩, ⟨"lab", []⟩]⟩,
      [{ name := "lab", namespaces := ["old-ns"] }] ++ lab ::
      [{ name := "annex", namespaces := ["annex-ns"] },
       { name := "desk"
         templates := [⟨"audit", [.user "eve"], .clusterRole "view", none⟩]
         namespaces := ["annex-ns"] }]⟩

/-- Builds the bindings of the campus. -/
def campusBuilder : Builder := ⟨"campus", none⟩

theorem local_templates_confined_campus :
    ∃ set set', (campus (auditedBy "ada")).desired campusBuilder = .ok set ∧
      (campus (auditedBy "bob")).desired campusBuilder = .ok set' ∧
      (set.get? ⟨"lab-ns", "foldertree-campus-audit"⟩).map (·.template.subjects) =
        some [.user "ada"] ∧
      (set'.get? ⟨"lab-ns", "foldertree-campus-audit"⟩).map (·.template.subjects) =
        some [.user "bob"] ∧
      (set.get? ⟨"annex-ns", "foldertree-campus-audit"⟩).map (·.folder) = some "desk" ∧
      set.get? ⟨"annex-ns", "foldertree-campus-audit"⟩ =
        set'.get? ⟨"annex-ns", "foldertree-campus-audit"⟩ := by
  have hedit : Spec.Replaces (auditedBy "ada") (auditedBy "bob") (campus (auditedBy "ada")).spec
      (campus (auditedBy "bob")).spec := .entry _ _ _
  have hlocal : (auditedBy "ada").SameButLocal (auditedBy "bob") := ⟨rfl, rfl, rfl⟩
  have houtside : "annex-ns" ∉ (auditedBy "ada").namespaces := by decide
  refine ⟨_, _, rfl, rfl, rfl, rfl, rfl, ?_⟩
  exact local_templates_confined (b := campusBuilder) hedit hlocal rfl rfl houtside

end FolderTree

end FolderGrants
