import FolderGrants.Proofs.Covering

/-!
# Edits

A specification is edited in one place: one node of the hierarchy gives way to another
one, with all that is below it, or one entry of the folder list does.  If the name stays,
everything that looks nodes and folders up by name looks past the edit, or finds it at
the same name.

* `Node.Replaces`, `Spec.Replaces` — one node, or one entry, in the place of another;
* `Node.Replaces.route` — routes through and past the edited node;
* `Spec.Replaces.folder?_cases` — what is looked up before and after;
* `Spec.Replaces.embeds`, `Spec.embeds_of_nodes` — edits that only add.
-/

namespace FolderGrants

/-- `n'` stands in the hierarchy of `top'` where `n` stands in that of `top`; all else is
the same. -/
inductive Node.Replaces (n n' : Node) : Node → Node → Prop
  | here : Replaces n n' n n'
  | under {name : String} {before after : List Node} {child child' : Node}
      (inside : Replaces n n' child child') :
      Replaces n n' ⟨name, before ++ child :: after⟩ ⟨name, before ++ child' :: after⟩

namespace Node

variable {n n' top top' : Node}

theorem Replaces.symm (h : Replaces n n' top top') : Replaces n' n top' top := by
  induction h with
  | here => exact .here
  | under _ ih => exact .under ih

/-- A node that has all children of another one has its routes. -/
theorem route_of_subset {name : String} {children children' : List Node}
    (hsub : children ⊆ children') {above : List String} {last : String}
    (h : Route ⟨name, children⟩ above last) : Route ⟨name, children'⟩ above last := by
  rcases route_iff.1 h with hhere | ⟨child, hchild, hbelow⟩
  · exact route_iff.2 (.inl hhere)
  · exact route_iff.2 (.inr ⟨child, hsub hchild, hbelow⟩)

/-- If the new node has the name and the routes of the old one, no route is lost. -/
theorem Replaces.route (h : Replaces n n' top top') (hname : n.name = n'.name)
    (hroute : ∀ above name, n.Route above name → n'.Route above name) :
    top.name = top'.name ∧ ∀ above name, top.Route above name → top'.Route above name := by
  induction h with
  | here => exact ⟨hname, hroute⟩
  | @under topName before after child child' _ ih =>
      refine ⟨rfl, fun above name h => ?_⟩
      rcases route_iff.1 h with hhere | ⟨first, hfirst, rest, hrest, tail⟩
      · exact route_iff.2 (.inl hhere)
      · rcases List.mem_append.1 hfirst with hfirst | hfirst
        · exact route_iff.2 (.inr ⟨first, List.mem_append_left _ hfirst, rest, hrest, tail⟩)
        · rcases List.mem_cons.1 hfirst with rfl | hfirst
          · exact route_iff.2 (.inr ⟨child', by simp, rest, hrest, ih.2 _ _ tail⟩)
          · exact route_iff.2 (.inr ⟨first, by simp [hfirst], rest, hrest, tail⟩)

end Node

namespace Spec

variable {f f' : Folder} {s s' : Spec}

/-- The entry `f'` stands in the folder list of `s'` where `f` stands in that of `s`; all
else is the same. -/
inductive Replaces (f f' : Folder) : Spec → Spec → Prop
  | entry (root : Option Node) (before after : List Folder) :
      Replaces f f' ⟨root, before ++ f :: after⟩ ⟨root, before ++ f' :: after⟩

theorem Replaces.symm (h : Replaces f f' s s') : Replaces f' f s' s := by
  cases h with
  | entry root before after => exact .entry root before after

/-- The names of the entries are the same, in the same order. -/
theorem Replaces.names_eq (h : Replaces f f' s s') (hname : f.name = f'.name) :
    s.folders.map Folder.name = s'.folders.map Folder.name := by
  cases h with
  | entry root before after => simp [hname]

/-- Of two lists the second one is looked through first. -/
theorem folder?_append (root : Option Node) (l l' : List Folder) (name : String) :
    folder? ⟨root, l ++ l'⟩ name = (folder? ⟨root, l'⟩ name).or (folder? ⟨root, l⟩ name) := by
  simp only [folder?, List.filter_append, List.getLast?_append]

/-- The first folder is found if no other one has its name. -/
theorem folder?_cons (root : Option Node) (f : Folder) (l : List Folder) (name : String) :
    folder? ⟨root, f :: l⟩ name =
      (folder? ⟨root, l⟩ name).or (if f.name = name then some f else none) := by
  rw [← List.singleton_append, folder?_append]
  by_cases hf : f.name = name <;> simp [folder?, hf]

/-- Under a name that stays, the same folder is found, or the new entry in place of the
old one. -/
theorem Replaces.folder?_cases (h : Replaces f f' s s') (hname : f.name = f'.name)
    (name : String) :
    s.folder? name = s'.folder? name ∨ s.folder? name = some f ∧ s'.folder? name = some f' := by
  cases h with
  | entry root before after =>
      rw [folder?_append, folder?_append, folder?_cons, folder?_cons, ← hname]
      by_cases hf : f.name = name
      · rw [if_pos hf, if_pos hf]
        -- A later entry of the name hides the edited one.
        cases folder? ⟨root, after⟩ name with
        | none => exact .inr ⟨rfl, rfl⟩
        | some g => exact .inl rfl
      · rw [if_neg hf, if_neg hf]
        exact .inl rfl

/-- An entry that makes up for the old one loses nothing. -/
theorem Replaces.embeds (h : Replaces f f' s s') (hname : f.name = f'.name)
    (hcovered : f.CoveredBy f') : s.Embeds s' where
  routes above name hroute := by
    cases h with
    | entry root before after => exact hroute
  folders name g hg := by
    rcases h.folder?_cases hname name with hsame | ⟨hold, hnew⟩
    · exact ⟨g, hsame ▸ hg, .refl g⟩
    · obtain rfl := Option.some.inj (hold.symm.trans hg)
      exact ⟨f', hnew, hcovered⟩

/-- A node that has the name and the routes of the old one loses nothing. -/
theorem embeds_of_nodes {n n' root root' : Node} {folders : List Folder}
    (h : Node.Replaces n n' root root') (hname : n.name = n'.name)
    (hroute : ∀ above name, n.Route above name → n'.Route above name) :
    Embeds ⟨some root, folders⟩ ⟨some root', folders⟩ where
  routes above name hroot := by
    obtain ⟨top, htop, hleads⟩ := hroot
    obtain rfl := Option.some.inj htop
    exact ⟨root', rfl, (h.route hname hroute).2 above name hleads⟩
  folders _ g hg := ⟨g, hg, .refl g⟩

end Spec

end FolderGrants
