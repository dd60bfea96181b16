import FolderGrants.Proofs.MapLookup
import FolderGrants.Proofs.RecordReading
import FolderGrants.Tree.Wire

/-!
# Reading what has been settled

A value is settled before a tree is read of it at a review: the members of all objects are
put in the order of their names, and of a repeated name the last one counts.  Nothing that
could be read is lost or changed by that.  A record looks only at the fields that it knows,
and a repeated field is refused, so that each field stands there once or not at all, and
its value is the one that is settled.

The number of levels that are allowed for nodes hangs on the depth of the value, and a
settled value may be less deep than it was; so two decoders are compared, and only on
values less deep than a bound.

* `Json.valuesOf_settled` — what stands under a name in the settled object;
* `Decoder.Settles.declared`, `Record.Settles.seq`, `Record.settles_required` — records and
  their fields;
* `Node.decodeWithin_settles` — nodes, whatever the levels allowed;
* `Spec.ofJson_settled` — a specification that is read of a value is read of it settled.
-/

namespace FolderGrants

namespace Json

/-- The items of an array are settled one by one. -/
theorem settledItems_eq_map (l : List Json) : settledItems l = l.map settled := by
  induction l with
  | nil => rfl
  | cons j rest ih => rw [settledItems, ih, List.map_cons]

/-- A member is placed as in a map. -/
theorem placeMember_eq_place (name : String) (j : Json) (ms : List (String × Json)) :
    placeMember name j ms = OrderedMap.place name j ms := by
  induction ms with
  | nil => rfl
  | cons m rest ih =>
      cases hcompare : compare name m.1 <;>
        simp [placeMember, OrderedMap.place, hcompare, ih]

/-- Settling members is entering them into a map, one by one. -/
theorem settledMembers_entries (ms : List (String × Json)) (m : OrderedMap String Json) :
    settledMembers ms m.entries =
      ((ms.map fun e => (e.1, e.2.settled)).foldl (fun m e => m.insert e.1 e.2) m).entries := by
  induction ms generalizing m with
  | nil => rfl
  | cons e rest ih =>
      rw [settledMembers, placeMember_eq_place, List.map_cons, List.foldl_cons, ← ih]
      rfl

/-- A settled object lists its settled members as a map does. -/
theorem settled_obj (ms : List (String × Json)) :
    (obj ms).settled = obj (OrderedMap.ofList (ms.map fun e => (e.1, e.2.settled))).entries := by
  rw [settled, OrderedMap.ofList, ← settledMembers_entries]
  rfl

/-- The first of the values of a name is what is found under it. -/
theorem find?_eq_head?_valuesOf (name : String) (ms : List (String × Json)) :
    OrderedMap.find? name ms = (valuesOf name ms).head? := by
  induction ms with
  | nil => rfl
  | cons m rest ih =>
      by_cases h : m.1 = name
      · simp [OrderedMap.find?, h, Std.ReflCmp.compare_self]
      · have hne : compare name m.1 ≠ .eq := fun heq => h (Std.LawfulEqCmp.eq_of_compare heq).symm
        simp [OrderedMap.find?, h, hne, ih]

/-- A map shows one value of a name, if any. -/
theorem valuesOf_entries (name : String) (m : OrderedMap String Json) :
    valuesOf name m.entries = (m.get? name).toList := by
  cases hget : m.get? name with
  | none =>
      rw [OrderedMap.get?, find?_eq_head?_valuesOf, List.head?_eq_none_iff] at hget
      exact hget
  | some j =>
      obtain ⟨before, after, hentries, hother⟩ := OrderedMap.entries_split hget
      have hbefore : valuesOf name before = [] := by
        simpa [valuesOf] using fun n j h => hother (n, j) (List.mem_append_left _ h)
      have hafter : valuesOf name after = [] := by
        simpa [valuesOf] using fun n j h => hother (n, j) (List.mem_append_right _ h)
      simp [hentries, hbefore, hafter]

/-- Of the values of a name the last one is settled. -/
theorem valuesOf_settled (name : String) (ms : List (String × Json)) :
    valuesOf name (OrderedMap.ofList (ms.map fun e => (e.1, e.2.settled))).entries =
      ((valuesOf name ms).getLast?.map settled).toList := by
  have hvalues : valuesOf name (ms.map fun e => (e.1, e.2.settled)).reverse =
      ((valuesOf name ms).map settled).reverse := by
    simp only [valuesOf, List.filter_reverse, List.filter_map, List.map_reverse, List.map_map]
    rfl
  rw [valuesOf_entries, OrderedMap.get?_ofList, find?_eq_head?_valuesOf, hvalues,
    List.head?_reverse, List.getLast?_map]

end Json

variable {α β : Type}

/-- What `d` reads of a value, `d'` reads of it settled, as long as that has fewer levels
than `bound`. -/
def Decoder.Settles (d d' : Decoder α) (bound : Nat) : Prop :=
  ∀ j a, j.settled.depth < bound → d.ofJson j = .ok a → d'.ofJson j.settled = .ok a

/-- Some fields show what others show, settled: a value where one stands once, or nothing. -/
structure Fields.SettledFrom (fs fs' : Fields) (bound : Nat) : Prop where
  strict : fs.refusesRepeats = true
  strict' : fs'.refusesRepeats = true
  absent : ∀ name, fs.valuesOf name = [] → fs'.valuesOf name = []
  present : ∀ name j, fs.valuesOf name = [j] → fs'.valuesOf name = [j.settled]
  below : ∀ name j, j ∈ fs'.valuesOf name → j.depth < bound

/-- What `r` reads of some fields, `r'` reads of them settled. -/
def Record.Settles (r r' : Record α) (bound : Nat) : Prop :=
  ∀ fs fs' a, Fields.SettledFrom fs fs' bound → r.read fs = .done a → r'.read fs' = .done a

namespace Fields

/-- The members of an object, settled, show what they show. -/
theorem settledFrom_ofMembers (ms : List (String × Json)) :
    ∃ ms', (Json.obj ms).settled = .obj ms' ∧
      SettledFrom (ofMembers ms true) (ofMembers ms' true) (Json.obj ms').depth := by
  refine ⟨_, Json.settled_obj ms, rfl, rfl, fun name h => ?_, fun name j h => ?_,
    fun name j h => ?_⟩
  · rw [valuesOf_ofMembers] at h ⊢
    rw [Json.valuesOf_settled, h]
    rfl
  · rw [valuesOf_ofMembers] at h ⊢
    rw [Json.valuesOf_settled, h]
    rfl
  · rw [valuesOf_ofMembers] at h
    exact Json.depth_lt_of_mem_obj (Json.mem_of_mem_valuesOf h)

/-- So do the items of an array. -/
theorem settledFrom_ofItems (names : List String) (record : String) (l : List Json) :
    SettledFrom (ofItems names record l) (ofItems names record (l.map Json.settled))
      (Json.arr (l.map Json.settled)).depth := by
  have hvalues : ∀ name, (ofItems names record (l.map Json.settled)).valuesOf name =
      ((ofItems names record l).valuesOf name).map Json.settled := by
    intro name
    rw [valuesOf_ofItems, valuesOf_ofItems, List.getElem?_map]
    cases l[names.idxOf name]? <;> rfl
  refine ⟨rfl, rfl, fun name h => ?_, fun name j h => ?_, fun name j h => ?_⟩
  · rw [hvalues, h, List.map_nil]
  · rw [hvalues, h, List.map_singleton]
  · rw [valuesOf_ofItems, Option.mem_toList] at h
    exact Json.depth_lt_of_mem_arr (List.mem_of_getElem? h)

theorem SettledFrom.mono {fs fs' : Fields} {bound bound' : Nat} (h : SettledFrom fs fs' bound)
    (hle : bound ≤ bound') : SettledFrom fs fs' bound' :=
  ⟨h.strict, h.strict', h.absent, h.present,
    fun name j hj => Nat.lt_of_lt_of_le (h.below name j hj) hle⟩

/-- What is read of the one value of a field is read of it settled. -/
theorem SettledFrom.ofJson {fs fs' : Fields} {bound : Nat} {name : String} {d d' : Decoder α}
    {j : Json} {a : α} (h : SettledFrom fs fs' bound) (hd : d.Settles d' bound)
    (hvalues : fs.valuesOf name = [j]) (hread : d.ofJson j = .ok a) :
    fs'.valuesOf name = [j.settled] ∧ d'.ofJson j.settled = .ok a := by
  have hvalues' := h.present name j hvalues
  exact ⟨hvalues', hd j a (h.below name _ (hvalues' ▸ List.mem_singleton_self _)) hread⟩

end Fields

namespace Decoder

variable {d d' : Decoder α} {bound : Nat}

/-- A text is read of itself settled. -/
theorem text_settles (bound : Nat) : text.Settles text bound := by
  intro j s _ h
  obtain rfl := text_ofJson_iff.1 h
  rfl

theorem bool_settles (bound : Nat) : bool.Settles bool bound := by
  intro j b _ h
  obtain rfl := bool_ofJson_iff.1 h
  rfl

/-- A list is read of it settled if its items are. -/
theorem Settles.list (h : d.Settles d' bound) : (list d).Settles (list d') bound := by
  intro j as hbound hread
  obtain ⟨l, rfl, hitems⟩ := list_ofJson_iff.1 hread
  rw [Json.settled, Json.settledItems_eq_map] at hbound ⊢
  rw [list_ofJson_arr_iff, List.forall₂_map_left_iff]
  rw [List.forall₂_iff_zip] at hitems ⊢
  refine ⟨hitems.1, fun {i a} hmem => h i a (Nat.lt_trans ?_ hbound) (hitems.2 hmem)⟩
  exact Json.depth_lt_of_mem_arr (List.mem_map_of_mem (List.of_mem_zip hmem).1)

/-- To allow for `null` makes no difference to that. -/
theorem Settles.nullable (h : d.Settles d' bound) : (nullable d).Settles (nullable d') bound := by
  intro j o hbound hread
  rcases nullable_ofJson_iff.1 hread with ⟨rfl, rfl⟩ | ⟨hne, a, ha, rfl⟩
  · rfl
  · have hne' : j.settled ≠ .null := by
      cases j <;> simp_all [Json.settled]
    exact nullable_ofJson_iff.2 (.inr ⟨hne', a, h j a hbound ha, rfl⟩)

/-- A record is read of a value settled if its fields are. -/
theorem Settles.declared {r r' : Record α} (h : r.Settles r' bound)
    (hnames : r'.names = r.names) (record : String) :
    (declared record r).Settles (declared record r') (bound + 1) := by
  intro j a hbound hread
  cases j with
  | obj ms =>
      obtain ⟨ms', hsettled, hfields⟩ := Fields.settledFrom_ofMembers ms
      rw [hsettled] at hbound ⊢
      exact declared_ofJson_obj_iff.2
        (h _ _ a (hfields.mono (Nat.le_of_lt_succ hbound)) (declared_ofJson_obj_iff.1 hread))
  | arr l =>
      rw [Json.settled, Json.settledItems_eq_map] at hbound ⊢
      obtain ⟨hdone, hlength⟩ := declared_ofJson_arr_iff.1 hread
      have hcount : r'.fields.length = r.fields.length := by
        simpa [Record.names] using congrArg List.length hnames
      have hfields := Fields.settledFrom_ofItems r.names record l
      refine declared_ofJson_arr_iff.2 ⟨?_, by simpa [hcount] using hlength⟩
      rw [hnames]
      exact h _ _ a (hfields.mono (Nat.le_of_lt_succ hbound)) hdone
  | _ => cases hread

end Decoder

namespace Record

variable {f f' : Record (α → β)} {r r' : Record α} {name : String} {d d' : Decoder α}
variable {bound : Nat}

/-- What is made of the values makes no difference to whether they are read. -/
theorem Settles.map (h : r.Settles r' bound) (g : α → β) : (g <$> r).Settles (g <$> r') bound := by
  intro fs fs' b hfs hread
  obtain ⟨a, ha, hb⟩ := Reading.map_eq_done_iff.1 hread
  exact Reading.map_eq_done_iff.2 ⟨a, h fs fs' a hfs ha, hb⟩

/-- Records that are put together are read settled if each of them is. -/
theorem Settles.seq (hf : f.Settles f' bound) (h : r.Settles r' bound) :
    (f <*> r).Settles (f' <*> r') bound := by
  intro fs fs' b hfs hread
  obtain ⟨g, a, hg, ha, hb⟩ := Reading.seq_eq_done_iff.1 hread
  exact Reading.seq_eq_done_iff.2 ⟨g, a, hf fs fs' g hfs hg, h fs fs' a hfs ha, hb⟩

/-- A field that has to be there is read settled if its value is. -/
theorem settles_required (h : d.Settles d' bound) (name : String) :
    (required name d).Settles (required name d') bound := by
  intro fs fs' a hfs hread
  obtain ⟨j, hvalues, hfits⟩ := (Fields.required_eq_done_iff hfs.strict).1 hread
  exact (Fields.required_eq_done_iff hfs.strict').2 ⟨_, hfs.ofJson h hvalues hfits⟩

theorem settles_withDefault (h : d.Settles d' bound) (name : String) (a₀ : α) :
    (withDefault name d a₀).Settles (withDefault name d' a₀) bound := by
  intro fs fs' a hfs hread
  refine (Fields.withDefault_eq_done_iff hfs.strict').2 ?_
  rcases (Fields.withDefault_eq_done_iff hfs.strict).1 hread with
    ⟨hnone, ha⟩ | ⟨j, hvalues, hfits⟩
  · exact .inl ⟨hfs.absent name hnone, ha⟩
  · exact .inr ⟨_, hfs.ofJson h hvalues hfits⟩

theorem settles_optional (h : d.Settles d' bound) (name : String) :
    (optional name d).Settles (optional name d') bound :=
  settles_withDefault h.nullable name none

end Record

/-- A record whose fields are read of values settled, however deep, is so itself. -/
theorem Decoder.declared_settles {r : Record α} (h : ∀ bound, r.Settles r bound)
    (record : String) (bound : Nat) :
    (declared record r).Settles (declared record r) bound :=
  fun j a _ => Settles.declared (h _) rfl record j a (Nat.lt_succ_self _)

open Record Decoder

/-- What is read as a subject is read so settled. -/
theorem Subject.decode_settles (bound : Nat) : Subject.decode.Settles Subject.decode bound :=
  declared_settles (fun bound =>
    ((((settles_required (text_settles bound) "kind").map Subject.mk).seq
      (settles_required (text_settles bound) "name")).seq
      (settles_optional (text_settles bound) "namespace")).seq
      (settles_optional (text_settles bound) "apiGroup")) "Subject" bound

/-- What is read as a role reference is read so settled. -/
theorem RoleRef.decode_settles (bound : Nat) : RoleRef.decode.Settles RoleRef.decode bound :=
  declared_settles (fun bound =>
    (((settles_required (text_settles bound) "apiGroup").map RoleRef.mk).seq
      (settles_required (text_settles bound) "kind")).seq
      (settles_required (text_settles bound) "name")) "RoleRef" bound

/-- What is read as a template is read so settled. -/
theorem Template.decode_settles (bound : Nat) :
    Template.decode.Settles Template.decode bound :=
  declared_settles (fun bound =>
    ((((settles_required (text_settles bound) "name").map Template.mk).seq
      (settles_withDefault (Subject.decode_settles bound).list "subjects" [])).seq
      (settles_required (RoleRef.decode_settles bound) "roleRef")).seq
      (settles_optional (bool_settles bound) "propagate")) "RoleBindingTemplate" bound

/-- What is read as a folder is read so settled. -/
theorem Folder.decode_settles (bound : Nat) : Folder.decode.Settles Folder.decode bound :=
  declared_settles (fun bound =>
    (((settles_required (text_settles bound) "name").map Folder.mk).seq
      (settles_withDefault (Template.decode_settles bound).list "roleBindingTemplates" [])).seq
      (settles_withDefault (text_settles bound).list "namespaces" [])) "Folder" bound

/-- Nodes that are read within some levels are read of the value settled within any number
of levels that holds it. -/
theorem Node.decodeWithin_settles (levels levels' : Nat) :
    (decodeWithin levels).Settles (decodeWithin levels') levels' := by
  induction levels generalizing levels' with
  | zero => exact fun j n _ h => by cases h
  | succ levels ih =>
      cases levels' with
      | zero => exact fun j n hbound _ => absurd hbound (Nat.not_lt_zero _)
      | succ levels' =>
          exact Settles.declared (((settles_required (text_settles levels') "name").map
            Node.mk).seq (settles_withDefault (ih levels').list "subfolders" [])) rfl "TreeNode"

/-- What is read as a node is read so settled. -/
theorem Node.decode_settles (bound : Nat) : Node.decode.Settles Node.decode bound :=
  fun j n _ h => decodeWithin_settles (j.depth + 1) _ j n (Nat.lt_succ_self _) h

/-- What is read as a specification is read so settled. -/
theorem Spec.decode_settles (bound : Nat) : Spec.decode.Settles Spec.decode bound :=
  declared_settles (fun bound =>
    ((settles_optional (Node.decode_settles bound) "tree").map Spec.mk).seq
      (settles_withDefault (Folder.decode_settles bound).list "folders" []))
    "FolderTreeSpec" bound

/-- A specification that is read of a value is read of it settled. -/
theorem Spec.ofJson_settled {j : Json} {s : Spec} (h : decode.ofJson j = .ok s) :
    decode.ofJson j.settled = .ok s :=
  decode_settles _ j s (Nat.lt_succ_self _) h

end FolderGrants
