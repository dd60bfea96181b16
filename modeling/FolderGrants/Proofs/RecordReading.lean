import Mathlib.Data.List.Forall2
import FolderGrants.Json.Decoder

/-!
# When a record is read

A record is read if each of its fields is, and a field looks at nothing but the values
that stand under its name: there may be one, which has to fit, and if the field need not
be there, there may be none.  So it is enough to know which values stand under which
name, and whether the record is written as an object or as a list makes no difference.

* `Reading.seq_eq_done_iff`, `Reading.map_eq_done_iff` — fields are read for themselves;
* `Fields.required_eq_done_iff`, `Fields.withDefault_eq_done_iff` — what a field looks at;
* `Decoder.list_ofJson_arr_iff`, `Decoder.nullable_ofJson_iff` — lists and optional values;
* `Json.valuesOf_optional`, `Json.valuesOf_unlessEmpty` — what is written under a name.
-/

namespace FolderGrants

namespace Json

variable {α : Type}

/-- The values of the members of a name, in the order in which they stand. -/
def valuesOf (name : String) (ms : List (String × Json)) : List Json :=
  (ms.filter fun m => m.1 = name).map (·.2)

@[simp] theorem valuesOf_nil (name : String) : valuesOf name [] = [] := rfl

@[simp] theorem valuesOf_cons (name : String) (m : String × Json) (ms : List (String × Json)) :
    valuesOf name (m :: ms) = if m.1 = name then m.2 :: valuesOf name ms else valuesOf name ms := by
  by_cases h : m.1 = name <;> simp [valuesOf, h]

/-- In two lists of members a name has the values of the first and then those of the
second. -/
@[simp] theorem valuesOf_append (name : String) (ms ms' : List (String × Json)) :
    valuesOf name (ms ++ ms') = valuesOf name ms ++ valuesOf name ms' := by
  simp [valuesOf]

/-- A value that may be left out stands under its name, if there is one. -/
@[simp] theorem valuesOf_optional (name written : String) (f : α → Json) (o : Option α) :
    valuesOf name (optional written f o) = if written = name then (o.map f).toList else [] := by
  cases o <;> by_cases h : written = name <;> simp [optional, h]

/-- A list stands under its name, unless it is empty. -/
@[simp] theorem valuesOf_unlessEmpty (name written : String) (f : α → Json) (l : List α) :
    valuesOf name (unlessEmpty written f l) =
      if written = name then if l = [] then [] else [arr (l.map f)] else [] := by
  cases l <;> by_cases h : written = name <;> simp [unlessEmpty, h]

/-- The values of a name are members under that name. -/
theorem mem_of_mem_valuesOf {name : String} {j : Json} {ms : List (String × Json)}
    (h : j ∈ valuesOf name ms) : (name, j) ∈ ms := by
  obtain ⟨m, hm, rfl⟩ := List.mem_map.1 h
  obtain ⟨hmem, hname⟩ := List.mem_filter.1 hm
  have hname' : m.1 = name := by simpa using hname
  exact hname' ▸ hmem

/-- No item has more levels than the items together. -/
theorem depth_le_depthItems {j : Json} {l : List Json} (h : j ∈ l) : j.depth ≤ depthItems l := by
  induction l with
  | nil => cases h
  | cons i rest ih =>
      rw [depthItems]
      rcases List.mem_cons.1 h with rfl | hrest
      · exact Nat.le_max_left _ _
      · exact Nat.le_trans (ih hrest) (Nat.le_max_right _ _)

/-- No member has more levels than the members together. -/
theorem depth_le_depthMembers {j : Json} {name : String} {ms : List (String × Json)}
    (h : (name, j) ∈ ms) : j.depth ≤ depthMembers ms := by
  induction ms with
  | nil => cases h
  | cons m rest ih =>
      rw [depthMembers]
      rcases List.mem_cons.1 h with rfl | hrest
      · exact Nat.le_max_left _ _
      · exact Nat.le_trans (ih hrest) (Nat.le_max_right _ _)

/-- An item has fewer levels than its array. -/
theorem depth_lt_of_mem_arr {j : Json} {l : List Json} (h : j ∈ l) : j.depth < (arr l).depth :=
  Nat.lt_succ_of_le (depth_le_depthItems h)

/-- A member has fewer levels than its object. -/
theorem depth_lt_of_mem_obj {j : Json} {name : String} {ms : List (String × Json)}
    (h : (name, j) ∈ ms) : j.depth < (obj ms).depth :=
  Nat.lt_succ_of_le (depth_le_depthMembers h)

end Json

namespace Reading

variable {α β : Type} {a : α} {b : β}

/-- A reading gives a value exactly if it is done. -/
theorem result_eq_ok_iff {r : Reading α} : r.result = .ok a ↔ r = .done a := by
  cases r <;> simp [result]

/-- To say where something was read does not matter where it fits. -/
theorem placed_eq_done_iff {place : Nat} {e : Except Misfit α} :
    placed place e = .done a ↔ e = .ok a := by
  cases e <;> simp [placed]

/-- What is made of a value that is read is read as well. -/
theorem map_eq_done_iff {f : α → β} {r : Reading α} :
    f <$> r = .done b ↔ ∃ a, r = .done a ∧ f a = b := by
  cases r <;> simp [Functor.map]

/-- Two parts are read if each of them is. -/
theorem seq_eq_done_iff {f : Reading (α → β)} {r : Reading α} :
    f <*> r = .done b ↔ ∃ g a, f = .done g ∧ r = .done a ∧ g a = b := by
  cases f <;> cases r <;> simp [Seq.seq, both]
  split <;> simp

end Reading

namespace Fields

variable {α : Type} {fs : Fields} {name : String} {d : Decoder α} {a a₀ : α}

/-- The values of a field, in the order in which they stand. -/
def valuesOf (fs : Fields) (name : String) : List Json := (fs.find name).map (·.2)

/-- The value of a field is the one that stands there, if it fits. -/
theorem value?_eq_done_iff (hstrict : fs.refusesRepeats = true) :
    fs.value? name d = some (.done a) ↔ ∃ j, fs.valuesOf name = [j] ∧ d.ofJson j = .ok a := by
  rw [value?, valuesOf]
  rcases fs.find name with _ | ⟨⟨i, j⟩, _ | ⟨⟨i', j'⟩, rest⟩⟩
  · simp
  · simp [Reading.placed_eq_done_iff]
  · cases hfits : d.ofJson j <;> simp [hstrict, hfits]

/-- A field has no value exactly if nothing stands there. -/
theorem value?_eq_none_iff (hstrict : fs.refusesRepeats = true) :
    fs.value? name d = none ↔ fs.valuesOf name = [] := by
  rw [value?, valuesOf]
  rcases fs.find name with _ | ⟨⟨i, j⟩, _ | ⟨⟨i', j'⟩, rest⟩⟩
  · simp
  · simp
  · cases hfits : d.ofJson j <;> simp [hstrict, hfits]

/-- A field that has to be there is read if one value stands there and fits. -/
theorem required_eq_done_iff (hstrict : fs.refusesRepeats = true) :
    fs.required name d = .done a ↔ ∃ j, fs.valuesOf name = [j] ∧ d.ofJson j = .ok a := by
  rw [← value?_eq_done_iff hstrict, required]
  cases fs.value? name d <;> simp

/-- A field that need not be there is also read if nothing stands there. -/
theorem withDefault_eq_done_iff (hstrict : fs.refusesRepeats = true) :
    fs.withDefault name d a₀ = .done a ↔
      fs.valuesOf name = [] ∧ a₀ = a ∨ ∃ j, fs.valuesOf name = [j] ∧ d.ofJson j = .ok a := by
  rw [← value?_eq_done_iff hstrict, ← value?_eq_none_iff (d := d) hstrict, withDefault]
  cases fs.value? name d <;> simp

/-- What is found under a name are its values, in their order. -/
theorem map_snd_findFrom (name : String) (i : Nat) (ms : List (String × Json)) :
    (findFrom name i ms).map (·.2) = Json.valuesOf name ms := by
  induction ms generalizing i with
  | nil => rfl
  | cons m rest ih =>
      by_cases h : m.1 = name <;> simp [findFrom, h, ih]

/-- The values of a field of an object. -/
theorem valuesOf_ofMembers (name : String) (ms : List (String × Json)) (strict : Bool) :
    (ofMembers ms strict).valuesOf name = Json.valuesOf name ms :=
  map_snd_findFrom name 0 ms

/-- The values of a field of a list. -/
theorem valuesOf_ofItems (name : String) (names : List String) (record : String)
    (l : List Json) :
    (ofItems names record l).valuesOf name = (l[names.idxOf name]?).toList := by
  simp only [valuesOf, ofItems]
  cases l[names.idxOf name]? <;> rfl

end Fields

namespace Decoder

variable {α β : Type} {d : Decoder α} {a : α} {j : Json}

/-- A list is gone through to its end if every item passes. -/
theorem mapM_eq_ok_iff {f : α → Except Misfit β} {l : List α} {bs : List β} :
    l.mapM f = .ok bs ↔ List.Forall₂ (fun a b => f a = .ok b) l bs := by
  induction l generalizing bs with
  | nil => simp [pure, Except.pure, eq_comm]
  | cons a rest ih =>
      rw [List.mapM_cons, List.forall₂_cons_left_iff]
      cases hhead : f a with
      | error w => simp [bind, Except.bind]
      | ok b =>
          simp only [Except.ok.injEq, bind, Except.bind]
          cases htail : rest.mapM f with
          | error w =>
              have hnone : ∀ bs', ¬ List.Forall₂ (fun a b => f a = .ok b) rest bs' := by
                intro bs' hrest
                rw [ih.2 hrest] at htail
                cases htail
              simp [hnone]
          | ok bs' =>
              have hrest : ∀ cs, List.Forall₂ (fun a b => f a = .ok b) rest cs ↔ bs' = cs := by
                intro cs
                rw [← ih, htail, Except.ok.injEq]
              simp [hrest, pure, Except.pure, eq_comm]

/-- A list is read if each of its items is. -/
theorem list_ofJson_arr_iff {l : List Json} {as : List α} :
    (list d).ofJson (.arr l) = .ok as ↔ List.Forall₂ (fun j a => d.ofJson j = .ok a) l as :=
  mapM_eq_ok_iff

/-- A list is read of an array, item by item. -/
theorem list_ofJson_iff {as : List α} :
    (list d).ofJson j = .ok as ↔
      ∃ l, j = .arr l ∧ List.Forall₂ (fun j a => d.ofJson j = .ok a) l as := by
  cases j with
  | arr l => simpa using list_ofJson_arr_iff
  | _ => simp [list]

/-- What is not `null` is read as if that were not allowed. -/
theorem nullable_ofJson_of_ne_null (h : j ≠ .null) :
    (nullable d).ofJson j = (d.ofJson j).map some := by
  cases j with
  | null => exact absurd rfl h
  | _ => rfl

/-- A value that may be left out is read if it is `null` or fits. -/
theorem nullable_ofJson_iff {o : Option α} :
    (nullable d).ofJson j = .ok o ↔
      j = .null ∧ o = none ∨ j ≠ .null ∧ ∃ a, d.ofJson j = .ok a ∧ o = some a := by
  by_cases h : j = .null
  · subst h
    simp [nullable, eq_comm]
  · rw [nullable_ofJson_of_ne_null h]
    cases d.ofJson j <;> simp [Except.map, h, eq_comm]

/-- A text is read of that text and nothing else. -/
theorem text_ofJson_iff {s : String} : text.ofJson j = .ok s ↔ j = .str s := by
  cases j <;> simp [text, plain, Json.wantText]

/-- A truth value is read of that value and nothing else. -/
theorem bool_ofJson_iff {b : Bool} : bool.ofJson j = .ok b ↔ j = .bool b := by
  cases j <;> simp [bool, plain]

variable {name : String} {r : Record α}

/-- A record is read of an object if it is read of its members. -/
theorem declared_ofJson_obj_iff {ms : List (String × Json)} :
    (declared name r).ofJson (.obj ms) = .ok a ↔ r.read (.ofMembers ms true) = .done a :=
  Reading.result_eq_ok_iff

/-- It is read of an array if it is read of the items, and there are no more of them than
fields. -/
theorem declared_ofJson_arr_iff {l : List Json} :
    (declared name r).ofJson (.arr l) = .ok a ↔
      r.read (.ofItems r.names name l) = .done a ∧ l.length ≤ r.fields.length := by
  rw [← Reading.result_eq_ok_iff, declared]
  cases hread : (r.read (.ofItems r.names name l)).result with
  | error w => simp [hread, bind, Except.bind]
  | ok b =>
      by_cases h : l.length ≤ r.fields.length <;>
        simp [hread, h, bind, Except.bind, pure, Except.pure, throw, throwThe, MonadExceptOf.throw]

end Decoder

end FolderGrants
