import FolderGrants.Status.Basic

/-!
# Setting a condition

A condition is put in the place of the first one of its type, or last, and one that
says the same already stays there with its time.  Of the other types, those that
are replaced go and the rest are not touched.  Lists may hold a type twice; then the
first one counts, here as for whoever reads the status.

* `Condition.find?_put`, `Condition.filter_put` — what `put` does to its own type
  and to all others;
* `Condition.find?_set`, `Condition.type_ne_of_mem_set`, `Condition.filter_set` — the
  same of `set`, with the types that go;
* `Condition.set_set` — to set what is set already changes nothing.
-/

namespace FolderGrants.Condition

variable {a b c c' d : Condition} {l : List Condition} {replaced : List String}

theorem ready_ne_processingFailed : ready ≠ processingFailed := by decide

/-- Two conditions say the same. -/
theorem sameState_iff :
    a.sameState b = true ↔
      a.type = b.type ∧ a.truth = b.truth ∧ a.reason = b.reason ∧ a.message = b.message := by
  simp only [sameState, Bool.and_eq_true, beq_iff_eq, and_assoc]

theorem sameState_refl (a : Condition) : a.sameState a = true :=
  sameState_iff.2 ⟨rfl, rfl, rfl, rfl⟩

theorem sameState_trans (hab : a.sameState b = true) (hbc : b.sameState c = true) :
    a.sameState c = true := by
  obtain ⟨htype, htruth, hreason, hmessage⟩ := sameState_iff.1 hab
  obtain ⟨htype', htruth', hreason', hmessage'⟩ := sameState_iff.1 hbc
  exact sameState_iff.2 ⟨htype.trans htype', htruth.trans htruth', hreason.trans hreason',
    hmessage.trans hmessage'⟩

/-- What stands for `c` where `found` was: the condition that was found, if it says
the same, else `c`. -/
def settled (c : Condition) : Option Condition → Condition
  | none => c
  | some d => if d.sameState c then d else c

/-- Whatever stands for `c` says what `c` says. -/
theorem settled_sameState (c : Condition) (found : Option Condition) :
    (c.settled found).sameState c = true := by
  cases found with
  | none => exact sameState_refl c
  | some d =>
      by_cases hsame : d.sameState c = true
      · rw [settled, if_pos hsame]
        exact hsame
      · rw [settled, if_neg hsame]
        exact sameState_refl c

/-- A condition that says the same stays, with its time. -/
theorem settled_of_sameState (h : d.sameState c = true) : c.settled (some d) = d := if_pos h

/-- A condition takes the place of the first one of its type. -/
theorem put_cons_of_type_eq (h : d.type = c.type) (l : List Condition) :
    put c (d :: l) = c.settled (some d) :: l := by
  rw [put, if_pos h, settled]

/-- Conditions of other types are passed over. -/
theorem put_cons_of_type_ne (h : d.type ≠ c.type) (l : List Condition) :
    put c (d :: l) = d :: put c l := by
  rw [put, if_neg h]

/-- Of its own type, the first one is settled to say what `c` says. -/
theorem find?_put (c : Condition) (l : List Condition) :
    (put c l).find? (·.type == c.type) = some (c.settled (l.find? (·.type == c.type))) := by
  induction l with
  | nil => simp [put, settled]
  | cons d rest ih =>
      by_cases htype : d.type = c.type
      · have hsettled := (sameState_iff.1 (c.settled_sameState (some d))).1
        simp [put_cons_of_type_eq htype, htype, hsettled]
      · simp [put_cons_of_type_ne htype, htype, ih]

/-- Whatever is not of its type is not touched. -/
theorem filter_put {p : Condition → Bool} (hp : ∀ d, d.type = c.type → p d = false)
    (l : List Condition) : (put c l).filter p = l.filter p := by
  induction l with
  | nil => simp [put, hp c rfl]
  | cons d rest ih =>
      by_cases htype : d.type = c.type
      · have hsettled := (sameState_iff.1 (c.settled_sameState (some d))).1
        rw [put_cons_of_type_eq htype, List.filter_cons_of_neg (by simp [hp _ hsettled]),
          List.filter_cons_of_neg (by simp [hp _ htype])]
      · rw [put_cons_of_type_ne htype, List.filter_cons, List.filter_cons, ih]

/-- After a condition has been put in there is nothing but it and what was there. -/
theorem mem_put (h : d ∈ put c l) : d = c ∨ d ∈ l := by
  induction l with
  | nil => exact .inl (List.mem_singleton.1 h)
  | cons e rest ih =>
      by_cases htype : e.type = c.type
      · rw [put, if_pos htype] at h
        rcases List.mem_cons.1 h with hhead | htail
        · by_cases hsame : e.sameState c = true
          · rw [if_pos hsame] at hhead
            exact .inr (hhead ▸ List.mem_cons_self)
          · rw [if_neg hsame] at hhead
            exact .inl hhead
        · exact .inr (List.mem_cons_of_mem _ htail)
      · rw [put_cons_of_type_ne htype] at h
        rcases List.mem_cons.1 h with hhead | htail
        · exact .inr (hhead ▸ List.mem_cons_self)
        · exact (ih htail).imp_right (List.mem_cons_of_mem _)

/-- What says the same as what was put is there already. -/
theorem put_put (h : c.sameState c' = true) (l : List Condition) :
    put c' (put c l) = put c l := by
  have htype' : c.type = c'.type := (sameState_iff.1 h).1
  have hstays : ∀ found rest, put c' (c.settled found :: rest) = c.settled found :: rest := by
    intro found rest
    have hsame : (c.settled found).sameState c' = true :=
      sameState_trans (c.settled_sameState found) h
    rw [put_cons_of_type_eq (sameState_iff.1 hsame).1, settled_of_sameState hsame]
  induction l with
  | nil => exact hstays none []
  | cons d rest ih =>
      by_cases htype : d.type = c.type
      · rw [put_cons_of_type_eq htype]
        exact hstays (some d) rest
      · have hne : d.type ≠ c'.type := fun heq => htype (heq.trans htype'.symm)
        rw [put_cons_of_type_ne htype, put_cons_of_type_ne hne, ih]

/-- Of its own type, if that does not go, the first one is settled to say what `c`
says. -/
theorem find?_set (l : List Condition) (h : c.type ∉ replaced) :
    (set l c replaced).find? (·.type == c.type) =
      some (c.settled (l.find? (·.type == c.type))) := by
  have hkept : ∀ d : Condition,
      decide ((!replaced.contains d.type) = true ∧ (d.type == c.type) = true) =
        (d.type == c.type) := by
    intro d
    by_cases htype : d.type = c.type
    · simp [htype, h]
    · simp [htype]
  rw [set, find?_put, List.find?_filter]
  simp only [hkept]

/-- No condition is left of the types that go, other than one just set. -/
theorem type_ne_of_mem_set (h : c.type ∉ replaced) (hd : d ∈ set l c replaced) :
    d.type ∉ replaced := by
  rcases mem_put hd with rfl | hold
  · exact h
  · simpa using (List.mem_filter.1 hold).2

/-- Conditions of all other types are kept, in their order. -/
theorem filter_set (l : List Condition) (c : Condition) (replaced : List String) :
    (set l c replaced).filter (fun d => d.type ≠ c.type ∧ d.type ∉ replaced) =
      l.filter (fun d => d.type ≠ c.type ∧ d.type ∉ replaced) := by
  have hother : ∀ d : Condition, d.type = c.type →
      decide (d.type ≠ c.type ∧ d.type ∉ replaced) = false := by
    intro d htype
    simp [htype]
  rw [set, filter_put hother, List.filter_filter]
  refine List.filter_congr fun d _ => ?_
  by_cases hgone : d.type ∈ replaced
  · simp [hgone]
  · simp [hgone]

/-- To set what is set already, at another time perhaps, changes nothing. -/
theorem set_set (l : List Condition) (h : c.type ∉ replaced) (hsame : c.sameState c' = true) :
    set (set l c replaced) c' replaced = set l c replaced := by
  have hall : (set l c replaced).filter (fun d => !replaced.contains d.type) =
      set l c replaced := by
    refine List.filter_eq_self.2 fun d hd => ?_
    simpa using type_ne_of_mem_set h hd
  rw [set, hall, set, put_put hsame]

end FolderGrants.Condition
