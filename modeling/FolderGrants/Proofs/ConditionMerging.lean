import Mathlib.Data.List.Nodup
import FolderGrants.Proofs.Conditions

/-!
# Merging a condition into a list

A list of conditions says one thing of each type, and setting a condition is to keep it
that way.  First all conditions go that are of a type to be replaced; then the condition
is put in the place of the one of its type, or last.  Its own type may be one that is
to be replaced: then nothing is left that it could take the place of, and it comes last
as if it were new.

What is merged can be told from the list that it is merged into: the other conditions
are filtered, and the condition itself is settled against the one of its type that is
left, if any.

* `Condition.put_of_absent`, `Condition.map_type_put` — last, or in the place of the old one;
* `Condition.Distinct.filter_type_eq` — a type that occurs, occurs once;
* `Condition.set_set_self` — setting twice is setting once, whatever the list;
* `Condition.set_keeps_wellFormed` — what setting a condition makes of a list, all in all.
-/

namespace FolderGrants.Condition

variable {c d : Condition} {l : List Condition} {removed : List String}

/-- No type occurs twice. -/
def Distinct (l : List Condition) : Prop := (l.map (·.type)).Nodup

instance (l : List Condition) : Decidable (Distinct l) :=
  inferInstanceAs (Decidable (l.map (·.type)).Nodup)

/-- The conditions that stay where those of the types in `removed` go. -/
def remaining (l : List Condition) (removed : List String) : List Condition :=
  l.filter fun d => d.type ∉ removed

/-- A condition is set by being put among those that remain. -/
theorem set_eq_put (l : List Condition) (c : Condition) (removed : List String) :
    set l c removed = put c (remaining l removed) := by
  simp only [set, remaining, List.contains_eq_mem, decide_not]

/-- Those conditions remain whose type is not to be removed. -/
theorem mem_remaining_iff : d ∈ remaining l removed ↔ d ∈ l ∧ d.type ∉ removed := by
  simp [remaining]

/-- What remains of distinct types is so. -/
theorem Distinct.remaining (h : Distinct l) (removed : List String) :
    Distinct (remaining l removed) :=
  h.sublist (List.filter_sublist.map _)

/-- A type that occurs, occurs once. -/
theorem Distinct.filter_type_eq (h : Distinct l) (hd : d ∈ l) :
    l.filter (fun e => e.type = d.type) = [d] := by
  obtain ⟨before, after, rfl⟩ := List.append_of_mem hd
  simp only [Distinct, List.map_append, List.map_cons, List.nodup_middle, List.nodup_cons,
    List.mem_append, List.mem_map, not_or, not_exists, not_and] at h
  obtain ⟨⟨hbefore, hafter⟩, -⟩ := h
  simp only [List.filter_append, List.filter_cons, decide_true, if_true]
  rw [List.filter_eq_nil_iff.2 (by simpa using hbefore),
    List.filter_eq_nil_iff.2 (by simpa using hafter), List.nil_append]

/-- The condition of a type is the one that is found first. -/
theorem Distinct.find?_type_eq (h : Distinct l) (hd : d ∈ l) :
    l.find? (·.type == d.type) = some d := by
  have hhead := congrArg List.head? (h.filter_type_eq hd)
  rw [List.head?_filter, List.head?_cons] at hhead
  exact hhead

/-- Where no condition is of its type, `c` comes last. -/
theorem put_of_absent (h : ∀ d ∈ l, d.type ≠ c.type) : put c l = l ++ [c] := by
  induction l with
  | nil => rfl
  | cons d rest ih =>
      rw [put_cons_of_type_ne (h d List.mem_cons_self),
        ih fun e he => h e (List.mem_cons_of_mem _ he), List.cons_append]

/-- Where one is, `c` takes the place of the first such. -/
theorem map_type_put (h : c.type ∈ l.map (·.type)) :
    (put c l).map (·.type) = l.map (·.type) := by
  induction l with
  | nil => cases h
  | cons d rest ih =>
      by_cases htype : d.type = c.type
      · have hsettled : (c.settled (some d)).type = c.type :=
          (sameState_iff.1 (c.settled_sameState (some d))).1
        rw [put_cons_of_type_eq htype, List.map_cons, List.map_cons, hsettled, htype]
      · have hrest : c.type ∈ rest.map (·.type) :=
          (List.mem_cons.1 h).resolve_left fun heq => htype heq.symm
        rw [put_cons_of_type_ne htype, List.map_cons, List.map_cons, ih hrest]

/-- No type occurs twice where `c` is put. -/
theorem Distinct.put (h : Distinct l) (c : Condition) : Distinct (put c l) := by
  by_cases hc : c.type ∈ l.map (·.type)
  · rw [Distinct, map_type_put hc]
    exact h
  · have habsent : ∀ d ∈ l, d.type ≠ c.type := fun d hd htype => hc (htype ▸ List.mem_map_of_mem hd)
    rw [put_of_absent habsent, Distinct, List.map_append, List.map_singleton, List.nodup_append]
    refine ⟨h, List.nodup_singleton _, fun type htype type' htype' => ?_⟩
    rw [List.mem_singleton.1 htype']
    exact fun heq => hc (heq ▸ htype)

/-- To set a condition keeps the types distinct. -/
theorem Distinct.set (h : Distinct l) (c : Condition) (removed : List String) :
    Distinct (set l c removed) := by
  rw [set_eq_put]
  exact (h.remaining removed).put c

/-- A new condition comes last, and so does one whose own type goes. -/
theorem set_of_absent_or_removed (h : c.type ∉ l.map (·.type) ∨ c.type ∈ removed) :
    set l c removed = l.filter (fun e => e.type ≠ c.type ∧ e.type ∉ removed) ++ [c] := by
  have hothers : ∀ e ∈ remaining l removed, e.type ≠ c.type := by
    intro e he htype
    obtain ⟨hmem, hstays⟩ := mem_remaining_iff.1 he
    rcases h with hnew | hgone
    · exact hnew (htype ▸ List.mem_map_of_mem hmem)
    · exact hstays (htype ▸ hgone)
  rw [set_eq_put, put_of_absent hothers]
  congr 1
  refine List.filter_congr fun e he => decide_eq_decide.2 ⟨fun hstays => ?_, And.right⟩
  exact ⟨hothers e (mem_remaining_iff.2 ⟨he, hstays⟩), hstays⟩

/-- A condition that is in the list already and does not go is found there. -/
theorem map_type_set (hgone : c.type ∉ removed) (hold : c.type ∈ l.map (·.type)) :
    (set l c removed).map (·.type) = (remaining l removed).map (·.type) := by
  rw [set_eq_put, map_type_put]
  obtain ⟨d, hd, htype⟩ := List.mem_map.1 hold
  exact List.mem_map.2 ⟨d, mem_remaining_iff.2 ⟨hd, htype ▸ hgone⟩, htype⟩

/-- What stands for `c` after it has been set. -/
theorem settled_mem_set (l : List Condition) (c : Condition) (removed : List String) :
    c.settled ((remaining l removed).find? (·.type == c.type)) ∈ set l c removed := by
  rw [set_eq_put]
  exact List.mem_of_find?_eq_some (find?_put c _)

/-- Of the types that go nothing is left, other than the condition just set. -/
theorem not_mem_removed_of_mem_set (hd : d ∈ set l c removed) (hother : d.type ≠ c.type) :
    d.type ∉ removed := by
  rw [set_eq_put] at hd
  rcases mem_put hd with rfl | hold
  · exact absurd rfl hother
  · exact (mem_remaining_iff.1 hold).2

/-- **Setting twice is setting once**, whatever the list and whatever goes. -/
theorem set_set_self (l : List Condition) (c : Condition) (removed : List String) :
    set (set l c removed) c removed = set l c removed := by
  by_cases hgone : c.type ∈ removed
  · -- it goes with its type and comes last again, after the same others
    rw [set_of_absent_or_removed (l := set l c removed) (.inr hgone), filter_set,
      ← set_of_absent_or_removed (.inr hgone)]
  · exact set_set l hgone (sameState_refl c)

/-- A condition that said so before and does not go stands for `c`, time and all. -/
theorem settled_eq_of_sameState {o : Condition} (h : Distinct l) (ho : o ∈ l)
    (hsame : o.sameState c = true) (hgone : c.type ∉ removed) :
    c.settled ((remaining l removed).find? (·.type == c.type)) = o := by
  have htype : o.type = c.type := (sameState_iff.1 hsame).1
  have hfound : (remaining l removed).find? (·.type == c.type) = some o :=
    htype ▸ (h.remaining removed).find?_type_eq (mem_remaining_iff.2 ⟨ho, htype ▸ hgone⟩)
  rw [hfound, settled_of_sameState hsame]

/-- If none said so, or its type goes, `c` stands for itself. -/
theorem settled_eq_self (h : ∀ o ∈ l, o.sameState c = true → c.type ∈ removed) :
    c.settled ((remaining l removed).find? (·.type == c.type)) = c := by
  cases hfound : (remaining l removed).find? (·.type == c.type) with
  | none => rfl
  | some o =>
      have htype : o.type = c.type := by simpa using List.find?_some hfound
      obtain ⟨ho, hstays⟩ := mem_remaining_iff.1 (List.mem_of_find?_eq_some hfound)
      have hother : ¬ o.sameState c = true := fun hsame => hstays (htype ▸ h o ho hsame)
      rw [settled, if_neg hother]

/-- All conditions of other types are the same after `c` has been set. -/
theorem filter_other_set (l : List Condition) (c : Condition) (removed : List String) :
    (set l c removed).filter (fun e => e.type ≠ c.type) =
      l.filter (fun e => e.type ≠ c.type ∧ e.type ∉ removed) := by
  rw [← filter_set]
  refine List.filter_congr fun e he => ?_
  by_cases hother : e.type = c.type
  · simp [hother]
  · simp [hother, not_mem_removed_of_mem_set he hother]

/-- The list `l'` is what merging `c` into `l` should give where the types in `removed` go. -/
structure Merged (l : List Condition) (c : Condition) (removed : List String)
    (l' : List Condition) : Prop where
  /-- No type occurs twice. -/
  distinct : Distinct l'
  /-- The type of `c` occurs once, and says what `c` says.  The time is that of a condition
  that said so before and whose type does not go, and that of `c` if there is none. -/
  current : ∃ d, l'.filter (fun e => e.type = c.type) = [d] ∧
    d.truth = c.truth ∧ d.reason = c.reason ∧ d.message = c.message ∧
    (∀ o ∈ l, o.sameState c = true → c.type ∉ removed → d.lastTransition = o.lastTransition) ∧
    ((∀ o ∈ l, o.sameState c = true → c.type ∈ removed) → d.lastTransition = c.lastTransition)
  /-- No other type that goes is left. -/
  gone : ∀ e ∈ l', e.type ≠ c.type → e.type ∉ removed
  /-- All other conditions are the same, in the same order. -/
  others : l'.filter (fun e => e.type ≠ c.type) =
    l.filter (fun e => e.type ≠ c.type ∧ e.type ∉ removed)
  /-- A type that was there and does not go keeps its place among those that stay. -/
  inPlace : c.type ∈ l.map (·.type) → c.type ∉ removed →
    l'.map (·.type) = (l.filter fun e => e.type ∉ removed).map (·.type)
  /-- Any other type comes last. -/
  last : c.type ∉ l.map (·.type) ∨ c.type ∈ removed →
    l' = l.filter (fun e => e.type ≠ c.type ∧ e.type ∉ removed) ++ [c]

/-- **Setting a condition keeps a list well-formed.**  If no type occurs twice in a list,
then no type does after a condition has been set there; its type occurs once, with what
it says and the time since when it has been saying so; no other type that was to go is
left; all other conditions are the same, in the same order; and its type keeps its place
if it was there and did not go, else it comes last.  Whatever the list, setting the
condition again changes nothing. -/
theorem set_keeps_wellFormed (l : List Condition) (c : Condition) (removed : List String) :
    (Distinct l → Merged l c removed (set l c removed)) ∧
      set (set l c removed) c removed = set l c removed := by
  refine ⟨fun hl => ?_, set_set_self l c removed⟩
  have hmem := settled_mem_set l c removed
  obtain ⟨htype, htruth, hreason, hmessage⟩ := sameState_iff.1
    (c.settled_sameState ((remaining l removed).find? (·.type == c.type)))
  have honce := (hl.set c removed).filter_type_eq hmem
  rw [htype] at honce
  constructor
  case distinct => exact hl.set c removed
  case current =>
    refine ⟨_, honce, htruth, hreason, hmessage, ?_, ?_⟩
    · intro o ho hsame hgone
      rw [settled_eq_of_sameState hl ho hsame hgone]
    · intro hnone
      rw [settled_eq_self hnone]
  case gone => exact fun e he hother => not_mem_removed_of_mem_set he hother
  case others => exact filter_other_set l c removed
  case inPlace => exact fun hold hgone => map_type_set hgone hold
  case last => exact set_of_absent_or_removed

/-- What a mirror, the operator and an auditor have said of a tree. -/
def saidByThree : List Condition :=
  [⟨"Synced", .yes, "Mirror", "", ⟨1, 0⟩⟩, ⟨ready, .yes, "Ready", "done", ⟨2, 0⟩⟩,
    ⟨processingFailed, .yes, "ProcessingFailed", "out of order", ⟨3, 0⟩⟩,
    ⟨"Audited", .no, "Auditor", "late", ⟨4, 0⟩⟩]

/-- What the operator says again, later on. -/
def readyAgain : Condition := ⟨ready, .yes, "Ready", "done", ⟨9, 0⟩⟩

/-- It keeps its time and its place, unless its own type is one of those that go. -/
theorem set_keeps_wellFormed_saidByThree :
    Distinct saidByThree ∧
      Merged saidByThree readyAgain [processingFailed]
        (set saidByThree readyAgain [processingFailed]) ∧
      set saidByThree readyAgain [processingFailed] =
        [⟨"Synced", .yes, "Mirror", "", ⟨1, 0⟩⟩, ⟨ready, .yes, "Ready", "done", ⟨2, 0⟩⟩,
          ⟨"Audited", .no, "Auditor", "late", ⟨4, 0⟩⟩] ∧
      Merged saidByThree readyAgain [processingFailed, ready]
        (set saidByThree readyAgain [processingFailed, ready]) ∧
      set saidByThree readyAgain [processingFailed, ready] =
        [⟨"Synced", .yes, "Mirror", "", ⟨1, 0⟩⟩, ⟨"Audited", .no, "Auditor", "late", ⟨4, 0⟩⟩,
          readyAgain] := by
  have hdistinct : Distinct saidByThree := by decide
  exact ⟨hdistinct, (set_keeps_wellFormed _ _ _).1 hdistinct, by decide,
    (set_keeps_wellFormed _ _ _).1 hdistinct, by decide⟩

end FolderGrants.Condition
