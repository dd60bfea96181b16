import FolderGrants.Api.Basic

/-!
# When actions succeed

An action succeeds through its parts: a sequence succeeds if both parts do,
an action that forgives some faults also where it meets one of them.  Each
combination is described by one law, so that proofs about passes and reviews
take an action apart without looking at how it is run.

* `Chain` — going through a list step by step, with `Chain.keeps` and
  `Chain.establishes` for what such a run preserves and achieves, and
  `Chain.exists_run` for when there is one;
* `Action.bind_eq_ok_iff` and its kin — when a combination succeeds;
* `Action.Keeps` — what an action keeps whatever comes of it;
* `Action.SucceedsOn` — where an action succeeds for good;
* `Action.Conditional` — an action that has its effect exactly where a condition holds.
-/

namespace FolderGrants

/-- Going through a list step by step, each entry taking one state to the next. -/
inductive Chain {ι σ : Type} (R : ι → σ → σ → Prop) : List ι → σ → σ → Prop
  | nil (s : σ) : Chain R [] s s
  | cons {i : ι} {rest : List ι} {s mid s' : σ} (head : R i s mid) (tail : Chain R rest mid s') :
      Chain R (i :: rest) s s'

/-- Where there are no steps, the state stays as it is. -/
theorem Chain.nil_iff {ι σ : Type} {R : ι → σ → σ → Prop} {s s' : σ} :
    Chain R [] s s' ↔ s = s' := by
  constructor
  · intro h
    cases h
    rfl
  · intro h
    obtain rfl := h
    exact .nil s

/-- The first step leads to a state from which the rest goes on. -/
theorem Chain.cons_iff {ι σ : Type} {R : ι → σ → σ → Prop} {i : ι} {rest : List ι} {s s' : σ} :
    Chain R (i :: rest) s s' ↔ ∃ mid, R i s mid ∧ Chain R rest mid s' := by
  constructor
  · intro h
    cases h with
    | cons head tail => exact ⟨_, head, tail⟩
  · intro h
    obtain ⟨mid, head, tail⟩ := h
    exact .cons head tail

/-- Going through one list and then another passes through a state in between. -/
theorem Chain.append_iff {ι σ : Type} {R : ι → σ → σ → Prop} {l l' : List ι} {s s' : σ} :
    Chain R (l ++ l') s s' ↔ ∃ mid, Chain R l s mid ∧ Chain R l' mid s' := by
  induction l generalizing s with
  | nil => simp [Chain.nil_iff]
  | cons i rest ih =>
      simp only [List.cons_append, Chain.cons_iff, ih]
      constructor
      · intro h
        obtain ⟨first, hhead, mid, htail, hrest⟩ := h
        exact ⟨mid, ⟨first, hhead, htail⟩, hrest⟩
      · intro h
        obtain ⟨mid, ⟨first, hhead, htail⟩, hrest⟩ := h
        exact ⟨first, hhead, mid, htail, hrest⟩

/-- The same steps, seen through a view of the states. -/
theorem Chain.map {ι σ ρ : Type} {R : ι → σ → σ → Prop} {R' : ι → ρ → ρ → Prop} {l : List ι}
    {s s' : σ} (view : σ → ρ) (hstep : ∀ i s s', R i s s' → R' i (view s) (view s'))
    (h : Chain R l s s') : Chain R' l (view s) (view s') := by
  induction h with
  | nil => exact .nil _
  | cons head _ ih => exact .cons (hstep _ _ _ head) ih

/-- What every step keeps holds at the end if it holds at the start. -/
theorem Chain.keeps {ι σ : Type} {R : ι → σ → σ → Prop} {P : σ → Prop} {l : List ι} {s s' : σ}
    (hkeep : ∀ i ∈ l, ∀ s s', R i s s' → P s → P s') (h : Chain R l s s') (hs : P s) : P s' := by
  induction h with
  | nil => exact hs
  | @cons i rest s mid s' head _ ih =>
      have hmid : P mid := hkeep i List.mem_cons_self s mid head hs
      exact ih (fun i' hi' => hkeep i' (List.mem_cons_of_mem _ hi')) hmid

/-- What one step establishes and every step keeps holds at the end. -/
theorem Chain.establishes {ι σ : Type} {R : ι → σ → σ → Prop} {P : σ → Prop} {l : List ι}
    {s s' : σ} {i : ι} (hkeep : ∀ i ∈ l, ∀ s s', R i s s' → P s → P s')
    (hstep : ∀ s s', R i s s' → P s') (h : Chain R l s s') (hi : i ∈ l) : P s' := by
  induction h with
  | nil => cases hi
  | @cons j rest s mid s' head tail ih =>
      have hrest : ∀ i' ∈ rest, ∀ s s', R i' s s' → P s → P s' :=
        fun i' hi' => hkeep i' (List.mem_cons_of_mem _ hi')
      rcases List.mem_cons.1 hi with hij | hi
      · subst hij
        exact tail.keeps hrest (hstep s mid head)
      · exact ih hrest hi

/-- A list can be gone through if every step can be taken from where `P` holds and leads
to where it holds again. -/
theorem Chain.exists_run {ι σ : Type} {R : ι → σ → σ → Prop} {P : σ → Prop} {l : List ι} {s : σ}
    (hstep : ∀ i ∈ l, ∀ s, P s → ∃ s', R i s s' ∧ P s') (hs : P s) :
    ∃ s', Chain R l s s' ∧ P s' := by
  induction l generalizing s with
  | nil => exact ⟨s, .nil s, hs⟩
  | cons i rest ih =>
      obtain ⟨mid, hhead, hmid⟩ := hstep i List.mem_cons_self s hs
      obtain ⟨s', htail, hs'⟩ := ih (fun j hj => hstep j (List.mem_cons_of_mem _ hj)) hmid
      exact ⟨s', .cons hhead htail, hs'⟩

namespace Action

variable {σ α β : Type} {s s' : σ}

/-- An outcome of an action is a pair, though its type does not say so. -/
@[simp] theorem outcome_eq_iff {x y : α} :
    (@Eq (Id (α × σ)) (x, s) (y, s')) ↔ x = y ∧ s = s' :=
  Prod.mk.injEq x s y s' ▸ Iff.rfl

theorem pure_eq_ok_iff {x y : α} :
    (pure x : Action σ α) s = (.ok y, s') ↔ x = y ∧ s = s' := by
  show (@Eq (Id (Except Fault α × σ)) (.ok x, s) (.ok y, s')) ↔ x = y ∧ s = s'
  simp

theorem throw_ne_ok {f : Fault} {y : α} : (throw f : Action σ α) s ≠ (.ok y, s') := by
  show ¬@Eq (Id (Except Fault α × σ)) (.error f, s) (.ok y, s')
  simp

/-- A calculation that succeeds leaves the state as it is. -/
theorem ofExcept_eq_ok_iff {e : Except Fault α} {y : α} :
    (ofExcept e : Action σ α) s = (.ok y, s') ↔ e = .ok y ∧ s = s' := by
  simp [ofExcept]

/-- How a fault is worded does not matter to success. -/
theorem mapError_eq_ok_iff {ε ε' : Type} {e : Except ε α} {f : ε → ε'} {y : α} :
    e.mapError f = .ok y ↔ e = .ok y := by
  cases e with
  | error x =>
      constructor
      · intro h
        cases h
      · intro h
        cases h
  | ok x =>
      constructor
      · intro h
        cases h
        rfl
      · intro h
        cases h
        rfl

theorem ofExcept_mapError_eq_ok_iff {ε : Type} {e : Except ε α} {f : ε → Fault} {y : α} :
    (ofExcept (e.mapError f) : Action σ α) s = (.ok y, s') ↔ e = .ok y ∧ s = s' := by
  rw [ofExcept_eq_ok_iff, mapError_eq_ok_iff]

/-- A sequence stops at the first fault. -/
theorem bind_run (a : Action σ α) (f : α → Action σ β) (s : σ) :
    (a >>= f) s = match a s with
      | (.ok x, mid) => f x mid
      | (.error e, mid) => (.error e, mid) := by
  show (ExceptT.bind a f) s = _
  simp only [ExceptT.bind, ExceptT.mk, bind, StateT.bind]
  rcases a s with ⟨_ | x, mid⟩ <;> rfl

/-- A sequence succeeds exactly if its parts do, one after the other. -/
theorem bind_eq_ok_iff {a : Action σ α} {f : α → Action σ β} {y : β} :
    (a >>= f) s = (.ok y, s') ↔ ∃ x mid, a s = (.ok x, mid) ∧ f x mid = (.ok y, s') := by
  rw [bind_run]
  rcases a s with ⟨e | x, mid⟩ <;> simp [and_assoc]

/-- A sequence fails in its first part or, after that, in its second. -/
theorem bind_eq_error_iff {a : Action σ α} {f : α → Action σ β} {e : Fault} :
    (a >>= f) s = (.error e, s') ↔
      a s = (.error e, s') ∨ ∃ x mid, a s = (.ok x, mid) ∧ f x mid = (.error e, s') := by
  rw [bind_run]
  rcases a s with ⟨e' | x, mid⟩ <;> simp [and_assoc]

/-- A first part that gives nothing back only moves the state. -/
theorem seq_eq_ok_iff {a : Action σ Unit} {f : Unit → Action σ β} {y : β} :
    (a >>= f) s = (.ok y, s') ↔ ∃ mid, a s = (.ok (), mid) ∧ f () mid = (.ok y, s') := by
  rw [bind_eq_ok_iff]
  exact ⟨fun ⟨_, mid, h⟩ => ⟨mid, h⟩, fun ⟨mid, h⟩ => ⟨(), mid, h⟩⟩

/-- What forgives some faults succeeds where the action does, or fails with one of
them. -/
theorem forgiving_eq_ok_iff {p : Fault → Bool} {a : Action σ Unit} :
    forgiving p a s = (.ok (), s') ↔
      a s = (.ok (), s') ∨ ∃ f, a s = (.error f, s') ∧ p f = true := by
  simp only [forgiving]
  rcases a s with ⟨f | u, mid⟩
  · by_cases hp : p f = true <;> simp [hp, and_assoc]
  · simp

/-- It fails with the faults that are not forgiven. -/
theorem forgiving_eq_error_iff {p : Fault → Bool} {a : Action σ Unit} {f : Fault} :
    forgiving p a s = (.error f, s') ↔ a s = (.error f, s') ∧ p f = false := by
  simp only [forgiving]
  rcases a s with ⟨f' | u, mid⟩
  · constructor
    · intro h
      by_cases hp : p f' = true
      · simp [hp] at h
      · obtain ⟨rfl, rfl⟩ : f' = f ∧ mid = s' := by simpa [hp] using h
        exact ⟨rfl, Bool.eq_false_iff.2 hp⟩
    · intro h
      obtain ⟨herror, hp⟩ := h
      obtain ⟨rfl, rfl⟩ : f' = f ∧ mid = s' := by simpa using herror
      simp [hp]
  · simp

/-- A second attempt is made only after a fault that is a reason to. -/
theorem orTry_eq_ok_iff {p : Fault → Bool} {a b : Action σ Unit} :
    orTry p a b s = (.ok (), s') ↔
      a s = (.ok (), s') ∨
        ∃ f mid, a s = (.error f, mid) ∧ p f = true ∧ b mid = (.ok (), s') := by
  simp only [orTry]
  rcases a s with ⟨f | u, mid⟩
  · by_cases hp : p f = true <;> simp [hp, and_assoc]
  · simp

/-- If an attempt fails with such a fault, the second one says what comes of it. -/
theorem orTry_eq_error_iff {p : Fault → Bool} {a b : Action σ Unit} {e : Fault} :
    orTry p a b s = (.error e, s') ↔
      (a s = (.error e, s') ∧ p e = false) ∨
        ∃ f mid, a s = (.error f, mid) ∧ p f = true ∧ b mid = (.error e, s') := by
  simp only [orTry]
  rcases a s with ⟨f | u, mid⟩
  · by_cases hp : p f = true
    · have hother : f = e → mid = s' → p e = false → b mid = (.error e, s') := by
        intro hf _ hnot
        rw [← hf, hp] at hnot
        cases hnot
      simpa [hp, and_assoc] using hother
    · have hsame : f = e → mid = s' → p e = false := by
        intro hf _
        exact hf ▸ Bool.eq_false_iff.2 hp
      simpa [hp, and_assoc] using hsame
  · simp

/-- To report faults in another way does not matter where there is none. -/
theorem mapFault_eq_ok_iff {f : Fault → Fault} {a : Action σ α} {y : α} :
    mapFault f a s = (.ok y, s') ↔ a s = (.ok y, s') := by
  simp only [mapFault]
  rcases a s with ⟨e | x, mid⟩ <;> simp

/-- A fault that is reported in another way has been met as it was. -/
theorem mapFault_eq_error_iff {f : Fault → Fault} {a : Action σ α} {e : Fault} :
    mapFault f a s = (.error e, s') ↔ ∃ e', a s = (.error e', s') ∧ e = f e' := by
  simp only [mapFault]
  rcases a s with ⟨e' | x, mid⟩
  · simp only [outcome_eq_iff, Except.error.injEq]
    constructor
    · exact fun h => ⟨e', ⟨rfl, h.2⟩, h.1.symm⟩
    · intro h
      obtain ⟨_, ⟨rfl, hmid⟩, rfl⟩ := h
      exact ⟨rfl, hmid⟩
  · simp

/-- Whatever comes of `a`, it keeps `I`. -/
def Keeps (I : σ → Prop) (a : Action σ α) : Prop := ∀ s, I s → I (a s).2

/-- Where `I` holds, `a` succeeds and keeps it. -/
def SucceedsOn (I : σ → Prop) (a : Action σ α) : Prop :=
  ∀ s, I s → ∃ x s', a s = (.ok x, s') ∧ I s'

variable {I : σ → Prop}

/-- What an action keeps holds in the state that it leaves. -/
theorem Keeps.run {a : Action σ α} (h : a.Keeps I) {x : Except Fault α} (ha : a s = (x, s'))
    (hs : I s) : I s' := by
  have hend := h s hs
  rw [ha] at hend
  exact hend

theorem keeps_pure (x : α) : (pure x : Action σ α).Keeps I := fun _ hs => hs

theorem keeps_throw (f : Fault) : (throw f : Action σ α).Keeps I := fun _ hs => hs

/-- A part need only be looked at for what the parts before it can give. -/
theorem Keeps.bind {a : Action σ α} {f : α → Action σ β} (ha : a.Keeps I)
    (hf : ∀ s x s', I s → a s = (.ok x, s') → (f x).Keeps I) : (a >>= f).Keeps I := by
  intro s hs
  rw [bind_run]
  rcases hrun : a s with ⟨e | x, mid⟩
  · exact ha.run hrun hs
  · exact hf s x mid hs hrun mid (ha.run hrun hs)

/-- To forgive a fault does not move the state. -/
theorem Keeps.forgiving {a : Action σ Unit} (h : a.Keeps I) (p : Fault → Bool) :
    (a.forgiving p).Keeps I := by
  intro s hs
  unfold Action.forgiving
  rcases ha : a s with ⟨f | u, s'⟩
  · exact h.run ha hs
  · exact h.run ha hs

/-- Where `ready` holds, the action succeeds and has this effect; elsewhere it fails and
changes nothing. -/
structure Conditional (ready : σ → Prop) (effect : σ → σ) (a : Action σ Unit) : Prop where
  done : ∀ s, ready s → a s = (.ok (), effect s)
  refused : ∀ s, ¬ready s → ∃ f, a s = (.error f, s)

namespace Conditional

variable {ready : σ → Prop} {effect : σ → σ} {a : Action σ Unit}

/-- Either its effect took place, in a state that was ready, or nothing happened. -/
theorem run_cases (h : a.Conditional ready effect) (s : σ) :
    (ready s ∧ a s = (.ok (), effect s)) ∨ ¬ready s ∧ ∃ f, a s = (.error f, s) := by
  by_cases hready : ready s
  · exact .inl ⟨hready, h.done s hready⟩
  · exact .inr ⟨hready, h.refused s hready⟩

/-- It succeeds exactly where the state is ready. -/
theorem eq_ok_iff (h : a.Conditional ready effect) :
    a s = (.ok (), s') ↔ ready s ∧ s' = effect s := by
  rcases h.run_cases s with ⟨hready, hrun⟩ | ⟨hnot, f, hrun⟩
  · simp [hready, hrun, eq_comm]
  · simp [hnot, hrun]

/-- It fails only where the state is not, and changes nothing then. -/
theorem eq_error (h : a.Conditional ready effect) {f : Fault} (ha : a s = (.error f, s')) :
    ¬ready s ∧ s' = s := by
  rcases h.run_cases s with ⟨-, hrun⟩ | ⟨hnot, f', hrun⟩
  · rw [hrun] at ha
    simp at ha
  · obtain ⟨-, rfl⟩ := Action.outcome_eq_iff.1 (hrun.symm.trans ha)
    exact ⟨hnot, rfl⟩

/-- The state stays as it is, or the effect took place. -/
theorem state_cases (h : a.Conditional ready effect) (s : σ) :
    (a s).2 = s ∨ (a s).2 = effect s := by
  rcases h.run_cases s with ⟨-, hrun⟩ | ⟨-, f, hrun⟩
  · exact .inr (congrArg Prod.snd hrun)
  · exact .inl (congrArg Prod.snd hrun)

/-- What holds holds afterwards, if the effect does not break it where the state is ready. -/
theorem keeps_at {P : σ → Prop} (h : a.Conditional ready effect) (hs : P s)
    (heffect : ready s → P (effect s)) : P (a s).2 := by
  rcases h.run_cases s with ⟨hready, hrun⟩ | ⟨-, f, hrun⟩
  · rw [hrun]
    exact heffect hready
  · rw [hrun]
    exact hs

end Conditional

end Action

end FolderGrants
