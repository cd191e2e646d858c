import MediaCamera.Machine.Run

/-!
# A lock that many processes share

* `ReachableUnder.simulates`   a relation between two machines, kept by every step, relates every
                     reachable state to a reachable one;
* `lockMachine`      the lock: free, or with one of the processes;
* `LockAction.Enabled`   a process takes a free lock, and gives back its own;
* `HolderOf`         who holds the lock, told by a predicate on the processes;
* `HolderOf.keep`, `HolderOf.acquire`, `HolderOf.release`   what a step of one process makes of it.
-/

namespace MediaCamera

namespace Machine
variable {σ τ α β : Type} {M : Machine σ α} {N : Machine τ β}

/-- the simulation rule: every step is matched by a step of the other machine, or by none -/
theorem ReachableUnder.simulates {R : σ → τ → Prop} {C : σ → α → Prop} {D : τ → β → Prop}
    (hinit : ∀ s, M.init s → ∃ t, N.init t ∧ R s t)
    (hstep : ∀ s a t, M.ReachableUnder C s → C s a → R s t →
      R (M.step s a) t ∨ ∃ b, D t b ∧ R (M.step s a) (N.step t b))
    {s : σ} (h : M.ReachableUnder C s) : ∃ t, N.ReachableUnder D t ∧ R s t := by
  induction h with
  | start h =>
    obtain ⟨t, ht, hR⟩ := hinit _ h
    exact ⟨t, .start ht, hR⟩
  | next a h hC ih =>
    obtain ⟨t, ht, hR⟩ := ih
    rcases hstep _ a t h hC hR with hsame | ⟨b, hD, hnext⟩
    · exact ⟨t, ht, hsame⟩
    · exact ⟨N.step t b, .next b ht hD, hnext⟩

end Machine

/-! ## the lock -/

inductive LockAction (ι : Type) where
  | acquire (i : ι)
  | release (i : ι)
  deriving DecidableEq, Repr

def lockMachine (ι : Type) : Machine (Option ι) (LockAction ι) where
  init holder := holder = none
  step _ a :=
    match a with
    | .acquire i => some i
    | .release _ => none

def LockAction.Enabled {ι : Type} (holder : Option ι) : LockAction ι → Prop
  | .acquire _ => holder = none
  | .release i => holder = some i

/-! ## holders -/

section
variable {ι : Type} {holds holds' : ι → Prop} {holder : Option ι} {i : ι}

/-- the holder is the only process with `holds` -/
def HolderOf (holds : ι → Prop) (holder : Option ι) : Prop := ∀ i, holds i ↔ holder = some i

theorem HolderOf.unique (h : HolderOf holds holder) {i j : ι} (hi : holds i) (hj : holds j) :
    i = j :=
  Option.some.inj (((h i).mp hi).symm.trans ((h j).mp hj))

theorem HolderOf.isSome (h : HolderOf holds holder) : holder.isSome = true ↔ ∃ i, holds i := by
  rw [Option.isSome_iff_exists]
  exact exists_congr fun i => (h i).symm

theorem HolderOf.existsUnique (h : HolderOf holds holder) :
    holder.isSome = true ↔ ∃! i, holds i := by
  rw [h.isSome]
  constructor
  · rintro ⟨i, hi⟩
    exact ⟨i, hi, fun j hj => h.unique hj hi⟩
  · rintro ⟨i, hi, _⟩
    exact ⟨i, hi⟩

theorem HolderOf.nobody (h : HolderOf holds none) (i : ι) : ¬ holds i := by
  rw [h i]
  intro hsome
  cases hsome

theorem HolderOf.free (hnone : ∀ i, ¬ holds i) : HolderOf holds none := by
  intro i
  exact ⟨fun hi => absurd hi (hnone i), fun h => by cases h⟩

/-- a step of the process `i` that neither takes the lock nor gives it back -/
theorem HolderOf.keep (h : HolderOf holds holder) (hothers : ∀ j, j ≠ i → (holds' j ↔ holds j))
    (hi : holds' i ↔ holds i) : HolderOf holds' holder := by
  intro j
  by_cases hj : j = i
  · subst hj
    rw [hi, h j]
  · rw [hothers j hj, h j]

theorem HolderOf.acquire (h : HolderOf holds none)
    (hothers : ∀ j, j ≠ i → (holds' j ↔ holds j)) (hi : holds' i) : HolderOf holds' (some i) := by
  intro j
  by_cases hj : j = i
  · subst hj
    exact ⟨fun _ => rfl, fun _ => hi⟩
  · rw [hothers j hj]
    exact ⟨fun hholds => absurd hholds (h.nobody j), fun hsome => absurd (Option.some.inj hsome).symm hj⟩

theorem HolderOf.release (h : HolderOf holds (some i))
    (hothers : ∀ j, j ≠ i → (holds' j ↔ holds j)) (hi : ¬ holds' i) : HolderOf holds' none := by
  apply HolderOf.free
  intro j hj
  by_cases hne : j = i
  · subst hne
    exact hi hj
  · rw [hothers j hne, h j] at hj
    exact hne (Option.some.inj hj).symm

end

end MediaCamera
