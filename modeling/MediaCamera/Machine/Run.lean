import Mathlib.Tactic
import Mathlib.Logic.Relation

/-!
# Machines and their runs

A program with several threads is a MACHINE: a set of initial states and one total step
function on actions.  An action names the thread that moves and carries everything the step
reads from outside the model (a request, a clock, a driver result, the outcome of a try-lock);
a thread that waits takes a step that changes nothing.

* `M.run s as`       the state after the actions `as`;
* `M.ReachableUnder C s`   the states of the runs all of whose steps satisfy `C`;
* `M.Reachable s`    the states of all runs;
* `ReachableUnder.invariant`   what holds at the start and survives a step holds throughout;
* `ReachableUnder.map`   a projection that turns steps into steps or stutters carries runs
                     to runs, with the step condition;
* `Justified`        a history in which every event is justified by the events before it;
* `Before l e e'`    in the history `l`, an event `e'` comes after an event `e`.
-/

namespace MediaCamera

universe u v

structure Machine (σ : Type u) (α : Type v) where
  init : σ → Prop
  step : σ → α → σ

namespace Machine
variable {σ : Type u} {α : Type v} (M : Machine σ α)

def run (s : σ) (as : List α) : σ := as.foldl M.step s

theorem run_cons (s : σ) (a : α) (as : List α) : M.run s (a :: as) = M.run (M.step s a) as := rfl
theorem run_append (s : σ) (as bs : List α) : M.run s (as ++ bs) = M.run (M.run s as) bs := by
  simp [run, List.foldl_append]

/-- the states of the runs all of whose steps satisfy `C` -/
inductive ReachableUnder (C : σ → α → Prop) : σ → Prop where
  | start {s : σ} (h : M.init s) : ReachableUnder C s
  | next {s : σ} (a : α) (h : ReachableUnder C s) (hC : C s a) : ReachableUnder C (M.step s a)

def Reachable : σ → Prop := M.ReachableUnder (fun _ _ => True)

/-- every step of the run `as` from `s` satisfies `C` -/
def Along (C : σ → α → Prop) : σ → List α → Prop
  | _, [] => True
  | s, a :: as => C s a ∧ Along C (M.step s a) as

instance Along.decidable (C : σ → α → Prop) [∀ s a, Decidable (C s a)] :
    ∀ s as, Decidable (M.Along C s as)
  | _, [] => inferInstanceAs (Decidable True)
  | s, a :: as =>
    have : Decidable (M.Along C (M.step s a) as) := Along.decidable C (M.step s a) as
    inferInstanceAs (Decidable (C s a ∧ M.Along C (M.step s a) as))

variable {M}

theorem along_of_mem {C : σ → α → Prop} {as : List α} (h : ∀ s, ∀ a ∈ as, C s a) (s : σ) :
    M.Along C s as := by
  induction as generalizing s with
  | nil => trivial
  | cons a as ih =>
    exact ⟨h s a List.mem_cons_self,
      ih (fun s' a' ha' => h s' a' (List.mem_cons_of_mem _ ha')) (M.step s a)⟩

theorem ReachableUnder.mono {C D : σ → α → Prop} (hCD : ∀ s a, C s a → D s a) {s : σ}
    (h : M.ReachableUnder C s) : M.ReachableUnder D s := by
  induction h with
  | start h => exact .start h
  | next a _ hC ih => exact .next a ih (hCD _ a hC)

theorem ReachableUnder.reachable {C : σ → α → Prop} {s : σ} (h : M.ReachableUnder C s) :
    M.Reachable s :=
  h.mono (fun _ _ _ => trivial)

theorem Reachable.next {s : σ} (h : M.Reachable s) (a : α) : M.Reachable (M.step s a) :=
  ReachableUnder.next a h trivial

theorem ReachableUnder.run {C : σ → α → Prop} {s : σ} (h : M.ReachableUnder C s) (as : List α)
    (hC : M.Along C s as) : M.ReachableUnder C (M.run s as) := by
  induction as generalizing s with
  | nil => exact h
  | cons a as ih => exact ih (.next a h hC.1) hC.2

theorem Reachable.run {s : σ} (h : M.Reachable s) (as : List α) : M.Reachable (M.run s as) := by
  induction as generalizing s with
  | nil => exact h
  | cons a as ih => exact ih (h.next a)

/-- **The invariant rule.**  A step may use that its state is reachable, so invariants are
proved one after the other. -/
theorem ReachableUnder.invariant {C : σ → α → Prop} {P : σ → Prop}
    (hinit : ∀ s, M.init s → P s)
    (hstep : ∀ s a, M.ReachableUnder C s → C s a → P s → P (M.step s a))
    {s : σ} (h : M.ReachableUnder C s) : P s := by
  induction h with
  | start h => exact hinit _ h
  | next a h hC ih => exact hstep _ a h hC ih

theorem Reachable.invariant {P : σ → Prop} (hinit : ∀ s, M.init s → P s)
    (hstep : ∀ s a, M.Reachable s → P s → P (M.step s a)) {s : σ} (h : M.Reachable s) : P s :=
  ReachableUnder.invariant hinit (fun s a hs _ hP => hstep s a hs hP) h

/-- an invariant of the runs under `C` may be used as a condition on their steps -/
theorem ReachableUnder.strengthen {C : σ → α → Prop} {P : σ → Prop}
    (hP : ∀ s, M.ReachableUnder C s → P s) {s : σ} (h : M.ReachableUnder C s) :
    M.ReachableUnder (fun s a => C s a ∧ P s) s := by
  induction h with
  | start h => exact .start h
  | next a h hC ih => exact .next a ih ⟨hC, hP _ h⟩

/-- an invariant of one part of a run that starts in a reachable state -/
theorem run_induct {P : σ → Prop} (hstep : ∀ s a, P s → P (M.step s a)) {s : σ} (h : P s)
    (as : List α) : P (M.run s as) := by
  induction as generalizing s with
  | nil => exact h
  | cons a as ih => exact ih (hstep s a h)

/-! ## projections -/

section
variable {τ : Type u} {β : Type v} {N : Machine τ β}

/-- `f` turns every step of `M` under `C` into a step of `N` under `D`, or into nothing -/
def Projects (M : Machine σ α) (N : Machine τ β) (f : σ → τ) (C : σ → α → Prop)
    (D : τ → β → Prop) : Prop :=
  (∀ s, M.init s → N.init (f s)) ∧
    ∀ s a, C s a → f (M.step s a) = f s ∨ ∃ b, D (f s) b ∧ f (M.step s a) = N.step (f s) b

theorem ReachableUnder.map {f : σ → τ} {C : σ → α → Prop} {D : τ → β → Prop}
    (hf : Projects M N f C D) {s : σ} (h : M.ReachableUnder C s) : N.ReachableUnder D (f s) := by
  induction h with
  | start h => exact .start (hf.1 _ h)
  | next a _ hC ih =>
    rcases hf.2 _ a hC with e | ⟨b, hD, e⟩
    · rw [e]; exact ih
    · rw [e]; exact .next b ih hD

end
end Machine

/-! ## histories -/

section
variable {ε : Type u}

/-- every event of a history (newest first) is justified by the events before it -/
def Justified (J : ε → List ε → Prop) : List ε → Prop
  | [] => True
  | e :: l => J e l ∧ Justified J l

@[simp] theorem justified_nil (J : ε → List ε → Prop) : Justified J [] := trivial

@[simp] theorem justified_cons (J : ε → List ε → Prop) (e : ε) (l : List ε) :
    Justified J (e :: l) ↔ J e l ∧ Justified J l := Iff.rfl

instance Justified.decidable (J : ε → List ε → Prop) [∀ e l, Decidable (J e l)] :
    DecidablePred (Justified J)
  | [] => .isTrue True.intro
  | e :: l =>
    have : Decidable (Justified J l) := Justified.decidable J l
    inferInstanceAs (Decidable (J e l ∧ Justified J l))

theorem Justified.tail {J : ε → List ε → Prop} {new l : List ε} (h : Justified J (new ++ l)) :
    Justified J l := by
  induction new with
  | nil => exact h
  | cons e new ih => exact ih h.2

theorem Justified.append {J : ε → List ε → Prop} {new l : List ε} (h : Justified J l)
    (hnew : ∀ e ∈ new, ∀ older, J e older) : Justified J (new ++ l) := by
  induction new with
  | nil => exact h
  | cons e new ih =>
    exact ⟨hnew e List.mem_cons_self _, ih fun e he => hnew e (List.mem_cons_of_mem _ he)⟩

/-- wherever an event stands, what stands before it justifies it -/
theorem Justified.split {J : ε → List ε → Prop} {l : List ε} (h : Justified J l) {new old : List ε}
    {e : ε} (hl : l = new ++ e :: old) : J e old := by
  subst hl
  exact (Justified.tail h).1

/-- in a history (newest first), an event `e'` comes after an event `e` -/
def Before (l : List ε) (e e' : ε) : Prop := ∃ newer older, l = newer ++ e' :: older ∧ e ∈ older

theorem Justified.before_of_not {J : ε → List ε → Prop} {l : List ε} (h : Justified J l) {e e' : ε}
    (he : e ∈ l) (he' : e' ∈ l) (hne : e ≠ e') (hJ : ∀ older, J e older → e' ∉ older) :
    Before l e e' := by
  obtain ⟨newer, older, rfl⟩ := List.append_of_mem he'
  refine ⟨newer, older, rfl, ?_⟩
  rcases List.mem_append.mp he with hnewer | hmem
  · obtain ⟨new, old, rfl⟩ := List.append_of_mem hnewer
    refine absurd ?_ (hJ (old ++ e' :: older) (h.split (by rw [List.append_assoc]; rfl)))
    simp
  · rcases List.mem_cons.mp hmem with rfl | hmem
    · exact absurd rfl hne
    · exact hmem

end

end MediaCamera
