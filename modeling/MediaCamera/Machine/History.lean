import MediaCamera.Machine.Trace

/-!
# The history of a pool

The steps of all threads, in their order, and what follows from one relation that contains them.

* `Pool.history s as`    the steps taken in the run `as` from `s`;
* `Pool.Confined T s`    every running program is within `T`;
* `Confined.next`        an action keeps that, if every call is within `T`;
* `Confined.follows`     the run rule: a fact about a record of the history and the shared state
                         that every step in `T` keeps holds after every run;
* `Confined.keeps`       the same without a record;
* `Confined.along`       the same for the runs under a condition on the calls;
* `Confined.history`     every step of the history is in `T`, and `P` holds where it is taken.
-/

namespace MediaCamera

namespace Pool
variable {σ Λ T γ : Type} {Call : T → Type} [DecidableEq T] {P : Pool σ Λ T Call}

def taken (s : PoolState σ Λ T) : PoolAction T Call → Option (Taken σ Λ)
  | .start _ _ => none
  | .step t =>
    match s.thread t with
    | .ret _ => none
    | .act l f _ => some ⟨l, s.shared, f s.shared⟩

variable (P) in
def history : PoolState σ Λ T → List (PoolAction T Call) → List (Taken σ Λ)
  | _, [] => []
  | s, a :: as => (taken s a).toList ++ history (P.next s a) as

def Confined (R : Λ → σ → σ → Prop) (s : PoolState σ Λ T) : Prop := ∀ t, (s.thread t).Within R

variable {R : Λ → σ → σ → Prop} {s : PoolState σ Λ T}

omit [DecidableEq T] in
theorem Confined.idle (h : s.thread = fun _ => .ret ()) : Confined R s := by
  intro t
  rw [h]
  exact .ret ()

theorem Confined.taken (h : Confined R s) (a : PoolAction T Call) :
    (taken s a = none ∧ (P.next s a).shared = s.shared) ∨
      ∃ l s', taken s a = some ⟨l, s.shared, s'⟩ ∧ (P.next s a).shared = s' ∧
        R l s.shared s' := by
  cases a with
  | start t c =>
    left
    cases ht : s.thread t with
    | ret u => exact ⟨rfl, by rw [next_start ht]⟩
    | act l f k => exact ⟨rfl, by rw [next_start_running ht]⟩
  | step t =>
    cases ht : s.thread t with
    | ret u =>
      left
      exact ⟨by simp [Pool.taken, ht], by rw [next_step_idle ht]⟩
    | act l f k =>
      right
      have hwithin := h t
      rw [ht] at hwithin
      exact ⟨l, f s.shared, by simp [Pool.taken, ht], by rw [next_step ht], (hwithin s.shared).1⟩

theorem Confined.next_call {a : PoolAction T Call}
    (hbody : ∀ t c, a = .start t c → (P.body t c).Within R) (h : Confined R s) :
    Confined R (P.next s a) := by
  intro t'
  cases a with
  | start t c =>
    cases ht : s.thread t with
    | act l f k =>
      rw [next_start_running ht]
      exact h t'
    | ret u =>
      rw [next_start ht]
      show (if t' = t then P.body t c else s.thread t').Within R
      exact .ite (hbody t c rfl) (h t')
  | step t =>
    cases ht : s.thread t with
    | ret u =>
      rw [next_step_idle ht]
      exact h t'
    | act l f k =>
      rw [next_step ht]
      have hwithin := h t
      rw [ht] at hwithin
      show (if t' = t then k s.shared else s.thread t').Within R
      exact .ite (hwithin s.shared).2 (h t')

theorem Confined.next (hbody : ∀ t c, (P.body t c).Within R) (h : Confined R s)
    (a : PoolAction T Call) : Confined R (P.next s a) :=
  h.next_call fun t c _ => hbody t c

theorem Confined.run (hbody : ∀ t c, (P.body t c).Within R) (h : Confined R s)
    (as : List (PoolAction T Call)) : Confined R (P.machine.run s as) :=
  Machine.run_induct (fun _ a hs => hs.next hbody a) h as

/-- the run rule: `note` keeps a record `g` of the steps, and every step in `R` keeps `J` -/
theorem Confined.follows {note : γ → Taken σ Λ → γ} {J : γ → σ → Prop}
    (hbody : ∀ t c, (P.body t c).Within R)
    (hstep : ∀ g l s s', J g s → R l s s' → J (note g ⟨l, s, s'⟩) s') (h : Confined R s) {g : γ}
    (hJ : J g s.shared) (as : List (PoolAction T Call)) :
    J ((P.history s as).foldl note g) (P.machine.run s as).shared := by
  induction as generalizing s g with
  | nil => exact hJ
  | cons a as ih =>
    rw [Machine.run_cons]
    show J (((Pool.taken s a).toList ++ P.history (P.next s a) as).foldl note g)
      (P.machine.run (P.next s a) as).shared
    rw [List.foldl_append]
    apply ih (h.next hbody a)
    rcases h.taken (P := P) a with ⟨hnone, hshared⟩ | ⟨l, s', hsome, hshared, hR⟩
    · rw [hnone, hshared]
      exact hJ
    · rw [hsome, hshared]
      exact hstep g l s.shared s' hJ hR

/-- what every step in `R` keeps holds after every run -/
theorem Confined.keeps {J : σ → Prop} (hbody : ∀ t c, (P.body t c).Within R)
    (hstep : ∀ l s s', J s → R l s s' → J s') (h : Confined R s) (hJ : J s.shared)
    (as : List (PoolAction T Call)) : J (P.machine.run s as).shared := by
  induction as generalizing s with
  | nil => exact hJ
  | cons a as ih =>
    rw [Machine.run_cons]
    apply ih (h.next hbody a)
    show J (P.next s a).shared
    rcases h.taken (P := P) a with ⟨_, hshared⟩ | ⟨l, s', _, hshared, hR⟩
    · rw [hshared]
      exact hJ
    · rw [hshared]
      exact hstep l s.shared s' hJ hR

theorem Confined.along {C : PoolState σ Λ T → PoolAction T Call → Prop} {J : σ → Prop}
    (hbody : ∀ s t c, J s.shared → C s (.start t c) → (P.body t c).Within R)
    (hstep : ∀ l s s', J s → R l s s' → J s') (h : Confined R s) (hJ : J s.shared)
    {as : List (PoolAction T Call)} (hC : P.machine.Along C s as) :
    J (P.machine.run s as).shared := by
  induction as generalizing s with
  | nil => exact hJ
  | cons a as ih =>
    rw [Machine.run_cons]
    have hnext : Confined R (P.next s a) := by
      apply h.next_call
      rintro t c rfl
      exact hbody s t c hJ hC.1
    refine ih hnext ?_ hC.2
    show J (P.next s a).shared
    rcases h.taken (P := P) a with ⟨_, hshared⟩ | ⟨l, s', _, hshared, hR⟩
    · rw [hshared]
      exact hJ
    · rw [hshared]
      exact hstep l s.shared s' hJ hR

/-- every step of a run is in `R`, and is taken in a state with the invariant `J` -/
theorem Confined.history {J : σ → Prop} (hbody : ∀ t c, (P.body t c).Within R)
    (hstep : ∀ l s s', J s → R l s s' → J s') (h : Confined R s) (hJ : J s.shared)
    (as : List (PoolAction T Call)) :
    ∀ x ∈ P.history s as, J x.before ∧ R x.label x.before x.after := by
  induction as generalizing s with
  | nil => exact fun x hx => by cases hx
  | cons a as ih =>
    intro x hx
    rcases List.mem_append.1 hx with hx | hx
    · rcases h.taken (P := P) a with ⟨hnone, _⟩ | ⟨l, s', hsome, _, hR⟩
      · rw [hnone] at hx
        cases hx
      · rw [hsome] at hx
        obtain rfl := List.mem_singleton.1 hx
        exact ⟨hJ, hR⟩
    · apply ih (h.next hbody a) _ x hx
      rcases h.taken (P := P) a with ⟨_, hshared⟩ | ⟨l, s', _, hshared, hR⟩
      · rw [hshared]
        exact hJ
      · rw [hshared]
        exact hstep l s.shared s' hJ hR

end Pool

end MediaCamera
