import MediaCamera.Machine.Rely

/-!
# The steps of one call

What one thread of a pool did in a run in which it began no further call.

* `Prog.Trace p steps`   steps that `p` may take first, whatever happens in between;
* `Prog.Decides`         along every trace, either all steps are silent or none of them rejects;
* `Pool.stepsOf t s as`  the steps that thread `t` takes in the run `as` from `s`;
* `stepsOf_trace`, `stepsOf_guar`   they are a trace of its program, and within its contract;
* `safe_run`             the call stays safe, so its post-condition holds when it is over;
* `stepsOf_turns`        what only thread `t` can make true, one of its steps made true;
* `stepsOf_keeps`        what all steps keep holds at the end.
-/

namespace MediaCamera

/-- a step that a thread took: its name, and the shared state before and after it -/
structure Taken (σ Λ : Type) where
  label : Λ
  before : σ
  after : σ

namespace Prog
variable {σ Λ α β : Type}

inductive Trace : Prog σ Λ α → List (Taken σ Λ) → Prop
  | nil (p : Prog σ Λ α) : Trace p []
  | cons {l : Λ} {f : σ → σ} {k : σ → Prog σ Λ α} {steps : List (Taken σ Λ)} (s : σ)
      (h : Trace (k s) steps) : Trace (.act l f k) (⟨l, s, f s⟩ :: steps)

theorem Within.trace {T : Λ → σ → σ → Prop} {p : Prog σ Λ α} {steps : List (Taken σ Λ)}
    (h : p.Within T) (hsteps : Trace p steps) : ∀ x ∈ steps, T x.label x.before x.after := by
  induction hsteps with
  | nil p => exact fun x hx => by cases hx
  | cons s _ ih =>
    intro x hx
    rcases List.mem_cons.mp hx with rfl | hx
    · exact (h s).1
    · exact ih (h s).2 x hx

/-- a program that rejects before it does anything, or does not reject -/
def Decides (silent rejects : σ → σ → Prop) : Prog σ Λ α → Prop
  | .ret _ => True
  | .act _ f k => ∀ s,
    (silent s (f s) ∧ ¬ rejects s (f s) ∧ Decides silent rejects (k s)) ∨
    (silent s (f s) ∧ Within (fun _ => silent) (k s)) ∨
    (¬ rejects s (f s) ∧ Within (fun _ s s' => ¬ rejects s s') (k s))

section
variable {silent rejects : σ → σ → Prop}

theorem Decides.trace {p : Prog σ Λ α} {steps : List (Taken σ Λ)} (h : p.Decides silent rejects)
    (hsteps : Trace p steps) :
    (∀ x ∈ steps, silent x.before x.after) ∨ ∀ x ∈ steps, ¬ rejects x.before x.after := by
  induction hsteps with
  | nil p => exact .inl fun x hx => by cases hx
  | cons s hsteps ih =>
    rcases h s with ⟨hsilent, hkeeps, hk⟩ | ⟨hsilent, hk⟩ | ⟨hkeeps, hk⟩
    · rcases ih hk with hall | hall
      · exact .inl (List.forall_mem_cons.mpr ⟨hsilent, hall⟩)
      · exact .inr (List.forall_mem_cons.mpr ⟨hkeeps, hall⟩)
    · exact .inl (List.forall_mem_cons.mpr ⟨hsilent, hk.trace hsteps⟩)
    · exact .inr (List.forall_mem_cons.mpr ⟨hkeeps, hk.trace hsteps⟩)

theorem Decides.of_silent {p : Prog σ Λ α} (h : p.Within fun _ => silent) :
    p.Decides silent rejects := by
  cases p with
  | ret a => trivial
  | act l f k => exact fun s => .inr (.inl (h s))

theorem Decides.of_accepting {p : Prog σ Λ α} (h : p.Within fun _ s s' => ¬ rejects s s') :
    p.Decides silent rejects := by
  cases p with
  | ret a => trivial
  | act l f k => exact fun s => .inr (.inr (h s))

theorem Decides.access {l : Λ} {f : σ → σ × β} {g : β → Prog σ Λ α}
    (h : ∀ s, (silent s (f s).1 ∧ ¬ rejects s (f s).1 ∧ (g (f s).2).Decides silent rejects) ∨
      (¬ rejects s (f s).1 ∧ (g (f s).2).Within fun _ s s' => ¬ rejects s s')) :
    (atomic l f >>= g).Decides silent rejects := by
  intro s
  rcases h s with h | h
  · exact .inl h
  · exact .inr (.inr h)

theorem Decides.bind {p : Prog σ Λ β} {g : β → Prog σ Λ α}
    (h : p.Within fun _ s s' => silent s s' ∧ ¬ rejects s s')
    (hg : ∀ b, (g b).Decides silent rejects) : (p >>= g).Decides silent rejects := by
  show (p.bind g).Decides silent rejects
  induction p with
  | ret b => exact hg b
  | act l f k ih => exact fun s => .inl ⟨(h s).1.1, (h s).1.2, ih s (h s).2⟩

theorem Decides.ite {c : Prop} [Decidable c] {p p' : Prog σ Λ α} (h : p.Decides silent rejects)
    (h' : p'.Decides silent rejects) : (if c then p else p').Decides silent rejects := by
  split
  · exact h
  · exact h'

end
end Prog

/-! ## the steps of a thread in a run -/

namespace Pool
variable {σ Λ T : Type} {Call : T → Type} [DecidableEq T] {P : Pool σ Λ T Call}

/-- the step that an action makes thread `t` take -/
def stepOf (t : T) (s : PoolState σ Λ T) : PoolAction T Call → Option (Taken σ Λ)
  | .start _ _ => none
  | .step t' =>
    if t' = t then
      match s.thread t with
      | .ret _ => none
      | .act l f _ => some ⟨l, s.shared, f s.shared⟩
    else none

variable (P) in
def stepsOf (t : T) : PoolState σ Λ T → List (PoolAction T Call) → List (Taken σ Λ)
  | _, [] => []
  | s, a :: as => (stepOf t s a).toList ++ stepsOf t (P.next s a) as

def Uncalled (t : T) (as : List (PoolAction T Call)) : Prop := ∀ c, .start t c ∉ as

theorem next_thread_ne {t t' : T} (h : t' ≠ t) (s : PoolState σ Λ T) :
    (P.next s (.step t')).thread t = s.thread t := by
  cases ht : s.thread t' with
  | ret u => rw [next_step_idle ht]
  | act l f k =>
    rw [next_step ht]
    exact if_neg h.symm

theorem next_start_thread_ne {t t' : T} (h : t' ≠ t) (s : PoolState σ Λ T) (c : Call t') :
    (P.next s (.start t' c)).thread t = s.thread t := by
  cases ht : s.thread t' with
  | ret u =>
    rw [next_start ht]
    exact if_neg h.symm
  | act l f k => rw [next_start_running ht]

theorem next_thread {t : T} {s : PoolState σ Λ T} {a : PoolAction T Call}
    (h : ∀ c, a ≠ .start t c) :
    (∃ l f k, s.thread t = .act l f k ∧ stepOf t s a = some ⟨l, s.shared, f s.shared⟩ ∧
      (P.next s a).shared = f s.shared ∧ (P.next s a).thread t = k s.shared) ∨
    (stepOf t s a = none ∧ (P.next s a).thread t = s.thread t) := by
  cases a with
  | start t' c =>
    refine .inr ⟨rfl, ?_⟩
    by_cases e : t' = t
    · subst e
      exact absurd rfl (h c)
    · exact next_start_thread_ne e s c
  | step t' =>
    by_cases e : t' = t
    · subst e
      cases ht : s.thread t' with
      | ret u => exact .inr ⟨by simp [stepOf, ht], by rw [next_step_idle ht, ht]⟩
      | act l f k =>
        refine .inl ⟨l, f, k, rfl, by simp [stepOf, ht], by rw [next_step ht], ?_⟩
        rw [next_step ht]
        exact if_pos rfl
    · exact .inr ⟨if_neg e, next_thread_ne e s⟩

theorem stepsOf_trace {t : T} {as : List (PoolAction T Call)} (has : Uncalled t as)
    (s : PoolState σ Λ T) : Prog.Trace (s.thread t) (P.stepsOf t s as) := by
  induction as generalizing s with
  | nil => exact .nil _
  | cons a as ih =>
    have ha : ∀ c, a ≠ .start t c := fun c e => has c (e ▸ List.mem_cons_self)
    have ih := ih (fun c hc => has c (List.mem_cons_of_mem _ hc)) (P.next s a)
    rw [stepsOf]
    rcases next_thread (P := P) ha with ⟨l, f, k, ht, hstep, _, hk⟩ | ⟨hstep, hk⟩
    · rw [hstep, ht]
      rw [hk] at ih
      exact .cons s.shared ih
    · rw [hstep]
      rw [hk] at ih
      exact ih

/-- the steps of a call are within its contract, if the others stay within what it relies on -/
theorem stepsOf_guar {I : σ → Prop} {C : Λ → σ → Prop} {K : Contract I C}
    {Q : Unit → σ → Prop} {D : PoolState σ Λ T → Prop} {t : T}
    (hnext : ∀ s a, D s → D (P.next s a)) (hI : ∀ s, D s → I s.shared)
    (hC : ∀ s l, D s → C l s.shared)
    (hrely : ∀ s a, D s → stepOf t s a = none → K.rely s.shared (P.next s a).shared)
    {as : List (PoolAction T Call)} (has : Uncalled t as) {s : PoolState σ Λ T} (hs : D s)
    (hsafe : K.Safe Q (s.thread t) s.shared) :
    ∀ x ∈ P.stepsOf t s as, K.guar x.label x.before x.after := by
  induction as generalizing s with
  | nil => exact fun x hx => by cases hx
  | cons a as ih =>
    have ha : ∀ c, a ≠ .start t c := fun c e => has c (e ▸ List.mem_cons_self)
    have ih := ih (fun c hc => has c (List.mem_cons_of_mem _ hc)) (hnext s a hs)
    intro x hx
    rcases List.mem_append.mp hx with hx | hx
    · rcases next_thread (P := P) ha with ⟨l, f, k, ht, hstep, _, _⟩ | ⟨hstep, _⟩
      · rw [hstep] at hx
        rw [ht] at hsafe
        obtain rfl := List.mem_singleton.mp hx
        exact (hsafe s.shared (K.rely_refl _) (hI s hs) (hC s l hs)).2.1
      · rw [hstep] at hx
        cases hx
    · refine ih ?_ x hx
      rcases next_thread (P := P) ha with ⟨l, f, k, ht, _, hshared, hk⟩ | ⟨hstep, hk⟩
      · rw [ht] at hsafe
        rw [hshared, hk]
        exact (hsafe s.shared (K.rely_refl _) (hI s hs) (hC s l hs)).2.2
      · rw [hk]
        exact hsafe.rely (hrely s a hs hstep)

/-- a call that is safe where it begins is safe wherever the run has got -/
theorem safe_run {I : σ → Prop} {C : Λ → σ → Prop} {K : Contract I C} {Q : Unit → σ → Prop}
    {D : PoolState σ Λ T → Prop} {t : T}
    (hnext : ∀ s a, D s → D (P.next s a)) (hI : ∀ s, D s → I s.shared)
    (hC : ∀ s l, D s → C l s.shared)
    (hrely : ∀ s a, D s → stepOf t s a = none → K.rely s.shared (P.next s a).shared)
    {as : List (PoolAction T Call)} (has : Uncalled t as) {s : PoolState σ Λ T} (hs : D s)
    (hsafe : K.Safe Q (s.thread t) s.shared) :
    K.Safe Q ((P.machine.run s as).thread t) (P.machine.run s as).shared := by
  induction as generalizing s with
  | nil => exact hsafe
  | cons a as ih =>
    have ha : ∀ c, a ≠ .start t c := fun c e => has c (e ▸ List.mem_cons_self)
    rw [Machine.run_cons]
    refine ih (fun c hc => has c (List.mem_cons_of_mem _ hc)) (hnext s a hs) ?_
    show K.Safe Q ((P.next s a).thread t) (P.next s a).shared
    rcases next_thread (P := P) ha with ⟨l, f, k, ht, _, hshared, hk⟩ | ⟨hstep, hk⟩
    · rw [ht] at hsafe
      rw [hshared, hk]
      exact (hsafe s.shared (K.rely_refl _) (hI s hs) (hC s l hs)).2.2
    · rw [hk]
      exact hsafe.rely (hrely s a hs hstep)

/-- what the other threads cannot make true, a step of thread `t` made true -/
theorem stepsOf_turns {X : σ → Prop} {D : PoolState σ Λ T → Prop} {t : T}
    (hnext : ∀ s a, D s → D (P.next s a))
    (hothers : ∀ s a, D s → stepOf t s a = none → X (P.next s a).shared → X s.shared)
    {as : List (PoolAction T Call)} (has : Uncalled t as) {s : PoolState σ Λ T} (hs : D s)
    (hX : X (P.machine.run s as).shared) :
    X s.shared ∨ ∃ x ∈ P.stepsOf t s as, ¬ X x.before ∧ X x.after := by
  induction as generalizing s with
  | nil => exact .inl hX
  | cons a as ih =>
    have ha : ∀ c, a ≠ .start t c := fun c e => has c (e ▸ List.mem_cons_self)
    rw [Machine.run_cons] at hX
    rcases ih (fun c hc => has c (List.mem_cons_of_mem _ hc)) (hnext s a hs) hX with
      hX | ⟨x, hx, hturn⟩
    · by_cases hbefore : X s.shared
      · exact .inl hbefore
      rcases next_thread (P := P) ha with ⟨l, f, k, _, hstep, hshared, _⟩ | ⟨hstep, _⟩
      · refine .inr ⟨⟨l, s.shared, f s.shared⟩, ?_, hbefore, ?_⟩
        · rw [stepsOf, hstep]
          exact List.mem_cons_self
        · rw [hshared] at hX
          exact hX
      · exact absurd (hothers s a hs hstep hX) hbefore
    · exact .inr ⟨x, List.mem_append_right _ hx, hturn⟩

/-- what the other threads and every step of thread `t` keep holds at the end of the run -/
theorem stepsOf_keeps {J : σ → Prop} {D : PoolState σ Λ T → Prop} {t : T}
    (hnext : ∀ s a, D s → D (P.next s a))
    (hothers : ∀ s a, D s → stepOf t s a = none → J s.shared → J (P.next s a).shared)
    {as : List (PoolAction T Call)} (has : Uncalled t as) {s : PoolState σ Λ T} (hs : D s)
    (hown : ∀ x ∈ P.stepsOf t s as, J x.before → J x.after) (hJ : J s.shared) :
    J (P.machine.run s as).shared := by
  induction as generalizing s with
  | nil => exact hJ
  | cons a as ih =>
    have ha : ∀ c, a ≠ .start t c := fun c e => has c (e ▸ List.mem_cons_self)
    rw [Machine.run_cons]
    refine ih (fun c hc => has c (List.mem_cons_of_mem _ hc)) (hnext s a hs)
      (fun x hx => hown x (List.mem_append_right _ hx)) ?_
    show J (P.next s a).shared
    rcases next_thread (P := P) ha with ⟨l, f, k, _, hstep, hshared, _⟩ | ⟨hstep, _⟩
    · rw [hshared]
      refine hown ⟨l, s.shared, f s.shared⟩ ?_ hJ
      rw [stepsOf, hstep]
      exact List.mem_cons_self
    · exact hothers s a hs hstep hJ

end Pool

end MediaCamera
