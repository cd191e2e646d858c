import MediaCamera.Machine.Trace

/-!
# One thread of a pool

What an action of the pool makes of one thread, for threads that are followed alone: without an
invariant of the whole pool, and beside steps that are no actions of the pool.

* `within_next`, `within_reachable`   a thread whose calls are within `R` stays within `R`;
* `stepsOf_before`   the steps of a run are taken in reachable states;
* `idle_next`        an idle thread that takes no call stays idle;
* `safe_next`        a thread stays safe under a contract that needs no invariant;
* `guar_next`        its own steps are in the contract's guarantee.
-/

namespace MediaCamera

namespace Pool
variable {σ Λ T : Type} {Call : T → Type} [DecidableEq T] {P : Pool σ Λ T Call}
  {R : Λ → σ → σ → Prop} {s : PoolState σ Λ T} {t : T}

theorem next_cases (a : PoolAction T Call) :
    (∃ c, s.thread t = .ret () ∧ a = .start t c ∧ (P.next s a).thread t = P.body t c ∧
      (P.next s a).shared = s.shared) ∨
    (∃ l f k, s.thread t = .act l f k ∧ stepOf t s a = some ⟨l, s.shared, f s.shared⟩ ∧
      (P.next s a).shared = f s.shared ∧ (P.next s a).thread t = k s.shared) ∨
    (stepOf t s a = none ∧ (P.next s a).thread t = s.thread t) := by
  by_cases hstart : ∃ c, a = .start t c
  · obtain ⟨c, rfl⟩ := hstart
    cases ht : s.thread t with
    | act l f k =>
      right
      right
      rw [next_start_running ht]
      exact ⟨rfl, ht⟩
    | ret u =>
      left
      refine ⟨c, rfl, rfl, ?_, ?_⟩
      · rw [next_start ht]
        exact if_pos rfl
      · rw [next_start ht]
  · right
    exact next_thread fun c e => hstart ⟨c, e⟩

theorem within_next {a : PoolAction T Call} (hbody : ∀ c, a = .start t c → (P.body t c).Within R)
    (h : (s.thread t).Within R) : ((P.next s a).thread t).Within R := by
  rcases next_cases (P := P) (s := s) (t := t) a with
    ⟨c, _, ha, hthread, _⟩ | ⟨l, f, k, ht, _, _, hthread⟩ | ⟨_, hthread⟩
  · rw [hthread]
    exact hbody c ha
  · rw [ht] at h
    rw [hthread]
    exact (h s.shared).2
  · rw [hthread]
    exact h

theorem within_reachable {C : PoolState σ Λ T → PoolAction T Call → Prop}
    (hbody : ∀ s c, C s (.start t c) → (P.body t c).Within R)
    (h : P.machine.ReachableUnder C s) : (s.thread t).Within R := by
  refine Machine.ReachableUnder.invariant (P := fun s => (s.thread t).Within R) ?_ ?_ h
  · intro s hs
    rw [hs.2]
    exact .ret ()
  · intro s a _ hC hs
    apply within_next _ hs
    rintro c rfl
    exact hbody s c hC

theorem stepsOf_before {C : PoolState σ Λ T → PoolAction T Call → Prop}
    (h : P.machine.ReachableUnder C s) {as : List (PoolAction T Call)}
    (has : P.machine.Along C s as) :
    ∀ x ∈ P.stepsOf t s as, ∃ s', P.machine.ReachableUnder C s' ∧ x.before = s'.shared := by
  induction as generalizing s with
  | nil => exact fun x hx => by cases hx
  | cons a as ih =>
    intro x hx
    rcases List.mem_append.mp hx with hx | hx
    · rcases next_cases (P := P) (s := s) (t := t) a with
        ⟨c, _, rfl, _, _⟩ | ⟨l, f, k, _, hstep, _, _⟩ | ⟨hstep, _⟩
      · cases hx
      · rw [hstep] at hx
        obtain rfl := List.mem_singleton.mp hx
        exact ⟨s, h, rfl⟩
      · rw [hstep] at hx
        cases hx
    · exact ih (.next a h has.1) has.2 x hx

theorem idle_next (h : s.thread t = .ret ()) {a : PoolAction T Call}
    (ha : ∀ c, a ≠ .start t c) : (P.next s a).thread t = .ret () := by
  rcases next_thread (P := P) (s := s) ha with ⟨l, f, k, ht, _, _, _⟩ | ⟨_, hthread⟩
  · rw [ht] at h
    cases h
  · exact hthread.trans h

section
variable {K : Contract (fun _ : σ => True) (fun (_ : Λ) _ => True)} {idle : σ → Prop}

theorem safe_next (hbody : ∀ c, K.Triple idle (P.body t c) fun _ => idle)
    (h : K.Safe (fun _ => idle) (s.thread t) s.shared) (a : PoolAction T Call)
    (hrely : stepOf t s a = none → K.rely s.shared (P.next s a).shared) :
    K.Safe (fun _ => idle) ((P.next s a).thread t) (P.next s a).shared := by
  rcases next_cases (P := P) (s := s) (t := t) a with
    ⟨c, ht, _, hthread, hshared⟩ | ⟨l, f, k, ht, _, hshared, hthread⟩ | ⟨hstep, hthread⟩
  · rw [ht] at h
    rw [hthread, hshared]
    exact hbody c _ (h _ (K.rely_refl _) trivial)
  · rw [ht] at h
    rw [hthread, hshared]
    exact (h _ (K.rely_refl _) trivial trivial).2.2
  · rw [hthread]
    exact h.rely (hrely hstep)

theorem guar_next {Q : Unit → σ → Prop} (h : K.Safe Q (s.thread t) s.shared)
    {a : PoolAction T Call} {x : Taken σ Λ} (hx : stepOf t s a = some x) :
    K.guar x.label s.shared (P.next s a).shared := by
  rcases next_cases (P := P) (s := s) (t := t) a with
    ⟨c, _, rfl, _, _⟩ | ⟨l, f, k, ht, hstep, hshared, _⟩ | ⟨hstep, _⟩
  · cases hx
  · rw [hstep] at hx
    obtain rfl := Option.some.inj hx
    rw [ht] at h
    rw [hshared]
    exact (h _ (K.rely_refl _) trivial trivial).2.1
  · rw [hstep] at hx
    cases hx

end

end Pool

end MediaCamera
