import MediaCamera.Machine.Threads

/-!
# A second contract for one thread

A verified pool has one contract for each thread.  What else one thread guarantees is proved apart:
a further contract `K` of thread `t`, which keeps no invariant of its own, may assume before each
step a condition `D` on it and an invariant `J` that is known already, and relies on what the
contracts of the other threads say.

* `Verified.beside`        the thread is safe under `K` as well, in every run that obeys `D`;
* `Verified.beside_step`   so each of its steps is in the guarantee of both contracts;
* `Verified.beside_invariant`   what such steps keep is an invariant of the runs that obey `D`.
-/

namespace MediaCamera

namespace Pool
variable {σ Λ T : Type} {Call : T → Type} [DecidableEq T] {P : Pool σ Λ T Call}
  {I J : σ → Prop} {D : Λ → σ → Prop} {t : T}
  {K : Contract (fun _ : σ => True) fun l s => D l s ∧ J s} {idle : σ → Prop} {s : PoolState σ Λ T}

/-- a second contract of thread `t` -/
structure Beside (V : P.Verified I fun _ _ => True) (t : T)
    (K : Contract (fun _ : σ => True) fun l s => D l s ∧ J s) (idle : σ → Prop) : Prop where
  holds : ∀ s, P.machine.ReachableUnder (Obeys D) s → J s.shared
  init : ∀ s, P.init s → idle s
  stable : K.Stable idle
  body : ∀ c, K.Triple idle (P.body t c) fun _ => idle
  others : ∀ t', t' ≠ t → ∀ l s s', J s → (V.contract t').guar l s s' → K.rely s s'

variable {V : P.Verified I fun _ _ => True}

theorem Verified.beside (B : Beside V t K idle) (h : P.machine.ReachableUnder (Obeys D) s) :
    K.Safe (fun _ => idle) (s.thread t) s.shared := by
  refine Machine.ReachableUnder.invariant
    (P := fun s => K.Safe (fun _ => idle) (s.thread t) s.shared) ?_ ?_ h
  · intro s hs
    rw [hs.2]
    exact fun s' hr hI => B.stable _ s' hr hI (B.init _ hs.1)
  intro s a hreach hD hsafe
  have hfree : P.machine.ReachableUnder (Obeys fun _ _ => True) s :=
    hreach.mono fun s a _ => Obeys.trivial s a
  show K.Safe _ ((P.next s a).thread t) (P.next s a).shared
  rcases next_cases (P := P) (s := s) (t := t) a with
    ⟨c, ht, _, hthread, hshared⟩ | ⟨l, f, k, ht, hstep, hshared, hthread⟩ | ⟨hstep, hthread⟩
  · rw [ht] at hsafe
    rw [hthread, hshared]
    exact B.body c _ (hsafe _ (K.rely_refl _) trivial)
  · have hl : D l s.shared := by
      cases a with
      | start t' c => cases hstep
      | step t' =>
        by_cases e : t' = t
        · subst e
          exact Obeys.label hD ht
        · rw [stepOf, if_neg e] at hstep
          cases hstep
    rw [ht] at hsafe
    rw [hthread, hshared]
    exact (hsafe _ (K.rely_refl _) trivial ⟨hl, B.holds s hreach⟩).2.2
  · rw [hthread]
    refine hsafe.rely ?_
    rcases V.step hfree a (Obeys.trivial s a) with e | ⟨t', l, rfl, hl, hG⟩
    · have e : (P.next s a).shared = s.shared := e
      rw [e]
      exact K.rely_refl _
    · refine B.others t' (fun e => ?_) l _ _ (B.holds s hreach) hG
      subst e
      cases ht : s.thread t' with
      | ret u => simp [ht, Prog.next] at hl
      | act l f k => simp [stepOf, ht] at hstep

theorem Verified.beside_step (B : Beside V t K idle) (h : P.machine.ReachableUnder (Obeys D) s)
    {a : PoolAction T Call} (ha : Obeys D s a) :
    (P.machine.step s a).shared = s.shared ∨
      ∃ t' l, a = .step t' ∧ D l s.shared ∧
        (V.contract t').guar l s.shared (P.machine.step s a).shared ∧
        (t' = t → K.guar l s.shared (P.machine.step s a).shared) := by
  have hfree : P.machine.ReachableUnder (Obeys fun _ _ => True) s :=
    h.mono fun s a _ => Obeys.trivial s a
  refine (V.step hfree a (Obeys.trivial s a)).imp_right ?_
  rintro ⟨t', l, rfl, hl, hG⟩
  refine ⟨t', l, rfl, ha l hl, hG, fun e => ?_⟩
  subst e
  cases ht : s.thread t' with
  | ret u => simp [ht, Prog.next] at hl
  | act l' f k =>
    obtain rfl : l' = l := by simpa [ht, Prog.next] using hl
    have hsafe := Verified.beside B h
    rw [ht] at hsafe
    rw [machine_step, next_step ht]
    exact (hsafe _ (K.rely_refl _) trivial ⟨ha _ hl, B.holds s h⟩).2.1

/-- **Invariants beside a second contract.** -/
theorem Verified.beside_invariant (B : Beside V t K idle) {X : σ → Prop}
    (hinit : ∀ s, P.init s → X s)
    (hstep : ∀ t' l s s', I s → J s → D l s → (V.contract t').guar l s s' →
      (t' = t → K.guar l s s') → X s → X s')
    (h : P.machine.ReachableUnder (Obeys D) s) : X s.shared := by
  refine Machine.ReachableUnder.invariant (P := fun s => X s.shared) ?_ ?_ h
  · exact fun s hs => hinit s.shared hs.1
  intro s a hreach hD hX
  have hfree : P.machine.ReachableUnder (Obeys fun _ _ => True) s :=
    hreach.mono fun s a _ => Obeys.trivial s a
  rcases Verified.beside_step B hreach hD with e | ⟨t', l, rfl, hl, hG, hK⟩
  · rw [e]
    exact hX
  · exact hstep t' l _ _ (V.safe hfree).1 (B.holds s hreach) hl hG hK hX

end Pool

end MediaCamera
