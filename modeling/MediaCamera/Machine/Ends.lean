import MediaCamera.Machine.Threads

/-!
# A verified program, looked at again

A thread that keeps its guarantee may be followed a second time: what an assertion needs to know of
a step, the guarantee of the step says already.

* `K.Leaves Q p s`   whatever the others do within `rely`, as long as the steps of `p` are in `guar`,
                     `Q` holds where `p` ends;
* `K.Ends P p Q`     the same from every state with `P`;
* `Ends.bind`, `Ends.atomic`, ...   the rules;
* `Verified.leaves_next`   what the calls of a thread keep, it leaves behind in every reachable
                     state.
-/

namespace MediaCamera

namespace Contract
variable {σ Λ α β : Type} {I : σ → Prop} {C : Λ → σ → Prop} (K : Contract I C)

def Leaves (Q : α → σ → Prop) : Prog σ Λ α → σ → Prop
  | .ret a, s => ∀ s', K.rely s s' → I s' → Q a s'
  | .act l f k, s => ∀ s', K.rely s s' → I s' → K.guar l s' (f s') → Leaves Q (k s') (f s')

def Ends (P : σ → Prop) (p : Prog σ Λ α) (Q : α → σ → Prop) : Prop :=
  ∀ s, P s → K.Leaves Q p s

variable {K}

theorem Leaves.rely {Q : α → σ → Prop} {p : Prog σ Λ α} {s s' : σ} (h : K.Leaves Q p s)
    (hr : K.rely s s') : K.Leaves Q p s' := by
  cases p with
  | ret a => exact fun s'' hr' hI => h s'' (K.rely_trans hr hr') hI
  | act l f k => exact fun s'' hr' hI hG => h s'' (K.rely_trans hr hr') hI hG

theorem Leaves.of_rely {Q : α → σ → Prop} {p : Prog σ Λ α} {s : σ}
    (h : ∀ s', K.rely s s' → I s' → K.Leaves Q p s') : K.Leaves Q p s := by
  cases p with
  | ret a => exact fun s' hr hI => h s' hr hI s' (K.rely_refl s') hI
  | act l f k => exact fun s' hr hI hG => h s' hr hI s' (K.rely_refl s') hI hG

theorem Leaves.bind {Q : α → σ → Prop} {Q' : β → σ → Prop} {p : Prog σ Λ α}
    {g : α → Prog σ Λ β} {s : σ} (h : K.Leaves Q p s)
    (hg : ∀ a, K.Ends (Q a) (g a) Q') : K.Leaves Q' (p.bind g) s := by
  induction p generalizing s with
  | ret a => exact Leaves.of_rely (fun s' hr hI => hg a s' (h s' hr hI))
  | act l f k ih => exact fun s' hr hI hG => ih s' (h s' hr hI hG)

/-! ## the rules -/

theorem Ends.bind {P : σ → Prop} {Q : α → σ → Prop} {Q' : β → σ → Prop} {p : Prog σ Λ α}
    {g : α → Prog σ Λ β} (h : K.Ends P p Q) (hg : ∀ a, K.Ends (Q a) (g a) Q') :
    K.Ends P (p >>= g) Q' :=
  fun s hP => (h s hP).bind hg

theorem Ends.pre {P P' : σ → Prop} {Q : α → σ → Prop} {p : Prog σ Λ α}
    (h : K.Ends P p Q) (hP : ∀ s, P' s → P s) : K.Ends P' p Q :=
  fun s hP' => h s (hP s hP')

theorem Ends.ret {P : σ → Prop} {a : α} (hP : K.Stable P) : K.Ends P (pure a) fun _ => P :=
  fun s hs s' hr hI => hP s s' hr hI hs

theorem Ends.atomic {P : σ → Prop} {Q : α → σ → Prop} {l : Λ} {f : σ → σ × α}
    (hP : K.Stable P) (hQ : ∀ a, K.Stable (Q a))
    (h : ∀ s, I s → P s → K.guar l s (f s).1 → Q (f s).2 (f s).1) :
    K.Ends P (Prog.atomic l f) Q := by
  intro s hPs s' hr hI hG
  have hpost := h s' hI (hP s s' hr hI hPs) hG
  exact fun s'' hr' hI'' => hQ _ _ s'' hr' hI'' hpost

theorem Ends.ite {P : σ → Prop} {Q : α → σ → Prop} {c : Prop} [Decidable c]
    {p p' : Prog σ Λ α} (h : c → K.Ends P p Q) (h' : ¬ c → K.Ends P p' Q) :
    K.Ends P (if c then p else p') Q := by
  split
  · exact h ‹_›
  · exact h' ‹_›

end Contract

/-! ## the threads of a pool -/

namespace Pool
variable {σ Λ T : Type} {Call : T → Type} [DecidableEq T] {P : Pool σ Λ T Call} {I : σ → Prop}
  {t : T} {J : σ → Prop}

theorem eq_step_of_stepOf {s : PoolState σ Λ T} {a : PoolAction T Call} {x : Taken σ Λ}
    (h : stepOf t s a = some x) : a = .step t := by
  cases a with
  | start t' c => cases h
  | step t' =>
    by_cases ht : t' = t
    · rw [ht]
    · simp [stepOf, ht] at h

theorem Verified.leaves_next (V : Verified P I fun _ _ => True)
    {s : PoolState σ Λ T} (h : P.machine.Reachable s) (a : PoolAction T Call)
    (hbody : ∀ c, a = .start t c → (V.contract t).Ends J (P.body t c) fun _ => J)
    (hleaves : (V.contract t).Leaves (fun _ => J) (s.thread t) s.shared) :
    (V.contract t).Leaves (fun _ => J) ((P.next s a).thread t) (P.next s a).shared := by
  have hfree : P.machine.ReachableUnder (Obeys fun _ _ => True) s :=
    h.mono fun s a _ => Obeys.trivial s a
  have hI : I s.shared := (V.safe hfree).1
  rcases next_cases (P := P) (s := s) (t := t) a with
    ⟨c, ht, ha, hthread, hshared⟩ | ⟨l, f, k, ht, hstep, hshared, hthread⟩ | ⟨hnone, hthread⟩
  · rw [ht] at hleaves
    rw [hthread, hshared]
    exact hbody c ha _ (hleaves _ ((V.contract t).rely_refl _) hI)
  · obtain rfl := eq_step_of_stepOf hstep
    have hG := V.next hfree (t := t) (l := l) (by rw [ht]; rfl) trivial
    rw [ht] at hleaves
    rw [hthread, hshared]
    rw [machine_step, hshared] at hG
    exact hleaves _ ((V.contract t).rely_refl _) hI hG
  · rw [hthread]
    refine hleaves.rely ?_
    rcases V.step hfree a (Obeys.trivial s a) with hsame | ⟨t', l, rfl, hl, hG⟩
    · rw [← machine_step, hsame]
      exact (V.contract t).rely_refl _
    · refine V.rely t' t (fun e => ?_) _ _ _ hG
      subst e
      cases ht : s.thread t' with
      | ret u => simp [ht, Prog.next] at hl
      | act l f k => simp [stepOf, ht] at hnone

end Pool

end MediaCamera
