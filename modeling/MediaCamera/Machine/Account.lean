import MediaCamera.Machine.Trace

/-!
# Accounts of one thread

What one thread of a pool has done so far, kept beside the shared state.  An ACCOUNT is brought up
to date by a function `note` after each step of the thread (`Taken`); no program reads it.

* `p.noted note`           the program `p` with the account beside the state;
* `K.Account note P p Q`   the noted program meets a contract; its rules are those of `Triple`;
* `AccountedFor note D g`  each of the steps satisfies `D`, given the account of the steps before;
* `account_run`            a noted call stays safe in a run in which the thread begins no other;
* `Verified.account`       in a verified pool, what a contract for one thread says about the state
                           and the account holds after every run.
-/

namespace MediaCamera

namespace Prog
variable {σ Λ γ α β : Type}

def noted (note : γ → Taken σ Λ → γ) : Prog σ Λ α → Prog (σ × γ) Λ α
  | .ret a => .ret a
  | .act l f k =>
    .act l (fun s => (f s.1, note s.2 ⟨l, s.1, f s.1⟩)) (fun s => (k s.1).noted note)

variable {note : γ → Taken σ Λ → γ}

theorem noted_bind (p : Prog σ Λ α) (g : α → Prog σ Λ β) :
    (p >>= g).noted note = p.noted note >>= fun a => (g a).noted note := by
  show (p.bind g).noted note = (p.noted note).bind fun a => (g a).noted note
  induction p with
  | ret a => rfl
  | act l f k ih =>
    show Prog.act l _ (fun s => ((k s.1).bind g).noted note) = _
    simp only [ih]
    rfl

theorem noted_atomic (l : Λ) (f : σ → σ × α) :
    (atomic l f).noted note =
      atomic l fun s => (((f s.1).1, note s.2 ⟨l, s.1, (f s.1).1⟩), (f s.1).2) := rfl

theorem Within.noted {T : Λ → σ → σ → Prop} (hT : ∀ l s s' g, T l s s' → note g ⟨l, s, s'⟩ = g)
    {p : Prog σ Λ α} (h : p.Within T) :
    (p.noted note).Within fun l s s' => T l s.1 s'.1 ∧ s'.2 = s.2 := by
  induction p with
  | ret a => exact True.intro
  | act l f k ih => exact fun s => ⟨⟨(h s.1).1, hT l _ _ s.2 (h s.1).1⟩, ih s.1 (h s.1).2⟩

end Prog

/-! ## contracts -/

namespace Contract
variable {σ Λ γ α β : Type} {I : σ × γ → Prop} {C : Λ → σ × γ → Prop} {K : Contract I C}
  {note : γ → Taken σ Λ → γ} {P : σ × γ → Prop}

variable (K note) in
def Account (P : σ × γ → Prop) (p : Prog σ Λ α) (Q : α → σ × γ → Prop) : Prop :=
  K.Triple P (p.noted note) Q

theorem Account.bind {Q : α → σ × γ → Prop} {Q' : β → σ × γ → Prop} {p : Prog σ Λ α}
    {g : α → Prog σ Λ β} (h : K.Account note P p Q) (hg : ∀ a, K.Account note (Q a) (g a) Q') :
    K.Account note P (p >>= g) Q' := by
  unfold Account
  rw [Prog.noted_bind]
  exact Triple.bind h hg

theorem Account.pre {P' : σ × γ → Prop} {Q : α → σ × γ → Prop} {p : Prog σ Λ α}
    (h : K.Account note P p Q) (hP : ∀ s, P' s → P s) : K.Account note P' p Q := Triple.pre h hP

theorem Account.post {Q Q' : α → σ × γ → Prop} {p : Prog σ Λ α} (h : K.Account note P p Q)
    (hQ : ∀ a s, Q a s → Q' a s) : K.Account note P p Q' := Triple.post h hQ

theorem Account.assume {Q : α → σ × γ → Prop} {c : Prop} {p : Prog σ Λ α}
    (h : c → K.Account note P p Q) : K.Account note (fun s => P s ∧ c) p Q := Triple.assume h

theorem Account.ret {Q : α → σ × γ → Prop} {a : α} (hP : K.Stable P)
    (h : ∀ s, I s → P s → Q a s) : K.Account note P (pure a) Q := Triple.ret hP h

theorem Account.atomic {Q : α → σ × γ → Prop} {l : Λ} {f : σ → σ × α} (hP : K.Stable P)
    (hQ : ∀ a, K.Stable (Q a))
    (h : ∀ s g, I (s, g) → P (s, g) → C l (s, g) →
      I ((f s).1, note g ⟨l, s, (f s).1⟩) ∧
        K.guar l (s, g) ((f s).1, note g ⟨l, s, (f s).1⟩) ∧
        Q (f s).2 ((f s).1, note g ⟨l, s, (f s).1⟩)) :
    K.Account note P (Prog.atomic l f) Q := by
  unfold Account
  rw [Prog.noted_atomic]
  exact Triple.atomic hP hQ fun s hI hs hC => h s.1 s.2 hI hs hC

theorem Account.ite {Q : α → σ × γ → Prop} {c : Prop} [Decidable c] {p p' : Prog σ Λ α}
    (h : c → K.Account note P p Q) (h' : ¬ c → K.Account note P p' Q) :
    K.Account note P (if c then p else p') Q := by
  split
  · exact h ‹_›
  · exact h' ‹_›

theorem Account.frame {T : Λ → σ → σ → Prop} {p : Prog σ Λ α} (hp : p.Within T)
    (hnote : ∀ l s s' g, T l s s' → note g ⟨l, s, s'⟩ = g)
    (hI : ∀ l s s' g, T l s s' → I (s, g) → I (s', g))
    (hG : ∀ l s s' g, T l s s' → K.guar l (s, g) (s', g)) (hP : K.Stable P)
    (hT : ∀ l s s' g, T l s s' → P (s, g) → P (s', g)) : K.Account note P p fun _ => P := by
  refine (hp.noted hnote).triple ?_ ?_ hP ?_
  · rintro l ⟨s, g⟩ ⟨s', g'⟩ ⟨hs, hg⟩
    obtain rfl : g' = g := hg
    exact hI l s s' g' hs
  · rintro l ⟨s, g⟩ ⟨s', g'⟩ ⟨hs, hg⟩
    obtain rfl : g' = g := hg
    exact hG l s s' g' hs
  · rintro l ⟨s, g⟩ ⟨s', g'⟩ ⟨hs, hg⟩
    obtain rfl : g' = g := hg
    exact hT l s s' g' hs

end Contract

/-! ## runs -/

def AccountedFor {σ Λ γ : Type} (note : γ → Taken σ Λ → γ) (D : Λ → σ × γ → Prop) :
    γ → List (Taken σ Λ) → Prop
  | _, [] => True
  | g, x :: steps => D x.label (x.before, g) ∧ AccountedFor note D (note g x) steps

instance AccountedFor.decidable {σ Λ γ : Type} (note : γ → Taken σ Λ → γ) (D : Λ → σ × γ → Prop)
    [∀ l s, Decidable (D l s)] : ∀ g steps, Decidable (AccountedFor note D g steps)
  | _, [] => .isTrue True.intro
  | g, x :: steps =>
    have : Decidable (AccountedFor note D (note g x) steps) :=
      AccountedFor.decidable note D (note g x) steps
    inferInstanceAs (Decidable (D x.label (x.before, g) ∧ AccountedFor note D (note g x) steps))

namespace Pool
variable {σ Λ T γ : Type} {Call : T → Type} [DecidableEq T] {P : Pool σ Λ T Call}
  {I : σ → Prop} {J : σ × γ → Prop} {D : Λ → σ × γ → Prop} {note : γ → Taken σ Λ → γ}

/-- a noted call that is safe where it begins is safe wherever the run has got -/
theorem account_run {K : Contract J D} {Q : Unit → σ × γ → Prop} {X : PoolState σ Λ T → Prop}
    {t : T} (hnext : ∀ s a, X s → X (P.next s a)) (hJ : ∀ s g, X s → J (s.shared, g))
    (hD : ∀ s g l, X s → D l (s.shared, g))
    (hrely : ∀ s a g, X s → stepOf t s a = none → K.rely (s.shared, g) ((P.next s a).shared, g))
    {as : List (PoolAction T Call)} (has : Uncalled t as) {s : PoolState σ Λ T} (hs : X s) {g : γ}
    (hsafe : K.Safe Q ((s.thread t).noted note) (s.shared, g)) :
    K.Safe Q (((P.machine.run s as).thread t).noted note)
      ((P.machine.run s as).shared, (P.stepsOf t s as).foldl note g) := by
  induction as generalizing s g with
  | nil => exact hsafe
  | cons a as ih =>
    have ha : ∀ c, a ≠ .start t c := fun c e => has c (e ▸ List.mem_cons_self)
    rw [Machine.run_cons, stepsOf, List.foldl_append]
    refine ih (fun c hc => has c (List.mem_cons_of_mem _ hc)) (hnext s a hs) ?_
    show K.Safe Q (((P.next s a).thread t).noted note) ((P.next s a).shared, _)
    rcases next_thread (P := P) ha with ⟨l, f, k, ht, hstep, hshared, hk⟩ | ⟨hstep, hk⟩
    · rw [ht] at hsafe
      rw [hshared, hk, hstep]
      exact (hsafe _ (K.rely_refl _) (hJ s g hs) (hD s g l hs)).2.2
    · rw [hk, hstep]
      exact hsafe.rely (hrely s a g hs hstep)

/-- what holds of the state, the account and the program of thread `t` after a run -/
structure Accounted (t : T) (K : Contract J D) (note : γ → Taken σ Λ → γ) (idle : σ × γ → Prop)
    (s : PoolState σ Λ T) (g : γ) : Prop where
  holds : J (s.shared, g)
  safe : K.Safe (fun _ => idle) ((s.thread t).noted note) (s.shared, g)

theorem Accounted.next (V : P.Verified I fun _ _ => True) {t : T} {K : Contract J D}
    {idle : σ × γ → Prop} (hbody : ∀ c, K.Account note idle (P.body t c) fun _ => idle)
    (hothers : ∀ t', t' ≠ t → ∀ l s s' g, (V.contract t').guar l s s' →
      K.rely (s, g) (s', g) ∧ (J (s, g) → J (s', g)))
    {s : PoolState σ Λ T} {g : γ} (hreach : P.machine.Reachable s) (a : PoolAction T Call)
    (hD : ∀ x ∈ stepOf t s a, D x.label (x.before, g)) (h : Accounted t K note idle s g) :
    Accounted t K note idle (P.next s a) ((stepOf t s a).toList.foldl note g) := by
  have hfree : P.machine.ReachableUnder (Obeys fun _ _ => True) s :=
    hreach.mono fun s a _ => Obeys.trivial s a
  have hsame : ∀ s' : PoolState σ Λ T, stepOf t s a = none → s'.shared = s.shared →
      K.Safe (fun _ => idle) ((s'.thread t).noted note) (s.shared, g) →
      Accounted t K note idle s' ((stepOf t s a).toList.foldl note g) := by
    intro s' hstep hshared hsafe
    rw [hstep]
    exact ⟨by rw [hshared]; exact h.holds, by rw [hshared]; exact hsafe⟩
  cases a with
  | start t' c =>
    cases ht : s.thread t' with
    | act l f k =>
      rw [next_start_running ht]
      exact hsame s rfl rfl h.safe
    | ret u =>
      rw [next_start ht]
      refine hsame _ rfl rfl ?_
      show K.Safe _ ((if t = t' then P.body t' c else s.thread t).noted note) _
      split
      · rename_i e
        subst e
        have hidle := h.safe
        rw [ht] at hidle
        exact hbody c _ (hidle _ (K.rely_refl _) h.holds)
      · exact h.safe
  | step t' =>
    cases ht : s.thread t' with
    | ret u =>
      rw [next_step_idle ht]
      refine hsame s ?_ rfl h.safe
      by_cases e : t' = t
      · subst e
        simp only [stepOf, ht, if_true]
      · exact if_neg e
    | act l f k =>
      by_cases e : t' = t
      · subst e
        have hstep : stepOf t' s (.step t' : PoolAction T Call) =
            some ⟨l, s.shared, f s.shared⟩ := by simp [stepOf, ht]
        have hact := h.safe
        rw [ht] at hact
        rw [hstep] at hD ⊢
        obtain ⟨hJ, -, hk⟩ := hact _ (K.rely_refl _) h.holds (hD _ rfl)
        rw [next_step ht]
        refine ⟨hJ, ?_⟩
        show K.Safe _ ((if t' = t' then k s.shared else s.thread t').noted note) _
        rw [if_pos rfl]
        exact hk
      · have hstep : stepOf t s (.step t' : PoolAction T Call) = none := if_neg e
        have hguar : (V.contract t').guar l s.shared (P.next s (.step t')).shared :=
          V.next hfree (by rw [ht]; rfl) trivial
        obtain ⟨hrely, hJ⟩ := hothers t' e l _ _ g hguar
        rw [hstep]
        refine ⟨hJ h.holds, ?_⟩
        rw [next_thread_ne e]
        exact h.safe.rely hrely

/-- **The account of one thread.**  A contract for the noted calls of one thread of a verified pool
holds after every run whose steps of that thread are accounted for. -/
theorem Verified.account (V : P.Verified I fun _ _ => True) {t : T} {K : Contract J D}
    {idle : σ × γ → Prop} {g : γ} (hinit : ∀ s, P.init s → J (s, g) ∧ idle (s, g))
    (hstable : K.Stable idle) (hbody : ∀ c, K.Account note idle (P.body t c) fun _ => idle)
    (hothers : ∀ t', t' ≠ t → ∀ l s s' g, (V.contract t').guar l s s' →
      K.rely (s, g) (s', g) ∧ (J (s, g) → J (s', g)))
    {s : PoolState σ Λ T} (hs : P.machine.init s) (as : List (PoolAction T Call))
    (hD : AccountedFor note D g (P.stepsOf t s as)) :
    Accounted t K note idle (P.machine.run s as) ((P.stepsOf t s as).foldl note g) := by
  have hstart : Accounted t K note idle s g := by
    obtain ⟨hJ, hidle⟩ := hinit s.shared hs.1
    refine ⟨hJ, ?_⟩
    rw [hs.2]
    exact fun s' hr hJ' => hstable _ s' hr hJ' hidle
  have hreach : P.machine.Reachable s := .start hs
  clear hs hinit
  induction as generalizing s g with
  | nil => exact hstart
  | cons a as ih =>
    rw [stepsOf] at hD ⊢
    have hsplit : (∀ x ∈ stepOf t s a, D x.label (x.before, g)) ∧
        AccountedFor note D ((stepOf t s a).toList.foldl note g) (P.stepsOf t (P.next s a) as) := by
      cases hstep : stepOf t s a with
      | none =>
        rw [hstep] at hD
        exact ⟨fun _ h => (by cases h), hD⟩
      | some x =>
        rw [hstep] at hD
        refine ⟨?_, hD.2⟩
        rintro y hy
        cases hy
        exact hD.1
    rw [List.foldl_append]
    exact ih hsplit.2 (hstart.next V hbody hothers hreach a hsplit.1) (hreach.next a)

end Pool

end MediaCamera
