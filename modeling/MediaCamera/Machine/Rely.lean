import MediaCamera.Machine.Program

/-!
# Rely and guarantee

Programs that run in parallel are verified one by one.  A `Contract` of a thread, for an invariant
`I` of the shared state and a condition `C` on the named steps, says what the thread relies on
about the steps of the others (`rely`, reflexive and transitive) and what it guarantees about its
own (`guar`).

* `K.Safe Q p s`     from `s` on, whatever the others do within `rely`, every step of `p` keeps
                     the invariant and is in `guar`, and `Q` holds at the end;
* `K.Triple P p Q`   `p` is safe from every state with `P`;
* `Triple.bind`, `Triple.atomic`, ...   the rules of the logic;
* `Within T p`       every step of `p` is in `T`; `Within.triple` is the frame rule;
* `Pool.Verified`    threads whose guarantees imply the others' `rely`;
* `Verified.safe`, `Verified.step`, `Verified.invariant`   such a pool keeps the invariant, each of
                     its actions is a guaranteed step, and what these keep is an invariant too.
-/

namespace MediaCamera

structure Contract {σ Λ : Type} (I : σ → Prop) (C : Λ → σ → Prop) where
  rely : σ → σ → Prop
  guar : Λ → σ → σ → Prop
  rely_refl : ∀ s, rely s s
  rely_trans : ∀ {s s' s''}, rely s s' → rely s' s'' → rely s s''

namespace Contract
variable {σ Λ α β τ : Type} {I : σ → Prop} {C : Λ → σ → Prop} (K : Contract I C)

def Safe (Q : α → σ → Prop) : Prog σ Λ α → σ → Prop
  | .ret a, s => ∀ s', K.rely s s' → I s' → Q a s'
  | .act l f k, s => ∀ s', K.rely s s' → I s' → C l s' →
      I (f s') ∧ K.guar l s' (f s') ∧ Safe Q (k s') (f s')

def Triple (P : σ → Prop) (p : Prog σ Λ α) (Q : α → σ → Prop) : Prop :=
  ∀ s, P s → K.Safe Q p s

/-- the other threads do not invalidate `P` -/
def Stable (P : σ → Prop) : Prop := ∀ s s', K.rely s s' → I s' → P s → P s'

variable {K}

theorem Safe.rely {Q : α → σ → Prop} {p : Prog σ Λ α} {s s' : σ} (h : K.Safe Q p s)
    (hr : K.rely s s') : K.Safe Q p s' := by
  cases p with
  | ret a => exact fun s'' hr' hI => h s'' (K.rely_trans hr hr') hI
  | act l f k => exact fun s'' hr' hI hl => h s'' (K.rely_trans hr hr') hI hl

theorem Safe.mono {Q Q' : α → σ → Prop} (hQ : ∀ a s, Q a s → Q' a s) {p : Prog σ Λ α} {s : σ}
    (h : K.Safe Q p s) : K.Safe Q' p s := by
  induction p generalizing s with
  | ret a => exact fun s' hr hI => hQ a s' (h s' hr hI)
  | act l f k ih =>
    intro s' hr hI hl
    obtain ⟨hI', hG, hk⟩ := h s' hr hI hl
    exact ⟨hI', hG, ih s' hk⟩

theorem Safe.of_rely {Q : α → σ → Prop} {p : Prog σ Λ α} {s : σ}
    (h : ∀ s', K.rely s s' → I s' → K.Safe Q p s') : K.Safe Q p s := by
  cases p with
  | ret a => exact fun s' hr hI => h s' hr hI s' (K.rely_refl s') hI
  | act l f k => exact fun s' hr hI hl => h s' hr hI s' (K.rely_refl s') hI hl

/-- sequencing: the rest is safe wherever the first program can end -/
theorem Safe.bind {Q : α → σ → Prop} {Q' : β → σ → Prop} {p : Prog σ Λ α}
    {g : α → Prog σ Λ β} {s : σ} (h : K.Safe Q p s)
    (hg : ∀ a, K.Triple (Q a) (g a) Q') : K.Safe Q' (p.bind g) s := by
  induction p generalizing s with
  | ret a => exact Safe.of_rely (fun s' hr hI => hg a s' (h s' hr hI))
  | act l f k ih =>
    intro s' hr hI hl
    obtain ⟨hI', hG, hk⟩ := h s' hr hI hl
    exact ⟨hI', hG, ih s' hk⟩

/-! ## stable assertions -/

theorem Stable.true : K.Stable (fun _ => True) := fun _ _ _ _ _ => trivial

theorem Stable.const (p : Prop) : K.Stable (fun _ => p) := fun _ _ _ _ h => h

theorem Stable.and {P P' : σ → Prop} (h : K.Stable P) (h' : K.Stable P') :
    K.Stable (fun s => P s ∧ P' s) :=
  fun s s' hr hI hP => ⟨h s s' hr hI hP.1, h' s s' hr hI hP.2⟩

theorem Stable.of_eq {v : σ → τ} (hv : ∀ s s', K.rely s s' → v s' = v s) (P : τ → Prop) :
    K.Stable (fun s => P (v s)) := by
  intro s s' hr _ hP
  show P (v s')
  rw [hv s s' hr]
  exact hP

/-! ## the rules -/

theorem Triple.bind {P : σ → Prop} {Q : α → σ → Prop} {Q' : β → σ → Prop} {p : Prog σ Λ α}
    {g : α → Prog σ Λ β} (h : K.Triple P p Q) (hg : ∀ a, K.Triple (Q a) (g a) Q') :
    K.Triple P (p >>= g) Q' :=
  fun s hP => (h s hP).bind hg

theorem Triple.pre {P P' : σ → Prop} {Q : α → σ → Prop} {p : Prog σ Λ α}
    (h : K.Triple P p Q) (hP : ∀ s, P' s → P s) : K.Triple P' p Q :=
  fun s hP' => h s (hP s hP')

theorem Triple.post {P : σ → Prop} {Q Q' : α → σ → Prop} {p : Prog σ Λ α}
    (h : K.Triple P p Q) (hQ : ∀ a s, Q a s → Q' a s) : K.Triple P p Q' :=
  fun s hP => (h s hP).mono hQ

theorem Triple.assume {P : σ → Prop} {Q : α → σ → Prop} {c : Prop} {p : Prog σ Λ α}
    (h : c → K.Triple P p Q) : K.Triple (fun s => P s ∧ c) p Q :=
  fun s hP => h hP.2 s hP.1

theorem Triple.ret {P : σ → Prop} {Q : α → σ → Prop} {a : α} (hP : K.Stable P)
    (h : ∀ s, I s → P s → Q a s) : K.Triple P (pure a) Q :=
  fun s hs s' hr hI => h s' hI (hP s s' hr hI hs)

theorem Triple.map {P : σ → Prop} {Q : β → σ → Prop} {p : Prog σ Λ α} {f : α → β}
    (h : K.Triple P p fun a => Q (f a)) (hQ : ∀ b, K.Stable (Q b)) : K.Triple P (f <$> p) Q :=
  .bind h fun a => .ret (hQ (f a)) fun _ _ h => h

theorem Triple.skip {P : σ → Prop} {a : α} : K.Triple P (pure a) fun _ _ => True :=
  fun _ _ _ _ _ => trivial

theorem Triple.atomic {P : σ → Prop} {Q : α → σ → Prop} {l : Λ} {f : σ → σ × α}
    (hP : K.Stable P) (hQ : ∀ a, K.Stable (Q a))
    (h : ∀ s, I s → P s → C l s → I (f s).1 ∧ K.guar l s (f s).1 ∧ Q (f s).2 (f s).1) :
    K.Triple P (Prog.atomic l f) Q := by
  intro s hPs s' hr hI hl
  obtain ⟨hI', hG, hpost⟩ := h s' hI (hP s s' hr hI hPs) hl
  exact ⟨hI', hG, fun s'' hr' hI'' => hQ _ _ s'' hr' hI'' hpost⟩

theorem Triple.ite {P : σ → Prop} {Q : α → σ → Prop} {c : Prop} [Decidable c]
    {p p' : Prog σ Λ α} (h : c → K.Triple P p Q) (h' : ¬ c → K.Triple P p' Q) :
    K.Triple P (if c then p else p') Q := by
  split
  · exact h ‹_›
  · exact h' ‹_›

end Contract

/-! ## frames -/

namespace Prog
variable {σ Λ α β : Type}

/-- every step of the program is in `T` -/
def Within (T : Λ → σ → σ → Prop) : Prog σ Λ α → Prop
  | .ret _ => True
  | .act l f k => ∀ s, T l s (f s) ∧ Within T (k s)

variable {T : Λ → σ → σ → Prop}

theorem Within.ret (a : α) : Within T (pure a : Prog σ Λ α) := trivial

theorem Within.atomic {l : Λ} {f : σ → σ × α} (h : ∀ s, T l s (f s).1) :
    Within T (Prog.atomic l f) :=
  fun s => ⟨h s, trivial⟩

theorem Within.bind {p : Prog σ Λ α} {g : α → Prog σ Λ β} (h : Within T p)
    (hg : ∀ a, Within T (g a)) : Within T (p >>= g) := by
  show Within T (p.bind g)
  induction p with
  | ret a => exact hg a
  | act l f k ih => exact fun s => ⟨(h s).1, ih s (h s).2⟩

theorem Within.map {p : Prog σ Λ α} {f : α → β} (h : Within T p) : Within T (f <$> p) :=
  h.bind fun _ => trivial

theorem Within.ite {c : Prop} [Decidable c] {p p' : Prog σ Λ α} (h : Within T p)
    (h' : Within T p') : Within T (if c then p else p') := by
  split
  · exact h
  · exact h'

theorem Within.mono {T' : Λ → σ → σ → Prop} {p : Prog σ Λ α} (h : Within T p)
    (hT : ∀ l s s', T l s s' → T' l s s') : Within T' p := by
  induction p with
  | ret a => trivial
  | act l f k ih => exact fun s => ⟨hT _ _ _ (h s).1, ih s (h s).2⟩

/-- the frame rule: what every step in `T` keeps holds after the program -/
theorem Within.triple {I : σ → Prop} {C : Λ → σ → Prop} {K : Contract I C} {p : Prog σ Λ α}
    (h : Within T p) (hI : ∀ l s s', T l s s' → I s → I s')
    (hG : ∀ l s s', T l s s' → K.guar l s s') {P : σ → Prop} (hP : K.Stable P)
    (hPT : ∀ l s s', T l s s' → P s → P s') :
    K.Triple P p (fun _ => P) := by
  intro s hs
  induction p generalizing s with
  | ret a => exact fun s' hr hI' => hP s s' hr hI' hs
  | act l f k ih =>
    intro s' hr hI' _
    have hs' := hP s s' hr hI' hs
    obtain ⟨hT, hk⟩ := h s'
    exact ⟨hI _ s' _ hT hI', hG _ s' _ hT, ih s' hk _ (hPT _ s' _ hT hs')⟩

end Prog

/-! ## pools -/

namespace Pool
variable {σ Λ T : Type} {Call : T → Type} [DecidableEq T]

/-- a verified pool: a contract for each thread, proved thread by thread -/
structure Verified (P : Pool σ Λ T Call) (I : σ → Prop) (C : Λ → σ → Prop) where
  contract : T → Contract I C
  idle : T → σ → Prop
  init : ∀ s, P.init s → I s ∧ ∀ t, idle t s
  stable : ∀ t, (contract t).Stable (idle t)
  body : ∀ t c, (contract t).Triple (idle t) (P.body t c) (fun _ => idle t)
  rely : ∀ t t', t ≠ t' → ∀ l s s', (contract t).guar l s s' → (contract t').rely s s'

variable {P : Pool σ Λ T Call} {I : σ → Prop} {C : Λ → σ → Prop}

/-- **Parallel composition.**  Threads that are verified one by one, each relying on what the
others guarantee, keep the invariant together. -/
theorem Verified.safe (V : Verified P I C) {s : PoolState σ Λ T}
    (h : P.machine.ReachableUnder (Obeys C) s) :
    I s.shared ∧ ∀ t, (V.contract t).Safe (fun _ => V.idle t) (s.thread t) s.shared := by
  refine Machine.ReachableUnder.invariant
    (P := fun s => I s.shared ∧
      ∀ t, (V.contract t).Safe (fun _ => V.idle t) (s.thread t) s.shared) ?_ ?_ h
  · intro s hs
    obtain ⟨hI, hidle⟩ := V.init s.shared hs.1
    rw [hs.2]
    exact ⟨hI, fun t s' hr hI' => V.stable t _ s' hr hI' (hidle t)⟩
  · intro s a _ hC ⟨hI, hsafe⟩
    cases a with
    | start t c =>
      cases ht : s.thread t with
      | act l f k =>
        rw [machine_step, next_start_running ht]
        exact ⟨hI, hsafe⟩
      | ret u =>
        have hidle := hsafe t
        rw [ht] at hidle
        rw [machine_step, next_start ht]
        refine ⟨hI, fun t' => ?_⟩
        show (V.contract t').Safe _ (if t' = t then P.body t c else s.thread t') s.shared
        split
        · rename_i e
          subst e
          exact V.body t' c _ (hidle s.shared ((V.contract t').rely_refl _) hI)
        · exact hsafe t'
    | step t =>
      cases ht : s.thread t with
      | ret u =>
        rw [machine_step, next_step_idle ht]
        exact ⟨hI, hsafe⟩
      | act l f k =>
        have hact := hsafe t
        rw [ht] at hact
        obtain ⟨hI', hG, hk⟩ := hact s.shared ((V.contract t).rely_refl _) hI (Obeys.label hC ht)
        rw [machine_step, next_step ht]
        refine ⟨hI', fun t' => ?_⟩
        show (V.contract t').Safe _ (if t' = t then k s.shared else s.thread t') (f s.shared)
        split
        · rename_i e
          subst e
          exact hk
        · rename_i hne
          exact (hsafe t').rely (V.rely t t' (fun e => hne e.symm) _ _ _ hG)

theorem Verified.next (V : Verified P I C) {s : PoolState σ Λ T}
    (h : P.machine.ReachableUnder (Obeys C) s) {t : T} {l : Λ} (hl : (s.thread t).next = some l)
    (hC : C l s.shared) :
    (V.contract t).guar l s.shared (P.machine.step s (.step t)).shared := by
  cases ht : s.thread t with
  | ret u => simp [ht, Prog.next] at hl
  | act l' f k =>
    obtain rfl : l' = l := by simpa [ht, Prog.next] using hl
    have hact := (V.safe h).2 t
    rw [ht] at hact
    rw [machine_step, next_step ht]
    exact (hact s.shared ((V.contract t).rely_refl _) (V.safe h).1 hC).2.1

/-- **What a step does.**  In a verified pool, every action leaves the shared state alone or is a
step that its thread guarantees. -/
theorem Verified.step (V : Verified P I C) {s : PoolState σ Λ T}
    (h : P.machine.ReachableUnder (Obeys C) s) (a : PoolAction T Call) (ha : Obeys C s a) :
    (P.machine.step s a).shared = s.shared ∨
      ∃ t l, a = .step t ∧ (s.thread t).next = some l ∧
        (V.contract t).guar l s.shared (P.machine.step s a).shared := by
  cases a with
  | start t c =>
    refine .inl ?_
    cases ht : s.thread t with
    | act l f k => rw [machine_step, next_start_running ht]
    | ret u => rw [machine_step, next_start ht]
  | step t =>
    cases ht : s.thread t with
    | ret u => exact .inl (by rw [machine_step, next_step_idle ht])
    | act l f k =>
      have hl : (s.thread t).next = some l := by rw [ht]; rfl
      exact .inr ⟨t, l, rfl, by rw [ht]; rfl, V.next h hl (ha l hl)⟩

/-- **Invariants of a verified pool** are invariants of the steps that the threads guarantee. -/
theorem Verified.invariant (V : Verified P I fun _ _ => True) {J : σ → Prop} {D : Λ → σ → Prop}
    (hinit : ∀ s, P.init s → J s)
    (hstep : ∀ t l s s', I s → D l s → (V.contract t).guar l s s' → J s → J s')
    {s : PoolState σ Λ T} (h : P.machine.ReachableUnder (Obeys D) s) : J s.shared := by
  refine Machine.ReachableUnder.invariant (P := fun s => J s.shared) ?_ ?_ h
  · exact fun s hs => hinit s.shared hs.1
  intro s a hreach hD hJ
  have hfree : P.machine.ReachableUnder (Obeys fun _ _ => True) s :=
    hreach.mono (fun s a _ => Obeys.trivial s a)
  rcases V.step hfree a (Obeys.trivial s a) with e | ⟨t, l, rfl, hl, hG⟩
  · rw [e]; exact hJ
  · exact hstep t l _ _ (V.safe hfree).1 (hD l hl) hG hJ

end Pool

end MediaCamera
