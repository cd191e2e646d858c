import MediaCamera.Plugin.State

/-!
# The fresh render gate over a whole history

`FreshRenderGate` keeps a generation and at most one time.  Here it is compared with a reference
that reads the history of the observations:

* `FreshRenderGate.fed obs i`, the gate `FreshRenderGate gate;` after the first `i` observations;
* `decision obs i`, what observation `i` returns;
* `Changes obs i`, the generation of observation `i` is not the one before it;
* `LastChange obs r i`, observation `r` is the last such one before observation `i`.

`Remembers` is what the gate knows of the history, and `fed_remembers` that it always does.
-/

namespace MediaCamera

/-! ## a history and the gate -/

structure Observation where
  requestedGeneration : Nat
  sourceTimeNanoseconds : Int
  deriving DecidableEq, Repr

/-- the gate of the class definition, after the first `i` observations -/
def FreshRenderGate.fed (obs : Nat → Observation) : Nat → FreshRenderGate
  | 0 => ⟨0, none⟩
  | i + 1 =>
    ((FreshRenderGate.fed obs i).observe (obs i).requestedGeneration
      (obs i).sourceTimeNanoseconds).1

/-- what observation `i` returns -/
def decision (obs : Nat → Observation) (i : Nat) : FreshRenderDecision :=
  ((FreshRenderGate.fed obs i).observe (obs i).requestedGeneration
    (obs i).sourceTimeNanoseconds).2

/-- what a gate returns for a finite sequence -/
def FreshRenderGate.observeAll (gate : FreshRenderGate) :
    List Observation → List FreshRenderDecision
  | [] => []
  | o :: rest =>
    let r := gate.observe o.requestedGeneration o.sourceTimeNanoseconds
    r.2 :: FreshRenderGate.observeAll r.1 rest

/-- a finite sequence gets the decisions of any history that begins with it -/
theorem observeAll_fed (obs : Nat → Observation) (n : Nat) :
    ∀ i, (FreshRenderGate.fed obs i).observeAll ((List.range' i n).map obs) =
      (List.range' i n).map (decision obs) := by
  induction n with
  | zero =>
    intro i
    rfl
  | succ n ih =>
    intro i
    rw [List.range'_succ, List.map_cons, List.map_cons]
    show decision obs i ::
      (FreshRenderGate.fed obs (i + 1)).observeAll ((List.range' (i + 1) n).map obs) = _
    rw [ih (i + 1)]

/-! ## the reference -/

/-- the generation before observation `i`, `0` before the first -/
def priorGeneration (obs : Nat → Observation) : Nat → Nat
  | 0 => 0
  | i + 1 => (obs i).requestedGeneration

/-- observation `i` asks for another generation than the one before it -/
def Changes (obs : Nat → Observation) (i : Nat) : Prop :=
  (obs i).requestedGeneration ≠ priorGeneration obs i

instance (obs : Nat → Observation) (i : Nat) : Decidable (Changes obs i) :=
  inferInstanceAs (Decidable (_ ≠ _))

/-- `r` is the last change before observation `i` -/
def LastChange (obs : Nat → Observation) (r i : Nat) : Prop :=
  r < i ∧ Changes obs r ∧ ∀ j, r < j → j < i → ¬ Changes obs j

/-- the time of some observation after `r` and before `i` is not the time of `r` -/
def MovedBefore (obs : Nat → Observation) (r i : Nat) : Prop :=
  ∃ j, r < j ∧ j < i ∧ (obs j).sourceTimeNanoseconds ≠ (obs r).sourceTimeNanoseconds

theorem LastChange.unique {obs : Nat → Observation} {r r' i : Nat} (h : LastChange obs r i)
    (h' : LastChange obs r' i) : r = r' := by
  rcases Nat.lt_trichotomy r r' with hlt | heq | hgt
  · exact absurd h'.2.1 (h.2.2 r' hlt h'.1)
  · exact heq
  · exact absurd h.2.1 (h'.2.2 r hgt h.1)

theorem lastChange_succ {obs : Nat → Observation} {r i : Nat} (hsame : ¬ Changes obs i) :
    LastChange obs r (i + 1) ↔ LastChange obs r i := by
  constructor
  · intro h
    have hne : r ≠ i := by
      intro heq
      exact hsame (heq ▸ h.2.1)
    have hlt : r < i := by
      have := h.1
      omega
    exact ⟨hlt, h.2.1, fun j hj hji => h.2.2 j hj (by omega)⟩
  · intro h
    refine ⟨Nat.lt_succ_of_lt h.1, h.2.1, ?_⟩
    intro j hj hji
    by_cases heq : j = i
    · rw [heq]
      exact hsame
    · exact h.2.2 j hj (by omega)

theorem lastChange_self {obs : Nat → Observation} {i : Nat} (hchange : Changes obs i) :
    LastChange obs i (i + 1) := by
  refine ⟨Nat.lt_succ_self i, hchange, ?_⟩
  intro j hj hji
  omega

theorem movedBefore_succ {obs : Nat → Observation} {r i : Nat} (hlt : r < i) :
    MovedBefore obs r (i + 1) ↔ MovedBefore obs r i ∨
      (obs i).sourceTimeNanoseconds ≠ (obs r).sourceTimeNanoseconds := by
  constructor
  · rintro ⟨j, hj, hji, hne⟩
    by_cases heq : j = i
    · exact .inr (heq ▸ hne)
    · exact .inl ⟨j, hj, by omega, hne⟩
  · rintro (⟨j, hj, hji, hne⟩ | hne)
    · exact ⟨j, hj, Nat.lt_succ_of_lt hji, hne⟩
    · exact ⟨i, hlt, Nat.lt_succ_self i, hne⟩

theorem not_movedBefore_self (obs : Nat → Observation) (i : Nat) :
    ¬ MovedBefore obs i (i + 1) := by
  rintro ⟨j, hj, hji, -⟩
  omega

/-! ## what the gate remembers -/

/-- the floor of a gate, read as a statement about the first `i` observations -/
def Floor (obs : Nat → Observation) (i : Nat) : Option Int → Prop
  | none => ∀ r, LastChange obs r i → MovedBefore obs r i
  | some floor =>
    ∃ r, LastChange obs r i ∧ (obs r).sourceTimeNanoseconds = floor ∧ ¬ MovedBefore obs r i

/-- `gate` is a record of the first `i` observations -/
structure Remembers (obs : Nat → Observation) (i : Nat) (gate : FreshRenderGate) : Prop where
  generation : gate.observedGeneration = priorGeneration obs i
  floor : Floor obs i gate.sourceTimeFloorNanoseconds

theorem remembers_fresh (obs : Nat → Observation) : Remembers obs 0 ⟨0, none⟩ where
  generation := rfl
  floor := by
    intro r h
    exact absurd h.1 (Nat.not_lt_zero r)

/-- the reference: what observation `i` returns, by the observations before it -/
inductive Reference (obs : Nat → Observation) (i : Nat) : FreshRenderDecision → Prop
  | discard (hchange : Changes obs i) : Reference obs i .discardAndReset
  | first (hsame : ¬ Changes obs i) (hnone : ∀ r, ¬ LastChange obs r i) : Reference obs i .accept
  | moved (hsame : ¬ Changes obs i) (r : Nat) (hlast : LastChange obs r i)
      (hmoved : MovedBefore obs r (i + 1)) : Reference obs i .accept
  | still (hsame : ¬ Changes obs i) (r : Nat) (hlast : LastChange obs r i)
      (hstill : ¬ MovedBefore obs r (i + 1)) : Reference obs i .waitForSourceTimeChange

section
variable {gate : FreshRenderGate} {generation : Nat} {time : Int}

theorem observe_change (h : generation ≠ gate.observedGeneration) :
    gate.observe generation time = (⟨generation, some time⟩, .discardAndReset) :=
  if_pos h

theorem observe_open (h : generation = gate.observedGeneration)
    (hopen : gate.sourceTimeFloorNanoseconds = none) :
    gate.observe generation time = (gate, .accept) := by
  unfold FreshRenderGate.observe
  rw [if_neg (not_not.2 h), hopen]

theorem observe_still (h : generation = gate.observedGeneration)
    (hfloor : gate.sourceTimeFloorNanoseconds = some time) :
    gate.observe generation time = (gate, .waitForSourceTimeChange) := by
  unfold FreshRenderGate.observe
  rw [if_neg (not_not.2 h), hfloor]
  exact if_pos rfl

theorem observe_moved {floor : Int} (h : generation = gate.observedGeneration)
    (hfloor : gate.sourceTimeFloorNanoseconds = some floor) (hmoved : time ≠ floor) :
    gate.observe generation time =
      ({ gate with sourceTimeFloorNanoseconds := none }, .accept) := by
  unfold FreshRenderGate.observe
  rw [if_neg (not_not.2 h), hfloor]
  exact if_neg hmoved

end

/-- one observation: a gate that remembers the history decides as the reference, and remembers the
longer history -/
theorem Remembers.observe {obs : Nat → Observation} {i : Nat} {gate : FreshRenderGate}
    (h : Remembers obs i gate) :
    Reference obs i (gate.observe (obs i).requestedGeneration (obs i).sourceTimeNanoseconds).2 ∧
      Remembers obs (i + 1)
        (gate.observe (obs i).requestedGeneration (obs i).sourceTimeNanoseconds).1 := by
  by_cases hchange : Changes obs i
  · rw [observe_change (by rw [h.generation]; exact hchange)]
    exact ⟨.discard hchange, rfl, i, lastChange_self hchange, rfl, not_movedBefore_self obs i⟩
  have hgen : (obs i).requestedGeneration = gate.observedGeneration := by
    rw [h.generation]
    exact not_not.1 hchange
  have hfloor := h.floor
  cases hgate : gate.sourceTimeFloorNanoseconds with
  | none =>
    rw [hgate] at hfloor
    have hopen : Floor obs (i + 1) none := by
      intro r hr
      have hlast := (lastChange_succ hchange).1 hr
      exact (movedBefore_succ hlast.1).2 (.inl (hfloor r hlast))
    rw [observe_open hgen hgate]
    refine ⟨?_, hgen.symm, by rw [hgate]; exact hopen⟩
    by_cases hany : ∃ r, LastChange obs r i
    · obtain ⟨r, hr⟩ := hany
      exact .moved hchange r hr (hopen r ((lastChange_succ hchange).2 hr))
    · exact .first hchange (not_exists.1 hany)
  | some floor =>
    rw [hgate] at hfloor
    obtain ⟨r, hlast, rfl, hstill⟩ := hfloor
    have hlast' := (lastChange_succ hchange).2 hlast
    by_cases hsame : (obs i).sourceTimeNanoseconds = (obs r).sourceTimeNanoseconds
    · have hstill' : ¬ MovedBefore obs r (i + 1) := by
        rw [movedBefore_succ hlast.1]
        rintro (hmoved | hne)
        · exact hstill hmoved
        · exact hne hsame
      rw [observe_still hgen (by rw [hgate, hsame])]
      refine ⟨.still hchange r hlast hstill', hgen.symm, ?_⟩
      rw [hgate]
      exact ⟨r, hlast', rfl, hstill'⟩
    · have hmoved : MovedBefore obs r (i + 1) := (movedBefore_succ hlast.1).2 (.inr hsame)
      rw [observe_moved hgen hgate hsame]
      refine ⟨.moved hchange r hlast hmoved, hgen.symm, ?_⟩
      intro r' hr'
      rw [hr'.unique hlast']
      exact hmoved

theorem fed_remembers (obs : Nat → Observation) (i : Nat) :
    Remembers obs i (FreshRenderGate.fed obs i) := by
  induction i with
  | zero => exact remembers_fresh obs
  | succ i ih => exact ih.observe.2

theorem decision_reference (obs : Nat → Observation) (i : Nat) :
    Reference obs i (decision obs i) :=
  (fed_remembers obs i).observe.1

/-! ## the reference in terms of the decisions -/

theorem discard_iff_changes (obs : Nat → Observation) (i : Nat) :
    decision obs i = .discardAndReset ↔ Changes obs i := by
  have href := decision_reference obs i
  generalize decision obs i = d at href ⊢
  cases href with
  | discard hchange => exact iff_of_true rfl hchange
  | first hsame _ => exact iff_of_false (by decide) hsame
  | moved hsame _ _ _ => exact iff_of_false (by decide) hsame
  | still hsame _ _ _ => exact iff_of_false (by decide) hsame

/-- `r` is the last discard before observation `i` -/
def LastDiscard (obs : Nat → Observation) (r i : Nat) : Prop :=
  r < i ∧ decision obs r = .discardAndReset ∧
    ∀ j, r < j → j < i → decision obs j ≠ .discardAndReset

theorem lastDiscard_iff (obs : Nat → Observation) (r i : Nat) :
    LastDiscard obs r i ↔ LastChange obs r i := by
  unfold LastDiscard LastChange
  simp only [ne_eq, discard_iff_changes]

theorem exists_lastDiscard {obs : Nat → Observation} {r : Nat}
    (hdiscard : decision obs r = .discardAndReset) (i : Nat) :
    r < i → ∃ r', LastDiscard obs r' i := by
  induction i with
  | zero =>
    intro hr
    omega
  | succ i ih =>
    intro hr
    by_cases hnow : decision obs i = .discardAndReset
    · exact ⟨i, (lastDiscard_iff obs i (i + 1)).2
        (lastChange_self ((discard_iff_changes obs i).1 hnow))⟩
    · have hne : r ≠ i := by
        intro heq
        exact hnow (heq ▸ hdiscard)
      obtain ⟨r', hr'⟩ := ih (by omega)
      have hsame : ¬ Changes obs i := by
        rw [← discard_iff_changes]
        exact hnow
      exact ⟨r', (lastDiscard_iff obs r' (i + 1)).2
        ((lastChange_succ hsame).2 ((lastDiscard_iff obs r' i).1 hr'))⟩

theorem accept_of_undiscarded {obs : Nat → Observation} {i : Nat}
    (hsame : decision obs i ≠ .discardAndReset)
    (hnone : ∀ r < i, decision obs r ≠ .discardAndReset) : decision obs i = .accept := by
  have hnot : ∀ r, ¬ LastChange obs r i := by
    intro r hr
    exact hnone r hr.1 ((discard_iff_changes obs r).2 hr.2.1)
  have href := decision_reference obs i
  generalize decision obs i = d at href hsame ⊢
  cases href with
  | discard => exact absurd rfl hsame
  | first => rfl
  | moved _ r hr _ => exact absurd hr (hnot r)
  | still _ r hr _ => exact absurd hr (hnot r)

theorem accept_iff_moved {obs : Nat → Observation} {r i : Nat}
    (hsame : decision obs i ≠ .discardAndReset) (hlast : LastDiscard obs r i) :
    (decision obs i = .accept ↔ MovedBefore obs r (i + 1)) ∧
      (decision obs i = .waitForSourceTimeChange ↔ ¬ MovedBefore obs r (i + 1)) := by
  have hlast := (lastDiscard_iff obs r i).1 hlast
  have href := decision_reference obs i
  generalize decision obs i = d at href hsame ⊢
  cases href with
  | discard => exact absurd rfl hsame
  | first _ hnone => exact absurd hlast (hnone r)
  | moved _ r' hr' hmoved =>
    obtain rfl := hr'.unique hlast
    exact ⟨iff_of_true rfl hmoved, iff_of_false (by decide) (not_not.2 hmoved)⟩
  | still _ r' hr' hstill =>
    obtain rfl := hr'.unique hlast
    exact ⟨iff_of_false (by decide) hstill, iff_of_true rfl hstill⟩

theorem accept_stays {obs : Nat → Observation} {i : Nat} (haccept : decision obs i = .accept)
    (hsame : decision obs (i + 1) ≠ .discardAndReset) : decision obs (i + 1) = .accept := by
  have hsame' : ¬ Changes obs (i + 1) := by
    rw [← discard_iff_changes]
    exact hsame
  have hnow : ¬ Changes obs i := by
    rw [← discard_iff_changes, haccept]
    decide
  by_cases hany : ∃ r, LastDiscard obs r i
  · obtain ⟨r, hr⟩ := hany
    have hchange := (lastDiscard_iff obs r i).1 hr
    have hmoved : MovedBefore obs r (i + 1) :=
      (accept_iff_moved (by rw [haccept]; decide) hr).1.1 haccept
    have hnext : LastDiscard obs r (i + 1) :=
      (lastDiscard_iff obs r (i + 1)).2 ((lastChange_succ hnow).2 hchange)
    have hlt : r < i + 1 := Nat.lt_succ_of_lt hr.1
    exact (accept_iff_moved hsame hnext).1.2 ((movedBefore_succ hlt).2 (.inl hmoved))
  · apply accept_of_undiscarded hsame
    intro r hr hdiscard
    by_cases heq : r = i
    · rw [heq, haccept] at hdiscard
      exact absurd hdiscard (by decide)
    · exact hany (exists_lastDiscard hdiscard i (by omega))

theorem accept_mono {obs : Nat → Observation} {i k : Nat} (hle : i ≤ k)
    (hsame : ∀ j, i < j → j ≤ k → decision obs j ≠ .discardAndReset)
    (haccept : decision obs i = .accept) : decision obs k = .accept := by
  induction k, hle using Nat.le_induction with
  | base => exact haccept
  | succ k hle ih =>
    apply accept_stays
    · exact ih (fun j hj hjk => hsame j hj (by omega))
    · exact hsame (k + 1) (by omega) (Nat.le_refl _)

/-- `FreshRenderGate` is its reference: for every history of observations, what observation `i`
returns, by the observations and the discards before it -/
theorem freshRenderGate_reference (obs : Nat → Observation) (i : Nat) :
    (decision obs i = .discardAndReset ↔
      (obs i).requestedGeneration ≠ priorGeneration obs i) ∧
    (decision obs i ≠ .discardAndReset → (∀ r < i, decision obs r ≠ .discardAndReset) →
      decision obs i = .accept) ∧
    (decision obs i ≠ .discardAndReset → ∀ r, LastDiscard obs r i →
      (decision obs i = .accept ↔
        ∃ j, r < j ∧ j ≤ i ∧ (obs j).sourceTimeNanoseconds ≠ (obs r).sourceTimeNanoseconds) ∧
      (decision obs i = .waitForSourceTimeChange ↔
        ∀ j, r < j → j ≤ i →
          (obs j).sourceTimeNanoseconds = (obs r).sourceTimeNanoseconds)) ∧
    (∀ k, i ≤ k → (∀ j, i < j → j ≤ k → decision obs j ≠ .discardAndReset) →
      decision obs i = .accept → decision obs k = .accept) := by
  refine ⟨discard_iff_changes obs i, accept_of_undiscarded, ?_, fun k => accept_mono⟩
  intro hsame r hlast
  have hmoved : MovedBefore obs r (i + 1) ↔
      ∃ j, r < j ∧ j ≤ i ∧ (obs j).sourceTimeNanoseconds ≠ (obs r).sourceTimeNanoseconds := by
    simp only [MovedBefore, Nat.lt_succ_iff]
  have hdecides := accept_iff_moved hsame hlast
  rw [hmoved] at hdecides
  constructor
  · exact hdecides.1
  · rw [hdecides.2]
    push Not
    rfl

end MediaCamera
