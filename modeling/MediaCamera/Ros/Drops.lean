import MediaCamera.Ros.Epoch

/-!
# Drop accounting of the ROS branch

`dropped_frames_before` of an epoch's first frame should be the number of access units offered
since the previously published frame and never published.  The count moves between the counter,
a queued IDR and the worker's frame; `drops_inexact` is a run that loses it: an IDR that carries a
count is discarded by an epoch advance, which counts the frame but not its count.

`CountsKept` is the condition on a step under which no count is lost or moved, and
`drops_exact` proves the accounting exact in every run whose steps satisfy it.  The invariant:
in `RosState.frames` every frame accounts for exactly the offers between it and the frame before
it (`Accounts`), and the counter for the offers after the last one.
-/

namespace MediaCamera

/-! ## the property -/

/-- the offer that comes next after the frames of `older` (newest first) -/
def nextOffer (older : List QueuedROSFrame) : Nat := (older.head?.map (·.offer + 1)).getD 0

/-- the number of offers from `lo` on and before `hi` that were not published -/
def RosState.unpublished (s : RosState) (lo hi : Nat) : Nat :=
  ((Finset.Ico lo hi).filter (fun i => i ∉ s.published.map (·.offer))).card

/-- every published first frame of an epoch reports the access units that were offered after the
previously published frame, before it, and never published -/
def DropsExact (s : RosState) : Prop :=
  ∀ newer f older, s.published = newer ++ f :: older → f.frameSequence = 0 →
    f.droppedFramesBefore = min RosBranch.maximumUInt32 (s.unpublished (nextOffer older) f.offer)

/-! ## the condition -/

def RosBranch.Uncounted (r : RosBranch) : Prop :=
  ∀ f ∈ r.rosFrameQueue, f.droppedFramesBefore = 0

instance (r : RosBranch) : Decidable r.Uncounted :=
  inferInstanceAs (Decidable (∀ f ∈ r.rosFrameQueue, f.droppedFramesBefore = 0))

/-- the step loses or moves no count: the queue is emptied only while no queued frame carries a
count, the worker's frame is not stale, and a running epoch is not continued over counted drops -/
def CountsKept (cfg : RosConfig) (s : RosState) : RosAction → Prop
  | .beginEpoch _ => s.branch.beginsROSEpoch cfg = true → s.branch.Uncounted
  | .callback _ =>
    (s.callback = .beginEpoch ∧ s.branch.beginsROSEpoch cfg = true) ∨
      (s.callback = .discard ∧ s.branch.rosPublisherStopping = false) → s.branch.Uncounted
  | .enqueue => s.enqueuing ≠ none → s.branch.rosPublisherStopping = false →
    if cfg.rosPublisherQueueCapacity ≤ s.branch.rosFrameQueue.length then s.branch.Uncounted
    else s.branch.rosWaitingForIDR = true ∨ s.branch.rosDroppedFramesBeforeIDR = 0
  | .worker => ∀ f ∈ s.worker.held,
      s.branch.rosPublisherStopping = true ∨ f.generation = s.branch.rosPublisherGeneration
  | _ => True

instance CountsKept.decidable (cfg : RosConfig) (s : RosState) :
    ∀ a, Decidable (CountsKept cfg s a)
  | .beginEpoch _ => inferInstanceAs (Decidable (_ → s.branch.Uncounted))
  | .callback _ => inferInstanceAs (Decidable
      ((s.callback = .beginEpoch ∧ s.branch.beginsROSEpoch cfg = true) ∨
        (s.callback = .discard ∧ s.branch.rosPublisherStopping = false) → s.branch.Uncounted))
  | .enqueue => inferInstanceAs (Decidable
      (s.enqueuing ≠ none → s.branch.rosPublisherStopping = false →
       if cfg.rosPublisherQueueCapacity ≤ s.branch.rosFrameQueue.length then s.branch.Uncounted
       else s.branch.rosWaitingForIDR = true ∨ s.branch.rosDroppedFramesBeforeIDR = 0))
  | .worker => inferInstanceAs (Decidable (∀ f ∈ s.worker.held,
      s.branch.rosPublisherStopping = true ∨ f.generation = s.branch.rosPublisherGeneration))
  | .applyCalibration _ => .isTrue trivial
  | .describeStream _ _ _ _ => .isTrue trivial
  | .check _ => .isTrue trivial
  | .connect => .isTrue trivial
  | .disconnect => .isTrue trivial
  | .register _ => .isTrue trivial
  | .stopPublisher => .isTrue trivial
  | .closeSubscribers => .isTrue trivial

/-! ## accounts -/

/-- `f` accounts for the offers between the frames of `older` and itself -/
def Accounts (f : QueuedROSFrame) (older : List QueuedROSFrame) : Prop :=
  nextOffer older ≤ f.offer ∧
    (f.frameSequence = 0 →
      f.droppedFramesBefore = min RosBranch.maximumUInt32 (f.offer - nextOffer older)) ∧
    (f.frameSequence ≠ 0 → f.offer = nextOffer older)

@[simp] theorem nextOffer_nil : nextOffer [] = 0 := rfl
@[simp] theorem nextOffer_cons (f : QueuedROSFrame) (l : List QueuedROSFrame) :
    nextOffer (f :: l) = f.offer + 1 := rfl

theorem offer_lt_nextOffer {l : List QueuedROSFrame} (h : Justified Accounts l) :
    ∀ f ∈ l, f.offer < nextOffer l := by
  induction l with
  | nil => intro f hf; exact absurd hf List.not_mem_nil
  | cons g l ih =>
    intro f hf
    rw [nextOffer_cons]
    rcases List.mem_cons.mp hf with rfl | hf
    · exact Nat.lt_succ_self _
    · have h1 := ih h.2 f hf
      have h2 := h.1.1
      omega

theorem offer_lt_of_newer {newer older : List QueuedROSFrame} {f : QueuedROSFrame}
    (h : Justified Accounts (newer ++ f :: older)) : ∀ g ∈ newer, f.offer < g.offer := by
  induction newer with
  | nil => intro g hg; exact absurd hg List.not_mem_nil
  | cons g newer ih =>
    intro g' hg'
    rcases List.mem_cons.mp hg' with rfl | hg'
    · have h1 := h.1.1
      have h2 := offer_lt_nextOffer h.2 f (List.mem_append_right _ List.mem_cons_self)
      omega
    · exact ih h.2 g' hg'

theorem nextOffer_uncounted {front l : List QueuedROSFrame} (h : Justified Accounts (front ++ l))
    (h0 : ∀ f ∈ front, f.droppedFramesBefore = 0) :
    nextOffer (front ++ l) = nextOffer l + front.length := by
  induction front with
  | nil => rfl
  | cons f front ih =>
    have hacc : Accounts f (front ++ l) := h.1
    have ih' := ih h.2 (fun g hg => h0 g (List.mem_cons_of_mem _ hg))
    have hf0 := h0 f List.mem_cons_self
    have hoffer : f.offer = nextOffer (front ++ l) := by
      by_cases hseq : f.frameSequence = 0
      · have h1 := hacc.1
        have h2 := hacc.2.1 hseq
        rw [hf0] at h2
        have h3 : f.offer - nextOffer (front ++ l) = 0 := by
          rcases Nat.min_eq_zero_iff.mp h2.symm with h4 | h4
          · exact absurd h4 (by decide)
          · exact h4
        omega
      · exact hacc.2.2 hseq
    rw [List.cons_append, nextOffer_cons, hoffer, ih', List.length_cons]
    omega

theorem accounts_unpublished {s : RosState} {newer older : List QueuedROSFrame}
    {f : QueuedROSFrame} (h : Justified Accounts s.published)
    (hs : s.published = newer ++ f :: older) :
    s.unpublished (nextOffer older) f.offer = f.offer - nextOffer older := by
  have hacc := hs ▸ h
  have holder : Justified Accounts older := (Justified.tail hacc).2
  have hnone : ∀ i, nextOffer older ≤ i → i < f.offer → i ∉ s.published.map (·.offer) := by
    intro i hlo hhi hmem
    obtain ⟨g, hg, rfl⟩ := List.mem_map.mp hmem
    rw [hs] at hg
    rcases List.mem_append.mp hg with hg | hg
    · have := offer_lt_of_newer hacc g hg
      omega
    · rcases List.mem_cons.mp hg with rfl | hg
      · omega
      · have := offer_lt_nextOffer holder g hg
        omega
  unfold RosState.unpublished
  rw [Finset.filter_true_of_mem, Nat.card_Ico]
  intro i hi
  exact hnone i (Finset.mem_Ico.mp hi).1 (Finset.mem_Ico.mp hi).2

/-! ## the counter -/

/-- the frames account for their offers, and the counter `dropped` for the offers after them -/
def Counted (frames : List QueuedROSFrame) (dropped offered : Nat) : Prop :=
  Justified Accounts frames ∧ offered = nextOffer frames + dropped

theorem Counted.clear {front l : List QueuedROSFrame} {dropped offered : Nat}
    (h : Counted (front ++ l) dropped offered) (h0 : ∀ f ∈ front, f.droppedFramesBefore = 0)
    (extra : Nat) : Counted l (dropped + (front.length + extra)) (offered + extra) := by
  refine ⟨Justified.tail h.1, ?_⟩
  have h1 := h.2
  rw [nextOffer_uncounted h.1 h0] at h1
  omega

theorem Counted.drop {l : List QueuedROSFrame} {dropped offered : Nat}
    (h : Counted l dropped offered) : Counted l (dropped + 1) (offered + 1) :=
  ⟨h.1, by have := h.2; omega⟩

theorem Counted.push {cfg : RosConfig} {r : RosBranch} (hr : BranchInv cfg r)
    {l : List QueuedROSFrame} {offered : Nat} (h : Counted l r.rosDroppedFramesBeforeIDR offered)
    (hwait : r.rosWaitingForIDR = true ∨ r.rosDroppedFramesBeforeIDR = 0) (unit : AccessUnit) :
    Counted (r.stampFrame offered unit :: l) (r.pushFrame offered unit).rosDroppedFramesBeforeIDR
      (offered + 1) := by
  have hoffer := h.2
  refine ⟨⟨⟨?_, ?_, ?_⟩, h.1⟩, ?_⟩
  · show nextOffer l ≤ offered
    omega
  · intro hseq
    have hw : r.rosWaitingForIDR = true := hr.waiting_iff.mpr hseq
    show (if r.rosWaitingForIDR = true then min r.rosDroppedFramesBeforeIDR _ else 0) =
      min _ (offered - nextOffer l)
    rw [if_pos hw, Nat.min_comm]
    congr 1
    omega
  · intro hseq
    have hw : ¬ r.rosWaitingForIDR = true := fun hw => hseq (hr.waiting_iff.mp hw)
    have h0 : r.rosDroppedFramesBeforeIDR = 0 := hwait.resolve_left hw
    show offered = nextOffer l
    omega
  · show offered + 1 = offered + 1 +
      (if r.rosWaitingForIDR = true then 0 else r.rosDroppedFramesBeforeIDR)
    split
    · rfl
    · rw [hwait.resolve_left ‹_›]

/-! ## the invariant -/

structure DropInv (s : RosState) : Prop where
  accounts : Justified Accounts s.frames
  counter : s.branch.rosPublisherStopping = false →
    s.branch.offered = nextOffer s.frames + s.branch.rosDroppedFramesBeforeIDR
  stopped : s.branch.rosPublisherStopping = true →
    s.branch.rosFrameQueue = [] ∧ s.registration = .closed

theorem DropInv.same {s s' : RosState} (h : DropInv s) (hframes : s'.frames = s.frames)
    (hoffered : s'.branch.offered = s.branch.offered)
    (hdropped : s'.branch.rosDroppedFramesBeforeIDR = s.branch.rosDroppedFramesBeforeIDR)
    (hstop : s'.branch.rosPublisherStopping = s.branch.rosPublisherStopping)
    (hqueue : s.branch.rosFrameQueue = [] → s'.branch.rosFrameQueue = [])
    (hreg : s'.registration = s.registration) : DropInv s' := by
  refine ⟨hframes ▸ h.accounts, ?_, ?_⟩
  · rw [hstop, hoffered, hdropped, hframes]; exact h.counter
  · rw [hstop, hreg]
    exact fun hs => ⟨hqueue (h.stopped hs).1, (h.stopped hs).2⟩

theorem DropInv.count {s s' : RosState} (h : DropInv s)
    (hlive : s.branch.rosPublisherStopping = false) (hstop : s'.branch.rosPublisherStopping = false)
    (hcount : Counted s.frames s.branch.rosDroppedFramesBeforeIDR s.branch.offered →
      Counted s'.frames s'.branch.rosDroppedFramesBeforeIDR s'.branch.offered) : DropInv s' := by
  have h' := hcount ⟨h.accounts, h.counter hlive⟩
  exact ⟨h'.1, fun _ => h'.2, fun hs => absurd (hs.symm.trans hstop) (by decide)⟩

theorem Uncounted.reverse {r : RosBranch} (h : r.Uncounted) :
    ∀ f ∈ r.rosFrameQueue.reverse, f.droppedFramesBefore = 0 :=
  fun f hf => h f (List.mem_reverse.mp hf)

section
variable {cfg : RosConfig} {s : RosState}

theorem DropInv.beginEpoch {s' : RosState} (h : DropInv s)
    (hu : s.branch.beginsROSEpoch cfg = true → s.branch.Uncounted) (cause : EpochCause) (hs' : s'.branch = s.branch.beginROSEpoch cfg cause)
    (hout : s'.out = s.out) (hworker : s'.worker = s.worker)
    (hreg : s'.registration = s.registration) : DropInv s' := by
  unfold RosBranch.beginROSEpoch at hs'
  split at hs'
  case isTrue hb =>
    have hlive : s.branch.rosPublisherStopping = false := by
      rw [RosBranch.beginsROSEpoch, Bool.and_eq_true, Bool.not_eq_true'] at hb
      exact hb.2
    refine h.count hlive (by rw [hs']; exact hlive) (fun hc => ?_)
    have hclear := hc.clear (Uncounted.reverse (hu hb)) 0
    rw [List.length_reverse] at hclear
    unfold RosState.frames RosState.published
    rw [hs', hout, hworker]
    exact hclear
  case isFalse =>
    refine h.same ?_ ?_ ?_ ?_ ?_ hreg
    · unfold RosState.frames RosState.published
      rw [hs', hout, hworker]
    all_goals rw [hs']
    exact id

theorem DropInv.discardQueue (h : DropInv s)
    (hu : s.branch.rosPublisherStopping = false → s.branch.Uncounted) :
    DropInv { s with branch := s.branch.discardQueue, callback := .idle } := by
  unfold RosBranch.discardQueue
  split
  · exact h.same rfl rfl rfl rfl id rfl
  case isFalse hstop =>
    have hlive : s.branch.rosPublisherStopping = false := by simpa using hstop
    refine h.count hlive hlive (fun hc => ?_)
    have hclear := hc.clear (Uncounted.reverse (hu hlive)) 0
    rw [List.length_reverse] at hclear
    exact hclear

theorem overflowed_full {r : RosBranch} {unit : AccessUnit}
    (h : cfg.rosPublisherQueueCapacity ≤ r.rosFrameQueue.length) :
    r.overflowed cfg unit =
      r.advanceROSEpochLocked .queueOverflow (if unit.keyframe then 0 else 1) := if_pos h

theorem overflowed_same {r : RosBranch} {unit : AccessUnit}
    (h : ¬ cfg.rosPublisherQueueCapacity ≤ r.rosFrameQueue.length) : r.overflowed cfg unit = r :=
  if_neg h

theorem overflowed_stopping (cfg : RosConfig) (r : RosBranch) (unit : AccessUnit) :
    (r.overflowed cfg unit).rosPublisherStopping = r.rosPublisherStopping := by
  unfold RosBranch.overflowed
  split <;> rfl

theorem overflowed_offered (cfg : RosConfig) (r : RosBranch) (unit : AccessUnit) :
    (r.overflowed cfg unit).offered = r.offered := by
  unfold RosBranch.overflowed
  split <;> rfl

/-- the locked section of `EnqueueROSAccessUnit`, in front of the frames `rest` -/
theorem Counted.enqueueLocked {r : RosBranch} (hr : BranchInv cfg r) {rest : List QueuedROSFrame}
    (h : Counted (r.rosFrameQueue.reverse ++ rest) r.rosDroppedFramesBeforeIDR r.offered)
    (hlive : r.rosPublisherStopping = false) (unit : AccessUnit)
    (hC : if cfg.rosPublisherQueueCapacity ≤ r.rosFrameQueue.length then r.Uncounted
      else r.rosWaitingForIDR = true ∨ r.rosDroppedFramesBeforeIDR = 0) :
    Counted ((r.enqueueLocked cfg unit).1.rosFrameQueue.reverse ++ rest)
      (r.enqueueLocked cfg unit).1.rosDroppedFramesBeforeIDR (r.enqueueLocked cfg unit).1.offered ∧
    (r.enqueueLocked cfg unit).1.rosPublisherStopping = false := by
  rcases enqueueLocked_cases cfg r unit with
    ⟨hstop, _⟩ | ⟨_, hfull, hkey, e⟩ | ⟨_, _, _, _, e⟩ | ⟨_, hkey, e⟩
  · exact absurd (hstop.symm.trans hlive) (by decide)
  · rw [if_pos hfull] at hC
    have hfull' : cfg.rosPublisherQueueCapacity ≤ r.examined.rosFrameQueue.length := hfull
    rw [e, overflowed_full hfull', if_neg (by simp [hkey])]
    have hclear := h.clear (Uncounted.reverse hC) 1
    rw [List.length_reverse] at hclear
    exact ⟨hclear, hlive⟩
  · rw [e]
    exact ⟨h.drop, hlive⟩
  · rw [e]
    refine ⟨?_, (overflowed_stopping cfg r.examined unit).trans hlive⟩
    have hbranch := hr.examined.overflowed unit
    -- the frames and the counter just before the frame is stamped
    have hready : Counted ((r.examined.overflowed cfg unit).rosFrameQueue.reverse ++ rest)
        (r.examined.overflowed cfg unit).rosDroppedFramesBeforeIDR r.offered ∧
        ((r.examined.overflowed cfg unit).rosWaitingForIDR = true ∨
          (r.examined.overflowed cfg unit).rosDroppedFramesBeforeIDR = 0) := by
      by_cases hfull : cfg.rosPublisherQueueCapacity ≤ r.rosFrameQueue.length
      · rw [if_pos hfull] at hC
        have hfull' : cfg.rosPublisherQueueCapacity ≤ r.examined.rosFrameQueue.length := hfull
        rw [overflowed_full hfull'] at hkey ⊢
        rw [if_pos (hkey rfl)]
        have hclear := h.clear (Uncounted.reverse hC) 0
        rw [List.length_reverse] at hclear
        exact ⟨hclear, .inl rfl⟩
      · rw [if_neg hfull] at hC
        have hroom : ¬ cfg.rosPublisherQueueCapacity ≤ r.examined.rosFrameQueue.length := hfull
        rw [overflowed_same hroom]
        exact ⟨h, hC⟩
    have hpush := hready.1.push hbranch hready.2 unit
    have hqueue : ((r.examined.overflowed cfg unit).pushFrame r.offered unit).rosFrameQueue.reverse =
        (r.examined.overflowed cfg unit).stampFrame r.offered unit ::
          (r.examined.overflowed cfg unit).rosFrameQueue.reverse :=
      List.reverse_concat' _ _
    have hoffered : ((r.examined.overflowed cfg unit).pushFrame r.offered unit).offered =
        r.offered + 1 := overflowed_offered cfg r.examined unit
    rw [hqueue, hoffered]
    exact hpush

theorem DropInv.enqueue (h : DropInv s) (hr : RosInv cfg s) (hC : CountsKept cfg s .enqueue) :
    DropInv (s.enqueue cfg) := by
  unfold RosState.enqueue
  split
  · exact h
  case h_2 unit hunit =>
    have hpending : s.enqueuing ≠ none := by
      rw [hunit]
      exact Option.some_ne_none unit
    cases hstop : s.branch.rosPublisherStopping with
    | true =>
      have e : (s.branch.enqueueLocked cfg unit).1 = s.branch := by
        rw [RosBranch.enqueueLocked, if_pos hstop]
      rw [e]
      exact h.same rfl rfl rfl rfl id rfl
    | false =>
      have hcounted (hc : Counted s.frames s.branch.rosDroppedFramesBeforeIDR s.branch.offered) :=
        Counted.enqueueLocked hr.branch hc hstop unit (hC hpending hstop)
      exact h.count hstop (hcounted ⟨h.accounts, h.counter hstop⟩).2 (fun hc => (hcounted hc).1)

theorem DropInv.popWork (h : DropInv s) (hw : s.worker = .waiting) : DropInv s.popWork := by
  have hframes : s.branch.rosFrameQueue.reverse ++ s.published = s.frames := by
    unfold RosState.frames
    rw [hw]
    rfl
  unfold RosState.popWork
  split
  · exact h.same hframes rfl rfl rfl id rfl
  split
  · exact h.same hframes rfl rfl rfl id rfl
  split
  · exact h.same hframes rfl rfl rfl id rfl
  split
  · exact h
  case h_2 frame rest hq =>
    refine h.same ?_ rfl rfl rfl ?_ rfl
    · rw [← hframes, hq, List.reverse_cons, List.append_assoc]
      rfl
    · intro hnil
      exact absurd (hq.symm.trans hnil) (List.cons_ne_nil _ _)

theorem DropInv.publishROSFrame (h : DropInv s) {frame : QueuedROSFrame}
    (hw : s.worker = .frame frame) (hC : CountsKept cfg s .worker) :
    DropInv (s.publishROSFrame frame) := by
  have hframes : s.branch.rosFrameQueue.reverse ++ frame :: s.published = s.frames := by
    unfold RosState.frames
    rw [hw]
    rfl
  unfold RosState.publishROSFrame
  split
  · exact h.same hframes rfl rfl rfl id rfl
  case isFalse hstale =>
    have hheld : frame ∈ s.worker.held := by rw [hw]; exact List.mem_cons_self
    have hstop : s.branch.rosPublisherStopping = true := (hC frame hheld).resolve_right hstale
    have hstopped := h.stopped hstop
    have haccounts := h.accounts
    rw [← hframes, hstopped.1] at haccounts
    refine ⟨?_, fun hs => absurd (hstop.symm.trans hs) (by decide), fun _ => hstopped⟩
    show Justified Accounts (s.branch.rosFrameQueue.reverse ++ ([] ++ s.published))
    rw [hstopped.1]
    exact haccounts.2

theorem DropInv.stepWorker (h : DropInv s) (hC : CountsKept cfg s .worker) :
    DropInv s.stepWorker := by
  unfold RosState.stepWorker
  split
  · exact h
  · exact h.popWork ‹_›
  case h_3 calibration hw =>
    refine h.same ?_ rfl rfl rfl id rfl
    unfold RosState.frames
    rw [hw]
    rfl
  case h_4 snapshot hw =>
    have hframes : s.branch.rosFrameQueue.reverse ++ s.published = s.frames := by
      unfold RosState.frames
      rw [hw]
      rfl
    unfold RosState.publishStreamInfo
    split
    · exact h.same hframes rfl rfl rfl id rfl
    · exact h.same hframes rfl rfl rfl id rfl
  · exact h.publishROSFrame ‹_› hC

theorem DropInv.stepCallback (h : DropInv s) (desiredActive : Bool)
    (hC : CountsKept cfg s (.callback desiredActive)) :
    DropInv (s.stepCallback cfg desiredActive) := by
  unfold RosState.stepCallback
  split
  · exact h
  · exact h.beginEpoch (fun hbegins => hC (.inl ⟨‹_›, hbegins⟩)) .streamStart rfl rfl rfl rfl
  · exact h.same rfl rfl rfl rfl id rfl
  · exact h.same rfl rfl rfl rfl id rfl
  · exact h.same rfl rfl rfl rfl id rfl
  · unfold RosBranch.activateConsumers
    split <;> exact h.same rfl rfl rfl rfl id rfl
  · exact h.discardQueue fun hlive => hC (.inr ⟨‹_›, hlive⟩)

theorem DropInv.stepRegistration (h : DropInv s) (hstarted : s.WorkerStarted) (succeeds : Bool) :
    DropInv (s.stepRegistration succeeds) := by
  have failed (hopen : s.registration ≠ .closed) : DropInv s.registrationFailed :=
    ⟨h.accounts, h.counter, fun hs => absurd (h.stopped hs).2 hopen⟩
  -- before the worker runs, the publisher is not stopping
  have opened (hopen : s.registration ≠ .closed) {s' : RosState} (hframes : s'.frames = s.frames)
      (hoffered : s'.branch.offered = s.branch.offered)
      (hdropped : s'.branch.rosDroppedFramesBeforeIDR = s.branch.rosDroppedFramesBeforeIDR)
      (hstop : s'.branch.rosPublisherStopping = true → s.branch.rosPublisherStopping = true) :
      DropInv s' := by
    have hlive : s.branch.rosPublisherStopping = false := by
      by_contra hs
      exact hopen (h.stopped (by simpa using hs)).2
    refine ⟨hframes ▸ h.accounts, fun _ => ?_, fun hs => ?_⟩
    · rw [hoffered, hdropped, hframes]; exact h.counter hlive
    · exact absurd ((hstop hs).symm.trans hlive) (by decide)
  unfold RosState.stepRegistration
  split
  case h_5 => exact h
  case h_6 => exact h
  case h_4 hreg =>
    have hw : s.worker = .stopped :=
      (hstarted.resolve_left (by simp [hreg])).resolve_left (by simp [hreg])
    split
    · refine opened (by simp [hreg]) ?_ rfl rfl id
      unfold RosState.frames
      rw [hw]
      rfl
    · exact failed (by simp [hreg])
  all_goals
    have hopen : s.registration ≠ .closed := by simp [*]
    split
    · exact opened hopen rfl rfl rfl (by first | exact id | exact fun hs => absurd hs Bool.false_ne_true)
    · exact failed hopen

theorem DropInv.step (h : DropInv s) (hreach : (rosMachine cfg).Reachable s) (a : RosAction)
    (hC : CountsKept cfg s a) : DropInv (rosStep cfg s a) := by
  cases a with
  | beginEpoch cause => exact h.beginEpoch hC cause rfl rfl rfl rfl
  | applyCalibration calibration => exact h.same rfl rfl rfl rfl id rfl
  | describeStream width height fps gopLength => exact h.same rfl rfl rfl rfl id rfl
  | check unit =>
    show DropInv (s.check cfg unit)
    unfold RosState.check
    split
    · exact h.same rfl rfl rfl rfl id rfl
    · exact h
  | enqueue => exact h.enqueue (rosInv_reachable hreach) hC
  | connect =>
    show DropInv s.connect
    unfold RosState.connect
    split
    · exact h.same rfl rfl rfl rfl id rfl
    · exact h
  | disconnect =>
    show DropInv s.disconnect
    unfold RosState.disconnect
    split
    · exact h.same rfl rfl rfl rfl id rfl
    · exact h
  | callback desiredActive => exact h.stepCallback desiredActive hC
  | worker => exact h.stepWorker hC
  | register succeeds =>
    show DropInv (if cfg.rosPublishingEnabled then s.stepRegistration succeeds else s)
    split
    · exact h.stepRegistration (workerStarted_reachable hreach) succeeds
    · exact h
  | stopPublisher =>
    exact ⟨Justified.tail h.accounts, fun hs => absurd hs.symm Bool.false_ne_true,
      fun _ => ⟨rfl, rfl⟩⟩
  | closeSubscribers => exact h.same rfl rfl rfl rfl id rfl

theorem dropInv_reachable (h : (rosMachine cfg).ReachableUnder (CountsKept cfg) s) : DropInv s :=
  Machine.ReachableUnder.invariant
    (fun _ ⟨_, _, _, _, _, _, _, _, hs⟩ =>
      hs ▸ ⟨trivial, fun _ => rfl, fun hs => absurd hs Bool.false_ne_true⟩)
    (fun _ a hreach hC h => h.step hreach.reachable a hC) h

/-- **Exact drop counts** in every run whose steps keep the counts. -/
theorem drops_exact (h : (rosMachine cfg).ReachableUnder (CountsKept cfg) s) : DropsExact s := by
  intro newer f older hs hseq
  have hjust : Justified Accounts s.published := by
    have hall := (dropInv_reachable h).accounts
    rw [RosState.frames, ← List.append_assoc] at hall
    exact Justified.tail hall
  rw [accounts_unpublished hjust hs]
  exact ((hjust.split hs).2.1 hseq)

end

/-! ## runs -/

/-- a delta frame waits, an epoch starts, an IDR starts it and is published -/
def countedRun : List RosAction :=
  RosAction.activation ++ RosAction.offer false 1 ++ [.beginEpoch .sourceTimeReset] ++
    RosAction.offer true 2 ++ List.replicate 6 .worker

theorem drops_exact_countedRun :
    DropsExact ((rosMachine (.load true 8)).run .sample countedRun) :=
  drops_exact ((RosState.sample_reachable _).run countedRun (by decide))

/-- a delta frame waits, the IDR that carries its count is discarded by an epoch advance, and the
next IDR is published -/
def lossRun : List RosAction :=
  RosAction.activation ++ RosAction.offer false 1 ++ RosAction.offer true 2 ++
    [.beginEpoch .sourceTimeReset] ++ RosAction.offer true 3 ++ List.replicate 6 .worker

/-- the published frame of `lossRun` reports one dropped frame, and two were dropped -/
theorem drops_inexact :
    (rosMachine (.load true 8)).Reachable ((rosMachine (.load true 8)).run .sample lossRun) ∧
      ¬ DropsExact ((rosMachine (.load true 8)).run .sample lossRun) := by
  refine ⟨Machine.Reachable.run (RosState.sample_reachable _) lossRun, fun hexact => ?_⟩
  have h := hexact [] _ [] rfl rfl
  exact absurd h (by decide)

end MediaCamera
