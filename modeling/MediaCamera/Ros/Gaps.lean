import MediaCamera.Ros.Epoch

/-!
# Gaps inside an epoch

A recorder reads a gap of `frame_sequence` inside one epoch as transport loss.  The last
subscriber's disconnection empties the queue without starting an epoch, and the consumer check of
`EnqueueROSAccessUnit` is made outside the lock; so an access unit that passed the check can
continue an epoch whose frames were just discarded (`silent_gap`).

`ChainKept` is the condition on a step under which this does not happen, and `no_silent_gap`
proves every epoch published without a gap in every run whose steps satisfy it.  The invariant is
on the frames that can still be published or are published (`RosState.deliverable`): each
continues its predecessor (`Continues`).
-/

namespace MediaCamera

/-! ## the property -/

/-- before a published frame, every earlier frame of its epoch was published -/
def NoSilentGap (s : RosState) : Prop :=
  ∀ newer f older, s.published = newer ++ f :: older → ∀ n < f.frameSequence,
    ∃ g ∈ older, g.epochIndex = f.epochIndex ∧ g.frameSequence = n

/-! ## the condition -/

def RosState.heldCurrent (s : RosState) : List QueuedROSFrame :=
  s.worker.held.filter (fun f => f.generation = s.branch.rosPublisherGeneration)

/-- the frames that can still be published or are published, newest first -/
def RosState.deliverable (s : RosState) : List QueuedROSFrame :=
  s.branch.rosFrameQueue.reverse ++ (s.heldCurrent ++ s.published)

/-- an access unit continues a running epoch only if the frame before it is published, is held by
the worker under the current generation or is queued -/
def ChainKept (cfg : RosConfig) (s : RosState) : RosAction → Prop
  | .enqueue => s.enqueuing ≠ none →
    s.branch.rosPublisherStopping = false → s.branch.rosWaitingForIDR = false →
    s.branch.rosFrameQueue.length < cfg.rosPublisherQueueCapacity →
      ∃ g ∈ s.deliverable, g.epochIndex = s.branch.epochIndex ∧
        g.frameSequence + 1 = s.branch.nextPublishedFrameSequence
  | _ => True

instance ChainKept.decidable (cfg : RosConfig) (s : RosState) : ∀ a, Decidable (ChainKept cfg s a)
  | .enqueue => inferInstanceAs (Decidable (_ → _ → _ → _ → _))
  | .beginEpoch _ => .isTrue trivial
  | .applyCalibration _ => .isTrue trivial
  | .describeStream _ _ _ _ => .isTrue trivial
  | .check _ => .isTrue trivial
  | .connect => .isTrue trivial
  | .disconnect => .isTrue trivial
  | .callback _ => .isTrue trivial
  | .worker => .isTrue trivial
  | .register _ => .isTrue trivial
  | .stopPublisher => .isTrue trivial
  | .closeSubscribers => .isTrue trivial

/-! ## chains -/

/-- the frame starts its epoch or follows its predecessor -/
def Continues (f : QueuedROSFrame) (older : List QueuedROSFrame) : Prop :=
  f.frameSequence ≠ 0 →
    ∃ g ∈ older, g.epochIndex = f.epochIndex ∧ g.frameSequence + 1 = f.frameSequence

/-- in a chain, every earlier frame of the epoch is older -/
theorem Continues.all {l : List QueuedROSFrame} (h : Justified Continues l) :
    ∀ (k : Nat) (newer older : List QueuedROSFrame) (f : QueuedROSFrame),
      l = newer ++ f :: older → f.frameSequence = k → ∀ n < k,
        ∃ g ∈ older, g.epochIndex = f.epochIndex ∧ g.frameSequence = n := by
  intro k
  induction k with
  | zero => exact fun _ _ _ _ _ n hn => absurd hn (Nat.not_lt_zero n)
  | succ k ih =>
    intro newer older f hl hseq n hn
    obtain ⟨g, hg, hepoch, hnext⟩ := h.split hl (by omega)
    by_cases hlast : n = k
    · exact ⟨g, hg, hepoch, by omega⟩
    · -- the predecessor's own predecessors
      obtain ⟨mid, oldest, rfl⟩ := List.append_of_mem hg
      have hsplit : l = (newer ++ f :: mid) ++ g :: oldest := by
        rw [hl, List.append_assoc]
        rfl
      obtain ⟨g', hg', hepoch', hseq'⟩ := ih _ _ g hsplit (by omega) n (by omega)
      exact ⟨g', List.mem_append_right _ (List.mem_cons_of_mem _ hg'),
        hepoch'.trans hepoch, hseq'⟩

/-! ## the invariant -/

def ChainInv (s : RosState) : Prop := Justified Continues s.deliverable

section
variable {cfg : RosConfig} {s s' : RosState}

theorem deliverable_congr (hqueue : s'.branch.rosFrameQueue = s.branch.rosFrameQueue)
    (hgeneration : s'.branch.rosPublisherGeneration = s.branch.rosPublisherGeneration)
    (hworker : s'.worker = s.worker) (hout : s'.out = s.out) : s'.deliverable = s.deliverable := by
  unfold RosState.deliverable RosState.heldCurrent RosState.published
  rw [hqueue, hgeneration, hworker, hout]

theorem ChainInv.same (h : ChainInv s) (hqueue : s'.branch.rosFrameQueue = s.branch.rosFrameQueue)
    (hgeneration : s'.branch.rosPublisherGeneration = s.branch.rosPublisherGeneration)
    (hworker : s'.worker = s.worker) (hout : s'.out = s.out) : ChainInv s' := by
  unfold ChainInv
  rw [deliverable_congr hqueue hgeneration hworker hout]
  exact h

/-- under a new generation with an empty queue, only the published frames are left -/
theorem deliverable_cleared (hr : RosInv cfg s) (hqueue : s'.branch.rosFrameQueue = [])
    (hgeneration : s.branch.rosPublisherGeneration < s'.branch.rosPublisherGeneration)
    (hworker : s'.worker = s.worker) (hout : s'.out = s.out) :
    s'.deliverable = s.published := by
  have hheld : s'.heldCurrent = [] := by
    refine List.filter_eq_nil_iff.mpr (fun f hf => ?_)
    have := hr.held_generation f (hworker ▸ hf)
    simp only [decide_eq_true_eq]
    omega
  unfold RosState.deliverable RosState.published
  rw [hqueue, hheld, hout]
  rfl

theorem ChainInv.published (h : ChainInv s) : Justified Continues s.published := by
  unfold ChainInv RosState.deliverable at h
  rw [← List.append_assoc] at h
  exact Justified.tail h

theorem ChainInv.cleared (h : ChainInv s) (hr : RosInv cfg s)
    (hqueue : s'.branch.rosFrameQueue = [])
    (hgeneration : s.branch.rosPublisherGeneration < s'.branch.rosPublisherGeneration)
    (hworker : s'.worker = s.worker) (hout : s'.out = s.out) : ChainInv s' := by
  unfold ChainInv
  rw [deliverable_cleared hr hqueue hgeneration hworker hout]
  exact h.published

theorem ChainInv.beginEpoch (h : ChainInv s) (hr : RosInv cfg s) (cause : EpochCause)
    (hs' : s'.branch = s.branch.beginROSEpoch cfg cause) (hworker : s'.worker = s.worker)
    (hout : s'.out = s.out) : ChainInv s' := by
  unfold RosBranch.beginROSEpoch at hs'
  split at hs'
  · exact h.cleared hr (by rw [hs']; rfl) (by rw [hs']; exact Nat.lt_succ_self _) hworker hout
  · exact h.same (by rw [hs']) (by rw [hs']) hworker hout

theorem ChainInv.discardQueue (h : ChainInv s) (hr : RosInv cfg s) :
    ChainInv { s with branch := s.branch.discardQueue, callback := .idle } := by
  unfold RosBranch.discardQueue
  split
  · exact h.same rfl rfl rfl rfl
  · exact h.cleared hr rfl (Nat.lt_succ_self _) rfl rfl

theorem ChainInv.overflowed (h : ChainInv s) (hr : RosInv cfg s) (unit : AccessUnit)
    (hs' : s'.branch = s.branch.examined.overflowed cfg unit) (hworker : s'.worker = s.worker)
    (hout : s'.out = s.out) : ChainInv s' := by
  unfold RosBranch.overflowed at hs'
  split at hs'
  · exact h.cleared hr (by rw [hs']; rfl) (by rw [hs']; exact Nat.lt_succ_self _) hworker hout
  · exact h.same (by rw [hs']; rfl) (by rw [hs']; rfl) hworker hout

/-- the frame stamped at the end of the section continues what was deliverable before -/
theorem ChainInv.push (h : ChainInv s) (hb : BranchInv cfg s.branch) (offer : Nat)
    (unit : AccessUnit)
    (hchain : s.branch.rosWaitingForIDR = false →
      ∃ g ∈ s.deliverable, g.epochIndex = s.branch.epochIndex ∧
        g.frameSequence + 1 = s.branch.nextPublishedFrameSequence)
    (hs' : s'.branch = s.branch.pushFrame offer unit) (hworker : s'.worker = s.worker)
    (hout : s'.out = s.out) : ChainInv s' := by
  have hdeliverable : s'.deliverable = s.branch.stampFrame offer unit :: s.deliverable := by
    unfold RosState.deliverable RosState.heldCurrent RosState.published
    rw [hs', hworker, hout, ← List.cons_append]
    congr 1
    exact List.reverse_concat' _ _
  unfold ChainInv
  rw [hdeliverable]
  refine ⟨fun hseq => ?_, h⟩
  have hwait : s.branch.rosWaitingForIDR = false := by
    by_contra hw
    exact hseq (hb.waiting_iff.mp (by simpa using hw))
  exact hchain hwait

theorem ChainInv.enqueue (h : ChainInv s) (hr : RosInv cfg s) (hC : ChainKept cfg s .enqueue) :
    ChainInv (s.enqueue cfg) := by
  unfold RosState.enqueue
  split
  · exact h
  case h_2 unit hunit =>
    have hpending : s.enqueuing ≠ none := by
      rw [hunit]
      exact Option.some_ne_none unit
    rcases enqueueLocked_cases cfg s.branch unit with
      ⟨_, e⟩ | ⟨_, _, _, e⟩ | ⟨_, _, _, _, e⟩ | ⟨hlive, hkey, e⟩ <;> rw [e]
    · exact h.same rfl rfl rfl rfl
    · exact h.overflowed hr unit rfl rfl rfl
    · exact h.same rfl rfl rfl rfl
    · -- the state in which the frame is stamped
      have hmid : ChainInv { s with branch := s.branch.examined.overflowed cfg unit } :=
        h.overflowed hr unit rfl rfl rfl
      refine hmid.push (hr.branch.examined.overflowed unit) s.branch.offered unit
        (fun hwait => ?_) rfl rfl rfl
      have hroom : ¬ cfg.rosPublisherQueueCapacity ≤ s.branch.rosFrameQueue.length := by
        intro hfull
        have hfull' : s.branch.examined.overflowed cfg unit = _ := if_pos hfull
        rw [hfull'] at hwait
        exact absurd hwait.symm Bool.false_ne_true
      have hsame : s.branch.examined.overflowed cfg unit = s.branch.examined := if_neg hroom
      rw [hsame] at hwait ⊢
      exact hC hpending hlive hwait (by omega)

theorem ChainInv.popWork (h : ChainInv s) (hr : RosInv cfg s) (hw : s.worker = .waiting) :
    ChainInv s.popWork := by
  have hdeliverable : s.deliverable = s.branch.rosFrameQueue.reverse ++ s.published := by
    unfold RosState.deliverable RosState.heldCurrent
    rw [hw]
    rfl
  unfold ChainInv at h ⊢
  rw [hdeliverable] at h
  unfold RosState.popWork
  split
  · exact h
  split
  · exact h
  split
  · exact h
  split
  · rw [hdeliverable]; exact h
  case h_2 frame rest hq =>
    have hcurrent : frame.generation = s.branch.rosPublisherGeneration :=
      (hr.branch.queue_current frame (by rw [hq]; exact List.mem_cons_self)).2.1
    have hheld : [frame].filter (fun f => f.generation = s.branch.rosPublisherGeneration) =
        [frame] := List.filter_eq_self.mpr (by simpa using hcurrent)
    rw [hq, List.reverse_cons, List.append_assoc, ← hheld] at h
    exact h

theorem ChainInv.publishROSFrame (h : ChainInv s) {frame : QueuedROSFrame}
    (hw : s.worker = .frame frame) : ChainInv (s.publishROSFrame frame) := by
  unfold ChainInv RosState.deliverable RosState.heldCurrent at h
  rw [hw] at h
  unfold RosState.publishROSFrame
  split
  case isTrue hcurrent =>
    have hheld : [frame].filter (fun f => f.generation = s.branch.rosPublisherGeneration) =
        [frame] := List.filter_eq_self.mpr (by simpa using hcurrent)
    unfold WorkerPC.held at h
    rw [hheld] at h
    exact h
  case isFalse hstale =>
    have hheld : [frame].filter (fun f => f.generation = s.branch.rosPublisherGeneration) = [] :=
      List.filter_eq_nil_iff.mpr (by simpa using hstale)
    unfold WorkerPC.held at h
    rw [hheld] at h
    exact h

theorem ChainInv.stepWorker (h : ChainInv s) (hr : RosInv cfg s) : ChainInv s.stepWorker := by
  have idle {w : WorkerPC} (hw : s.worker = w) (hheld : w.held = []) :
      Justified Continues (s.branch.rosFrameQueue.reverse ++ s.published) := by
    unfold ChainInv RosState.deliverable RosState.heldCurrent at h
    rw [hw, hheld] at h
    exact h
  unfold RosState.stepWorker
  split
  · exact h
  · exact h.popWork hr ‹_›
  case h_3 calibration hw => exact idle hw rfl
  case h_4 snapshot hw =>
    unfold RosState.publishStreamInfo
    split
    · exact idle hw rfl
    · exact idle hw rfl
  · exact h.publishROSFrame ‹_›

theorem ChainInv.stepCallback (h : ChainInv s) (hr : RosInv cfg s) (desiredActive : Bool) :
    ChainInv (s.stepCallback cfg desiredActive) := by
  unfold RosState.stepCallback
  split
  · exact h
  · exact h.beginEpoch hr .streamStart rfl rfl rfl
  · exact h.same rfl rfl rfl rfl
  · exact h.same rfl rfl rfl rfl
  · exact h.same rfl rfl rfl rfl
  · unfold RosBranch.activateConsumers
    split
    · exact h.same rfl rfl rfl rfl
    · exact h.same rfl rfl rfl rfl
  · exact h.discardQueue hr

theorem ChainInv.stepRegistration (h : ChainInv s) (hstarted : s.WorkerStarted) (succeeds : Bool) :
    ChainInv (s.stepRegistration succeeds) := by
  have failed : ChainInv s.registrationFailed := h.same rfl rfl rfl rfl
  unfold RosState.stepRegistration
  split
  case h_4 hreg =>
    have hw : s.worker = .stopped :=
      (hstarted.resolve_left (by simp [hreg])).resolve_left (by simp [hreg])
    split
    · unfold ChainInv RosState.deliverable RosState.heldCurrent at h
      rw [hw] at h
      exact h
    · exact failed
  case h_5 => exact h
  case h_6 => exact h
  all_goals
    split
    · exact h.same rfl rfl rfl rfl
    · exact failed

theorem ChainInv.step (h : ChainInv s) (hreach : (rosMachine cfg).Reachable s) (a : RosAction)
    (hC : ChainKept cfg s a) : ChainInv (rosStep cfg s a) := by
  have hr := rosInv_reachable hreach
  cases a with
  | beginEpoch cause => exact h.beginEpoch hr cause rfl rfl rfl
  | check unit =>
    show ChainInv (s.check cfg unit)
    unfold RosState.check
    split
    · exact h.same rfl rfl rfl rfl
    · exact h
  | enqueue => exact h.enqueue hr hC
  | connect =>
    show ChainInv s.connect
    unfold RosState.connect
    split
    · exact h.same rfl rfl rfl rfl
    · exact h
  | disconnect =>
    show ChainInv s.disconnect
    unfold RosState.disconnect
    split
    · exact h.same rfl rfl rfl rfl
    · exact h
  | callback desiredActive => exact h.stepCallback hr desiredActive
  | worker => exact h.stepWorker hr
  | register succeeds =>
    show ChainInv (if cfg.rosPublishingEnabled then s.stepRegistration succeeds else s)
    split
    · exact h.stepRegistration (workerStarted_reachable hreach) succeeds
    · exact h
  | stopPublisher => exact h.cleared hr rfl (Nat.lt_succ_self _) rfl rfl
  | _ => exact h.same rfl rfl rfl rfl

theorem chainInv_reachable (h : (rosMachine cfg).ReachableUnder (ChainKept cfg) s) : ChainInv s :=
  Machine.ReachableUnder.invariant
    (fun _ ⟨_, _, _, _, _, _, _, _, hs⟩ => hs ▸ trivial)
    (fun _ a hreach hC h => h.step hreach.reachable a hC) h

/-- **No silent gap** in every run whose steps keep the chain. -/
theorem no_silent_gap (h : (rosMachine cfg).ReachableUnder (ChainKept cfg) s) : NoSilentGap s :=
  fun newer f older hs =>
    Continues.all (chainInv_reachable h).published f.frameSequence newer older f hs rfl

end

/-! ## runs -/

/-- an IDR and two delta frames are published; the last delta frame is queued when the last
subscriber leaves, and the next IDR belongs to the next subscriber's epoch -/
def reconnectRun : List RosAction :=
  RosAction.activation ++ RosAction.offer true 1 ++ RosAction.offer false 2 ++
    List.replicate 8 .worker ++ RosAction.offer false 3 ++ [.disconnect, .callback true] ++
    .connect :: List.replicate 4 (.callback true) ++ RosAction.offer true 4 ++
    List.replicate 4 .worker

theorem no_silent_gap_reconnectRun :
    NoSilentGap ((rosMachine (.load true 8)).run .sample reconnectRun) :=
  no_silent_gap ((RosState.sample_reachable _).run reconnectRun (by decide))

/-- an IDR is published and a delta frame is queued; the next delta frame has passed the consumer
check when the last subscriber leaves and the queue is emptied; a new subscriber's connection is
not needed for it to be stamped and published -/
def gapRun : List RosAction :=
  RosAction.activation ++ RosAction.offer true 1 ++ List.replicate 6 .worker ++
    RosAction.offer false 2 ++ [.check (.sample false 3), .disconnect, .callback true, .enqueue] ++
    List.replicate 2 .worker

/-- `gapRun` publishes the frames 0 and 2 of one epoch -/
theorem silent_gap :
    (rosMachine (.load true 8)).Reachable ((rosMachine (.load true 8)).run .sample gapRun) ∧
      ¬ NoSilentGap ((rosMachine (.load true 8)).run .sample gapRun) := by
  refine ⟨Machine.Reachable.run (RosState.sample_reachable _) gapRun, fun hgap => ?_⟩
  obtain ⟨g, hg, _, hseq⟩ := hgap [] _ _ rfl 1 (by decide)
  obtain rfl := List.mem_singleton.mp hg
  exact absurd hseq (by decide)

end MediaCamera
