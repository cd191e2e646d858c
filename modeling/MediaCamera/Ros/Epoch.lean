import MediaCamera.Ros.System

/-!
# The epoch invariant of the ROS branch

`BranchInv` relates the six fields that the epoch entry points share: the waiting flag, the next
sequence number, the pending discontinuity, the queue, the generation and the epoch token.  Every
locked section keeps it (one lemma for each section that changes one of the six fields).

`RosState.frames` lists, newest first, the frames that are queued, held by the worker or
published.  A step drops frames from this list (`RosInv.keep`) or drops some and puts one frame
stamped by the branch in front (`RosInv.push`); so every frame is well formed (`FrameOk`) and the
list is ordered by epoch and sequence number.
-/

namespace MediaCamera

/-! ## frames -/

/-- sequence zero is a keyframe with a discontinuity, every other frame continues its epoch -/
def FrameOk (f : QueuedROSFrame) : Prop :=
  (f.frameSequence = 0 → f.keyframe = true ∧ f.discontinuity ≠ none) ∧
    (f.frameSequence ≠ 0 → f.discontinuity = none ∧ f.droppedFramesBefore = 0)

/-- order by (number of epoch advances, sequence number) -/
def QueuedROSFrame.Before (f g : QueuedROSFrame) : Prop :=
  f.epochIndex < g.epochIndex ∨ (f.epochIndex = g.epochIndex ∧ f.frameSequence < g.frameSequence)

/-- the frame comes before the one the branch would stamp next -/
def QueuedROSFrame.BeforeNext (f : QueuedROSFrame) (r : RosBranch) : Prop :=
  f.epochIndex < r.epochIndex ∨
    (f.epochIndex = r.epochIndex ∧ f.frameSequence < r.nextPublishedFrameSequence)

theorem QueuedROSFrame.BeforeNext.before_stamp {f : QueuedROSFrame} {r : RosBranch}
    (h : f.BeforeNext r) (offer : Nat) (unit : AccessUnit) : f.Before (r.stampFrame offer unit) := h

def WorkerPC.held : WorkerPC → List QueuedROSFrame
  | .frame f => [f]
  | _ => []

/-- the frames queued, held by the worker and published, newest first -/
def RosState.frames (s : RosState) : List QueuedROSFrame :=
  s.branch.rosFrameQueue.reverse ++ (s.worker.held ++ s.published)

/-! ## the locked sections -/

structure BranchInv (cfg : RosConfig) (r : RosBranch) : Prop where
  epoch_ne_zero : r.streamEpoch ≠ 0
  waiting_iff : r.rosWaitingForIDR = true ↔ r.nextPublishedFrameSequence = 0
  pending_iff : r.pendingDiscontinuity ≠ none ↔ r.nextPublishedFrameSequence = 0
  waiting_queue : r.rosWaitingForIDR = true → r.rosFrameQueue = []
  queue_length : r.rosFrameQueue.length ≤ cfg.rosPublisherQueueCapacity
  queue_current : ∀ f ∈ r.rosFrameQueue, f.epoch = r.streamEpoch ∧
    f.generation = r.rosPublisherGeneration ∧ f.epochIndex = r.epochIndex
  queue_below : r.rosFrameQueue.length ≤ r.nextPublishedFrameSequence
  queue_sequence : r.rosFrameQueue.map (·.frameSequence) =
    List.range' (r.nextPublishedFrameSequence - r.rosFrameQueue.length) r.rosFrameQueue.length

section
variable {cfg : RosConfig} {r : RosBranch}

theorem BranchInv.load (token : UInt64) (h : token ≠ 0) (calibration : NativeCalibrationMetadata)
    (width height : Nat) (frameRate : ℚ) (interval : Nat) :
    BranchInv cfg (.load token calibration width height frameRate interval) := by
  constructor <;> simp [RosBranch.load, h]

theorem BranchInv.advance (cfg : RosConfig) (r : RosBranch) (cause : EpochCause) (extra : Nat) :
    BranchInv cfg (r.advanceROSEpochLocked cause extra) := by
  constructor <;> simp [RosBranch.advanceROSEpochLocked, nextEpochToken_ne_zero]

theorem BranchInv.congr (h : BranchInv cfg r) {r' : RosBranch}
    (hqueue : r'.rosFrameQueue = r.rosFrameQueue) (hwaiting : r'.rosWaitingForIDR = r.rosWaitingForIDR)
    (hnext : r'.nextPublishedFrameSequence = r.nextPublishedFrameSequence)
    (hpending : r'.pendingDiscontinuity = r.pendingDiscontinuity)
    (hgeneration : r'.rosPublisherGeneration = r.rosPublisherGeneration)
    (hepoch : r'.streamEpoch = r.streamEpoch) (hindex : r'.epochIndex = r.epochIndex) :
    BranchInv cfg r' := by
  constructor
  · rw [hepoch]; exact h.epoch_ne_zero
  · rw [hwaiting, hnext]; exact h.waiting_iff
  · rw [hpending, hnext]; exact h.pending_iff
  · rw [hwaiting, hqueue]; exact h.waiting_queue
  · rw [hqueue]; exact h.queue_length
  · rw [hqueue, hepoch, hgeneration, hindex]; exact h.queue_current
  · rw [hqueue, hnext]; exact h.queue_below
  · rw [hqueue, hnext]; exact h.queue_sequence

theorem BranchInv.clear (h : BranchInv cfg r) {r' : RosBranch} (hqueue : r'.rosFrameQueue = [])
    (hwaiting : r'.rosWaitingForIDR = r.rosWaitingForIDR)
    (hnext : r'.nextPublishedFrameSequence = r.nextPublishedFrameSequence)
    (hpending : r'.pendingDiscontinuity = r.pendingDiscontinuity)
    (hepoch : r'.streamEpoch = r.streamEpoch) : BranchInv cfg r' := by
  constructor
  · rw [hepoch]; exact h.epoch_ne_zero
  · rw [hwaiting, hnext]; exact h.waiting_iff
  · rw [hpending, hnext]; exact h.pending_iff
  all_goals simp [hqueue]

theorem BranchInv.beginEpoch (h : BranchInv cfg r) (cause : EpochCause) :
    BranchInv cfg (r.beginROSEpoch cfg cause) := by
  unfold RosBranch.beginROSEpoch
  split
  · exact .advance cfg r cause 0
  · exact h

theorem BranchInv.discardQueue (h : BranchInv cfg r) : BranchInv cfg r.discardQueue := by
  unfold RosBranch.discardQueue
  split
  · exact h
  · exact h.clear rfl rfl rfl rfl rfl

theorem BranchInv.overflowed (h : BranchInv cfg r) (unit : AccessUnit) :
    BranchInv cfg (r.overflowed cfg unit) := by
  unfold RosBranch.overflowed
  split
  · exact .advance cfg r _ _
  · exact h

theorem overflowed_room (r : RosBranch) (unit : AccessUnit) :
    (r.overflowed cfg unit).rosFrameQueue.length < cfg.rosPublisherQueueCapacity := by
  have hpos := cfg.capacity_pos
  unfold RosBranch.overflowed
  split
  · exact hpos
  · omega

theorem BranchInv.push (h : BranchInv cfg r) (offer : Nat) (unit : AccessUnit)
    (hroom : r.rosFrameQueue.length < cfg.rosPublisherQueueCapacity) :
    BranchInv cfg (r.pushFrame offer unit) := by
  constructor
  · exact h.epoch_ne_zero
  · simp [RosBranch.pushFrame]
  · have := h.pending_iff
    have := h.waiting_iff
    by_cases hw : r.rosWaitingForIDR = true <;> simp_all [RosBranch.pushFrame]
  · simp [RosBranch.pushFrame]
  · simpa [RosBranch.pushFrame] using hroom
  · intro f hf
    rcases List.mem_append.mp hf with hf | hf
    · exact h.queue_current f hf
    · obtain rfl := List.mem_singleton.mp hf
      exact ⟨rfl, rfl, rfl⟩
  · have := h.queue_below
    simpa [RosBranch.pushFrame] using this
  · have hlen := h.queue_below
    show (r.rosFrameQueue ++ [r.stampFrame offer unit]).map (·.frameSequence) = List.range'
      (r.nextPublishedFrameSequence + 1 - (r.rosFrameQueue ++ [r.stampFrame offer unit]).length)
      (r.rosFrameQueue ++ [r.stampFrame offer unit]).length
    have hstart : r.nextPublishedFrameSequence + 1 - (r.rosFrameQueue.length + 1) =
        r.nextPublishedFrameSequence - r.rosFrameQueue.length := by omega
    rw [List.map_append, h.queue_sequence, List.length_append, List.length_singleton, hstart,
      List.range'_concat]
    congr 1
    show [r.nextPublishedFrameSequence] = _
    congr 1
    omega

/-- **What the locked section of `EnqueueROSAccessUnit` can do.** -/
theorem enqueueLocked_cases (cfg : RosConfig) (r : RosBranch) (unit : AccessUnit) :
    (r.rosPublisherStopping = true ∧ (r.enqueueLocked cfg unit).1 = r) ∨
    (r.rosPublisherStopping = false ∧
      cfg.rosPublisherQueueCapacity ≤ r.rosFrameQueue.length ∧ unit.keyframe = false ∧
      (r.enqueueLocked cfg unit).1 = r.examined.overflowed cfg unit) ∨
    (r.rosPublisherStopping = false ∧ r.rosFrameQueue.length < cfg.rosPublisherQueueCapacity ∧
      r.rosWaitingForIDR = true ∧ unit.keyframe = false ∧
      (r.enqueueLocked cfg unit).1 = r.examined.dropDelta) ∨
    (r.rosPublisherStopping = false ∧
      ((r.examined.overflowed cfg unit).rosWaitingForIDR = true → unit.keyframe = true) ∧
      (r.enqueueLocked cfg unit).1 = (r.examined.overflowed cfg unit).pushFrame r.offered unit) := by
  unfold RosBranch.enqueueLocked
  by_cases hstop : r.rosPublisherStopping = true
  · exact .inl ⟨hstop, by rw [if_pos hstop]⟩
  have hstop' : r.rosPublisherStopping = false := by simpa using hstop
  rw [if_neg hstop]
  by_cases hfull : cfg.rosPublisherQueueCapacity ≤ r.rosFrameQueue.length ∧ unit.keyframe = false
  · exact .inr (.inl ⟨hstop', hfull.1, hfull.2, by simp only [if_pos hfull]⟩)
  simp only [if_neg hfull]
  by_cases hwait : (r.examined.overflowed cfg unit).rosWaitingForIDR = true ∧ unit.keyframe = false
  · have hroom : ¬ cfg.rosPublisherQueueCapacity ≤ r.rosFrameQueue.length :=
      fun hle => hfull ⟨hle, hwait.2⟩
    have hsame : r.examined.overflowed cfg unit = r.examined := if_neg hroom
    rw [hsame] at hwait
    refine .inr (.inr (.inl ⟨hstop', by omega, hwait.1, hwait.2, ?_⟩))
    simp only [hsame, if_pos hwait]
  · refine .inr (.inr (.inr ⟨hstop', fun hw => ?_, by simp only [if_neg hwait]⟩))
    by_contra hk
    exact hwait ⟨hw, by simpa using hk⟩

theorem BranchInv.examined (h : BranchInv cfg r) : BranchInv cfg r.examined :=
  h.congr rfl rfl rfl rfl rfl rfl rfl

theorem BranchInv.enqueueLocked (h : BranchInv cfg r) (unit : AccessUnit) :
    BranchInv cfg (r.enqueueLocked cfg unit).1 := by
  rcases enqueueLocked_cases cfg r unit with
    ⟨_, e⟩ | ⟨_, _, _, e⟩ | ⟨_, _, _, _, e⟩ | ⟨_, _, e⟩ <;> rw [e]
  · exact h
  · exact h.examined.overflowed unit
  · exact h.congr rfl rfl rfl rfl rfl rfl rfl
  · exact (h.examined.overflowed unit).push _ unit (overflowed_room _ unit)

theorem BranchInv.pop (h : BranchInv cfg r) {f : QueuedROSFrame} {rest : List QueuedROSFrame}
    (hq : r.rosFrameQueue = f :: rest) : BranchInv cfg { r with rosFrameQueue := rest } := by
  have hlen := h.queue_length
  have hbelow := h.queue_below
  have hseq := h.queue_sequence
  rw [hq, List.length_cons] at hlen hbelow hseq
  rw [List.map_cons, List.range'_succ] at hseq
  constructor
  · exact h.epoch_ne_zero
  · exact h.waiting_iff
  · exact h.pending_iff
  · intro hw
    have := h.waiting_queue hw
    rw [hq] at this
    exact absurd this (List.cons_ne_nil _ _)
  · show rest.length ≤ _
    omega
  · intro g hg
    exact h.queue_current g (by rw [hq]; exact List.mem_cons_of_mem _ hg)
  · show rest.length ≤ r.nextPublishedFrameSequence
    omega
  · show rest.map (·.frameSequence) =
      List.range' (r.nextPublishedFrameSequence - rest.length) rest.length
    have hstart : r.nextPublishedFrameSequence - rest.length =
        r.nextPublishedFrameSequence - (rest.length + 1) + 1 := by omega
    rw [hstart]
    exact (List.cons.inj hseq).2

/-! ## the position of the branch -/

def RosBranch.NotBefore (r' r : RosBranch) : Prop :=
  r.epochIndex < r'.epochIndex ∨ (r.epochIndex = r'.epochIndex ∧
    r.nextPublishedFrameSequence ≤ r'.nextPublishedFrameSequence)

theorem RosBranch.NotBefore.refl (r : RosBranch) : r.NotBefore r := .inr ⟨rfl, Nat.le_refl _⟩

theorem RosBranch.NotBefore.of_eq {r' : RosBranch} (hindex : r.epochIndex = r'.epochIndex)
    (hnext : r.nextPublishedFrameSequence = r'.nextPublishedFrameSequence) : r'.NotBefore r :=
  .inr ⟨hindex, hnext.le⟩

theorem QueuedROSFrame.BeforeNext.mono {f : QueuedROSFrame} {r' : RosBranch} (h : f.BeforeNext r)
    (hr : r'.NotBefore r) : f.BeforeNext r' := by
  unfold QueuedROSFrame.BeforeNext RosBranch.NotBefore at *
  omega

theorem notBefore_advance (r : RosBranch) (cause : EpochCause) (extra : Nat) :
    (r.advanceROSEpochLocked cause extra).NotBefore r :=
  .inl (Nat.lt_succ_self r.epochIndex)

theorem notBefore_beginEpoch (cfg : RosConfig) (r : RosBranch) (cause : EpochCause) :
    (r.beginROSEpoch cfg cause).NotBefore r := by
  unfold RosBranch.beginROSEpoch
  split
  · exact notBefore_advance r cause 0
  · exact .refl r

theorem notBefore_overflowed (cfg : RosConfig) (r : RosBranch) (unit : AccessUnit) :
    (r.overflowed cfg unit).NotBefore r := by
  unfold RosBranch.overflowed
  split
  · exact notBefore_advance r _ _
  · exact .refl r

theorem overflowed_queue (cfg : RosConfig) (r : RosBranch) (unit : AccessUnit) :
    (r.overflowed cfg unit).rosFrameQueue.Sublist r.rosFrameQueue := by
  unfold RosBranch.overflowed
  split
  · exact List.nil_sublist _
  · exact List.Sublist.refl _

theorem beginEpoch_queue (cfg : RosConfig) (r : RosBranch) (cause : EpochCause) :
    (r.beginROSEpoch cfg cause).rosFrameQueue.Sublist r.rosFrameQueue := by
  unfold RosBranch.beginROSEpoch
  split
  · exact List.nil_sublist _
  · exact List.Sublist.refl _

theorem discardQueue_queue (r : RosBranch) :
    r.discardQueue.rosFrameQueue.Sublist r.rosFrameQueue := by
  unfold RosBranch.discardQueue
  split
  · exact List.Sublist.refl _
  · exact List.nil_sublist _

theorem notBefore_discardQueue (r : RosBranch) : r.discardQueue.NotBefore r := by
  unfold RosBranch.discardQueue
  split
  · exact .refl r
  · exact .of_eq rfl rfl

/-! ## the invariant of the threads -/

structure RosInv (cfg : RosConfig) (s : RosState) : Prop where
  branch : BranchInv cfg s.branch
  frames_ok : ∀ f ∈ s.frames, FrameOk f
  frames_below : ∀ f ∈ s.frames, f.BeforeNext s.branch
  frames_ordered : s.frames.Pairwise (fun newer older => older.Before newer)
  held_generation : ∀ f ∈ s.worker.held, f.generation ≤ s.branch.rosPublisherGeneration

theorem RosInv.keep {s s' : RosState} (h : RosInv cfg s) (hbranch : BranchInv cfg s'.branch)
    (hframes : s'.frames.Sublist s.frames) (hpos : s'.branch.NotBefore s.branch)
    (hheld : ∀ f ∈ s'.worker.held, f.generation ≤ s'.branch.rosPublisherGeneration) :
    RosInv cfg s' where
  branch := hbranch
  frames_ok f hf := h.frames_ok f (hframes.subset hf)
  frames_below f hf := (h.frames_below f (hframes.subset hf)).mono hpos
  frames_ordered := h.frames_ordered.sublist hframes
  held_generation := hheld

theorem FrameOk.stamp (h : BranchInv cfg r) (offer : Nat) (unit : AccessUnit)
    (hkey : r.rosWaitingForIDR = true → unit.keyframe = true) :
    FrameOk (r.stampFrame offer unit) := by
  constructor
  · intro hseq
    have hwait : r.rosWaitingForIDR = true := h.waiting_iff.mpr hseq
    refine ⟨hkey hwait, ?_⟩
    show (if r.rosWaitingForIDR = true then r.pendingDiscontinuity else none) ≠ none
    rw [if_pos hwait]
    exact h.pending_iff.mpr hseq
  · intro hseq
    have hwait : ¬ r.rosWaitingForIDR = true := fun hw => hseq (h.waiting_iff.mp hw)
    exact ⟨if_neg hwait, if_neg hwait⟩

/-- a step that adds the frame stamped by `r` -/
theorem RosInv.push {s s' : RosState} (h : RosInv cfg s) {r : RosBranch} (hr : BranchInv cfg r)
    {offer : Nat} {unit : AccessUnit} (hkey : r.rosWaitingForIDR = true → unit.keyframe = true)
    (hroom : r.rosFrameQueue.length < cfg.rosPublisherQueueCapacity)
    (hpos : r.NotBefore s.branch) (hs' : s'.branch = r.pushFrame offer unit)
    {kept : List QueuedROSFrame} (hkept : kept.Sublist s.frames)
    (hframes : s'.frames = r.stampFrame offer unit :: kept)
    (hheld : ∀ f ∈ s'.worker.held, f.generation ≤ s'.branch.rosPublisherGeneration) :
    RosInv cfg s' := by
  have hbelow : ∀ f ∈ kept, f.BeforeNext r :=
    fun f hf => (h.frames_below f (hkept.subset hf)).mono hpos
  refine ⟨?_, ?_, ?_, ?_, hheld⟩
  · rw [hs']; exact hr.push offer unit hroom
  · rw [hframes]
    intro f hf
    rcases List.mem_cons.mp hf with rfl | hf
    · exact .stamp hr offer unit hkey
    · exact h.frames_ok f (hkept.subset hf)
  · rw [hframes, hs']
    intro f hf
    rcases List.mem_cons.mp hf with rfl | hf
    · exact .inr ⟨rfl, Nat.lt_succ_self _⟩
    · exact (hbelow f hf).mono (.inr ⟨rfl, Nat.le_succ _⟩)
  · rw [hframes, List.pairwise_cons]
    exact ⟨fun f hf => (hbelow f hf).before_stamp offer unit, h.frames_ordered.sublist hkept⟩

/-! ## the steps -/

theorem RosInv.ofSection {s s' : RosState} (h : RosInv cfg s) (hbranch : BranchInv cfg s'.branch)
    (hout : s'.out = s.out) (hworker : s'.worker = s.worker)
    (hqueue : s'.branch.rosFrameQueue.Sublist s.branch.rosFrameQueue)
    (hpos : s'.branch.NotBefore s.branch)
    (hgeneration : s.branch.rosPublisherGeneration ≤ s'.branch.rosPublisherGeneration) :
    RosInv cfg s' := by
  refine h.keep hbranch ?_ hpos ?_
  · unfold RosState.frames RosState.published
    rw [hout, hworker]
    exact hqueue.reverse.append_right _
  · rw [hworker]
    exact fun f hf => (h.held_generation f hf).trans hgeneration

theorem RosInv.other {s s' : RosState} (h : RosInv cfg s)
    (hqueue : s'.branch.rosFrameQueue = s.branch.rosFrameQueue)
    (hwaiting : s'.branch.rosWaitingForIDR = s.branch.rosWaitingForIDR)
    (hnext : s'.branch.nextPublishedFrameSequence = s.branch.nextPublishedFrameSequence)
    (hpending : s'.branch.pendingDiscontinuity = s.branch.pendingDiscontinuity)
    (hgeneration : s'.branch.rosPublisherGeneration = s.branch.rosPublisherGeneration)
    (hepoch : s'.branch.streamEpoch = s.branch.streamEpoch)
    (hindex : s'.branch.epochIndex = s.branch.epochIndex)
    (hout : s'.out = s.out) (hworker : s'.worker = s.worker) : RosInv cfg s' :=
  h.ofSection (h.branch.congr hqueue hwaiting hnext hpending hgeneration hepoch hindex) hout hworker
    (by rw [hqueue]) (.of_eq hindex.symm hnext.symm) hgeneration.ge

theorem RosInv.beginEpoch {s s' : RosState} (h : RosInv cfg s) (cause : EpochCause)
    (hs' : s'.branch = s.branch.beginROSEpoch cfg cause) (hout : s'.out = s.out)
    (hworker : s'.worker = s.worker) : RosInv cfg s' := by
  refine h.ofSection ?_ hout hworker ?_ ?_ ?_ <;> rw [hs']
  · exact h.branch.beginEpoch cause
  · exact beginEpoch_queue cfg _ _
  · exact notBefore_beginEpoch cfg _ _
  · unfold RosBranch.beginROSEpoch
    split
    · exact Nat.le_succ _
    · exact Nat.le_refl _

theorem overflowed_generation (cfg : RosConfig) (r : RosBranch) (unit : AccessUnit) :
    r.rosPublisherGeneration ≤ (r.overflowed cfg unit).rosPublisherGeneration := by
  unfold RosBranch.overflowed
  split
  · exact Nat.le_succ _
  · exact Nat.le_refl _

theorem RosInv.enqueue {s : RosState} (h : RosInv cfg s) : RosInv cfg (s.enqueue cfg) := by
  unfold RosState.enqueue
  split
  · exact h
  case h_2 unit _ =>
    have hbranch := h.branch.enqueueLocked unit
    rcases enqueueLocked_cases cfg s.branch unit with
      ⟨_, e⟩ | ⟨_, _, _, e⟩ | ⟨_, _, _, _, e⟩ | ⟨_, hkey, e⟩
    · refine h.ofSection hbranch rfl rfl ?_ ?_ ?_ <;> rw [e]
      exact .refl _
    · refine h.ofSection hbranch rfl rfl ?_ ?_ ?_ <;> rw [e]
      · exact overflowed_queue cfg s.branch.examined unit
      · exact notBefore_overflowed cfg s.branch.examined unit
      · exact overflowed_generation cfg s.branch.examined unit
    · refine h.ofSection hbranch rfl rfl ?_ ?_ ?_ <;> rw [e]
      · exact List.Sublist.refl _
      · exact .of_eq rfl rfl
      · exact Nat.le_refl _
    · have hkept : ((s.branch.examined.overflowed cfg unit).rosFrameQueue.reverse ++
          (s.worker.held ++ s.published)).Sublist s.frames :=
        (overflowed_queue cfg s.branch.examined unit).reverse.append_right _
      refine h.push (h.branch.examined.overflowed unit) hkey (overflowed_room _ unit)
        (notBefore_overflowed cfg s.branch.examined unit) e hkept ?_ ?_
      · show (s.branch.enqueueLocked cfg unit).1.rosFrameQueue.reverse ++
          (s.worker.held ++ s.published) = _
        rw [e, ← List.cons_append]
        congr 1
        exact List.reverse_concat' _ _
      · show ∀ f ∈ s.worker.held, f.generation ≤ (s.branch.enqueueLocked cfg unit).1.rosPublisherGeneration
        rw [e]
        exact fun f hf => (h.held_generation f hf).trans
          (overflowed_generation cfg s.branch.examined unit)

theorem RosInv.popWork {s : RosState} (h : RosInv cfg s) (hw : s.worker = .waiting) :
    RosInv cfg s.popWork := by
  have none_held : ∀ (n : Nat) (f : QueuedROSFrame), f ∈ ([] : List QueuedROSFrame) →
      f.generation ≤ n := fun _ _ hf => absurd hf List.not_mem_nil
  unfold RosState.popWork
  split
  · refine h.keep h.branch ?_ (.refl _) (none_held _)
    simp [RosState.frames, RosState.published, WorkerPC.held]
  split
  · refine h.keep (h.branch.congr rfl rfl rfl rfl rfl rfl rfl) ?_ (.of_eq rfl rfl) (none_held _)
    simp [RosState.frames, RosState.published, WorkerPC.held]
  split
  · refine h.keep (h.branch.congr rfl rfl rfl rfl rfl rfl rfl) ?_ (.of_eq rfl rfl) (none_held _)
    simp [RosState.frames, RosState.published, WorkerPC.held]
  split
  · exact h
  case h_2 frame rest hq =>
    refine h.keep (h.branch.pop hq) ?_ (.of_eq rfl rfl) ?_
    · simp [RosState.frames, RosState.published, WorkerPC.held, hq, hw]
    · intro f hf
      obtain rfl := List.mem_singleton.mp hf
      exact (h.branch.queue_current f (by rw [hq]; exact List.mem_cons_self)).2.1.le

theorem RosInv.stepWorker {s : RosState} (h : RosInv cfg s) : RosInv cfg s.stepWorker := by
  have none_held : ∀ (n : Nat) (f : QueuedROSFrame), f ∈ ([] : List QueuedROSFrame) →
      f.generation ≤ n := fun _ _ hf => absurd hf List.not_mem_nil
  unfold RosState.stepWorker
  split
  · exact h
  · exact h.popWork ‹_›
  case h_3 calibration hw =>
    refine h.keep h.branch ?_ (.refl _) (none_held _)
    simp [RosState.frames, RosState.published, RosState.publishCameraInfo, WorkerPC.held, hw]
  case h_4 snapshot hw =>
    unfold RosState.publishStreamInfo
    split
    all_goals
      refine h.keep h.branch ?_ (.refl _) (none_held _)
      simp [RosState.frames, RosState.published, WorkerPC.held, hw]
  case h_5 frame hw =>
    unfold RosState.publishROSFrame
    split
    all_goals
      refine h.keep h.branch ?_ (.refl _) (none_held _)
      simp [RosState.frames, RosState.published, WorkerPC.held, hw]

theorem RosInv.stepCallback {s : RosState} (h : RosInv cfg s) (desiredActive : Bool) :
    RosInv cfg (s.stepCallback cfg desiredActive) := by
  unfold RosState.stepCallback
  split
  · exact h
  · exact h.beginEpoch .streamStart rfl rfl rfl
  · exact h.other rfl rfl rfl rfl rfl rfl rfl rfl rfl
  · exact h.other rfl rfl rfl rfl rfl rfl rfl rfl rfl
  · exact h.other rfl rfl rfl rfl rfl rfl rfl rfl rfl
  · by_cases ha : s.branch.rosSubscriberCallbacksEnabled = true ∧
        0 < s.branch.rosSubscriberConnectionCount
    · rw [RosBranch.activateConsumers, if_pos ha]
      exact h.other rfl rfl rfl rfl rfl rfl rfl rfl rfl
    · rw [RosBranch.activateConsumers, if_neg ha]
      exact h.other rfl rfl rfl rfl rfl rfl rfl rfl rfl
  · refine h.ofSection h.branch.discardQueue rfl rfl (discardQueue_queue _)
      (notBefore_discardQueue _) ?_
    show _ ≤ s.branch.discardQueue.rosPublisherGeneration
    unfold RosBranch.discardQueue
    split
    · exact Nat.le_refl _
    · exact Nat.le_succ _

theorem RosInv.stepRegistration {s : RosState} (h : RosInv cfg s) (succeeds : Bool) :
    RosInv cfg (s.stepRegistration succeeds) := by
  have failed : RosInv cfg s.registrationFailed := h.other rfl rfl rfl rfl rfl rfl rfl rfl rfl
  unfold RosState.stepRegistration
  split
  · split
    · exact h.other rfl rfl rfl rfl rfl rfl rfl rfl rfl
    · exact failed
  · split
    · exact h.other rfl rfl rfl rfl rfl rfl rfl rfl rfl
    · exact failed
  · split
    · exact h.other rfl rfl rfl rfl rfl rfl rfl rfl rfl
    · exact failed
  · split
    · refine h.keep h.branch ?_ (.refl _) (fun f hf => absurd hf List.not_mem_nil)
      simp [RosState.frames, RosState.published, WorkerPC.held]
    · exact failed
  · exact h
  · exact h

theorem RosInv.step {s : RosState} (h : RosInv cfg s) (a : RosAction) :
    RosInv cfg (rosStep cfg s a) := by
  cases a with
  | beginEpoch cause => exact h.beginEpoch cause rfl rfl rfl
  | applyCalibration calibration => exact h.other rfl rfl rfl rfl rfl rfl rfl rfl rfl
  | describeStream width height fps gopLength => exact h.other rfl rfl rfl rfl rfl rfl rfl rfl rfl
  | check unit =>
    show RosInv cfg (s.check cfg unit)
    unfold RosState.check
    split
    · exact h.other rfl rfl rfl rfl rfl rfl rfl rfl rfl
    · exact h
  | enqueue => exact h.enqueue
  | connect =>
    show RosInv cfg s.connect
    unfold RosState.connect
    split
    · exact h.other rfl rfl rfl rfl rfl rfl rfl rfl rfl
    · exact h
  | disconnect =>
    show RosInv cfg s.disconnect
    unfold RosState.disconnect
    split
    · exact h.other rfl rfl rfl rfl rfl rfl rfl rfl rfl
    · exact h
  | callback desiredActive => exact h.stepCallback desiredActive
  | worker => exact h.stepWorker
  | register succeeds =>
    show RosInv cfg (if cfg.rosPublishingEnabled then s.stepRegistration succeeds else s)
    split
    · exact h.stepRegistration succeeds
    · exact h
  | stopPublisher =>
    exact h.ofSection (h.branch.clear rfl rfl rfl rfl rfl) rfl rfl (List.nil_sublist _)
      (.of_eq rfl rfl) (Nat.le_succ _)
  | closeSubscribers => exact h.other rfl rfl rfl rfl rfl rfl rfl rfl rfl

theorem RosInv.load {token : UInt64} (h : token ≠ 0) (calibration : NativeCalibrationMetadata)
    (width height : Nat) (frameRate : ℚ) (interval : Nat) :
    RosInv cfg (.load (.load token calibration width height frameRate interval)) where
  branch := .load token h calibration width height frameRate interval
  frames_ok _ hf := absurd hf List.not_mem_nil
  frames_below _ hf := absurd hf List.not_mem_nil
  frames_ordered := List.Pairwise.nil
  held_generation _ hf := absurd hf List.not_mem_nil

theorem rosInv_reachable {s : RosState} (h : (rosMachine cfg).Reachable s) : RosInv cfg s :=
  Machine.Reachable.invariant
    (fun _ ⟨now, pid, address, _, _, _, _, _, hs⟩ =>
      hs ▸ .load (initialEpochToken_ne_zero now pid address) _ _ _ _ _)
    (fun _ a _ h => h.step a) h

theorem stepWorker_registration (s : RosState) : s.stepWorker.registration = s.registration := by
  unfold RosState.stepWorker
  split
  · rfl
  · unfold RosState.popWork
    repeat' split
    all_goals rfl
  · rfl
  · unfold RosState.publishStreamInfo
    split <;> rfl
  · unfold RosState.publishROSFrame
    split <;> rfl

/-- the worker thread runs only after the last step of a registration -/
def RosState.WorkerStarted (s : RosState) : Prop :=
  s.registration = .registered ∨ s.registration = .closed ∨ s.worker = .stopped

theorem RosState.WorkerStarted.step {s : RosState} (h : s.WorkerStarted) (a : RosAction) :
    (rosStep cfg s a).WorkerStarted := by
  cases a with
  | check unit =>
    show (s.check cfg unit).WorkerStarted
    unfold RosState.check
    split <;> exact h
  | enqueue =>
    show (s.enqueue cfg).WorkerStarted
    unfold RosState.enqueue
    split <;> exact h
  | connect =>
    show s.connect.WorkerStarted
    unfold RosState.connect
    split <;> exact h
  | disconnect =>
    show s.disconnect.WorkerStarted
    unfold RosState.disconnect
    split <;> exact h
  | callback desiredActive =>
    show (s.stepCallback cfg desiredActive).WorkerStarted
    unfold RosState.stepCallback
    split <;> exact h
  | worker =>
    rcases h with hreg | hreg | hw
    · exact .inl ((stepWorker_registration s).trans hreg)
    · exact .inr (.inl ((stepWorker_registration s).trans hreg))
    · refine .inr (.inr ?_)
      show s.stepWorker.worker = .stopped
      unfold RosState.stepWorker
      rw [hw]
      exact hw
  | register succeeds =>
    show (if cfg.rosPublishingEnabled then s.stepRegistration succeeds else s).WorkerStarted
    split
    · have stopped : s.registration ≠ .registered → s.registration ≠ .closed →
          s.worker = .stopped := fun h1 h2 => (h.resolve_left h1).resolve_left h2
      unfold RosState.stepRegistration
      split
      case h_4 =>
        have hw := stopped (by simp [*]) (by simp [*])
        split
        · exact .inl rfl
        · exact .inr (.inr hw)
      case h_5 => exact h
      case h_6 => exact h
      all_goals
        have hw := stopped (by simp [*]) (by simp [*])
        split <;> exact .inr (.inr hw)
    · exact h
  | stopPublisher => exact .inr (.inl rfl)
  | _ => exact h

theorem workerStarted_reachable {s : RosState} (h : (rosMachine cfg).Reachable s) :
    s.WorkerStarted :=
  Machine.Reachable.invariant
    (fun _ ⟨_, _, _, _, _, _, _, _, hs⟩ => .inr (.inr (hs ▸ rfl)))
    (fun _ a _ h => h.step a) h

theorem published_sublist (s : RosState) : s.published.Sublist s.frames :=
  (List.sublist_append_right _ _).trans (List.sublist_append_right _ _)

/-- the epoch state machine, with the published frames taken oldest first: the waiting flag, the
next sequence number and the pending discontinuity agree; the queue is bounded, of the current
epoch and generation, and numbered up to the last number given out; a published frame starts its
epoch as a keyframe with a discontinuity or continues it with neither a discontinuity nor a drop
count; published frames increase in (epoch advances, sequence number) -/
structure EpochStateMachine (cfg : RosConfig) (s : RosState) : Prop where
  epoch_ne_zero : s.branch.streamEpoch ≠ 0
  waiting_iff : s.branch.rosWaitingForIDR = true ↔ s.branch.nextPublishedFrameSequence = 0
  pending_iff : s.branch.nextPublishedFrameSequence = 0 ↔ s.branch.pendingDiscontinuity ≠ none
  waiting_queue : s.branch.rosWaitingForIDR = true → s.branch.rosFrameQueue = []
  queue_length : s.branch.rosFrameQueue.length ≤ cfg.rosPublisherQueueCapacity
  queue_current : ∀ f ∈ s.branch.rosFrameQueue, f.epoch = s.branch.streamEpoch ∧
    f.generation = s.branch.rosPublisherGeneration
  queue_below : s.branch.rosFrameQueue.length ≤ s.branch.nextPublishedFrameSequence
  queue_sequence : s.branch.rosFrameQueue.map (·.frameSequence) =
    List.range' (s.branch.nextPublishedFrameSequence - s.branch.rosFrameQueue.length)
      s.branch.rosFrameQueue.length
  first_frame : ∀ f ∈ s.published, ∀ sourceID frameID hostRealtime,
    (frameTiming sourceID frameID hostRealtime f).frame_sequence = 0 →
      (frameTiming sourceID frameID hostRealtime f).keyframe = true ∧
      (frameTiming sourceID frameID hostRealtime f).discontinuity ≠ none
  other_frame : ∀ f ∈ s.published, ∀ sourceID frameID hostRealtime,
    (frameTiming sourceID frameID hostRealtime f).frame_sequence ≠ 0 →
      (frameTiming sourceID frameID hostRealtime f).discontinuity = none ∧
      (frameTiming sourceID frameID hostRealtime f).dropped_frames_before = 0
  increasing : s.published.reverse.Pairwise (fun f g => f.epochIndex < g.epochIndex ∨
    (f.epochIndex = g.epochIndex ∧ f.frameSequence < g.frameSequence))

/-- **The epoch state machine** holds in every reachable state. -/
theorem epoch_state_machine {s : RosState} (h : (rosMachine cfg).Reachable s) :
    EpochStateMachine cfg s := by
  have inv := rosInv_reachable h
  have ok (f : QueuedROSFrame) (hf : f ∈ s.published) : FrameOk f :=
    inv.frames_ok f ((published_sublist s).subset hf)
  exact {
    epoch_ne_zero := inv.branch.epoch_ne_zero
    waiting_iff := inv.branch.waiting_iff
    pending_iff := inv.branch.pending_iff.symm
    waiting_queue := inv.branch.waiting_queue
    queue_length := inv.branch.queue_length
    queue_current := fun f hf =>
      ⟨(inv.branch.queue_current f hf).1, (inv.branch.queue_current f hf).2.1⟩
    queue_below := inv.branch.queue_below
    queue_sequence := inv.branch.queue_sequence
    first_frame := fun f hf _ _ _ => (ok f hf).1
    other_frame := fun f hf _ _ _ => (ok f hf).2
    increasing := List.pairwise_reverse.mpr (inv.frames_ordered.sublist (published_sublist s)) }

/-- an IDR and a delta frame, an epoch advance, and the IDR of the next epoch -/
theorem epoch_state_machine_sample :
    EpochStateMachine (.load true 8) ((rosMachine (.load true 8)).run .sample
      (RosAction.activation ++ RosAction.offer true 1 ++ RosAction.offer false 2 ++
        List.replicate 6 .worker ++ [.beginEpoch .sourceTimeReset] ++ RosAction.offer true 1)) :=
  epoch_state_machine (Machine.Reachable.run (RosState.sample_reachable _) _)

end

end MediaCamera
