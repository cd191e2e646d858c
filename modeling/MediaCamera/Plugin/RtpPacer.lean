import MediaCamera.Machine.History
import MediaCamera.Plugin.Steps

/-!
# The queue in front of the RTP pacer

`EnqueueRTPAccessUnit`, `ClearRTPQueue` and `StopRTPPacer`, called by any number of threads, and
the rounds of `RTPPacerLoop`.

* `pacing cfg`        the pool of these threads; the pacer runs `rtpPacerRound` of the plugin;
* `QueueStep cfg`     what one of their steps does to the queue;
* `lastAccepted`      the access unit of the last call that was not refused;
* `RtpQueue.Lawful`   the invariant of the queue, given that access unit.
-/

namespace MediaCamera

variable {cfg : PluginConfig} {s s' : State} {l : Label}

/-! ## the threads -/

/-- a call of one of the functions that change the queue -/
inductive RtpCall where
  | enqueueRTPAccessUnit (packets : List QueuedRTPPacket) (keyframe : Bool)
  | clearRTPQueue
  | stopRTPPacer
  deriving DecidableEq

/-- `StopRTPPacer`, less the join -/
def stopRTPPacer : Thread Unit := write (fun s => { s with rtp := s.rtp.stop })

def RtpCall.body (cfg : PluginConfig) : RtpCall → Thread Unit
  | .enqueueRTPAccessUnit packets keyframe =>
    .atomic (.enqueueRTP packets keyframe) (fun s => (s.enqueueRTP cfg packets keyframe, ()))
  | .clearRTPQueue => MediaCamera.clearRTPQueue
  | .stopRTPPacer => MediaCamera.stopRTPPacer

inductive RtpThread where
  | caller (n : Nat)
  | pacer
  deriving DecidableEq

abbrev RtpThread.Call : RtpThread → Type
  | .caller _ => RtpCall
  | .pacer => Unit

/-- the threads that share the queue; `StartRTPPacer` has started the pacer -/
def pacing (cfg : PluginConfig) : Pool State Label RtpThread RtpThread.Call where
  init s := s.rtp = .load
  body
    | .caller _, call => call.body cfg
    | .pacer, () => rtpPacerRound

/-! ## the steps -/

inductive QueueStep (cfg : PluginConfig) : Label → State → State → Prop
  | keep {s s' : State} (h : s'.rtp = s.rtp) : QueueStep cfg .step s s'
  | wait {s : State} : QueueStep cfg .popRTP s s
  | enqueue (packets : List QueuedRTPPacket) (keyframe : Bool) {s : State} :
    QueueStep cfg (.enqueueRTP packets keyframe) s (s.enqueueRTP cfg packets keyframe)
  | clear {s : State} : QueueStep cfg .step s { s with rtp := s.rtp.clear }
  | stop {s : State} : QueueStep cfg .step s { s with rtp := s.rtp.stop }
  | pop {s s' : State} {unit : QueuedRTPAccessUnit} (hrunning : s.rtp.rtpPacerStopping = false)
      (hpop : s.rtp.pop = some (unit, s'.rtp)) : QueueStep cfg .popRTP s s'

theorem sendBatch_queue (packets : List QueuedRTPPacket) :
    (sendBatch packets).Within (QueueStep cfg) := by
  induction packets with
  | nil => exact .ret ()
  | cons packet packets ih =>
    unfold sendBatch
    apply Prog.Within.bind
    · exact .atomic fun s => .keep rfl
    · exact fun _ => ih

theorem sendPacedRTPAccessUnit_queue (unit : QueuedRTPAccessUnit)
    (batches : List (List QueuedRTPPacket)) :
    (sendPacedRTPAccessUnit unit batches).Within (QueueStep cfg) := by
  induction batches with
  | nil => exact .ret ()
  | cons batch batches ih =>
    unfold sendPacedRTPAccessUnit
    apply Prog.Within.bind
    · exact .atomic fun s => .keep rfl
    · intro current
      apply Prog.Within.ite
      · exact (sendBatch_queue batch).bind fun _ => ih
      · exact .ret ()

theorem rtpPacerRound_queue : rtpPacerRound.Within (QueueStep cfg) := by
  unfold rtpPacerRound
  apply Prog.Within.bind
  · apply Prog.Within.atomic
    intro s
    cases hstopping : s.rtp.rtpPacerStopping with
    | true => exact .wait
    | false =>
      cases hpop : s.rtp.pop with
      | none => exact .wait
      | some popped => exact .pop hstopping hpop
  · intro popped
    cases popped with
    | none => exact .ret ()
    | some unit =>
      apply Prog.Within.bind
      · exact .atomic fun s => .keep rfl
      · -- the store after the sends is the end of both branches
        have hfinish : (write (fun s => { s with flags.rtpInFlight := false })).Within
            (QueueStep cfg) := .atomic fun s => .keep rfl
        intro current
        apply Prog.Within.ite
        · exact (sendPacedRTPAccessUnit_queue unit _).bind fun _ => hfinish
        · exact hfinish

theorem pacing_queue (t : RtpThread) (c : t.Call) :
    ((pacing cfg).body t c).Within (QueueStep cfg) := by
  cases t with
  | pacer => exact rtpPacerRound_queue
  | caller n =>
    cases c with
    | enqueueRTPAccessUnit packets keyframe => exact .atomic fun s => .enqueue packets keyframe
    | clearRTPQueue => exact .atomic fun s => .clear
    | stopRTPPacer => exact .atomic fun s => .stop

/-! ## the invariant -/

/-- the access unit and the flag of the last call of `EnqueueRTPAccessUnit` that was not refused -/
def lastAccepted (cfg : PluginConfig) (accepted : Option (List QueuedRTPPacket × Bool))
    (x : Taken State Label) : Option (List QueuedRTPPacket × Bool) :=
  match x.label with
  | .enqueueRTP packets keyframe =>
    if RtpQueue.refusal cfg.pacingBitrate x.before.rtp packets keyframe = none
    then some (packets, keyframe) else accepted
  | _ => accepted

namespace RtpQueue

/-- the access unit that is queued, where the last one accepted is `(packets, keyframe)` -/
structure Holds (pacingBitrate : Nat) (q : RtpQueue) (packets : List QueuedRTPPacket)
    (keyframe : Bool) (unit : QueuedRTPAccessUnit) : Prop where
  queue : q.rtpQueue = [unit]
  packets_eq : unit.packets = packets
  bytes_eq : unit.bytes = totalBytes packets
  queuedBytes : q.rtpQueuedBytes = totalBytes packets
  current : unit.generation = q.rtpQueueGeneration
  delta : keyframe = false → totalBytes packets ≤ maximumPacedAccessUnitBytes pacingBitrate
  running : q.rtpPacerStopping = false

/-- what holds between two sections of `rtpPacerMutex_` -/
def Lawful (pacingBitrate : Nat) (accepted : Option (List QueuedRTPPacket × Bool))
    (q : RtpQueue) : Prop :=
  (q.rtpQueue = [] ∧ q.rtpQueuedBytes = 0) ∨
    ∃ packets keyframe unit, accepted = some (packets, keyframe) ∧
      q.Holds pacingBitrate packets keyframe unit

section
variable {pacingBitrate : Nat} {accepted : Option (List QueuedRTPPacket × Bool)} {q : RtpQueue}
  {packets : List QueuedRTPPacket} {keyframe : Bool}

theorem Lawful.load : load.Lawful pacingBitrate accepted := .inl ⟨rfl, rfl⟩

theorem Lawful.clear : q.clear.Lawful pacingBitrate accepted := .inl ⟨rfl, rfl⟩

theorem Lawful.stop : q.stop.Lawful pacingBitrate accepted := .inl ⟨rfl, rfl⟩

/-- the pacer takes the one access unit, and the subtraction is exact -/
theorem Lawful.pop (h : q.Lawful pacingBitrate accepted) {unit : QueuedRTPAccessUnit}
    {q' : RtpQueue} (hpop : q.pop = some (unit, q')) :
    unit.bytes = q.rtpQueuedBytes ∧ q'.Lawful pacingBitrate accepted := by
  rcases h with ⟨hempty, _⟩ | ⟨packets, keyframe, queued, _, h⟩
  · rw [RtpQueue.pop, hempty] at hpop
    cases hpop
  · rw [RtpQueue.pop, h.queue] at hpop
    obtain ⟨rfl, rfl⟩ := Prod.mk.inj (Option.some.inj hpop)
    have hbytes : queued.bytes = q.rtpQueuedBytes := by rw [h.bytes_eq, h.queuedBytes]
    refine ⟨hbytes, .inl ⟨rfl, ?_⟩⟩
    show q.rtpQueuedBytes - queued.bytes = 0
    omega

theorem makeRoom_queue (q : RtpQueue) : q.makeRoom.rtpQueue = [] := by
  unfold makeRoom
  split
  · assumption
  · rfl

theorem makeRoom_stopping (q : RtpQueue) :
    q.makeRoom.rtpPacerStopping = q.rtpPacerStopping := by
  unfold makeRoom
  split
  · rfl
  · rfl

theorem Lawful.makeRoom_bytes (h : q.Lawful pacingBitrate accepted) :
    q.makeRoom.rtpQueuedBytes = 0 := by
  unfold makeRoom
  split
  · rename_i hempty
    rcases h with ⟨_, hbytes⟩ | ⟨packets, keyframe, unit, _, h⟩
    · exact hbytes
    · rw [h.queue] at hempty
      cases hempty
  · rfl

theorem accepted_of_refusal (h : refusal pacingBitrate q packets keyframe = none) :
    q.rtpPacerStopping = false ∧
      (keyframe = false → totalBytes packets ≤ maximumPacedAccessUnitBytes pacingBitrate) := by
  unfold refusal at h
  split at h
  · cases h
  split at h
  · cases h
  rename_i hrunning
  refine ⟨by simpa using hrunning, ?_⟩
  intro hdelta
  rw [hdelta] at h
  by_cases hqueue : q.rtpQueue ≠ []
  · simp [hqueue] at h
  · by_cases hover : maximumPacedAccessUnitBytes pacingBitrate < totalBytes packets
    · simp [hqueue, hover] at h
    · omega

theorem Lawful.enqueue (h : q.Lawful pacingBitrate accepted) (rate : ℚ) :
    (enqueueRTPAccessUnit pacingBitrate rate q packets keyframe).1.Lawful pacingBitrate
      (if refusal pacingBitrate q packets keyframe = none then some (packets, keyframe)
        else accepted) := by
  unfold enqueueRTPAccessUnit
  cases hrefusal : refusal pacingBitrate q packets keyframe with
  | some cause =>
    cases cause with
    | behind => exact .clear
    | noPackets | stopping | oversized => exact h
  | none =>
    obtain ⟨hrunning, hdelta⟩ := accepted_of_refusal hrefusal
    have hqueue := q.makeRoom_queue
    have hbytes := h.makeRoom_bytes
    right
    refine ⟨packets, keyframe, ⟨packets, totalBytes packets, q.makeRoom.rtpQueueGeneration,
      max 1 (llround (1000000000 / updateRate rate))⟩, rfl, ?_, rfl, rfl, ?_, rfl, hdelta, ?_⟩
    · show q.makeRoom.rtpQueue ++ [_] = [_]
      rw [hqueue, List.nil_append]
    · show q.makeRoom.rtpQueuedBytes + totalBytes packets = totalBytes packets
      omega
    · show q.makeRoom.rtpPacerStopping = false
      rw [makeRoom_stopping, hrunning]

/-! ## after the pacer is stopped -/

/-- the pacer has been told to stop, and nothing is queued -/
structure Stopped (q : RtpQueue) : Prop where
  stopping : q.rtpPacerStopping = true
  queue : q.rtpQueue = []

theorem Stopped.refusal (h : q.Stopped) (pacingBitrate : Nat) (packets : List QueuedRTPPacket)
    (keyframe : Bool) :
    q.refusal pacingBitrate packets keyframe = some .noPackets ∨
      q.refusal pacingBitrate packets keyframe = some .stopping := by
  unfold RtpQueue.refusal
  by_cases hpackets : packets = []
  · left
    exact if_pos hpackets
  · right
    rw [if_neg hpackets, if_pos h.stopping]

theorem Stopped.enqueue (h : q.Stopped) (rate : ℚ) :
    enqueueRTPAccessUnit pacingBitrate rate q packets keyframe = (q, false, false) := by
  unfold enqueueRTPAccessUnit
  rcases h.refusal pacingBitrate packets keyframe with hrefusal | hrefusal
  · rw [hrefusal]
  · rw [hrefusal]

end

end RtpQueue

theorem QueueStep.lawful {accepted : Option (List QueuedRTPPacket × Bool)}
    (h : QueueStep cfg l s s') (hs : s.rtp.Lawful cfg.pacingBitrate accepted) :
    s'.rtp.Lawful cfg.pacingBitrate (lastAccepted cfg accepted ⟨l, s, s'⟩) := by
  cases h with
  | keep hrtp =>
    show s'.rtp.Lawful cfg.pacingBitrate accepted
    rw [hrtp]
    exact hs
  | wait => exact hs
  | enqueue packets keyframe => exact hs.enqueue cfg.updateRate
  | clear => exact .clear
  | stop => exact .stop
  | pop hrunning hpop => exact (hs.pop hpop).2

/-- a step of the pool leaves a stopped queue as it is, but for its generation -/
theorem QueueStep.stopped (h : QueueStep cfg l s s') (hs : s.rtp.Stopped) : s'.rtp.Stopped := by
  cases h with
  | keep hrtp =>
    rw [hrtp]
    exact hs
  | wait => exact hs
  | enqueue packets keyframe =>
    show (RtpQueue.enqueueRTPAccessUnit _ _ _ _ _).1.Stopped
    rw [hs.enqueue]
    exact hs
  | clear => exact ⟨hs.stopping, rfl⟩
  | stop => exact ⟨rfl, rfl⟩
  | pop hrunning hpop =>
    rw [hs.stopping] at hrunning
    cases hrunning

theorem QueueStep.stopped_idle (h : QueueStep cfg l s s') (hs : s.rtp.Stopped) :
    (l = .popRTP → s' = s) ∧
      ∀ packets keyframe, l = .enqueueRTP packets keyframe → s'.rtp = s.rtp := by
  cases h with
  | keep => exact ⟨by simp, by simp⟩
  | wait => exact ⟨fun _ => rfl, by simp⟩
  | enqueue packets keyframe =>
    refine ⟨by simp, fun _ _ _ => ?_⟩
    show (RtpQueue.enqueueRTPAccessUnit _ _ _ _ _).1 = s.rtp
    rw [hs.enqueue]
  | clear => exact ⟨by simp, by simp⟩
  | stop => exact ⟨by simp, by simp⟩
  | pop hrunning _ =>
    rw [hs.stopping] at hrunning
    cases hrunning

/-! ## the runs -/

abbrev PacingState : Type := PoolState State Label RtpThread

abbrev PacingAction : Type := PoolAction RtpThread RtpThread.Call

theorem pacing_lawful {start : PacingState} (hstart : (pacing cfg).machine.init start)
    (as : List PacingAction) :
    ((pacing cfg).machine.run start as).shared.rtp.Lawful cfg.pacingBitrate
      (((pacing cfg).history start as).foldl (lastAccepted cfg) none) := by
  have hload : start.shared.rtp = .load := hstart.1
  apply Pool.Confined.follows (J := fun accepted s => s.rtp.Lawful cfg.pacingBitrate accepted)
    pacing_queue
  · intro accepted l s s' hs hstep
    exact hstep.lawful hs
  · exact .idle hstart.2
  · rw [hload]
    exact .load

theorem pacing_steps {start : PacingState} (hstart : (pacing cfg).machine.init start)
    (as : List PacingAction) :
    ∀ x ∈ (pacing cfg).history start as,
      ∃ accepted, x.before.rtp.Lawful cfg.pacingBitrate accepted := by
  have hload : start.shared.rtp = .load := hstart.1
  have hidle : Pool.Confined (QueueStep cfg) start := .idle hstart.2
  intro x hx
  apply (hidle.history (J := fun s => ∃ accepted, s.rtp.Lawful cfg.pacingBitrate accepted)
    pacing_queue _ _ as x hx).1
  · rintro l s s' ⟨accepted, hs⟩ hstep
    exact ⟨_, hstep.lawful hs⟩
  · exact ⟨none, hload ▸ .load⟩

/-- once stopped, the queue stays so, and no later step takes from it or puts into it -/
theorem pacing_stopped {s : PacingState} (hconfined : Pool.Confined (QueueStep cfg) s)
    (hs : s.shared.rtp.Stopped) (as : List PacingAction) :
    ((pacing cfg).machine.run s as).shared.rtp.Stopped ∧
      ∀ x ∈ (pacing cfg).history s as, x.before.rtp.Stopped ∧
        QueueStep cfg x.label x.before x.after := by
  constructor
  · exact hconfined.keeps pacing_queue (fun l s s' hs hstep => hstep.stopped hs) hs as
  · exact hconfined.history pacing_queue (fun l s s' hs hstep => hstep.stopped hs) hs as

/-- the queue of the RTP pacer, after every run of its callers and of the pacer thread: at most one
access unit is queued, whose bytes are the counted ones, whose generation is the current one and
which, as a delta, is within the budget; no pop subtracts more than is counted; and once a call of
`StopRTPPacer` has passed its section, nothing is queued or popped -/
theorem rtpPacer_queue (cfg : PluginConfig) (start : PacingState)
    (hstart : (pacing cfg).machine.init start) (as : List PacingAction) :
    let s := (pacing cfg).machine.run start as
    (s.shared.rtp.rtpQueue = [] ∧ s.shared.rtp.rtpQueuedBytes = 0 ∨
      ∃ unit packets keyframe, s.shared.rtp.rtpQueue = [unit] ∧
        ((pacing cfg).history start as).foldl (lastAccepted cfg) none = some (packets, keyframe) ∧
        unit.packets = packets ∧ unit.bytes = RtpQueue.totalBytes packets ∧
        s.shared.rtp.rtpQueuedBytes = RtpQueue.totalBytes packets ∧
        unit.generation = s.shared.rtp.rtpQueueGeneration ∧
        (keyframe = false → RtpQueue.totalBytes packets ≤
          RtpQueue.maximumPacedAccessUnitBytes cfg.pacingBitrate)) ∧
    (∀ x ∈ (pacing cfg).history start as, ∀ unit q, x.before.rtp.pop = some (unit, q) →
      unit.bytes ≤ x.before.rtp.rtpQueuedBytes) ∧
    ∀ n, s.thread (.caller n) = stopRTPPacer → ∀ bs,
      let stopped := (pacing cfg).next s (.step (.caller n))
      ((pacing cfg).machine.run stopped bs).shared.rtp.rtpQueue = [] ∧
        ∀ x ∈ (pacing cfg).history stopped bs, x.after.rtp.rtpQueue = [] ∧
          (x.label = .popRTP → x.after = x.before) ∧
          ∀ packets keyframe, x.label = .enqueueRTP packets keyframe →
            x.after.rtp = x.before.rtp := by
  intro s
  refine ⟨?_, ?_, ?_⟩
  · rcases pacing_lawful hstart as with hempty | ⟨packets, keyframe, unit, haccepted, h⟩
    · exact .inl hempty
    · exact .inr ⟨unit, packets, keyframe, h.queue, haccepted, h.packets_eq, h.bytes_eq,
        h.queuedBytes, h.current, h.delta⟩
  · intro x hx unit q hpop
    obtain ⟨accepted, hlawful⟩ := pacing_steps hstart as x hx
    exact (hlawful.pop hpop).1.le
  · intro n hn bs
    have hconfined : Pool.Confined (QueueStep cfg) s :=
      Pool.Confined.run pacing_queue (.idle hstart.2) as
    have hstop : ((pacing cfg).next s (.step (.caller n))).shared.rtp.Stopped := by
      rw [Pool.next_step hn]
      exact ⟨rfl, rfl⟩
    obtain ⟨hend, hsteps⟩ := pacing_stopped (hconfined.next pacing_queue _) hstop bs
    refine ⟨hend.queue, ?_⟩
    intro x hx
    obtain ⟨hbefore, hstep⟩ := hsteps x hx
    exact ⟨(hstep.stopped hbefore).queue, hstep.stopped_idle hbefore⟩

/-- a delta is queued, and then the pacer is stopped -/
def PacingAction.sample : List PacingAction :=
  [.start (.caller 0) (.enqueueRTPAccessUnit [⟨[1, 2, 3]⟩] false), .step (.caller 0),
    .start (.caller 1) .stopRTPPacer]

def PacingState.sample : PacingState := ⟨.load .sample .sample, fun _ => .ret ()⟩

theorem rtpPacer_queue_sample :
    ((pacing .sample).machine.run PacingState.sample
        PacingAction.sample).shared.rtp.rtpQueuedBytes = 3 ∧
      ∀ bs, ((pacing .sample).machine.run ((pacing .sample).next
        ((pacing .sample).machine.run PacingState.sample PacingAction.sample) (.step (.caller 1)))
          bs).shared.rtp.rtpQueue = [] := by
  have h := rtpPacer_queue .sample PacingState.sample ⟨rfl, rfl⟩ PacingAction.sample
  refine ⟨by decide +kernel, fun bs => ?_⟩
  exact (h.2.2 1 rfl bs).1

end MediaCamera
