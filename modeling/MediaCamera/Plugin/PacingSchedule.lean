import MediaCamera.Machine.Rely
import MediaCamera.Plugin.System
import MediaCamera.Stream.Wire

/-!
# The pacing of one access unit

The times of the batches of `SendPacedRTPAccessUnit`, in nanoseconds, and what it sends.

* `rtpAccessUnitSpread`    the time that an access unit is spread over;
* `batchAt`, `batchPackets`   the time of a batch, and its packets;
* `packetBatches_eq`       the batches of the pacer thread are these;
* `uninterrupted`          what the other threads may do while no send is aborted.

The quotients by the bitrate and by the rate are exact (`double` in the source); the integer
divisions round toward zero.
-/

namespace MediaCamera

/-! ## the schedule -/

/-- `framePeriod` of `EnqueueRTPAccessUnit` -/
def framePeriod (rate : ℚ) : Int := max 1 (llround (1000000000 / updateRate rate))

/-- the access unit that `EnqueueRTPAccessUnit` builds -/
def pacedAccessUnit (rate : ℚ) (packets : List QueuedRTPPacket) (generation : Nat) :
    QueuedRTPAccessUnit :=
  ⟨packets, RtpQueue.totalBytes packets, generation, framePeriod rate⟩

/-- an access unit that is not refused is the one that is queued -/
theorem enqueueRTPAccessUnit_builds {pacingBitrate : Nat} {q : RtpQueue}
    {packets : List QueuedRTPPacket} {keyframe : Bool}
    (h : RtpQueue.refusal pacingBitrate q packets keyframe = none) (rate : ℚ) :
    (q.enqueueRTPAccessUnit pacingBitrate rate packets keyframe).1.rtpQueue =
      q.makeRoom.rtpQueue ++ [pacedAccessUnit rate packets q.makeRoom.rtpQueueGeneration] := by
  unfold RtpQueue.enqueueRTPAccessUnit
  rw [h]
  rfl

section
variable (pacingBitrate : Nat) (unit : QueuedRTPAccessUnit)

/-- `configured` of `RTPAccessUnitSpread` -/
def configuredSpread : Int :=
  max 1 ⌈(unit.bytes * 8 / pacingBitrate : ℚ) * 1000000000⌉

/-- `guard` of `RTPAccessUnitSpread` -/
def frameGuard : Int := min 4000000 (unit.framePeriod.tdiv 4)

/-- `frameBudget` of `RTPAccessUnitSpread` -/
def frameBudget : Int := max 1 (unit.framePeriod - frameGuard unit)

def rtpAccessUnitSpread : Int := min (configuredSpread pacingBitrate unit) (frameBudget unit)

end

def batchCount (packets : List QueuedRTPPacket) : Nat :=
  (packets.length + kPacketBatchSize - 1) / kPacketBatchSize

def batchPackets (packets : List QueuedRTPPacket) (batch : Nat) : List QueuedRTPPacket :=
  let first := batch * kPacketBatchSize
  let last := min packets.length (first + kPacketBatchSize)
  (packets.take last).drop first

def batchAt (transmitAt spread : Int) (count batch : Nat) : Int :=
  if count = 1 then transmitAt + spread
  else transmitAt + (spread * batch).tdiv ((count - 1 : Nat) : Int)

/-! ## the spread -/

theorem updateRate_ge (rate : ℚ) : 1 / 10 ≤ updateRate rate := le_max_left _ _

theorem framePeriod_pos (rate : ℚ) : 0 < framePeriod rate := by
  have : 1 ≤ framePeriod rate := le_max_left _ _
  omega

/-- at 0.1 frames a second the period is ten seconds -/
theorem framePeriod_le (rate : ℚ) : framePeriod rate ≤ 10000000000 := by
  have hrate := updateRate_ge rate
  have hpos : 0 < updateRate rate := by linarith
  have hquotient : 1000000000 / updateRate rate ≤ 10000000000 := by
    rw [div_le_iff₀ hpos]
    linarith
  have hnonneg : 0 ≤ 1000000000 / updateRate rate := by positivity
  have hround : llround (1000000000 / updateRate rate) ≤ 10000000000 := by
    rw [llround, if_pos hnonneg]
    apply Int.le_of_lt_add_one
    rw [Rat.floor_lt_iff]
    push_cast
    linarith
  exact max_le (by decide) hround

section
variable {pacingBitrate : Nat} {unit : QueuedRTPAccessUnit}

theorem frameGuard_nonneg (h : 0 < unit.framePeriod) : 0 ≤ frameGuard unit := by
  apply le_min (by decide)
  exact Int.tdiv_nonneg h.le (by decide)

/-- an access unit is spread over some time, and over no more than its frame period -/
theorem rtpAccessUnitSpread_bounds (h : 0 < unit.framePeriod) :
    0 < rtpAccessUnitSpread pacingBitrate unit ∧
      rtpAccessUnitSpread pacingBitrate unit ≤ unit.framePeriod := by
  have hguard := frameGuard_nonneg h
  have hconfigured : 1 ≤ configuredSpread pacingBitrate unit := le_max_left _ _
  have hbudget : 1 ≤ frameBudget unit := le_max_left _ _
  constructor
  · apply lt_min
    · omega
    · omega
  · apply (min_le_right _ _).trans
    apply max_le
    · omega
    · omega

theorem configuredSpread_lt (hbitrate : 128000 ≤ pacingBitrate) (hsize : unit.bytes ≤ 2 ^ 32) :
    configuredSpread pacingBitrate unit < 2 ^ 63 := by
  have hpos : (0 : ℚ) < pacingBitrate := by
    have : 0 < pacingBitrate := by omega
    exact_mod_cast this
  have hbitrate : (128000 : ℚ) ≤ pacingBitrate := by exact_mod_cast hbitrate
  have hsize : (unit.bytes : ℚ) ≤ 2 ^ 32 := by exact_mod_cast hsize
  have hseconds : (unit.bytes * 8 / pacingBitrate : ℚ) ≤ 268436 := by
    rw [div_le_iff₀ hpos]
    linarith
  apply max_lt (by decide)
  apply Int.lt_of_le_of_lt (b := 268436000000000)
  · rw [Int.ceil_le]
    push_cast
    linarith
  · decide

end

/-! ## the batches -/

theorem batchCount_pos {packets : List QueuedRTPPacket} (h : packets ≠ []) :
    0 < batchCount packets := by
  have hlength : 0 < packets.length := List.length_pos_iff.2 h
  unfold batchCount kPacketBatchSize
  omega

theorem batchCount_drop {packets : List QueuedRTPPacket} (h : packets ≠ []) :
    batchCount packets = batchCount (packets.drop kPacketBatchSize) + 1 := by
  have hlength : 0 < packets.length := List.length_pos_iff.2 h
  unfold batchCount
  rw [List.length_drop]
  unfold kPacketBatchSize
  omega

theorem batchPackets_zero (packets : List QueuedRTPPacket) :
    batchPackets packets 0 = packets.take kPacketBatchSize := by
  show (packets.take (min packets.length (0 * kPacketBatchSize + kPacketBatchSize))).drop
    (0 * kPacketBatchSize) = _
  rw [Nat.zero_mul, Nat.zero_add, List.drop_zero, ← List.take_take]
  apply List.take_of_length_le
  rw [List.length_take]
  exact Nat.min_le_right _ _

theorem batchPackets_succ (packets : List QueuedRTPPacket) (batch : Nat) :
    batchPackets packets (batch + 1) =
      batchPackets (packets.drop kPacketBatchSize) batch := by
  unfold batchPackets
  show (packets.take _).drop _ = ((packets.drop kPacketBatchSize).take _).drop _
  rw [List.drop_take, List.drop_take, List.drop_drop, List.length_drop]
  congr 1
  · unfold kPacketBatchSize
    omega
  · congr 1
    unfold kPacketBatchSize
    omega

theorem packetBatches_eq (fuel : Nat) :
    ∀ packets : List QueuedRTPPacket, packets.length ≤ fuel →
      packetBatches fuel packets =
        (List.range (batchCount packets)).map (batchPackets packets) := by
  induction fuel with
  | zero =>
    intro packets h
    obtain rfl := List.length_eq_zero_iff.1 (Nat.le_zero.1 h)
    rfl
  | succ fuel ih =>
    intro packets h
    unfold packetBatches
    by_cases hnil : packets = []
    · rw [if_pos hnil, hnil]
      rfl
    · have hlength : 0 < packets.length := List.length_pos_iff.2 hnil
      have hdrop : (packets.drop kPacketBatchSize).length ≤ fuel := by
        rw [List.length_drop]
        unfold kPacketBatchSize
        omega
      rw [if_neg hnil, ih _ hdrop, batchCount_drop hnil, List.range_succ_eq_map, List.map_cons,
        List.map_map, batchPackets_zero]
      congr 1
      apply List.map_congr_left
      intro batch _
      exact (batchPackets_succ packets batch).symm

theorem packetBatches_flatten (fuel : Nat) :
    ∀ packets : List QueuedRTPPacket, packets.length ≤ fuel →
      (packetBatches fuel packets).flatten = packets := by
  induction fuel with
  | zero =>
    intro packets h
    obtain rfl := List.length_eq_zero_iff.1 (Nat.le_zero.1 h)
    rfl
  | succ fuel ih =>
    intro packets h
    unfold packetBatches
    by_cases hnil : packets = []
    · rw [if_pos hnil, hnil]
      rfl
    · have hlength : 0 < packets.length := List.length_pos_iff.2 hnil
      have hdrop : (packets.drop kPacketBatchSize).length ≤ fuel := by
        rw [List.length_drop]
        unfold kPacketBatchSize
        omega
      rw [if_neg hnil, List.flatten_cons, ih _ hdrop, List.take_append_drop]

theorem packetBatches_size (fuel : Nat) :
    ∀ packets : List QueuedRTPPacket, ∀ batch ∈ packetBatches fuel packets,
      1 ≤ batch.length ∧ batch.length ≤ kPacketBatchSize := by
  induction fuel with
  | zero =>
    intro packets batch h
    cases h
  | succ fuel ih =>
    intro packets batch h
    unfold packetBatches at h
    by_cases hnil : packets = []
    · rw [if_pos hnil] at h
      cases h
    · rw [if_neg hnil] at h
      have hlength : 0 < packets.length := List.length_pos_iff.2 hnil
      rcases List.mem_cons.1 h with rfl | h
      · rw [List.length_take]
        unfold kPacketBatchSize
        omega
      · exact ih _ batch h

/-! ## the times -/

section
variable {transmitAt spread : Int} {count : Nat}

theorem batchAt_last (hcount : 0 < count) :
    batchAt transmitAt spread count (count - 1) = transmitAt + spread := by
  unfold batchAt
  by_cases hone : count = 1
  · rw [if_pos hone]
  · rw [if_neg hone]
    have hne : ((count - 1 : Nat) : Int) ≠ 0 := by omega
    rw [Int.mul_tdiv_cancel _ hne]

theorem batchAt_mono (hspread : 0 ≤ spread) {i j : Nat} (hij : i ≤ j) :
    batchAt transmitAt spread count i ≤ batchAt transmitAt spread count j := by
  unfold batchAt
  by_cases hone : count = 1
  · rw [if_pos hone, if_pos hone]
  · have hi : 0 ≤ spread * (i : Int) := Int.mul_nonneg hspread (Int.natCast_nonneg i)
    have hj : 0 ≤ spread * (j : Int) := Int.mul_nonneg hspread (Int.natCast_nonneg j)
    have hmul : spread * (i : Int) ≤ spread * (j : Int) :=
      Int.mul_le_mul_of_nonneg_left (Int.ofNat_le.2 hij) hspread
    rw [if_neg hone, if_neg hone, Int.tdiv_eq_ediv_of_nonneg hi, Int.tdiv_eq_ediv_of_nonneg hj]
    by_cases hzero : count - 1 = 0
    · rw [hzero]
      simp
    · have := Int.ediv_le_ediv (by omega : 0 < ((count - 1 : Nat) : Int)) hmul
      omega

theorem batchAt_bounds (hspread : 0 ≤ spread) {i : Nat} (hi : i < count) :
    transmitAt ≤ batchAt transmitAt spread count i ∧
      batchAt transmitAt spread count i ≤ transmitAt + spread := by
  constructor
  · have hfirst : transmitAt ≤ batchAt transmitAt spread count 0 := by
      unfold batchAt
      by_cases hone : count = 1
      · rw [if_pos hone]
        omega
      · rw [if_neg hone]
        simp
    exact hfirst.trans (batchAt_mono hspread (Nat.zero_le i))
  · rw [← batchAt_last (by omega : 0 < count)]
    exact batchAt_mono hspread (by omega)

end

/-! ## the packets of the plugin -/

theorem packets_le_totalBytes :
    ∀ packets : List QueuedRTPPacket, (∀ packet ∈ packets, packet.bytes ≠ []) →
      packets.length ≤ RtpQueue.totalBytes packets
  | [], _ => Nat.le_refl _
  | packet :: packets, h => by
    have ih := packets_le_totalBytes packets fun p hp => h p (List.mem_cons_of_mem _ hp)
    have hpacket : 0 < packet.bytes.length :=
      List.length_pos_iff.2 (h packet List.mem_cons_self)
    unfold RtpQueue.totalBytes at ih ⊢
    rw [List.map_cons, List.sum_cons, List.length_cons]
    omega

/-! ## what is sent -/

def sequenceAfter : Nat → List QueuedRTPPacket → Nat
  | sequence, [] => sequence
  | sequence, _ :: packets => sequenceAfter ((sequence + 1) % 65536) packets

theorem numberFrom_after (sequence : Nat) (packets packets' : List QueuedRTPPacket) :
    numberFrom (sequence + packets.length) packets' =
      numberFrom (sequenceAfter sequence packets) packets' := by
  induction packets generalizing sequence with
  | nil => rfl
  | cons packet packets ih =>
    show _ = numberFrom (sequenceAfter ((sequence + 1) % 65536) packets) packets'
    rw [← ih, ← numberFrom_mod ((sequence + 1) % 65536 + _), Nat.mod_add_mod, numberFrom_mod,
      List.length_cons, Nat.add_right_comm, Nat.add_assoc]

theorem sequenceAfter_append (sequence : Nat) (packets packets' : List QueuedRTPPacket) :
    sequenceAfter sequence (packets ++ packets') =
      sequenceAfter (sequenceAfter sequence packets) packets' := by
  induction packets generalizing sequence with
  | nil => rfl
  | cons packet packets ih => exact ih _

/-- the other threads leave the socket to the pacer, and do not abort the access unit -/
def uninterrupted (unit : QueuedRTPAccessUnit) :
    Contract (fun _ : State => True) (fun (_ : Label) (_ : State) => True) where
  rely s s' := s'.sent = s.sent ∧ s'.rtpSequence = s.rtpSequence ∧
    (s.rtp.current unit = true → s'.rtp.current unit = true)
  guar _ _ _ := True
  rely_refl _ := ⟨rfl, rfl, id⟩
  rely_trans := by
    rintro s s' s'' ⟨hsent, hsequence, hcurrent⟩ ⟨hsent', hsequence', hcurrent'⟩
    exact ⟨hsent'.trans hsent, hsequence'.trans hsequence, fun h => hcurrent' (hcurrent h)⟩

/-- the access unit is current, and the socket has taken `sent` so far -/
structure PacerSending (unit : QueuedRTPAccessUnit) (sent : List QueuedRTPPacket) (sequence : Nat)
    (s : State) : Prop where
  current : s.rtp.current unit = true
  sent : s.sent = sent
  sequence : s.rtpSequence = sequence

theorem PacerSending.stable (unit : QueuedRTPAccessUnit) (sent : List QueuedRTPPacket)
    (sequence : Nat) : (uninterrupted unit).Stable (PacerSending unit sent sequence) := by
  rintro s s' ⟨hsent, hsequence, hcurrent⟩ _ h
  exact ⟨hcurrent h.current, hsent.trans h.sent, hsequence.trans h.sequence⟩

theorem sendBatch_sends (unit : QueuedRTPAccessUnit) (packets : List QueuedRTPPacket) :
    ∀ (sent : List QueuedRTPPacket) (sequence : Nat),
      (uninterrupted unit).Triple (PacerSending unit sent sequence) (sendBatch packets) fun _ =>
        PacerSending unit ((numberFrom sequence packets).reverse ++ sent)
          (sequenceAfter sequence packets) := by
  induction packets with
  | nil =>
    intro sent sequence
    exact .ret (PacerSending.stable unit sent sequence) fun _ _ h => h
  | cons packet packets ih =>
    intro sent sequence
    unfold sendBatch
    apply Contract.Triple.bind (Q := fun _ =>
      PacerSending unit (packet.numbered sequence :: sent) ((sequence + 1) % 65536))
    · apply Contract.Triple.atomic (PacerSending.stable unit sent sequence)
        fun _ => PacerSending.stable unit _ _
      intro s _ h _
      refine ⟨True.intro, True.intro, h.current, ?_, ?_⟩
      · show packet.numbered s.rtpSequence :: s.sent = _
        rw [h.sent, h.sequence]
      · show (s.rtpSequence + 1) % 65536 = _
        rw [h.sequence]
    · intro _
      have hrest := ih (packet.numbered sequence :: sent) ((sequence + 1) % 65536)
      apply hrest.post
      intro _ s h
      refine ⟨h.current, ?_, h.sequence⟩
      rw [h.sent]
      rw [numberFrom_cons, numbered_mod, ← numberFrom_mod (sequence + 1), List.reverse_cons,
        List.append_assoc]
      rfl

/-- an access unit that is not aborted is sent as it is, each packet once and in order -/
theorem sendPacedRTPAccessUnit_sends (unit : QueuedRTPAccessUnit)
    (batches : List (List QueuedRTPPacket)) :
    ∀ (sent : List QueuedRTPPacket) (sequence : Nat),
      (uninterrupted unit).Triple (PacerSending unit sent sequence)
        (sendPacedRTPAccessUnit unit batches) fun _ =>
          PacerSending unit ((numberFrom sequence batches.flatten).reverse ++ sent)
            (sequenceAfter sequence batches.flatten) := by
  induction batches with
  | nil =>
    intro sent sequence
    exact .ret (PacerSending.stable unit sent sequence) fun _ _ h => h
  | cons batch batches ih =>
    intro sent sequence
    unfold sendPacedRTPAccessUnit
    apply Contract.Triple.bind (Q := fun current s => PacerSending unit sent sequence s ∧ current = true)
    · apply Contract.Triple.atomic (PacerSending.stable unit sent sequence)
      · exact fun _ => (PacerSending.stable unit sent sequence).and (.const _)
      · intro s _ h _
        exact ⟨True.intro, True.intro, h, h.current⟩
    · intro current
      apply Contract.Triple.assume
      rintro rfl
      rw [if_pos rfl]
      apply Contract.Triple.bind (sendBatch_sends unit batch sent sequence)
      intro _
      apply (ih _ _).post
      intro _ s h
      rw [List.flatten_cons, numberFrom_append, numberFrom_after, sequenceAfter_append,
        List.reverse_append, List.append_assoc]
      exact h

/-! ## the main result -/

/-- multiply before divide: the product stays in the signed 64 bits -/
theorem batch_product_lt {packets : List QueuedRTPPacket} {spread : Int}
    (hmade : ∀ packet ∈ packets, packet.bytes ≠ [])
    (hsize : RtpQueue.totalBytes packets ≤ 2 ^ 32)
    (hperiod : spread ≤ 10000000000) {i : Nat} (hi : i < batchCount packets) :
    spread * i < 2 ^ 63 := by
  have hlength := packets_le_totalBytes packets hmade
  have hbatch : (i : Int) ≤ 134217728 := by
    unfold batchCount kPacketBatchSize at hi
    omega
  calc spread * i ≤ 10000000000 * 134217728 := by
        apply Int.mul_le_mul hperiod hbatch (Int.natCast_nonneg i)
        decide
    _ < 2 ^ 63 := by decide

/-- the pacing of every access unit: it is spread over at most its frame period, its batches are
its packets in order, they are due one after the other up to the end of the spread, and the
arithmetic is defined and stays in 64 bits (every packet has its header, `packetize_parses`) -/
theorem pacing_schedule (pacingBitrate : Nat) (hbitrate : 128000 ≤ pacingBitrate) (rate : ℚ)
    (packets : List QueuedRTPPacket) (hsome : packets ≠ [])
    (hsize : RtpQueue.totalBytes packets ≤ 2 ^ 32) (generation : Nat) (transmitAt : Int) :
    let unit := pacedAccessUnit rate packets generation
    let spread := rtpAccessUnitSpread pacingBitrate unit
    let count := batchCount packets
    let batches := packetBatches packets.length packets
    (0 < spread ∧ spread ≤ unit.framePeriod) ∧
    (batches = (List.range count).map (batchPackets packets) ∧ batches.flatten = packets ∧
      ∀ batch ∈ batches, 1 ≤ batch.length ∧ batch.length ≤ 32) ∧
    (∀ sent sequence, (uninterrupted unit).Triple (PacerSending unit sent sequence)
      (sendPacedRTPAccessUnit unit batches) fun _ s =>
        s.sent = (numberFrom sequence packets).reverse ++ sent) ∧
    (∀ i j, i ≤ j →
      batchAt transmitAt spread count i ≤ batchAt transmitAt spread count j) ∧
    (∀ i < count, transmitAt ≤ batchAt transmitAt spread count i ∧
      batchAt transmitAt spread count i ≤ transmitAt + spread) ∧
    batchAt transmitAt spread count (count - 1) = transmitAt + spread ∧
    batchAt transmitAt spread count (count - 1) ≤ transmitAt + unit.framePeriod ∧
    (pacingBitrate ≠ 0 ∧ updateRate rate ≠ 0 ∧ (count ≠ 1 → count - 1 ≠ 0)) ∧
    (unit.framePeriod < 2 ^ 63 ∧ configuredSpread pacingBitrate unit < 2 ^ 63 ∧
      ((∀ packet ∈ packets, packet.bytes ≠ []) → ∀ i < count, spread * i < 2 ^ 63)) := by
  intro unit spread count batches
  have hperiod : 0 < unit.framePeriod := framePeriod_pos rate
  have hten : unit.framePeriod ≤ 10000000000 := framePeriod_le rate
  obtain ⟨hpos, hle⟩ : 0 < spread ∧ spread ≤ unit.framePeriod := rtpAccessUnitSpread_bounds hperiod
  have hcount : 0 < count := batchCount_pos hsome
  have hflatten : batches.flatten = packets := packetBatches_flatten _ packets (Nat.le_refl _)
  have hlast : batchAt transmitAt spread count (count - 1) = transmitAt + spread :=
    batchAt_last hcount
  have hrate : updateRate rate ≠ 0 := by
    have := updateRate_ge rate
    intro hzero
    rw [hzero] at this
    norm_num at this
  refine ⟨⟨hpos, hle⟩, ⟨packetBatches_eq _ packets (Nat.le_refl _), hflatten,
    packetBatches_size _ packets⟩, ?_, fun i j => batchAt_mono hpos.le,
    fun i => batchAt_bounds hpos.le, hlast, ?_, ⟨by omega, hrate, by omega⟩, by omega,
    configuredSpread_lt hbitrate hsize, ?_⟩
  · intro sent sequence
    have hsends := sendPacedRTPAccessUnit_sends unit batches sent sequence
    rw [hflatten] at hsends
    exact hsends.post fun _ _ h => h.sent
  · rw [hlast]
    omega
  · intro hmade i hi
    exact batch_product_lt hmade hsize (hle.trans hten) hi

/-- forty packets of one byte at 128 kbit/s and 30 frames a second: two batches in 2.5 ms -/
theorem pacing_schedule_forty :
    let packets := List.replicate 40 (⟨[0]⟩ : QueuedRTPPacket)
    let spread := rtpAccessUnitSpread 128000 (pacedAccessUnit 30 packets 0)
    spread = 2500000 ∧ batchCount packets = 2 ∧ batchAt 0 spread (batchCount packets) 0 = 0 ∧
      batchAt 0 spread (batchCount packets) 1 = spread := by
  intro packets spread
  have h := pacing_schedule 128000 (Nat.le_refl _) 30 packets (by decide) (by decide) 0 0
  have hlast := h.2.2.2.2.2.1
  have hcount : batchCount packets = 2 := by decide
  refine ⟨by decide +kernel, hcount, by decide +kernel, ?_⟩
  rw [Int.zero_add, hcount] at hlast
  rw [hcount]
  exact hlast

end MediaCamera
