import MediaCamera.Machine.Account
import MediaCamera.Plugin.Verified
import MediaCamera.Stream.Wire

/-!
# What the pacer sends

The account of the pacer's steps: the access units that it popped, and how many packets of each it
has sent.

* `WireUnit`, `wireNote`   the account;
* `Wire wire s`      the packets handed to the socket are those of the account, in its order and under
                     consecutive numbers;
* `WireUnit.Settled` a unit that the pacer is done with is sent whole, or was overtaken by a later
                     generation of the queue, between two batches;
* `plugin_wire`     the round of the pacer keeps that.
-/

namespace MediaCamera

open Contract

/-! ## the account -/

/-- an access unit that the pacer popped, and how many of its packets it has sent -/
structure WireUnit where
  unit : QueuedRTPAccessUnit
  sent : Nat
  deriving DecidableEq, Repr

/-- the first section of the pacer -/
def Label.pops : Label → Bool
  | .popRTP => true
  | _ => false

/-- the account of the pacer's steps, newest first -/
def wireNote (wire : List WireUnit) (x : Taken State Label) : List WireUnit :=
  if x.label.pops then
    match x.before.rtp.rtpPacerStopping, x.before.rtp.pop with
    | false, some (unit, _) => ⟨unit, 0⟩ :: wire
    | _, _ => wire
  else
    match wire with
    | [] => []
    | r :: rest =>
      { r with sent := r.sent + (x.after.sent.length - x.before.sent.length) } :: rest

def WireUnit.packets (r : WireUnit) : List QueuedRTPPacket := r.unit.packets.take r.sent

/-- the packets of an account, oldest first -/
def wirePackets (wire : List WireUnit) : List QueuedRTPPacket := wire.reverse.flatMap (·.packets)

theorem wirePackets_cons (r : WireUnit) (wire : List WireUnit) :
    wirePackets (r :: wire) = wirePackets wire ++ r.packets := by
  simp [wirePackets]

structure Wire (wire : List WireUnit) (s : State) : Prop where
  sent : s.sent.reverse = numberFrom 0 (wirePackets wire)
  sequence : s.rtpSequence = (wirePackets wire).length % 65536

/-- the pacer is done with the unit -/
def WireUnit.Settled (r : WireUnit) (s : State) : Prop :=
  r.sent = r.unit.packets.length ∨
    kPacketBatchSize ∣ r.sent ∧ r.unit.generation < s.rtp.rtpQueueGeneration

/-- what is queued is of the present generation, or an earlier one -/
structure RtpQueue.Dated (q : RtpQueue) : Prop where
  running : q.rtpPacerStopping = false
  dated : ∀ unit ∈ q.rtpQueue, unit.generation ≤ q.rtpQueueGeneration

structure WireInv (p : State × List WireUnit) : Prop where
  wire : Wire p.2 p.1
  bounded : ∀ r ∈ p.2, r.sent ≤ r.unit.packets.length
  settled : ∀ r ∈ p.2.tail, r.Settled p.1
  queue : p.1.rtp.Dated

/-! ## the queue -/

section
variable {q : RtpQueue}

theorem RtpQueue.Dated.clear (h : q.Dated) : q.clear.Dated :=
  ⟨h.running, fun unit hunit => by cases hunit⟩

theorem RtpQueue.Dated.makeRoom (h : q.Dated) : q.makeRoom.Dated := by
  unfold RtpQueue.makeRoom
  split
  · exact h
  · exact h.clear

theorem RtpQueue.Dated.push (h : q.Dated) (framePeriod : Int) (packets : List QueuedRTPPacket) :
    (q.push framePeriod packets).Dated := by
  refine ⟨h.running, fun unit hunit => ?_⟩
  rcases List.mem_append.mp hunit with hunit | hunit
  · exact h.dated unit hunit
  · rw [List.mem_singleton.mp hunit]
    exact le_rfl

theorem RtpQueue.Dated.enqueue (h : q.Dated) (pacingBitrate : Nat) (rate : ℚ)
    (packets : List QueuedRTPPacket) (keyframe : Bool) :
    (q.enqueueRTPAccessUnit pacingBitrate rate packets keyframe).1.Dated := by
  unfold RtpQueue.enqueueRTPAccessUnit
  split
  · exact h.clear
  · exact h
  · exact h
  · exact h.makeRoom.push _ packets

theorem enqueueRTPAccessUnit_generation (pacingBitrate : Nat) (rate : ℚ) (q : RtpQueue)
    (packets : List QueuedRTPPacket) (keyframe : Bool) : q.rtpQueueGeneration ≤
      (q.enqueueRTPAccessUnit pacingBitrate rate packets keyframe).1.rtpQueueGeneration := by
  unfold RtpQueue.enqueueRTPAccessUnit
  split
  · exact Nat.le_succ _
  · exact le_rfl
  · exact le_rfl
  · show q.rtpQueueGeneration ≤ q.makeRoom.rtpQueueGeneration
    unfold RtpQueue.makeRoom
    split
    · exact le_rfl
    · exact Nat.le_succ _

theorem RtpQueue.Dated.pop (h : q.Dated) {unit : QueuedRTPAccessUnit} {q' : RtpQueue}
    (hpop : q.pop = some (unit, q')) :
    q'.Dated ∧ q'.rtpQueueGeneration = q.rtpQueueGeneration ∧
      unit.generation ≤ q.rtpQueueGeneration := by
  unfold RtpQueue.pop at hpop
  cases hqueue : q.rtpQueue with
  | nil =>
    rw [hqueue] at hpop
    cases hpop
  | cons first rest =>
    rw [hqueue] at hpop
    obtain ⟨rfl, rfl⟩ := Prod.mk.inj (Option.some.inj hpop)
    refine ⟨⟨h.running, fun unit hunit => ?_⟩, rfl, ?_⟩
    · exact h.dated unit (by rw [hqueue]; exact List.mem_cons_of_mem _ hunit)
    · exact h.dated first (by rw [hqueue]; exact List.mem_cons_self)

end

/-! ## the other threads -/

structure WireRely (s s' : State) : Prop where
  sent : s'.sent = s.sent
  sequence : s'.rtpSequence = s.rtpSequence
  generation : s.rtp.rtpQueueGeneration ≤ s'.rtp.rtpQueueGeneration
  queue : s.rtp.Dated → s'.rtp.Dated

theorem WireRely.apart {s s' : State} (hsent : s'.sent = s.sent)
    (hsequence : s'.rtpSequence = s.rtpSequence) (hrtp : s'.rtp = s.rtp) : WireRely s s' :=
  ⟨hsent, hsequence, by rw [hrtp], by rw [hrtp]; exact id⟩

theorem WireUnit.Settled.mono {r : WireUnit} {s s' : State} (h : r.Settled s)
    (hle : s.rtp.rtpQueueGeneration ≤ s'.rtp.rtpQueueGeneration) : r.Settled s' :=
  h.imp_right fun hcut => ⟨hcut.1, lt_of_lt_of_le hcut.2 hle⟩

section
variable {cfg : PluginConfig} {l : Label} {s s' : State}

theorem WireRely.clear (hsent : s'.sent = s.sent) (hsequence : s'.rtpSequence = s.rtpSequence)
    (hrtp : s'.rtp = s.rtp.clear) : WireRely s s' :=
  ⟨hsent, hsequence, by rw [hrtp]; exact Nat.le_succ _, by rw [hrtp]; exact .clear⟩

theorem WireRely.consume (command : NativeControlCommand) (hsent : s'.sent = s.sent)
    (hsequence : s'.rtpSequence = s.rtpSequence)
    (hrtp : s'.rtp = if command.active then s.rtp else s.rtp.clear) : WireRely s s' := by
  split at hrtp
  · exact .apart hsent hsequence hrtp
  · exact .clear hsent hsequence hrtp

theorem RenderStep.wireRely (h : RenderStep cfg l s s') : WireRely s s' := by
  cases h with
  | rest h =>
    cases h with
    | clearRTP => exact .clear rfl rfl rfl
    | _ => exact .apart rfl rfl rfl
  | applyConfiguration => exact .consume _ rfl rfl rfl
  | applyCommand => exact .consume _ rfl rfl rfl
  | enqueueRTP packets keyframe =>
    exact ⟨rfl, rfl, enqueueRTPAccessUnit_generation _ _ _ _ _, fun h => h.enqueue _ _ _ _⟩
  | _ => exact .apart rfl rfl rfl

theorem ThreadStep.wireRely {t : ThreadName} (h : ThreadStep cfg t l s s') (ht : t ≠ .pacer) :
    WireRely s s' := by
  cases t with
  | executor => cases h <;> exact .apart rfl rfl rfl
  | render => exact RenderStep.wireRely h
  | pacer => exact absurd rfl ht
  | jpegWorker => cases h <;> exact .apart rfl rfl rfl
  | rosSide =>
    obtain ⟨_, side, rfl⟩ := h
    exact .apart rfl rfl rfl
  | hostSide =>
    obtain ⟨_, side, rfl⟩ := h
    obtain ⟨reserved, elsewhere, e⟩ := hostSide_eq side s
    rw [e]
    exact .apart rfl rfl rfl

end

/-! ## the contract -/

def wireContract : Contract WireInv fun (_ : Label) _ => True where
  rely p p' := p'.2 = p.2 ∧ WireRely p.1 p'.1
  guar _ _ _ := True
  rely_refl _ := ⟨rfl, .apart rfl rfl rfl⟩
  rely_trans h h' := ⟨h'.1.trans h.1, h'.2.sent.trans h.2.sent, h'.2.sequence.trans h.2.sequence,
    h.2.generation.trans h'.2.generation, fun hq => h'.2.queue (h.2.queue hq)⟩

theorem WireInv.rely {s s' : State} {wire : List WireUnit} (h : WireInv (s, wire))
    (hr : WireRely s s') : WireInv (s', wire) where
  wire := ⟨by rw [hr.sent]; exact h.wire.sent, by rw [hr.sequence]; exact h.wire.sequence⟩
  bounded := h.bounded
  settled r hmem := (h.settled r hmem).mono hr.generation
  queue := hr.queue h.queue

def AllSettled (p : State × List WireUnit) : Prop := ∀ r ∈ p.2, r.Settled p.1

theorem stable_allSettled : wireContract.Stable AllSettled := by
  rintro ⟨s, wire⟩ ⟨s', wire'⟩ ⟨hwire, hr⟩ _ h
  obtain rfl : wire' = wire := hwire
  exact fun r hmem => (h r hmem).mono hr.generation

/-- the pacer has sent `n` packets of the unit -/
def OnWire (unit : QueuedRTPAccessUnit) (n : Nat) (p : State × List WireUnit) : Prop :=
  p.2.head? = some ⟨unit, n⟩ ∧ unit.generation ≤ p.1.rtp.rtpQueueGeneration

theorem stable_onWire (unit : QueuedRTPAccessUnit) (n : Nat) :
    wireContract.Stable (OnWire unit n) := by
  rintro ⟨s, wire⟩ ⟨s', wire'⟩ ⟨hwire, hr⟩ _ h
  obtain rfl : wire' = wire := hwire
  exact ⟨h.1, h.2.trans hr.generation⟩

/-! ## the round of the pacer -/

section
variable {unit : QueuedRTPAccessUnit} {n : Nat} {s : State} {wire : List WireUnit}

theorem wireNote_silent (wire : List WireUnit) {s s' : State} (hsent : s'.sent = s.sent) :
    wireNote wire ⟨.step, s, s'⟩ = wire := by
  cases wire with
  | nil => rfl
  | cons r rest => simp [wireNote, Label.pops, hsent]

theorem WireInv.send (h : WireInv (s, ⟨unit, n⟩ :: wire)) {packet : QueuedRTPPacket}
    (hpacket : unit.packets[n]? = some packet) :
    WireInv ({ s with
      sent := packet.numbered s.rtpSequence :: s.sent
      rtpSequence := (s.rtpSequence + 1) % 65536 }, ⟨unit, n + 1⟩ :: wire) := by
  have hlt : n < unit.packets.length := by
    by_contra hle
    rw [List.getElem?_eq_none (by omega)] at hpacket
    cases hpacket
  have hpackets : wirePackets (⟨unit, n + 1⟩ :: wire) =
      wirePackets (⟨unit, n⟩ :: wire) ++ [packet] := by
    rw [wirePackets_cons, wirePackets_cons, List.append_assoc]
    congr 1
    show unit.packets.take (n + 1) = unit.packets.take n ++ [packet]
    rw [List.take_add_one, hpacket]
    rfl
  refine ⟨⟨?_, ?_⟩, ?_, h.settled, h.queue⟩
  · show (packet.numbered s.rtpSequence :: s.sent).reverse = _
    rw [List.reverse_cons, hpackets, numberFrom_append, h.wire.sent, h.wire.sequence, Nat.zero_add]
    rfl
  · have hsequence : s.rtpSequence = (wirePackets (⟨unit, n⟩ :: wire)).length % 65536 :=
      h.wire.sequence
    show (s.rtpSequence + 1) % 65536 = _
    rw [hpackets, List.length_append, List.length_singleton]
    omega
  · intro r hmem
    rcases List.mem_cons.mp hmem with rfl | hmem
    · exact hlt
    · exact h.bounded r (List.mem_cons_of_mem _ hmem)

theorem WireInv.silent (h : WireInv (s, wire)) {s' : State} (hr : WireRely s s') :
    WireInv (s', wireNote wire ⟨.step, s, s'⟩) := by
  rw [wireNote_silent wire hr.sent]
  exact h.rely hr

theorem wire_silent {α : Type} {P : State × List WireUnit → Prop} {Q : α → State × List WireUnit → Prop}
    {f : State → State × α} (hP : wireContract.Stable P) (hQ : ∀ a, wireContract.Stable (Q a))
    (hf : ∀ s, WireRely s (f s).1)
    (h : ∀ s g, WireInv (s, g) → P (s, g) → Q (f s).2 ((f s).1, g)) :
    wireContract.Account wireNote P (access f) Q := by
  refine .atomic hP hQ fun s g hI hs _ => ⟨hI.silent (hf s), trivial, ?_⟩
  rw [wireNote_silent g (hf s).sent]
  exact h s g hI hs

theorem sendPacket_wire {packet : QueuedRTPPacket} (hpacket : unit.packets[n]? = some packet) :
    wireContract.Account wireNote (OnWire unit n) (write fun s => { s with
      sent := packet.numbered s.rtpSequence :: s.sent
      rtpSequence := (s.rtpSequence + 1) % 65536 }) fun _ => OnWire unit (n + 1) := by
  refine .atomic (stable_onWire unit n) (fun _ => stable_onWire unit (n + 1)) fun s g hI hs _ => ?_
  cases g with
  | nil => cases hs.1
  | cons r rest =>
    obtain rfl : r = ⟨unit, n⟩ := Option.some.inj hs.1
    have hnote : wireNote (⟨unit, n⟩ :: rest) ⟨.step, s, { s with
        sent := packet.numbered s.rtpSequence :: s.sent
        rtpSequence := (s.rtpSequence + 1) % 65536 }⟩ = ⟨unit, n + 1⟩ :: rest := by
      simp [wireNote, Label.pops]
    rw [hnote]
    exact ⟨hI.send hpacket, trivial, rfl, hs.2⟩

theorem sendBatch_wire (batch : List QueuedRTPPacket) (hbatch : batch <+: unit.packets.drop n) :
    wireContract.Account wireNote (OnWire unit n) (sendBatch batch)
      fun _ => OnWire unit (n + batch.length) := by
  induction batch generalizing n with
  | nil => exact .ret (stable_onWire unit n) fun _ _ h => h
  | cons packet batch ih =>
    obtain ⟨later, hlater⟩ := hbatch
    have hdrop : unit.packets.drop (n + 1) = batch ++ later := by
      rw [← List.drop_drop, ← hlater]
      rfl
    have hpacket : unit.packets[n]? = some packet := by
      rw [← List.head?_drop, ← hlater]
      rfl
    rw [List.length_cons, Nat.add_comm batch.length, ← Nat.add_assoc]
    exact .bind (sendPacket_wire hpacket) fun _ => ih ⟨later, hdrop.symm⟩

theorem settled_whole (h : OnWire unit n (s, wire)) (hI : WireInv (s, wire))
    (hn : n = unit.packets.length) : AllSettled (s, wire) := by
  intro r hmem
  cases wire with
  | nil => cases hmem
  | cons first rest =>
    rcases List.mem_cons.mp hmem with rfl | hmem
    · obtain rfl : r = ⟨unit, n⟩ := Option.some.inj h.1
      exact .inl hn
    · exact hI.settled r hmem

theorem settled_cut (h : OnWire unit n (s, wire)) (hI : WireInv (s, wire))
    (hn : kPacketBatchSize ∣ n) (hcut : unit.generation < s.rtp.rtpQueueGeneration) :
    AllSettled (s, wire) := by
  intro r hmem
  cases wire with
  | nil => cases hmem
  | cons first rest =>
    rcases List.mem_cons.mp hmem with rfl | hmem
    · obtain rfl : r = ⟨unit, n⟩ := Option.some.inj h.1
      exact .inr ⟨hn, hcut⟩
    · exact hI.settled r hmem

/-- before a batch: the unit is still the one to send, or overtaken -/
theorem readCurrent_wire : wireContract.Account wireNote (OnWire unit n)
    (read (·.rtp.current unit)) fun current p => OnWire unit n p ∧
      (current = false → unit.generation < p.1.rtp.rtpQueueGeneration) := by
  refine wire_silent (stable_onWire unit n) (fun current => ?_) (fun s => .apart rfl rfl rfl)
    fun s g hI hs => ⟨hs, fun hold => ?_⟩
  · apply (stable_onWire unit n).and
    rintro ⟨s, wire⟩ ⟨s', wire'⟩ ⟨_, hr⟩ _ h hold
    exact lt_of_lt_of_le (h hold) hr.generation
  · have hold : (!s.rtp.rtpPacerStopping && unit.generation == s.rtp.rtpQueueGeneration) = false :=
      hold
    have hrunning : s.rtp.rtpPacerStopping = false := hI.queue.running
    have hne : unit.generation ≠ s.rtp.rtpQueueGeneration := by
      rw [hrunning] at hold
      simpa using hold
    exact lt_of_le_of_ne hs.2 hne

theorem sendPacedRTPAccessUnit_wire (fuel : Nat) (hfuel : unit.packets.length ≤ n + fuel)
    (hbound : n ≤ unit.packets.length) (hn : kPacketBatchSize ∣ n ∨ n = unit.packets.length) :
    wireContract.Account wireNote (OnWire unit n)
      (sendPacedRTPAccessUnit unit (packetBatches fuel (unit.packets.drop n)))
      fun _ => AllSettled := by
  have hdone : n = unit.packets.length → wireContract.Account wireNote (OnWire unit n)
      (pure ()) fun _ => AllSettled := fun hn =>
    .ret (stable_onWire unit n) fun _ hI h => settled_whole h hI hn
  induction fuel generalizing n with
  | zero => exact hdone (by omega)
  | succ fuel ih =>
    rw [packetBatches]
    split
    · rename_i hempty
      have hle := List.drop_eq_nil_iff.mp hempty
      exact hdone (by omega)
    rename_i hrest
    have hlt : n < unit.packets.length := by
      by_contra hle
      exact hrest (List.drop_eq_nil_iff.mpr (by omega))
    have hbatch : kPacketBatchSize ∣ n := hn.resolve_right (by omega)
    refine .bind readCurrent_wire fun current => .ite (fun _ => ?_) fun hold => ?_
    · -- the batch, and what is left behind it
      have hlength : ((unit.packets.drop n).take kPacketBatchSize).length =
          min kPacketBatchSize (unit.packets.length - n) := by
        rw [List.length_take, List.length_drop]
      refine .bind ((sendBatch_wire ((unit.packets.drop n).take kPacketBatchSize)
        (List.take_prefix _ _)).pre fun _ h => h.1) fun _ => ?_
      rw [hlength]
      have hleft : (unit.packets.drop n).drop kPacketBatchSize =
          unit.packets.drop (n + min kPacketBatchSize (unit.packets.length - n)) := by
        rw [List.drop_drop]
        by_cases hle : kPacketBatchSize ≤ unit.packets.length - n
        · rw [Nat.min_eq_left hle]
        · rw [List.drop_eq_nil_of_le (by omega), List.drop_eq_nil_of_le (by omega)]
      rw [hleft]
      have hsize : kPacketBatchSize = 32 := rfl
      refine ih (by omega) (by omega) ?_ fun hn' => ?_
      · by_cases hle : kPacketBatchSize ≤ unit.packets.length - n
        · left
          rw [Nat.min_eq_left hle]
          exact Nat.dvd_add hbatch (Nat.dvd_refl _)
        · right
          omega
      · exact .ret (stable_onWire unit _) fun _ hI h => settled_whole h hI hn'
    · have hold : current = false := by simpa using hold
      refine Account.pre (P := fun p => OnWire unit n p ∧
        unit.generation < p.1.rtp.rtpQueueGeneration) (.ret ?_ fun _ hI h =>
          settled_cut h.1 hI hbatch h.2) fun _ h => ⟨h.1, h.2 hold⟩
      apply (stable_onWire unit n).and
      rintro ⟨s, wire⟩ ⟨s', wire'⟩ ⟨_, hr⟩ _ h
      exact lt_of_lt_of_le h hr.generation

theorem WireInv.pop (h : WireInv (s, wire)) (hsettled : AllSettled (s, wire)) {queue : RtpQueue}
    (hpop : s.rtp.pop = some (unit, queue)) :
    WireInv ({ s with rtp := queue, flags.rtpInFlight := true }, ⟨unit, 0⟩ :: wire) ∧
      OnWire unit 0 ({ s with rtp := queue, flags.rtpInFlight := true }, ⟨unit, 0⟩ :: wire) := by
  obtain ⟨hdated, hgeneration, hle⟩ := h.queue.pop hpop
  have hpackets : wirePackets (⟨unit, 0⟩ :: wire) = wirePackets wire := by
    rw [wirePackets_cons]
    exact List.append_nil _
  refine ⟨⟨⟨?_, ?_⟩, ?_, ?_, hdated⟩, rfl, ?_⟩
  · rw [hpackets]
    exact h.wire.sent
  · rw [hpackets]
    exact h.wire.sequence
  · intro r hmem
    rcases List.mem_cons.mp hmem with rfl | hmem
    · exact Nat.zero_le _
    · exact h.bounded r hmem
  · exact fun r hmem => (hsettled r hmem).mono hgeneration.ge
  · show unit.generation ≤ queue.rtpQueueGeneration
    rw [hgeneration]
    exact hle

theorem rtpPacerRound_wire :
    wireContract.Account wireNote AllSettled rtpPacerRound fun _ => AllSettled := by
  have hstable : ∀ popped : Option QueuedRTPAccessUnit, wireContract.Stable
      (fun p : State × List WireUnit => (popped = none → AllSettled p) ∧
        ∀ unit, popped = some unit → OnWire unit 0 p) := fun popped p p' hr hI h =>
    ⟨fun e => stable_allSettled p p' hr hI (h.1 e),
      fun unit e => stable_onWire unit 0 p p' hr hI (h.2 unit e)⟩
  refine .bind (.atomic stable_allSettled hstable fun s g hI hs _ => ?_) fun popped => ?_
  · have hrunning : s.rtp.rtpPacerStopping = false := hI.queue.running
    cases hpop : s.rtp.pop with
    | none =>
      simp only [wireNote, Label.pops, hrunning, hpop, if_true]
      exact ⟨hI, trivial, fun _ => hs, fun unit e => by cases e⟩
    | some popped =>
      obtain ⟨unit, queue⟩ := popped
      simp only [wireNote, Label.pops, hrunning, hpop, if_true]
      obtain ⟨hnext, hwire⟩ := hI.pop hs hpop
      refine ⟨hnext, trivial, fun e => (by cases e), fun unit' e => ?_⟩
      obtain rfl := Option.some.inj e
      exact hwire
  · cases popped with
    | none => exact .ret (hstable none) fun _ _ h => h.1 rfl
    | some unit =>
      have hfinish : wireContract.Account wireNote AllSettled
          (write fun s => { s with flags.rtpInFlight := false }) fun _ => AllSettled :=
        wire_silent stable_allSettled (fun _ => stable_allSettled) (fun _ => .apart rfl rfl rfl)
          fun s g _ hs => hs
      refine Account.pre (P := OnWire unit 0) ?_ fun p h => h.2 unit rfl
      refine .bind readCurrent_wire fun current => .ite (fun _ => ?_) fun hold => ?_
      · exact .bind ((sendPacedRTPAccessUnit_wire unit.packets.length (n := 0) (by omega)
          (Nat.zero_le _) (.inl (Nat.dvd_zero _))).pre fun _ h => h.1) fun _ => hfinish
      · have hold : current = false := by simpa using hold
        refine wire_silent ?_ (fun _ => stable_allSettled) (fun _ => .apart rfl rfl rfl)
          fun s g hI h => ?_
        · apply (stable_onWire unit 0).and
          rintro ⟨s, wire⟩ ⟨s', wire'⟩ ⟨_, hr⟩ _ h hold
          exact lt_of_lt_of_le (h hold) hr.generation
        · have hdone := settled_cut h.1 hI (Nat.dvd_zero _) (h.2 hold)
          exact hdone

end

theorem plugin_wire {cfg : PluginConfig} {s : PluginState} (h : (pluginMachine cfg).init s)
    (as : List PluginAction) :
    Pool.Accounted .pacer wireContract wireNote AllSettled ((pluginMachine cfg).run s as)
      (((plugin cfg).stepsOf .pacer s as).foldl wireNote []) := by
  refine (pluginVerified cfg).account (t := .pacer) ?_ stable_allSettled
    (fun _ => rtpPacerRound_wire) ?_ h as ?_
  · rintro s ⟨input, rfl⟩
    exact ⟨⟨⟨rfl, rfl⟩, fun r hr => (by cases hr), fun r hr => (by cases hr),
      ⟨rfl, fun unit hunit => (by cases hunit)⟩⟩, fun r hr => (by cases hr)⟩
  · intro t' ht l s s' g hguar
    have hrely := (threadContract_guar cfg t' hguar).wireRely ht
    exact ⟨⟨rfl, hrely⟩, fun hI => hI.rely hrely⟩
  · generalize (plugin cfg).stepsOf .pacer s as = steps
    generalize ([] : List WireUnit) = g
    induction steps generalizing g with
    | nil => trivial
    | cons x steps ih => exact ⟨trivial, ih _⟩

end MediaCamera
