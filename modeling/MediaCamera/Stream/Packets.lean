import MediaCamera.Ros.Branch

/-!
# H264 access units and RTP packets

* `splitAnnexB`        the NAL units of an access unit, between its start codes;
* `packetize`          the packet loop of `SendH264AccessUnit`: single NAL units and FU-A fragments;
* `RtpQueue` and its locked sections   the queue in front of the RTP pacer thread.

The queue generation is a `Nat` (64 bits in the source).
-/

namespace MediaCamera

/-! ## Annex-B -/

/-- the length of the start code at the head of `data`, or zero -/
def startCodeLength : List UInt8 → Nat
  | 0 :: 0 :: 1 :: _ => 3
  | 0 :: 0 :: 0 :: 1 :: _ => 4
  | _ => 0

def beforeStartCode : List UInt8 → List UInt8 × List UInt8
  | [] => ([], [])
  | b :: rest =>
    if startCodeLength (b :: rest) = 0 then
      (b :: (beforeStartCode rest).1, (beforeStartCode rest).2)
    else ([], b :: rest)

/-- the units of data that starts with a start code; empty units are left out -/
def splitUnits : Nat → List UInt8 → List (List UInt8)
  | 0, _ => []
  | fuel + 1, data =>
    if startCodeLength data = 0 then []
    else
      let payload := beforeStartCode (data.drop (startCodeLength data))
      if payload.1 = [] then splitUnits fuel payload.2
      else payload.1 :: splitUnits fuel payload.2

/-- `SplitAnnexB`; every round of its loop takes a start code, so the length is fuel enough -/
def splitAnnexB (data : List UInt8) : List (List UInt8) :=
  splitUnits data.length (beforeStartCode data).2

def isIDR (nal : List UInt8) : Bool :=
  match nal with
  | [] => false
  | header :: _ => header &&& 0x1f == 5

/-! ## packets -/

def kMaximumRtpPayloadBytes : Nat := 1200
def kMinimumPacedQueueBytes : Nat := 256 * 1024
def kH264PayloadType : UInt8 := 96
def kRtpClockRate : Nat := 90000
def kRtpSSRC : UInt32 := 0x58474332

structure QueuedRTPPacket where
  bytes : List UInt8
  deriving DecidableEq, Repr

def networkBytes (x : UInt32) : List UInt8 :=
  [(x >>> 24).toUInt8, (x >>> 16).toUInt8, (x >>> 8).toUInt8, x.toUInt8]

/-- `AppendRTPPacket`; the sequence number is filled in by the pacer -/
def appendRTPPacket (packets : List QueuedRTPPacket) (payload : List UInt8) (timestamp : UInt32)
    (marker : Bool) : Option (List QueuedRTPPacket) :=
  if payload = [] ∨ kMaximumRtpPayloadBytes < payload.length then none
  else
    some (packets ++ [⟨[0x80, kH264PayloadType ||| (if marker then 0x80 else 0), 0, 0] ++
      networkBytes timestamp ++ networkBytes kRtpSSRC ++ payload⟩])

/-- the fragment loop of one NAL unit, from the bytes behind its header on -/
def appendFragments (timestamp : UInt32) (header : UInt8) (lastNAL : Bool) :
    Nat → Bool → List UInt8 → List QueuedRTPPacket → Option (List QueuedRTPPacket)
  | 0, _, _, packets => some packets
  | fuel + 1, first, rest, packets =>
    if rest = [] then some packets
    else
      let count := min (kMaximumRtpPayloadBytes - 2) rest.length
      let last := count == rest.length
      let fragment := ((header &&& 0xe0) ||| 28) ::
        ((header &&& 0x1f) ||| (if first then 0x80 else 0) ||| (if last then 0x40 else 0)) ::
        rest.take count
      (appendRTPPacket packets fragment timestamp (lastNAL && last)).bind
        (appendFragments timestamp header lastNAL fuel false (rest.drop count))

def appendNAL (timestamp : UInt32) (lastNAL : Bool) (nal : List UInt8)
    (packets : List QueuedRTPPacket) : Option (List QueuedRTPPacket) :=
  match nal with
  | [] => some packets
  | header :: rest =>
    if nal.length ≤ kMaximumRtpPayloadBytes then appendRTPPacket packets nal timestamp lastNAL
    else appendFragments timestamp header lastNAL rest.length true rest packets

/-- the packets of an access unit; `none` where `AppendRTPPacket` refuses one -/
def packetize (timestamp : UInt32) :
    List (List UInt8) → List QueuedRTPPacket → Option (List QueuedRTPPacket)
  | [], packets => some packets
  | nal :: nals, packets =>
    (appendNAL timestamp nals.isEmpty nal packets).bind (packetize timestamp nals)

theorem appendRTPPacket_ne_none {payload : List UInt8} (h : payload ≠ [])
    (hlength : payload.length ≤ kMaximumRtpPayloadBytes) (packets : List QueuedRTPPacket)
    (timestamp : UInt32) (marker : Bool) : appendRTPPacket packets payload timestamp marker ≠ none := by
  rw [appendRTPPacket, if_neg (by simp [h, hlength])]
  simp

theorem bind_ne_none {α β : Type} {x : Option α} {f : α → Option β} (hx : x ≠ none)
    (hf : ∀ a, f a ≠ none) : x.bind f ≠ none := by
  obtain ⟨a, rfl⟩ := Option.ne_none_iff_exists'.mp hx
  exact hf a

theorem appendFragments_ne_none (timestamp : UInt32) (header : UInt8) (lastNAL : Bool) (fuel : Nat)
    (first : Bool) (rest : List UInt8) (packets : List QueuedRTPPacket) :
    appendFragments timestamp header lastNAL fuel first rest packets ≠ none := by
  induction fuel generalizing first rest packets with
  | zero => simp [appendFragments]
  | succ fuel ih =>
    rw [appendFragments]
    split
    · simp
    · -- a fragment is two bytes and at most 1198 of the unit
      have hlength : (rest.take (min (kMaximumRtpPayloadBytes - 2) rest.length)).length + 2 ≤
          kMaximumRtpPayloadBytes := by simp [kMaximumRtpPayloadBytes]
      have happend : ∀ b b' marker, appendRTPPacket packets
          (b :: b' :: rest.take (min (kMaximumRtpPayloadBytes - 2) rest.length)) timestamp
          marker ≠ none := fun b b' marker =>
        appendRTPPacket_ne_none (List.cons_ne_nil b (b' :: _)) hlength packets timestamp marker
      exact bind_ne_none (happend _ _ _) fun _ => ih _ _ _

/-- `SendH264AccessUnit` never finds a payload that `AppendRTPPacket` refuses -/
theorem packetize_ne_none (timestamp : UInt32) (nals : List (List UInt8))
    (packets : List QueuedRTPPacket) : packetize timestamp nals packets ≠ none := by
  induction nals generalizing packets with
  | nil => simp [packetize]
  | cons nal nals ih =>
    have happend : appendNAL timestamp nals.isEmpty nal packets ≠ none := by
      unfold appendNAL
      split
      · simp
      split
      · exact appendRTPPacket_ne_none (List.cons_ne_nil _ _) ‹_› _ _ _
      · exact appendFragments_ne_none _ _ _ _ _ _ _
    exact bind_ne_none happend ih

/-! ## the pacer queue -/

structure QueuedRTPAccessUnit where
  packets : List QueuedRTPPacket
  bytes : Nat
  generation : Nat
  framePeriod : Int
  deriving DecidableEq, Repr

structure RtpQueue where
  rtpQueue : List QueuedRTPAccessUnit
  rtpQueuedBytes : Nat
  rtpQueueGeneration : Nat
  rtpPacerStopping : Bool
  deriving DecidableEq, Repr

/-- `std::llround` of a rational: half away from zero -/
def llround (q : ℚ) : Int := if 0 ≤ q then (q + 1 / 2).floor else -(-q + 1 / 2).floor

/-- the sensor's update rate, at least 0.1 -/
def updateRate (rate : ℚ) : ℚ := max (1 / 10) rate

namespace RtpQueue

def load : RtpQueue := ⟨[], 0, 0, false⟩

/-- `ClearRTPQueue` -/
def clear (q : RtpQueue) : RtpQueue :=
  { q with rtpQueue := [], rtpQueuedBytes := 0, rtpQueueGeneration := q.rtpQueueGeneration + 1 }

def maximumPacedAccessUnitBytes (pacingBitrate : Nat) : Nat :=
  max kMinimumPacedQueueBytes (pacingBitrate / 8)

def totalBytes (packets : List QueuedRTPPacket) : Nat := (packets.map (·.bytes.length)).sum

/-- why `EnqueueRTPAccessUnit` returns false, where it does -/
inductive Refusal where
  | noPackets
  | stopping
  /-- a delta frame finds an access unit queued -/
  | behind
  /-- a delta frame over the latency budget -/
  | oversized
  deriving DecidableEq, Repr

def refusal (pacingBitrate : Nat) (q : RtpQueue) (packets : List QueuedRTPPacket)
    (keyframe : Bool) : Option Refusal :=
  if packets = [] then some .noPackets
  else if q.rtpPacerStopping then some .stopping
  else if keyframe then none
  else if q.rtpQueue ≠ [] then some .behind
  else if maximumPacedAccessUnitBytes pacingBitrate < totalBytes packets then some .oversized
  else none

/-- a keyframe replaces what is queued -/
def makeRoom (q : RtpQueue) : RtpQueue := if q.rtpQueue = [] then q else q.clear

def push (q : RtpQueue) (framePeriod : Int) (packets : List QueuedRTPPacket) : RtpQueue :=
  { q with
    rtpQueuedBytes := q.rtpQueuedBytes + totalBytes packets
    rtpQueue := q.rtpQueue ++ [⟨packets, totalBytes packets, q.rtpQueueGeneration, framePeriod⟩] }

/-- `EnqueueRTPAccessUnit`, with its result and whether it stores `forceKeyframe_` -/
def enqueueRTPAccessUnit (pacingBitrate : Nat) (rate : ℚ) (q : RtpQueue)
    (packets : List QueuedRTPPacket) (keyframe : Bool) : RtpQueue × Bool × Bool :=
  match refusal pacingBitrate q packets keyframe with
  | some .behind => (q.clear, false, true)
  | some .oversized => (q, false, true)
  | some _ => (q, false, false)
  | none => (q.makeRoom.push (max 1 (llround (1000000000 / updateRate rate))) packets, true, false)

theorem enqueueRTPAccessUnit_accepts (pacingBitrate : Nat) (rate : ℚ) (q : RtpQueue)
    (packets : List QueuedRTPPacket) (keyframe : Bool) :
    (enqueueRTPAccessUnit pacingBitrate rate q packets keyframe).2.1 =
      (refusal pacingBitrate q packets keyframe).isNone := by
  unfold enqueueRTPAccessUnit
  cases refusal pacingBitrate q packets keyframe with
  | none => rfl
  | some cause => cases cause <;> rfl

def pop (q : RtpQueue) : Option (QueuedRTPAccessUnit × RtpQueue) :=
  match q.rtpQueue with
  | [] => none
  | unit :: rest =>
    some (unit, { q with rtpQueue := rest, rtpQueuedBytes := q.rtpQueuedBytes - unit.bytes })

/-- the section of `StopRTPPacer` -/
def stop (q : RtpQueue) : RtpQueue := { q.clear with rtpPacerStopping := true }

end RtpQueue

end MediaCamera
