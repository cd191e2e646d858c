import MediaCamera.Stream.Packets

/-!
# What a receiver makes of the packets of an access unit

* `RtpPacket.parse`    the header fields and the payload of a packet;
* `Depacketizer`       single NAL units and FU-A groups of RFC 6184, as a receiver reads them;
* `Sends`              packets that take the receiver from one state to another;
* `packetization_invertible`   the receiver gets back the NAL units of the access unit.

The receiver is strict: an FU-A group is one start fragment, further fragments of the same
NAL header and one end fragment, never start and end at once, and nothing else in between.
-/

namespace MediaCamera

/-! ## the receiver -/

structure RtpPacket where
  version : UInt8
  padding : Bool
  extension : Bool
  csrcCount : UInt8
  marker : Bool
  payloadType : UInt8
  sequence : UInt8 × UInt8
  timestamp : UInt32
  ssrc : UInt32
  payload : List UInt8
  deriving DecidableEq, Repr

def readNetwork (a b c d : UInt8) : UInt32 :=
  UInt32.ofNat (a.toNat * 2 ^ 24 + b.toNat * 2 ^ 16 + c.toNat * 2 ^ 8 + d.toNat)

/-- the twelve bytes of the header and the payload behind them -/
def RtpPacket.parse : List UInt8 → Option RtpPacket
  | b0 :: b1 :: s0 :: s1 :: t0 :: t1 :: t2 :: t3 :: r0 :: r1 :: r2 :: r3 :: payload =>
    some {
      version := b0 >>> 6
      padding := b0 &&& 0x20 != 0
      extension := b0 &&& 0x10 != 0
      csrcCount := b0 &&& 0x0f
      marker := b1 &&& 0x80 != 0
      payloadType := b1 &&& 0x7f
      sequence := (s0, s1)
      timestamp := readNetwork t0 t1 t2 t3
      ssrc := readNetwork r0 r1 r2 r3
      payload := payload }
  | _ => none

def QueuedRTPPacket.marker? (packet : QueuedRTPPacket) : Option Bool :=
  (RtpPacket.parse packet.bytes).map (·.marker)

/-- what the two bytes at the head of an FU-A payload say -/
structure FragmentHeader where
  start : Bool
  «end» : Bool
  nalHeader : UInt8
  deriving DecidableEq, Repr

/-- the reserved bit of the FU header must be clear -/
def FragmentHeader.parse (indicator fu : UInt8) : Option FragmentHeader :=
  if fu &&& 0x20 != 0 then none
  else some ⟨fu &&& 0x80 != 0, fu &&& 0x40 != 0, (indicator &&& 0xe0) ||| (fu &&& 0x1f)⟩

/-- the units received, and the unit whose fragments are being received -/
structure Depacketizer where
  units : List (List UInt8)
  fragmented : Option (List UInt8)
  deriving DecidableEq, Repr

namespace Depacketizer

def empty : Depacketizer := ⟨[], none⟩

def fragment (d : Depacketizer) (header : FragmentHeader) (bytes : List UInt8) :
    Option Depacketizer :=
  match d.fragmented with
  | none =>
    if header.start && !header.end then
      some { d with fragmented := some (header.nalHeader :: bytes) }
    else none
  | some unit =>
    if header.start || unit.head? != some header.nalHeader then none
    else if header.end then some ⟨d.units ++ [unit ++ bytes], none⟩
    else some { d with fragmented := some (unit ++ bytes) }

def payload (d : Depacketizer) : List UInt8 → Option Depacketizer
  | [] => none
  | header :: rest =>
    if 1 ≤ header &&& 0x1f ∧ header &&& 0x1f ≤ 23 then
      match d.fragmented with
      | none => some { d with units := d.units ++ [header :: rest] }
      | some _ => none
    else if header &&& 0x1f = 28 then
      match rest with
      | fu :: byte :: bytes =>
        (FragmentHeader.parse header fu).bind fun h => d.fragment h (byte :: bytes)
      | _ => none
    else none

def receive (d : Depacketizer) (packet : QueuedRTPPacket) : Option Depacketizer :=
  (RtpPacket.parse packet.bytes).bind fun p => d.payload p.payload

end Depacketizer

/-- the units of a list of packets; `none` where the receiver refuses one or misses an end -/
def depacketize (packets : List QueuedRTPPacket) : Option (List (List UInt8)) :=
  (packets.foldlM Depacketizer.receive .empty).bind fun d =>
    if d.fragmented.isNone then some d.units else none

/-- a NAL unit of type 1 to 23 -/
def IsNAL (nal : List UInt8) : Prop :=
  ∃ header rest, nal = header :: rest ∧ 1 ≤ header &&& 0x1f ∧ header &&& 0x1f ≤ 23

instance : DecidablePred IsNAL
  | [] => .isFalse nofun
  | header :: rest => decidable_of_iff (1 ≤ header &&& 0x1f ∧ header &&& 0x1f ≤ 23)
    ⟨fun h => ⟨header, rest, rfl, h⟩, fun ⟨_, _, he, h⟩ => by cases he; exact h⟩

/-- a packet of the stream: its header fields and the size of its payload -/
def OfStream (timestamp : UInt32) (packet : QueuedRTPPacket) : Prop :=
  ∃ p, RtpPacket.parse packet.bytes = some p ∧ packet.bytes.length = 12 + p.payload.length ∧
    p.version = 2 ∧ p.padding = false ∧ p.extension = false ∧ p.csrcCount = 0 ∧
    p.payloadType = kH264PayloadType ∧ p.timestamp = timestamp ∧ p.ssrc = kRtpSSRC ∧
    1 ≤ p.payload.length ∧ p.payload.length ≤ kMaximumRtpPayloadBytes

/-! ## header bytes -/

theorem forall_uint8 {P : UInt8 → Prop} (h : ∀ n : Fin 256, P (UInt8.ofNat n)) (b : UInt8) :
    P b := by
  have hb := h ⟨b.toNat, b.toNat_lt⟩
  rw [UInt8.ofNat_toNat] at hb
  exact hb

theorem readNetwork_networkBytes (x : UInt32) :
    readNetwork (x >>> 24).toUInt8 (x >>> 16).toUInt8 (x >>> 8).toUInt8 x.toUInt8 = x := by
  have hx := x.toNat_lt
  have h24 : (24 : UInt32).toNat % 32 = 24 := rfl
  have h16 : (16 : UInt32).toNat % 32 = 16 := rfl
  have h8 : (8 : UInt32).toNat % 32 = 8 := rfl
  have hsum : (x >>> 24).toUInt8.toNat * 2 ^ 24 + (x >>> 16).toUInt8.toNat * 2 ^ 16 +
      (x >>> 8).toUInt8.toNat * 2 ^ 8 + x.toUInt8.toNat = x.toNat := by
    simp only [UInt32.toNat_toUInt8, UInt32.toNat_shiftRight, Nat.shiftRight_eq_div_pow, h24, h16,
      h8]
    omega
  rw [readNetwork, hsum, UInt32.ofNat_toNat]

theorem indicator_type (header : UInt8) : ((header &&& 0xe0) ||| 28) &&& 0x1f = 28 := by
  revert header
  apply forall_uint8
  decide +kernel

/-- the two header bytes of a fragment give back the NAL header and the flags -/
theorem FragmentHeader.parse_written (header : UInt8) (first last : Bool) :
    FragmentHeader.parse ((header &&& 0xe0) ||| 28)
      ((header &&& 0x1f) ||| (if first then 0x80 else 0) ||| (if last then 0x40 else 0)) =
      some ⟨first, last, header⟩ := by
  revert header
  apply forall_uint8
  cases first <;> cases last <;> decide +kernel

/-! ## one packet -/

/-- the packet that `AppendRTPPacket` writes -/
def rtpPacket (timestamp : UInt32) (marker : Bool) (payload : List UInt8) : QueuedRTPPacket :=
  ⟨[0x80, kH264PayloadType ||| (if marker then 0x80 else 0), 0, 0] ++ networkBytes timestamp ++
    networkBytes kRtpSSRC ++ payload⟩

theorem appendRTPPacket_eq {payload : List UInt8} (h : payload ≠ [])
    (hlength : payload.length ≤ kMaximumRtpPayloadBytes) (packets : List QueuedRTPPacket)
    (timestamp : UInt32) (marker : Bool) :
    appendRTPPacket packets payload timestamp marker =
      some (packets ++ [rtpPacket timestamp marker payload]) := by
  rw [appendRTPPacket, if_neg (by simp [h, hlength])]
  rfl

theorem parse_rtpPacket (timestamp : UInt32) (marker : Bool) (payload : List UInt8) :
    RtpPacket.parse (rtpPacket timestamp marker payload).bytes =
      some ⟨2, false, false, 0, marker, kH264PayloadType, (0, 0), timestamp, kRtpSSRC, payload⟩ := by
  have hmarker : ((kH264PayloadType ||| (if marker then 0x80 else 0)) &&& 0x80 != 0) = marker ∧
      (kH264PayloadType ||| (if marker then 0x80 else 0)) &&& 0x7f = kH264PayloadType := by
    cases marker <;> decide
  show some (RtpPacket.mk _ _ _ _ _ _ _ _ _ _) = _
  rw [readNetwork_networkBytes, readNetwork_networkBytes, hmarker.1, hmarker.2]
  rfl

theorem ofStream_rtpPacket {payload : List UInt8} (h : payload ≠ [])
    (hlength : payload.length ≤ kMaximumRtpPayloadBytes) (timestamp : UInt32) (marker : Bool) :
    OfStream timestamp (rtpPacket timestamp marker payload) := by
  refine ⟨_, parse_rtpPacket timestamp marker payload, ?_, rfl, rfl, rfl, rfl, rfl, rfl, rfl, ?_,
    hlength⟩
  · show _ = 12 + payload.length
    simp only [rtpPacket, networkBytes, List.length_append, List.length_cons, List.length_nil]
  · exact List.length_pos_iff.mpr h

theorem marker_rtpPacket (timestamp : UInt32) (marker : Bool) (payload : List UInt8) :
    (rtpPacket timestamp marker payload).marker? = some marker := by
  rw [QueuedRTPPacket.marker?, parse_rtpPacket]
  rfl

theorem receive_rtpPacket (d : Depacketizer) (timestamp : UInt32) (marker : Bool)
    (payload : List UInt8) :
    d.receive (rtpPacket timestamp marker payload) = d.payload payload := by
  rw [Depacketizer.receive, parse_rtpPacket]
  rfl

/-! ## runs of packets -/

/-- packets that take the receiver from `d` to `d'`; the last one carries the marker if `marked`,
the others do not -/
structure Sends (timestamp : UInt32) (d : Depacketizer) (packets : List QueuedRTPPacket)
    (marked : Bool) (d' : Depacketizer) : Prop where
  ofStream : ∀ packet ∈ packets, OfStream timestamp packet
  markers : ∃ n, packets.map (·.marker?) = List.replicate n (some false) ++ [some marked]
  received : packets.foldlM Depacketizer.receive d = some d'

namespace Sends

theorem one {timestamp : UInt32} {d d' : Depacketizer} {payload : List UInt8} (marked : Bool)
    (h : payload ≠ []) (hlength : payload.length ≤ kMaximumRtpPayloadBytes)
    (hd : d.payload payload = some d') :
    Sends timestamp d [rtpPacket timestamp marked payload] marked d' where
  ofStream := by
    intro packet hpacket
    rw [List.mem_singleton.mp hpacket]
    exact ofStream_rtpPacket h hlength timestamp marked
  markers := ⟨0, by rw [List.map_singleton, marker_rtpPacket]; rfl⟩
  received := by
    rw [List.foldlM_cons, receive_rtpPacket, hd]
    rfl

theorem append {timestamp : UInt32} {d d' d'' : Depacketizer} {first second : List QueuedRTPPacket}
    {marked : Bool} (h : Sends timestamp d first false d')
    (h' : Sends timestamp d' second marked d'') :
    Sends timestamp d (first ++ second) marked d'' where
  ofStream := by
    intro packet hpacket
    rcases List.mem_append.mp hpacket with hpacket | hpacket
    · exact h.ofStream packet hpacket
    · exact h'.ofStream packet hpacket
  markers := by
    obtain ⟨n, hn⟩ := h.markers
    obtain ⟨m, hm⟩ := h'.markers
    refine ⟨n + 1 + m, ?_⟩
    rw [List.map_append, hn, hm, List.replicate_add, List.replicate_succ']
    simp only [List.append_assoc]
  received := by
    rw [List.foldlM_append, h.received]
    exact h'.received

end Sends

/-! ## one NAL unit -/

/-- the payload of a fragment, as the packet loop writes it -/
def fragmentPayload (header : UInt8) (first last : Bool) (bytes : List UInt8) : List UInt8 :=
  ((header &&& 0xe0) ||| 28) ::
    ((header &&& 0x1f) ||| (if first then 0x80 else 0) ||| (if last then 0x40 else 0)) :: bytes

theorem payload_fragment (d : Depacketizer) (header : UInt8) (first last : Bool)
    {bytes : List UInt8} (h : bytes ≠ []) :
    d.payload (fragmentPayload header first last bytes) =
      d.fragment ⟨first, last, header⟩ bytes := by
  obtain ⟨byte, rest, rfl⟩ := List.exists_cons_of_ne_nil h
  rw [fragmentPayload, Depacketizer.payload, indicator_type, if_neg (by decide), if_pos rfl]
  show Option.bind (FragmentHeader.parse _ _) _ = _
  rw [FragmentHeader.parse_written]
  rfl

theorem fragmentPayload_ne_nil (header : UInt8) (first last : Bool) (bytes : List UInt8) :
    fragmentPayload header first last bytes ≠ [] := List.cons_ne_nil _ _

theorem fragmentPayload_length (header : UInt8) (first last : Bool) {bytes : List UInt8}
    (h : bytes.length ≤ 1198) :
    (fragmentPayload header first last bytes).length ≤ kMaximumRtpPayloadBytes := by
  show bytes.length + 1 + 1 ≤ 1200
  omega

theorem appendFragments_last (timestamp : UInt32) (header : UInt8) (lastNAL : Bool) (fuel : Nat)
    (first : Bool) {rest : List UInt8} (h : rest ≠ []) (hshort : rest.length ≤ 1198)
    (packets : List QueuedRTPPacket) :
    appendFragments timestamp header lastNAL (fuel + 1) first rest packets =
      some (packets ++ [rtpPacket timestamp lastNAL (fragmentPayload header first true rest)]) := by
  have hcount : min (kMaximumRtpPayloadBytes - 2) rest.length = rest.length := by
    show min (1200 - 2) rest.length = rest.length
    omega
  simp only [appendFragments, if_neg h, hcount, List.take_length, List.drop_length,
    beq_self_eq_true, Bool.and_true]
  show Option.bind (appendRTPPacket packets (fragmentPayload header first true rest) timestamp
    lastNAL) _ = _
  rw [appendRTPPacket_eq (fragmentPayload_ne_nil _ _ _ _)
    (fragmentPayload_length header first true hshort), Option.bind_some]
  cases fuel <;> rfl

theorem appendFragments_more (timestamp : UInt32) (header : UInt8) (lastNAL : Bool) (fuel : Nat)
    (first : Bool) {rest : List UInt8} (hlong : 1198 < rest.length)
    (packets : List QueuedRTPPacket) :
    appendFragments timestamp header lastNAL (fuel + 1) first rest packets =
      appendFragments timestamp header lastNAL fuel false (rest.drop 1198) (packets ++
        [rtpPacket timestamp false (fragmentPayload header first false (rest.take 1198))]) := by
  have hcount : min (kMaximumRtpPayloadBytes - 2) rest.length = 1198 := by
    show min (1200 - 2) rest.length = 1198
    omega
  have hflag : ((1198 : Nat) == rest.length) = false := by
    rw [beq_eq_false_iff_ne]
    omega
  have htake : (rest.take 1198).length ≤ 1198 := List.length_take_le _ _
  have hne : rest ≠ [] := List.length_pos_iff.mp (by omega)
  simp only [appendFragments, if_neg hne, hcount, hflag, Bool.and_false]
  show Option.bind (appendRTPPacket packets (fragmentPayload header first false (rest.take 1198))
    timestamp false) _ = _
  rw [appendRTPPacket_eq (fragmentPayload_ne_nil _ _ _ _)
    (fragmentPayload_length header first false htake)]
  rfl

theorem sends_fragment (timestamp : UInt32) {d d' : Depacketizer} (header : UInt8) (first : Bool)
    {rest : List UInt8} (hlong : 1198 < rest.length)
    (hd : d.fragment ⟨first, false, header⟩ (rest.take 1198) = some d') :
    Sends timestamp d [rtpPacket timestamp false
      (fragmentPayload header first false (rest.take 1198))] false d' := by
  have htake : (rest.take 1198).length = 1198 := by
    rw [List.length_take]
    omega
  have hne : rest.take 1198 ≠ [] := List.length_pos_iff.mp (by omega)
  apply Sends.one false (fragmentPayload_ne_nil _ _ _ _)
  · exact fragmentPayload_length header first false (by omega)
  · rw [payload_fragment _ _ _ _ hne]
    exact hd

theorem appendFragments_rest (timestamp : UInt32) (header : UInt8) (lastNAL : Bool) (fuel : Nat)
    (rest : List UInt8) (hrest : rest ≠ []) (hfuel : rest.length ≤ fuel)
    (units : List (List UInt8)) (unit : List UInt8) (hunit : unit.head? = some header)
    (packets : List QueuedRTPPacket) :
    ∃ sent, appendFragments timestamp header lastNAL fuel false rest packets =
        some (packets ++ sent) ∧
      Sends timestamp ⟨units, some unit⟩ sent lastNAL ⟨units ++ [unit ++ rest], none⟩ := by
  induction fuel generalizing rest unit packets with
  | zero => exact absurd (List.length_eq_zero_iff.mp (Nat.le_zero.mp hfuel)) hrest
  | succ fuel ih =>
    by_cases hshort : rest.length ≤ 1198
    · -- the last fragment closes the unit, and the loop ends
      refine ⟨_, appendFragments_last timestamp header lastNAL fuel false hrest hshort packets, ?_⟩
      apply Sends.one lastNAL (fragmentPayload_ne_nil _ _ _ _)
      · exact fragmentPayload_length header false true hshort
      · rw [payload_fragment _ _ _ _ hrest, Depacketizer.fragment]
        simp [hunit]
    · have hlong : 1198 < rest.length := by omega
      have hdrop : (rest.drop 1198).length = rest.length - 1198 := List.length_drop
      obtain ⟨sent, hsent, hsends⟩ := ih (rest.drop 1198) (List.length_pos_iff.mp (by omega))
        (by omega) (unit ++ rest.take 1198) (by rw [List.head?_append, hunit]; rfl)
        (packets ++ [rtpPacket timestamp false (fragmentPayload header false false
          (rest.take 1198))])
      rw [appendFragments_more timestamp header lastNAL fuel false hlong, hsent, List.append_assoc]
      rw [List.append_assoc, List.take_append_drop] at hsends
      refine ⟨_, rfl, Sends.append (sends_fragment timestamp header false hlong ?_) hsends⟩
      rw [Depacketizer.fragment]
      simp [hunit]

/-- one unit: in a packet of its own, or in a group of fragments -/
theorem appendNAL_sends (timestamp : UInt32) (lastNAL : Bool) {nal : List UInt8} (hnal : IsNAL nal)
    (units : List (List UInt8)) (packets : List QueuedRTPPacket) :
    ∃ sent, appendNAL timestamp lastNAL nal packets = some (packets ++ sent) ∧
      Sends timestamp ⟨units, none⟩ sent lastNAL ⟨units ++ [nal], none⟩ := by
  obtain ⟨header, rest, rfl, hlow, hhigh⟩ := hnal
  by_cases hsize : (header :: rest).length ≤ kMaximumRtpPayloadBytes
  · refine ⟨[rtpPacket timestamp lastNAL (header :: rest)], ?_, ?_⟩
    · rw [appendNAL, if_pos hsize]
      exact appendRTPPacket_eq (List.cons_ne_nil _ _) hsize packets timestamp lastNAL
    · apply Sends.one lastNAL (List.cons_ne_nil _ _) hsize
      simp only [Depacketizer.payload, if_pos (And.intro hlow hhigh)]
  · -- a unit over 1200 bytes has more than one fragment
    have hlong : 1200 ≤ rest.length := by
      have hsize' : ¬ rest.length + 1 ≤ 1200 := hsize
      omega
    obtain ⟨fuel, hfuel⟩ := Nat.exists_eq_succ_of_ne_zero (show rest.length ≠ 0 by omega)
    have hmore : 1198 < rest.length := by omega
    have hdrop : (rest.drop 1198).length = rest.length - 1198 := List.length_drop
    obtain ⟨sent, hsent, hsends⟩ := appendFragments_rest timestamp header lastNAL fuel
      (rest.drop 1198) (List.length_pos_iff.mp (by omega)) (by omega) units
      (header :: rest.take 1198) rfl
      (packets ++ [rtpPacket timestamp false (fragmentPayload header true false
        (rest.take 1198))])
    rw [List.cons_append, List.take_append_drop] at hsends
    rw [appendNAL, if_neg hsize, hfuel, appendFragments_more timestamp header lastNAL fuel true
      hmore, hsent, List.append_assoc]
    exact ⟨_, rfl, Sends.append (sends_fragment timestamp header true hmore rfl) hsends⟩

/-! ## the access unit -/

theorem packetize_sends (timestamp : UInt32) (nals : List (List UInt8)) (hne : nals ≠ [])
    (hnals : ∀ nal ∈ nals, IsNAL nal) (units : List (List UInt8))
    (packets : List QueuedRTPPacket) :
    ∃ sent, packetize timestamp nals packets = some (packets ++ sent) ∧
      Sends timestamp ⟨units, none⟩ sent true ⟨units ++ nals, none⟩ := by
  induction nals generalizing units packets with
  | nil => exact absurd rfl hne
  | cons nal nals ih =>
    have hnal := hnals nal List.mem_cons_self
    obtain ⟨sent, hsent, hsends⟩ := appendNAL_sends timestamp nals.isEmpty hnal units packets
    rw [packetize, hsent, Option.bind_some]
    by_cases hlast : nals = []
    · subst hlast
      exact ⟨sent, rfl, hsends⟩
    · obtain ⟨sent', hsent', hsends'⟩ := ih hlast
        (fun nal hnal => hnals nal (List.mem_cons_of_mem _ hnal)) (units ++ [nal]) (packets ++ sent)
      have hmarked : nals.isEmpty = false := by
        rw [List.isEmpty_eq_false_iff]
        exact hlast
      rw [hmarked] at hsends
      refine ⟨sent ++ sent', ?_, ?_⟩
      · rw [hsent', List.append_assoc]
      · rw [List.append_assoc] at hsends'
        exact hsends.append hsends'

/-- the packet loop refuses no unit; every packet belongs to the stream, the last one and no other
carries the marker, and the receiver gets back the units byte for byte -/
theorem packetization_invertible (timestamp : UInt32) (nals : List (List UInt8)) (hne : nals ≠ [])
    (hnals : ∀ nal ∈ nals, IsNAL nal) :
    ∃ packets, packetize timestamp nals [] = some packets ∧
      (∀ packet ∈ packets, OfStream timestamp packet) ∧
      (∃ n, packets.map (·.marker?) = List.replicate n (some false) ++ [some true]) ∧
      depacketize packets = some nals := by
  obtain ⟨packets, hpackets, hsends⟩ := packetize_sends timestamp nals hne hnals [] []
  refine ⟨packets, hpackets, hsends.ofStream, hsends.markers, ?_⟩
  rw [depacketize]
  show Option.bind (List.foldlM Depacketizer.receive ⟨[], none⟩ packets) _ = _
  rw [hsends.received]
  rfl

/-- a parameter set in one packet and a slice of 1301 bytes in two fragments -/
theorem packetization_invertible_slice :
    ∃ packets, packetize 3000 [[0x67, 1], 0x65 :: List.replicate 1300 7] [] = some packets ∧
      (∀ packet ∈ packets, OfStream 3000 packet) ∧
      (∃ n, packets.map (·.marker?) = List.replicate n (some false) ++ [some true]) ∧
      depacketize packets = some [[0x67, 1], 0x65 :: List.replicate 1300 7] := by
  apply packetization_invertible 3000 _ (List.cons_ne_nil _ _)
  intro nal hnal
  rcases List.mem_cons.mp hnal with rfl | hnal
  · exact ⟨0x67, [1], rfl, by decide, by decide⟩
  · rw [List.mem_singleton.mp hnal]
    exact ⟨0x65, List.replicate 1300 7, rfl, by decide, by decide⟩

end MediaCamera
