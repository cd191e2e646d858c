import MediaCamera.Stream.Depacketize
import MediaCamera.Plugin.System

/-!
# Packets under their sequence numbers

* `numberFrom n packets`   the packets under the numbers from `n` on, modulo 2^16;
* `parse_numbered`   the number is all that changes in a packet;
* `Numbered packets sent`  what the receiver reads: the packets in their order, numbered through;
* `depacketize_numberFrom` the receiver gets the same units back, wherever the numbers start;
* `packetize_parses`   every packet of an access unit has its header;
* `Packetized D packets`   the packets of an access unit.
-/

namespace MediaCamera

def numberFrom (n : Nat) : List QueuedRTPPacket → List QueuedRTPPacket
  | [] => []
  | packet :: packets => packet.numbered (n % 65536) :: numberFrom (n + 1) packets

theorem numberFrom_cons (n : Nat) (packet : QueuedRTPPacket) (packets : List QueuedRTPPacket) :
    numberFrom n (packet :: packets) = packet.numbered (n % 65536) :: numberFrom (n + 1) packets :=
  rfl

@[simp] theorem numberFrom_length (n : Nat) (packets : List QueuedRTPPacket) :
    (numberFrom n packets).length = packets.length := by
  induction packets generalizing n with
  | nil => rfl
  | cons packet packets ih => exact congrArg (· + 1) (ih (n + 1))

theorem numberFrom_append (n : Nat) (packets packets' : List QueuedRTPPacket) :
    numberFrom n (packets ++ packets') =
      numberFrom n packets ++ numberFrom (n + packets.length) packets' := by
  induction packets generalizing n with
  | nil => rfl
  | cons packet packets ih =>
    show _ :: numberFrom (n + 1) (packets ++ packets') = _ :: (_ ++ _)
    rw [ih, List.length_cons, Nat.add_assoc, Nat.add_comm 1]

/-- a packet has room for sixteen bits of the number -/
theorem numbered_mod (packet : QueuedRTPPacket) (n : Nat) :
    packet.numbered (n % 65536) = packet.numbered n := by
  have hlow : (n % 65536).toUInt8 = n.toUInt8 := by
    apply UInt8.toNat_inj.mp
    simp only [Nat.toUInt8, UInt8.toNat_ofNat']
    omega
  have hhigh : (n % 65536 / 256).toUInt8 = (n / 256).toUInt8 := by
    apply UInt8.toNat_inj.mp
    simp only [Nat.toUInt8, UInt8.toNat_ofNat']
    omega
  unfold QueuedRTPPacket.numbered
  rw [hlow, hhigh]

theorem numberFrom_mod (n : Nat) (packets : List QueuedRTPPacket) :
    numberFrom (n % 65536) packets = numberFrom n packets := by
  induction packets generalizing n with
  | nil => rfl
  | cons packet packets ih =>
    rw [numberFrom_cons, numberFrom_cons, Nat.mod_mod, ← ih (n % 65536 + 1), Nat.mod_add_mod, ih]

theorem numberFrom_getElem? (n : Nat) (packets : List QueuedRTPPacket) (i : Nat) :
    (numberFrom n packets)[i]? = packets[i]?.map (·.numbered ((n + i) % 65536)) := by
  induction packets generalizing n i with
  | nil => rfl
  | cons packet packets ih =>
    cases i with
    | zero => rfl
    | succ i =>
      rw [numberFrom_cons, List.getElem?_cons_succ, List.getElem?_cons_succ, ih,
        Nat.add_right_comm, Nat.add_assoc]

/-! ## the receiver -/

/-- the number is all that changes in a packet -/
theorem parse_numbered {packet : QueuedRTPPacket} {p : RtpPacket}
    (h : RtpPacket.parse packet.bytes = some p) (n : Nat) :
    RtpPacket.parse (packet.numbered n).bytes =
      some { p with sequence := ((n / 256).toUInt8, n.toUInt8) } := by
  obtain ⟨bytes⟩ := packet
  unfold RtpPacket.parse at h
  split at h
  · rename_i hbytes
    have hbytes : bytes = _ := hbytes
    subst hbytes
    obtain rfl := Option.some.inj h
    rfl
  · cases h

def sequenceBytes (n : Nat) : UInt8 × UInt8 := ((n / 256).toUInt8, n.toUInt8)

/-- the receiver reads the packets in their order, under the numbers from 0 on -/
structure Numbered (packets sent : List QueuedRTPPacket) : Prop where
  length : sent.length = packets.length
  packet : ∀ i packet, packets[i]? = some packet → ∃ p packet',
    RtpPacket.parse packet.bytes = some p ∧ sent[i]? = some packet' ∧
      RtpPacket.parse packet'.bytes = some { p with sequence := sequenceBytes (i % 65536) }

theorem numberFrom_numbered {packets : List QueuedRTPPacket}
    (h : ∀ packet ∈ packets, ∃ p, RtpPacket.parse packet.bytes = some p) :
    Numbered packets (numberFrom 0 packets) := by
  refine ⟨numberFrom_length 0 packets, fun i packet hpacket => ?_⟩
  obtain ⟨p, hp⟩ := h packet (List.mem_of_getElem? hpacket)
  refine ⟨p, packet.numbered (i % 65536), hp, ?_, parse_numbered hp _⟩
  rw [numberFrom_getElem?, hpacket, Nat.zero_add]
  rfl

theorem receive_numbered (d : Depacketizer) (packet : QueuedRTPPacket) (n : Nat) :
    d.receive (packet.numbered n) = d.receive packet := by
  obtain ⟨bytes⟩ := packet
  unfold Depacketizer.receive QueuedRTPPacket.numbered
  rcases bytes with _ | ⟨b0, _ | ⟨b1, _ | ⟨s0, _ | ⟨s1, rest⟩⟩⟩⟩
  case cons.cons.cons.cons =>
    -- with four bytes, what follows them is what it was
    show Option.bind (RtpPacket.parse (b0 :: b1 :: _ :: _ :: rest)) _ =
      Option.bind (RtpPacket.parse (b0 :: b1 :: s0 :: s1 :: rest)) _
    rcases rest with _ | ⟨t0, _ | ⟨t1, _ | ⟨t2, _ | ⟨t3, _ | ⟨r0, _ | ⟨r1, _ | ⟨r2, _ | ⟨r3, rest⟩⟩⟩⟩⟩⟩⟩⟩
    all_goals rfl
  all_goals rfl

theorem depacketize_numberFrom (n : Nat) (packets : List QueuedRTPPacket) :
    depacketize (numberFrom n packets) = depacketize packets := by
  have hreceived : ∀ d : Depacketizer, (numberFrom n packets).foldlM Depacketizer.receive d =
      packets.foldlM Depacketizer.receive d := by
    induction packets generalizing n with
    | nil => exact fun d => rfl
    | cons packet packets ih =>
      intro d
      show List.foldlM _ d (_ :: numberFrom (n + 1) packets) = _
      rw [List.foldlM_cons, List.foldlM_cons, receive_numbered]
      congr 1
      funext d'
      exact ih (n + 1) d'
  unfold depacketize
  rw [hreceived]

/-! ## access units -/

section
variable {timestamp : UInt32} {packets packets' : List QueuedRTPPacket}

theorem appendRTPPacket_parses {payload : List UInt8} {marker : Bool}
    (h : appendRTPPacket packets payload timestamp marker = some packets')
    (hpackets : ∀ packet ∈ packets, ∃ p, RtpPacket.parse packet.bytes = some p) :
    ∀ packet ∈ packets', ∃ p, RtpPacket.parse packet.bytes = some p := by
  unfold appendRTPPacket at h
  split at h
  · cases h
  · obtain rfl := Option.some.inj h
    intro packet hpacket
    rcases List.mem_append.1 hpacket with hpacket | hpacket
    · exact hpackets packet hpacket
    · obtain rfl := List.mem_singleton.1 hpacket
      exact ⟨_, parse_rtpPacket timestamp marker payload⟩

theorem appendFragments_parses {header : UInt8} {lastNAL : Bool} (fuel : Nat) {first : Bool}
    {rest : List UInt8}
    (h : appendFragments timestamp header lastNAL fuel first rest packets = some packets')
    (hpackets : ∀ packet ∈ packets, ∃ p, RtpPacket.parse packet.bytes = some p) :
    ∀ packet ∈ packets', ∃ p, RtpPacket.parse packet.bytes = some p := by
  induction fuel generalizing first rest packets with
  | zero =>
    obtain rfl := Option.some.inj h
    exact hpackets
  | succ fuel ih =>
    unfold appendFragments at h
    by_cases hrest : rest = []
    · rw [if_pos hrest] at h
      obtain rfl := Option.some.inj h
      exact hpackets
    · rw [if_neg hrest] at h
      obtain ⟨appended, happend, h⟩ := Option.bind_eq_some_iff.1 h
      exact ih h (appendRTPPacket_parses happend hpackets)

theorem appendNAL_parses {lastNAL : Bool} {nal : List UInt8}
    (h : appendNAL timestamp lastNAL nal packets = some packets')
    (hpackets : ∀ packet ∈ packets, ∃ p, RtpPacket.parse packet.bytes = some p) :
    ∀ packet ∈ packets', ∃ p, RtpPacket.parse packet.bytes = some p := by
  unfold appendNAL at h
  split at h
  · obtain rfl := Option.some.inj h
    exact hpackets
  · split at h
    · exact appendRTPPacket_parses h hpackets
    · exact appendFragments_parses _ h hpackets

/-- every packet of `SendH264AccessUnit` has its header -/
theorem packetize_parses {nals : List (List UInt8)}
    (h : packetize timestamp nals packets = some packets')
    (hpackets : ∀ packet ∈ packets, ∃ p, RtpPacket.parse packet.bytes = some p) :
    ∀ packet ∈ packets', ∃ p, RtpPacket.parse packet.bytes = some p := by
  induction nals generalizing packets with
  | nil =>
    obtain rfl := Option.some.inj h
    exact hpackets
  | cons nal nals ih =>
    obtain ⟨appended, happend, h⟩ := Option.bind_eq_some_iff.1 h
    exact ih h (appendNAL_parses happend hpackets)

end

/-- the packets of the NAL units of an access unit, of which `D` holds -/
def Packetized (D : List UInt8 → Prop) (packets : List QueuedRTPPacket) : Prop :=
  ∃ timestamp data, D data ∧ splitAnnexB data ≠ [] ∧
    packetize timestamp (splitAnnexB data) [] = some packets

theorem Packetized.parses {D : List UInt8 → Prop} {packets : List QueuedRTPPacket}
    (h : Packetized D packets) : ∀ packet ∈ packets, ∃ p, RtpPacket.parse packet.bytes = some p := by
  obtain ⟨timestamp, data, _, _, hpackets⟩ := h
  exact packetize_parses hpackets fun packet hpacket => by cases hpacket

/-- the receiver reads the units of the access unit, wherever it stands in the stream -/
theorem Packetized.received {D : List UInt8 → Prop} {packets : List QueuedRTPPacket}
    (h : Packetized D packets) : ∃ data, D data ∧
      ((∀ nal ∈ splitAnnexB data, IsNAL nal) →
        ∀ n, depacketize (numberFrom n packets) = some (splitAnnexB data)) := by
  obtain ⟨timestamp, data, hD, hne, hpackets⟩ := h
  refine ⟨data, hD, fun hnals n => ?_⟩
  obtain ⟨_, hpackets', hsends⟩ := packetize_sends timestamp _ hne hnals [] []
  obtain rfl := Option.some.inj (hpackets.symm.trans hpackets')
  rw [depacketize_numberFrom, depacketize]
  show Option.bind (List.foldlM Depacketizer.receive ⟨[], none⟩ packets) _ = _
  rw [hsends.received]
  rfl

end MediaCamera
