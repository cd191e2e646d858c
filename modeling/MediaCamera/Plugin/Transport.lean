import MediaCamera.Machine.Account
import MediaCamera.Plugin.Verified

/-!
# The transport clock

What the render thread has submitted to NVENC, what NVENC still holds, and what was handed to
`SendH264AccessUnit`.  The timestamp of a frame is computed from `encodedFrameIndex_`, which
survives every encoder and stands still where a submission fails.

* `Transport`, `Transport.note`   the account of the render thread's steps;
* `EchoesNext`                    NVENC's outputs echo the input timestamps in submission order;
* `inputTimestamp_strictMono`     up to 240 frames a second, no two frames share a timestamp;
* `Transport.Inv`                 `pendingEncodedFrames_` is what NVENC holds; what was sent is paired
                                  and lies before it;
* `Clock`, `Taken`                where the timestamps lie between two steps of
                                  `EncodeRenderedFrame`.
-/

namespace MediaCamera

/-! ## the account -/

/-- a frame that was submitted: in which session, under which timestamp, and which render it is -/
structure Submission where
  session : Nat
  inputTimeStamp : Nat
  sourceTimeNanoseconds : Int
  sourceSequence : Nat
  deriving DecidableEq, Repr

/-- a call of `SendH264AccessUnit`: the arguments `timestamp` and `metadata`, and the session and
the untruncated timestamp of the output that it was made for -/
structure SentUnit where
  session : Nat
  outputTimeStamp : Nat
  timestamp : UInt32
  metadata : PendingEncodedFrame
  deriving DecidableEq

/-- `sourceTimeNanoseconds` of the present `EncodeRenderedFrame`; the submissions, newest first;
those of the live session whose output has not come, oldest first; the timestamp of the latest
output; what was sent, newest first -/
structure Transport where
  time : Int
  submitted : List Submission
  nvenc : List Submission
  output : Nat
  sent : List SentUnit
  deriving DecidableEq

def Encoder.sessionIndex (e : Encoder) : Nat := e.session.elim 0 (·.index)

namespace Transport

def load : Transport := ⟨0, [], [], 0, []⟩

/-- `nvEncEncodePicture` -/
def submit (cfg : PluginConfig) (e : Encoder) (h : Transport) : Transport :=
  let frame := ⟨e.sessionIndex, inputTimestamp cfg.updateRate e.encodedFrameIndex, h.time,
    e.sourceFrameSequence⟩
  { h with submitted := frame :: h.submitted, nvenc := h.nvenc ++ [frame] }

def take (timestamp : Nat) (h : Transport) : Transport :=
  { h with nvenc := h.nvenc.tail, output := timestamp }

def send (e : Encoder) (timestamp : UInt32) (metadata : PendingEncodedFrame) (h : Transport) :
    Transport :=
  { h with sent := ⟨e.sessionIndex, h.output, timestamp, metadata⟩ :: h.sent }

/-- the account of the render thread -/
def note (cfg : PluginConfig) (h : Transport) (x : Taken State Label) : Transport :=
  match x.label with
  | .observeSourceTime time => { h with time := time }
  | .takeOutput timestamp => h.take timestamp
  | .sendUnit timestamp metadata => h.send x.before.enc timestamp metadata
  | _ =>
    if x.after.enc.session ≠ x.before.enc.session then { h with nvenc := [] }
    else if x.after.enc.sourceFrameSequence ≠ x.before.enc.sourceFrameSequence then
      h.submit cfg x.before.enc
    else h

end Transport

def Label.output? : Label → Option Nat
  | .takeOutput timestamp => some timestamp
  | _ => none

/-- an output echoes the oldest input timestamp whose output has not come -/
def EchoesNext (l : Label) (s : State × Transport) : Prop :=
  ∀ timestamp ∈ l.output?, s.2.nvenc.head?.map (·.inputTimeStamp) = some timestamp

instance (l : Label) (s : State × Transport) : Decidable (EchoesNext l s) :=
  inferInstanceAs (Decidable (∀ _ ∈ _, _))

/-! ## timestamps -/

theorem llround_lt {p q : ℚ} (hp : 0 ≤ p) (h : p + 1 ≤ q) : llround p < llround q := by
  unfold llround
  rw [if_pos hp, if_pos (by linarith : 0 ≤ q)]
  refine Int.lt_of_add_one_le (Rat.le_floor_iff.mpr ?_)
  have hfloor : ((p + 1 / 2).floor : ℚ) ≤ p + 1 / 2 := Rat.floor_le _
  push_cast
  linarith

theorem llround_nonneg {p : ℚ} (hp : 0 ≤ p) : 0 ≤ llround p := by
  unfold llround
  rw [if_pos hp]
  exact Rat.le_floor_iff.mpr (by push_cast; linarith)

/-- one frame is at least 375 ticks -/
theorem inputTimestamp_strictMono {rate : ℚ} (h : rate ≤ 240) :
    StrictMono (inputTimestamp rate) := by
  have hpos : 0 < updateRate rate := lt_of_lt_of_le (by norm_num) (le_max_left _ _)
  have hle : updateRate rate ≤ 240 := max_le (by norm_num) h
  refine strictMono_nat_of_lt_succ fun n => ?_
  have hnonneg : (0 : ℚ) ≤ n * kRtpClockRate / updateRate rate := by positivity
  have hstep : (n : ℚ) * kRtpClockRate / updateRate rate + 1 ≤
      ((n + 1 : Nat) : ℚ) * kRtpClockRate / updateRate rate := by
    have htick : (1 : ℚ) ≤ kRtpClockRate / updateRate rate := by
      rw [le_div_iff₀ hpos]
      have : (kRtpClockRate : ℚ) = 90000 := by norm_num [kRtpClockRate]
      linarith
    calc (n : ℚ) * kRtpClockRate / updateRate rate + 1
        ≤ n * kRtpClockRate / updateRate rate + kRtpClockRate / updateRate rate := by linarith
      _ = ((n + 1 : Nat) : ℚ) * kRtpClockRate / updateRate rate := by
          push_cast
          ring
  have hlt := llround_lt hnonneg hstep
  have hzero := llround_nonneg hnonneg
  unfold inputTimestamp
  omega

/-! ## the invariant -/

/-- what the encoder's thread sees of the encoder here -/
def Encoder.core (e : Encoder) : Encoder :=
  { e with lastSourceTimeNanoseconds := none, encoderEverInitialized := false, sending := none }

/-- the timestamp and the render of a frame -/
def PendingEncodedFrame.key (f : PendingEncodedFrame) : Nat × Int × Nat :=
  (f.encoderTimestamp, f.sourceTimeNanoseconds, f.sourceSequence)

def Submission.key (r : Submission) : Nat × Int × Nat :=
  (r.inputTimeStamp, r.sourceTimeNanoseconds, r.sourceSequence)

/-- the frame was submitted in the unit's session under the unit's timestamp, and its render is the
unit's -/
structure SentUnit.PairedWith (u : SentUnit) (r : Submission) : Prop where
  session : r.session = u.session
  untruncated : r.inputTimeStamp = u.outputTimeStamp
  timestamp : u.timestamp = UInt32.ofNat r.inputTimeStamp
  sourceTime : r.sourceTimeNanoseconds = u.metadata.sourceTimeNanoseconds
  sourceSequence : r.sourceSequence = u.metadata.sourceSequence

namespace Transport

structure Inv (e : Encoder) (h : Transport) : Prop where
  queue : e.pendingEncodedFrames.map (·.key) = h.nvenc.map (·.key)
  live : ∀ session, e.session = some session → session.index = e.sessions
  dead : e.session = none → h.nvenc = []
  own : ∀ r ∈ h.nvenc, r ∈ h.submitted ∧ r.session = e.sessionIndex
  rising : h.nvenc.Pairwise fun r r' => r.inputTimeStamp < r'.inputTimeStamp
  behind : ∀ u ∈ h.sent, ∀ r ∈ h.nvenc, u.outputTimeStamp < r.inputTimeStamp
  sorted : h.sent.Pairwise fun u u' => u'.outputTimeStamp < u.outputTimeStamp
  paired : ∀ u ∈ h.sent, ∃ r ∈ h.submitted, u.PairedWith r
  once : h.submitted.Pairwise fun r r' =>
    r.session = r'.session → r.inputTimeStamp ≠ r'.inputTimeStamp
  past : ∀ r ∈ h.submitted, r.session ≤ e.sessions

/-- where the timestamps lie: those that were sent before the one of frame `sentBelow`, those of the
live session before the one of frame `submittedBelow`; and how many frames may be pending -/
structure Clock (cfg : PluginConfig) (R : Int → Prop) (sentBelow submittedBelow bound : Nat)
    (e : Encoder) (h : Transport) : Prop where
  sent : ∀ u ∈ h.sent, u.outputTimeStamp < inputTimestamp cfg.updateRate sentBelow
  submitted : e.session ≠ none → ∀ r ∈ h.submitted, r.session = e.sessionIndex →
    r.inputTimeStamp < inputTimestamp cfg.updateRate submittedBelow
  few : e.pendingEncodedFrames.length ≤ bound
  time : R h.time

/-- between two frames -/
def Between (cfg : PluginConfig) (R : Int → Prop) (e : Encoder) : Transport → Prop :=
  Clock cfg R e.encodedFrameIndex e.encodedFrameIndex kMaximumPendingEncodedFrames e

def Submitted (cfg : PluginConfig) (e : Encoder) : Transport → Prop :=
  Clock cfg (fun _ => True) e.encodedFrameIndex (e.encodedFrameIndex + 1)
    (kMaximumPendingEncodedFrames + 1) e

/-- the answer of NVENC for the present frame was handled -/
def Answered (cfg : PluginConfig) (e : Encoder) : Transport → Prop :=
  Clock cfg (fun _ => True) (e.encodedFrameIndex + 1) (e.encodedFrameIndex + 1)
    kMaximumPendingEncodedFrames e

/-- the output under the timestamp was taken, and its metadata is that of its render -/
structure Taken (cfg : PluginConfig) (timestamp : Nat) (metadata : PendingEncodedFrame) (e : Encoder)
    (h : Transport) : Prop where
  answered : Answered cfg e h
  output : h.output = timestamp
  submission : ∃ r ∈ h.submitted, r.session = e.sessionIndex ∧ r.inputTimeStamp = timestamp ∧
    r.sourceTimeNanoseconds = metadata.sourceTimeNanoseconds ∧
    r.sourceSequence = metadata.sourceSequence
  sent : ∀ u ∈ h.sent, u.outputTimeStamp < timestamp
  held : ∀ r ∈ h.nvenc, timestamp < r.inputTimeStamp
  bound : timestamp < inputTimestamp cfg.updateRate (e.encodedFrameIndex + 1)

/-- every timestamp that was sent lies before the present one -/
def Behind (cfg : PluginConfig) (R : Int → Prop) (e : Encoder) (h : Transport) : Prop :=
  (∀ u ∈ h.sent, u.outputTimeStamp < inputTimestamp cfg.updateRate e.encodedFrameIndex) ∧ R h.time

section
variable {cfg : PluginConfig} {R : Int → Prop} {e : Encoder} {h : Transport}

theorem Between.behind (hb : Between cfg R e h) : Behind cfg R e h := ⟨hb.sent, hb.time⟩

theorem Submitted.behind (hs : Submitted cfg e h) : Behind cfg (fun _ => True) e h :=
  ⟨hs.sent, trivial⟩

theorem Clock.any {a b n : Nat} (hc : Clock cfg R a b n e h) : Clock cfg (fun _ => True) a b n e h :=
  ⟨hc.sent, hc.submitted, hc.few, trivial⟩

/-! ## steps -/

theorem Inv.drop (hI : Inv e h) (hb : Behind cfg R e h) :
    Inv { e with session := none, pendingEncodedFrames := [] } { h with nvenc := [] } ∧
      Between cfg R { e with session := none, pendingEncodedFrames := [] } { h with nvenc := [] } :=
  ⟨⟨rfl, nofun, fun _ => rfl, nofun, .nil, nofun, hI.sorted, hI.paired, hI.once, hI.past⟩,
    ⟨hb.1, fun hlive => absurd rfl hlive, Nat.zero_le _, hb.2⟩⟩

theorem Inv.create (hI : Inv e h) (hb : Between cfg R e h) {session : EncoderSession}
    (hindex : session.index = e.sessions + 1) :
    Inv { e with session := some session, sessions := e.sessions + 1, pendingEncodedFrames := [] }
        { h with nvenc := [] } ∧
      Between cfg R
        { e with session := some session, sessions := e.sessions + 1, pendingEncodedFrames := [] }
        { h with nvenc := [] } := by
  refine ⟨⟨rfl, ?_, nofun, nofun, .nil, nofun, hI.sorted, hI.paired, hI.once,
    fun r hr => Nat.le_succ_of_le (hI.past r hr)⟩, hb.sent, fun _ r hr hsession => ?_,
    Nat.zero_le _, hb.time⟩
  · rintro session' hlive
    cases hlive
    exact hindex
  · have hpast := hI.past r hr
    have hsession : r.session = session.index := hsession
    omega

theorem Inv.sessionIndex (hI : Inv e h) (hlive : e.session ≠ none) :
    e.sessionIndex = e.sessions := by
  obtain ⟨session, hsession⟩ := Option.ne_none_iff_exists'.mp hlive
  rw [Encoder.sessionIndex, hsession]
  exact hI.live session hsession

theorem Inv.submit (hrate : cfg.updateRate ≤ 240) (hI : Inv e h) {time : Int}
    (hb : Between cfg (· = time) e h) (hlive : e.session ≠ none) {frame : PendingEncodedFrame}
    (hkey : frame.key = (inputTimestamp cfg.updateRate e.encodedFrameIndex, time,
      e.sourceFrameSequence)) :
    let e' := { e with
      pendingEncodedFrames := e.pendingEncodedFrames ++ [frame]
      sourceFrameSequence := e.sourceFrameSequence + 1 }
    Inv e' (h.submit cfg e) ∧ Submitted cfg e' (h.submit cfg e) := by
  have htime : h.time = time := hb.time
  have hnext : inputTimestamp cfg.updateRate e.encodedFrameIndex <
      inputTimestamp cfg.updateRate (e.encodedFrameIndex + 1) :=
    inputTimestamp_strictMono hrate (Nat.lt_succ_self _)
  have hheld : ∀ r ∈ h.nvenc,
      r.inputTimeStamp < inputTimestamp cfg.updateRate e.encodedFrameIndex := fun r hr =>
    hb.submitted hlive r (hI.own r hr).1 (hI.own r hr).2
  refine ⟨⟨?_, hI.live, fun hnone => absurd hnone hlive, fun r hr => ?_, ?_, fun u hu r hr => ?_,
    hI.sorted, fun u hu => ?_, ?_, fun r hr => ?_⟩, hb.sent, fun _ r hr hsession => ?_, ?_, trivial⟩
  · simp only [Transport.submit, List.map_append, hI.queue, List.map_cons, List.map_nil, hkey,
      ← htime]
    rfl
  · rcases List.mem_append.mp hr with hr | hr
    · exact ⟨List.mem_cons_of_mem _ (hI.own r hr).1, (hI.own r hr).2⟩
    · obtain rfl := List.mem_singleton.mp hr
      exact ⟨List.mem_cons_self, rfl⟩
  · refine List.pairwise_append.mpr ⟨hI.rising, List.pairwise_singleton _ _, fun r hr r' hr' => ?_⟩
    obtain rfl := List.mem_singleton.mp hr'
    exact hheld r hr
  · rcases List.mem_append.mp hr with hr | hr
    · exact hI.behind u hu r hr
    · obtain rfl := List.mem_singleton.mp hr
      exact hb.sent u hu
  · obtain ⟨r, hr, hpaired⟩ := hI.paired u hu
    exact ⟨r, List.mem_cons_of_mem _ hr, hpaired⟩
  · refine List.pairwise_cons.mpr ⟨fun r hr hsession => ?_, hI.once⟩
    exact (hb.submitted hlive r hr hsession.symm).ne'
  · rcases List.mem_cons.mp hr with rfl | hr
    · exact (hI.sessionIndex hlive).le
    · exact hI.past r hr
  · rcases List.mem_cons.mp hr with rfl | hr
    · exact hnext
    · exact (hb.submitted hlive r hr hsession).trans hnext
  · have hfew := hb.few
    simp only [List.length_append, List.length_cons, List.length_nil]
    omega

/-- an output in submission order: the oldest pending frame is its metadata -/
theorem Inv.oldest (hI : Inv e h) {timestamp : Nat}
    (hnext : h.nvenc.head?.map (·.inputTimeStamp) = some timestamp) :
    ∃ frame rest, e.pendingEncodedFrames = frame :: rest ∧ frame.encoderTimestamp = timestamp := by
  have hqueue := hI.queue
  cases hheld : h.nvenc with
  | nil =>
    rw [hheld] at hnext
    cases hnext
  | cons r held =>
    rw [hheld] at hnext hqueue
    obtain ⟨frame, rest, hpending, hkey, -⟩ := List.map_eq_cons_iff.mp hqueue
    refine ⟨frame, rest, hpending, ?_⟩
    have hstamp : frame.encoderTimestamp = r.inputTimeStamp := congrArg Prod.fst hkey
    exact hstamp.trans (Option.some.inj hnext)

theorem Inv.take (hI : Inv e h) (hs : Submitted cfg e h) {frame : PendingEncodedFrame}
    {rest : List PendingEncodedFrame} (hpending : e.pendingEncodedFrames = frame :: rest) :
    Inv { e with pendingEncodedFrames := rest } (h.take frame.encoderTimestamp) ∧
      Taken cfg frame.encoderTimestamp frame { e with pendingEncodedFrames := rest }
        (h.take frame.encoderTimestamp) := by
  have hqueue := hI.queue
  rw [hpending] at hqueue
  obtain ⟨r, held, hheld, hkey, hrest⟩ := List.map_eq_cons_iff.mp hqueue.symm
  have hstamp : r.inputTimeStamp = frame.encoderTimestamp := congrArg Prod.fst hkey
  have hlive : e.session ≠ none := fun hnone => by
    rw [hI.dead hnone] at hheld
    cases hheld
  have hmem : r ∈ h.nvenc := by
    rw [hheld]
    exact List.mem_cons_self
  have hrising := hI.rising
  rw [hheld, List.pairwise_cons] at hrising
  have htail : ∀ r' ∈ held, r' ∈ h.nvenc := fun r' hr' => by
    rw [hheld]
    exact List.mem_cons_of_mem _ hr'
  have hnvenc : (h.take frame.encoderTimestamp).nvenc = held := by
    simp [Transport.take, hheld]
  have hbound : frame.encoderTimestamp < inputTimestamp cfg.updateRate (e.encodedFrameIndex + 1) :=
    hstamp ▸ hs.submitted hlive r (hI.own r hmem).1 (hI.own r hmem).2
  have hsent : ∀ u ∈ h.sent, u.outputTimeStamp < frame.encoderTimestamp := fun u hu =>
    hstamp ▸ hI.behind u hu r hmem
  refine ⟨⟨?_, hI.live, fun hnone => absurd hnone hlive, ?_, ?_, ?_, hI.sorted, hI.paired, hI.once,
    hI.past⟩, ⟨fun u hu => (hsent u hu).trans hbound, hs.submitted, ?_, trivial⟩, rfl,
    ⟨r, (hI.own r hmem).1, (hI.own r hmem).2, hstamp, congrArg (·.2.1) hkey,
      congrArg (·.2.2) hkey⟩, hsent, ?_, hbound⟩
  · rw [hnvenc]
    exact hrest.symm
  · rw [hnvenc]
    exact fun r' hr' => hI.own r' (htail r' hr')
  · rw [hnvenc]
    exact hrising.2
  · rw [hnvenc]
    exact fun u hu r' hr' => hI.behind u hu r' (htail r' hr')
  · have hfew := hs.few
    rw [hpending, List.length_cons] at hfew
    exact Nat.le_of_succ_le_succ hfew
  · rw [hnvenc]
    exact fun r' hr' => hstamp ▸ hrising.1 r' hr'

theorem Inv.send (hI : Inv e h) {timestamp : Nat} {metadata : PendingEncodedFrame}
    (ht : Taken cfg timestamp metadata e h) :
    Inv e (h.send e (UInt32.ofNat timestamp) metadata) ∧
      Answered cfg e (h.send e (UInt32.ofNat timestamp) metadata) := by
  have hcases : ∀ {P : SentUnit → Prop}, P ⟨e.sessionIndex, h.output, UInt32.ofNat timestamp,
      metadata⟩ → (∀ u ∈ h.sent, P u) →
        ∀ u ∈ (h.send e (UInt32.ofNat timestamp) metadata).sent, P u := by
    intro P hnew hold u hu
    rcases List.mem_cons.mp hu with rfl | hu
    · exact hnew
    · exact hold u hu
  obtain ⟨r, hr, hsession, hstamp, htime, hsequence⟩ := ht.submission
  refine ⟨⟨hI.queue, hI.live, hI.dead, hI.own, hI.rising, hcases (fun r' hr' => ?_) hI.behind, ?_,
    hcases ⟨r, hr, hsession, hstamp.trans ht.output.symm, hstamp ▸ rfl, htime, hsequence⟩ hI.paired,
    hI.once, hI.past⟩, hcases ?_ ht.answered.sent, ht.answered.submitted, ht.answered.few, trivial⟩
  · rw [ht.output]
    exact ht.held r' hr'
  · refine List.pairwise_cons.mpr ⟨fun u hu => ?_, hI.sorted⟩
    rw [ht.output]
    exact ht.sent u hu
  · rw [ht.output]
    exact ht.bound

end
end Transport
end MediaCamera
