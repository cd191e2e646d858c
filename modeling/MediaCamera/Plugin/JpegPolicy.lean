import MediaCamera.Plugin.System

/-!
# The JPEG policy of snapshots

`Load` selects the encoder once, `SnapshotEncoderLoop` serves one capture after the other, and a
fuse between them remembers a hardware error.

* `loadJpegWorker`     the selection of `Load`: whether the hardware module is opened, and the
                       worker, unless `Load` refuses;
* `JpegWorker.round`   one round of `SnapshotEncoderLoop`, with the encoder calls it makes;
* `JpegWorker.serve`   the rounds of a sequence of captures;
* `SnapshotJpegHardware.encode`, `encodeSnapshotJpegCPU`   the two encoders, around what the
                       hardware module and libjpeg answer.
-/

namespace MediaCamera

/-! ## the policy -/

inductive SnapshotJpegPolicy where
  | auto
  | hardware
  | cpu
  deriving DecidableEq, Repr

def parseSnapshotJpegPolicy (value : String) : Option SnapshotJpegPolicy :=
  if value = "auto" then some .auto
  else if value = "hardware" then some .hardware
  else if value = "cpu" then some .cpu
  else none

structure SnapshotJpegBackendDecision where
  available : Bool
  useHardware : Bool
  allowCPUFallback : Bool
  backend : String
  hardwareState : String
  error : String
  deriving DecidableEq, Repr

/-- `CPUBackendName`, with libjpeg-turbo -/
def cpuBackendName : String := "libjpeg-turbo"

def selectSnapshotJpegBackend (policy : SnapshotJpegPolicy) (hardwareAvailable : Bool)
    (hardwareBackend : String) : SnapshotJpegBackendDecision :=
  if policy = .cpu then ⟨true, false, false, cpuBackendName, "not-requested", ""⟩
  else if hardwareAvailable then
    ⟨true, true, policy == .auto, hardwareBackend, "available", ""⟩
  else if policy = .hardware then
    ⟨false, false, false, "unavailable", "unavailable",
      "snapshot JPEG policy requires a hardware backend, but none passed runtime preflight"⟩
  else ⟨true, false, true, cpuBackendName, "unavailable", ""⟩

/-! ## the encoders -/

inductive HardwareOpening where
  | failed (error : String)
  | opened (backend : String)
  deriving DecidableEq

/-- `SnapshotJpegHardwareBackend` -/
structure SnapshotJpegHardware where
  /-- `encoderStorage_` is set -/
  encoderOpen : Bool
  backend : String
  error : String
  deriving DecidableEq

def SnapshotJpegHardware.closed : SnapshotJpegHardware := ⟨false, "", ""⟩

def SnapshotJpegHardware.opening : HardwareOpening → SnapshotJpegHardware
  | .failed error => ⟨false, "", error⟩
  | .opened backend => ⟨true, backend, ""⟩

/-- what `encode_rgb` of the hardware module answers -/
structure HardwareOutcome where
  status : Int
  jpeg : Option (List UInt8)
  error : String
  deriving DecidableEq

/-- the checks of `Encode` on the image of the module -/
def HardwareOutcome.image? (outcome : HardwareOutcome) : Option (List UInt8) :=
  outcome.jpeg.filter fun jpeg => outcome.status = 0 ∧ 4 ≤ jpeg.length ∧
    jpeg.length ≤ 32 * 2 ^ 20 ∧ jpeg.take 2 = [0xff, 0xd8] ∧
    jpeg.drop (jpeg.length - 2) = [0xff, 0xd9]

/-- `SnapshotJpegHardwareBackend::Encode` -/
def SnapshotJpegHardware.encode (hardware : SnapshotJpegHardware) (outcome : HardwareOutcome) :
    JpegResult :=
  if !hardware.encoderOpen then ⟨[], hardware.backend, "hardware JPEG backend is not open"⟩
  else
    match outcome.image? with
    | none =>
      ⟨[], hardware.backend, if outcome.error ≠ "" then outcome.error
        else "hardware JPEG backend returned an invalid image"⟩
    | some jpeg => ⟨jpeg, hardware.backend, ""⟩

/-- `EncodeSnapshotJpegCPU`; `outcome` is the image of libjpeg, `none` where it jumps out -/
def encodeSnapshotJpegCPU (rgb : List UInt8) (width height : Nat) (quality : Int)
    (outcome : Option (List UInt8)) : JpegResult :=
  if rgb = [] ∨ width = 0 ∨ height = 0 ∨ 8192 < width ∨ 8192 < height ∨ quality < 1 ∨
      100 < quality ∨ (2 ^ 64 - 1) / height / 3 < width ∨ rgb.length ≠ width * height * 3 then
    ⟨[], cpuBackendName, "snapshot RGB input is invalid"⟩
  else
    match outcome with
    | none => ⟨[], cpuBackendName, "libjpeg could not encode the snapshot"⟩
    | some bytes => ⟨bytes, cpuBackendName, ""⟩

/-! ## the worker -/

structure JpegWorker where
  snapshotJpegPolicy : SnapshotJpegPolicy
  snapshotJpegBackend : SnapshotJpegBackendDecision
  snapshotJpegHardware : SnapshotJpegHardware
  snapshotJpegHardwarePreflightError : String
  snapshotJpegHardwareFusedOff : Bool
  deriving DecidableEq

/-- the selection of `Load`: whether it opens the hardware module, and the worker; `none` where
`Load` refuses -/
def loadJpegWorker (policy : SnapshotJpegPolicy) (opening : HardwareOpening) :
    Bool × Option JpegWorker :=
  let opens := policy != .cpu
  let hardware := if opens then .opening opening else .closed
  let hardwareAvailable := opens && hardware.encoderOpen
  let decision := selectSnapshotJpegBackend policy hardwareAvailable
    (if hardwareAvailable then hardware.backend else "nvjpeg-cuda")
  (opens, if decision.available then some ⟨policy, decision, hardware, hardware.error, false⟩
    else none)

inductive JpegEncoder where
  | hardware
  | cpu
  deriving DecidableEq, Repr

structure JpegCall where
  encoder : JpegEncoder
  rgb : List UInt8
  width : Nat
  height : Nat
  quality : Int
  answer : JpegResult
  deriving DecidableEq

/-- a job of `QueueSnapshotEncode`, and what the encoders would answer -/
structure JpegCapture where
  job : SnapshotResult
  /-- `CaptureSnapshot` queues no failed result -/
  fresh : job.failed = false
  hardware : HardwareOutcome
  cpu : Option (List UInt8)

/-- what a round was given, whom it called, and what it delivers -/
structure JpegRecord where
  job : SnapshotResult
  calls : List JpegCall
  result : SnapshotResult
  deriving DecidableEq

namespace JpegWorker

def hardwareCall (w : JpegWorker) (c : JpegCapture) : JpegCall :=
  ⟨.hardware, c.job.rgb, c.job.width, c.job.height, c.job.jpegQuality,
    w.snapshotJpegHardware.encode c.hardware⟩

def cpuCall (c : JpegCapture) : JpegCall :=
  ⟨.cpu, c.job.rgb, c.job.width, c.job.height, c.job.jpegQuality,
    encodeSnapshotJpegCPU c.job.rgb c.job.width c.job.height c.job.jpegQuality c.cpu⟩

def result (w : JpegWorker) (job : SnapshotResult) (fallbackReason : String)
    (encoded : JpegResult) : SnapshotResult :=
  let failed := encoded.error != "" || encoded.bytes.isEmpty
  { job with
    jpegBackend := encoded.backend
    jpegFallbackReason :=
      if w.snapshotJpegPolicy = .auto ∧ w.snapshotJpegBackend.hardwareState = "unavailable" then
        preflightReason fallbackReason (some w.snapshotJpegHardwarePreflightError)
      else fallbackReason
    jpeg := encoded.bytes
    rgb := if job.includeRGB then job.rgb else []
    failed := failed || job.failed
    error := if !failed then job.error
      else if encoded.error = "" then "camera snapshot JPEG encoding failed" else encoded.error
    completed := true }

/-- one round of `SnapshotEncoderLoop` -/
def round (w : JpegWorker) (c : JpegCapture) : JpegWorker × JpegRecord :=
  let tryHardware := w.snapshotJpegBackend.useHardware && !w.snapshotJpegHardwareFusedOff
  let hardware := w.hardwareCall c
  let hardwareFailed := tryHardware && hardware.answer.error != ""
  if !tryHardware || (hardwareFailed && w.snapshotJpegBackend.allowCPUFallback) then
    let reason := if hardwareFailed then
        "hardware JPEG backend failed and was fused off: " ++ hardware.answer.error
      else c.job.jpegFallbackReason
    ({ w with
        snapshotJpegHardwareFusedOff := w.snapshotJpegHardwareFusedOff || hardwareFailed },
      ⟨c.job, (if tryHardware then [hardware] else []) ++ [cpuCall c],
        w.result c.job reason (cpuCall c).answer⟩)
  else (w, ⟨c.job, [hardware], w.result c.job c.job.jpegFallbackReason hardware.answer⟩)

def serve : JpegWorker → List JpegCapture → List JpegRecord
  | _, [] => []
  | w, c :: captures => (w.round c).2 :: serve (w.round c).1 captures

end JpegWorker

/-! ## the encoders -/

theorem HardwareOutcome.image?_ne_nil {outcome : HardwareOutcome} {jpeg : List UInt8}
    (h : outcome.image? = some jpeg) : jpeg ≠ [] := by
  have hchecks := (Option.filter_eq_some_iff.1 h).2
  rw [decide_eq_true_iff] at hchecks
  rintro rfl
  exact absurd hchecks.2.1 (by decide)

theorem SnapshotJpegHardware.encode_answers (hardware : SnapshotJpegHardware)
    (outcome : HardwareOutcome) :
    (hardware.encode outcome).backend = hardware.backend ∧
      ((hardware.encode outcome).error ≠ "" ↔ (hardware.encode outcome).bytes = []) := by
  unfold SnapshotJpegHardware.encode
  cases hopen : hardware.encoderOpen with
  | false => exact ⟨rfl, iff_of_true (show "hardware JPEG backend is not open" ≠ "" by decide) rfl⟩
  | true =>
    rw [if_neg (by decide)]
    cases himage : outcome.image? with
    | some jpeg =>
      exact ⟨rfl, iff_of_false (not_not.2 rfl) (HardwareOutcome.image?_ne_nil himage)⟩
    | none =>
      refine ⟨rfl, iff_of_true ?_ rfl⟩
      by_cases herror : outcome.error ≠ ""
      · rw [if_pos herror]
        exact herror
      · rw [if_neg herror]
        show "hardware JPEG backend returned an invalid image" ≠ ""
        decide

theorem encodeSnapshotJpegCPU_answers (rgb : List UInt8) (width height : Nat) (quality : Int)
    (outcome : Option (List UInt8)) :
    (encodeSnapshotJpegCPU rgb width height quality outcome).backend = cpuBackendName ∧
      ((encodeSnapshotJpegCPU rgb width height quality outcome).error ≠ "" →
        (encodeSnapshotJpegCPU rgb width height quality outcome).bytes = []) := by
  unfold encodeSnapshotJpegCPU
  split
  · exact ⟨rfl, fun _ => rfl⟩
  · cases outcome with
    | none => exact ⟨rfl, fun _ => rfl⟩
    | some bytes => exact ⟨rfl, fun h => absurd rfl h⟩

/-! ## one round -/

def JpegWorker.nameOf (w : JpegWorker) : JpegEncoder → String
  | .hardware => w.snapshotJpegHardware.backend
  | .cpu => cpuBackendName

structure JpegCall.Of (job : SnapshotResult) (call : JpegCall) : Prop where
  rgb : call.rgb = job.rgb
  width : call.width = job.width
  height : call.height = job.height
  quality : call.quality = job.jpegQuality

/-- what is delivered is what the last called encoder answered -/
structure JpegRecord.Delivers (w : JpegWorker) (r : JpegRecord) (call : JpegCall) : Prop where
  last : r.calls.getLast? = some call
  jpeg : r.result.jpeg = call.answer.bytes
  backend : r.result.jpegBackend = w.nameOf call.encoder
  failed : r.result.failed = true ↔ call.answer.error ≠ "" ∨ call.answer.bytes = []

/-- a record of which nothing but its frame and its flags is used -/
structure JpegRecord.Sound (w : JpegWorker) (r : JpegRecord) : Prop where
  delivers : ∃ call, r.Delivers w call
  failed : r.result.failed = true ↔ r.result.jpeg = []
  rgb : r.result.rgb = if r.job.includeRGB then r.job.rgb else []
  frame : ∀ call ∈ r.calls, call.Of r.job
  completed : r.result.completed = true

namespace JpegWorker

section
variable (w : JpegWorker) (c : JpegCapture)

theorem hardwareCall_of : (w.hardwareCall c).Of c.job := ⟨rfl, rfl, rfl, rfl⟩

theorem cpuCall_of : (cpuCall c).Of c.job := ⟨rfl, rfl, rfl, rfl⟩

theorem result_failed (reason : String) (encoded : JpegResult) :
    (w.result c.job reason encoded).failed = true ↔ encoded.error ≠ "" ∨ encoded.bytes = [] := by
  show ((encoded.error != "" || encoded.bytes.isEmpty) || c.job.failed) = true ↔ _
  rw [c.fresh]
  simp

theorem delivers {calls : List JpegCall} {call : JpegCall} (reason : String)
    (hlast : calls.getLast? = some call) (hname : call.answer.backend = w.nameOf call.encoder) :
    (⟨c.job, calls, w.result c.job reason call.answer⟩ : JpegRecord).Delivers w call where
  last := hlast
  jpeg := rfl
  backend := hname
  failed := w.result_failed c reason call.answer

theorem sound {calls : List JpegCall} {call : JpegCall} (reason : String)
    (hlast : calls.getLast? = some call) (hname : call.answer.backend = w.nameOf call.encoder)
    (hanswer : call.answer.error ≠ "" → call.answer.bytes = [])
    (hframe : ∀ call ∈ calls, call.Of c.job) :
    (⟨c.job, calls, w.result c.job reason call.answer⟩ : JpegRecord).Sound w where
  delivers := ⟨call, w.delivers c reason hlast hname⟩
  failed := by
    rw [w.result_failed c reason call.answer]
    exact ⟨fun h => h.elim hanswer id, .inr⟩
  rgb := rfl
  frame := hframe
  completed := rfl

theorem cpuCall_name : (cpuCall c).answer.backend = w.nameOf .cpu :=
  (encodeSnapshotJpegCPU_answers _ _ _ _ _).1

theorem hardwareCall_name : (w.hardwareCall c).answer.backend = w.nameOf .hardware :=
  (SnapshotJpegHardware.encode_answers _ _).1

theorem round_sound : (w.round c).2.Sound w := by
  have hcpu := (encodeSnapshotJpegCPU_answers c.job.rgb c.job.width c.job.height c.job.jpegQuality
    c.cpu).2
  have hhardware := (SnapshotJpegHardware.encode_answers w.snapshotJpegHardware c.hardware).2
  unfold round
  dsimp only
  split
  · apply w.sound c _ (List.getLast?_concat ..) (w.cpuCall_name c) hcpu
    intro call hcall
    rcases List.mem_append.1 hcall with hcall | hcall
    · split at hcall
      · obtain rfl := List.mem_singleton.1 hcall
        exact w.hardwareCall_of c
      · cases hcall
    · obtain rfl := List.mem_singleton.1 hcall
      exact cpuCall_of c
  · apply w.sound c _ rfl (w.hardwareCall_name c) hhardware.1
    intro call hcall
    obtain rfl := List.mem_singleton.1 hcall
    exact w.hardwareCall_of c

theorem round_fuse : ∃ fused, (w.round c).1 = { w with snapshotJpegHardwareFusedOff := fused } := by
  unfold round
  dsimp only
  split
  · exact ⟨_, rfl⟩
  · exact ⟨w.snapshotJpegHardwareFusedOff, rfl⟩

/-- without hardware, or after the fuse has blown, the CPU encoder is called alone -/
theorem round_cpu (h : (w.snapshotJpegBackend.useHardware && !w.snapshotJpegHardwareFusedOff) =
    false) : (w.round c).2.calls = [cpuCall c] ∧ (w.round c).1 = w := by
  unfold round
  dsimp only
  rw [h]
  exact ⟨rfl, by simp⟩

theorem round_hardware (huse : w.snapshotJpegBackend.useHardware = true)
    (hstrict : w.snapshotJpegBackend.allowCPUFallback = false)
    (hfuse : w.snapshotJpegHardwareFusedOff = false) :
    (w.round c).2.calls = [w.hardwareCall c] ∧ (w.round c).1 = w := by
  unfold round
  dsimp only
  rw [huse, hstrict, hfuse]
  rw [if_neg (by simp)]
  exact ⟨rfl, rfl⟩

theorem round_fallback (huse : w.snapshotJpegBackend.useHardware = true)
    (hallow : w.snapshotJpegBackend.allowCPUFallback = true)
    (hfuse : w.snapshotJpegHardwareFusedOff = false)
    (herror : (w.hardwareCall c).answer.error ≠ "") :
    (w.round c).2 = ⟨c.job, [w.hardwareCall c, cpuCall c], w.result c.job
        ("hardware JPEG backend failed and was fused off: " ++ (w.hardwareCall c).answer.error)
        (cpuCall c).answer⟩ ∧
      (w.round c).1.snapshotJpegHardwareFusedOff = true := by
  unfold round
  dsimp only
  have hne : ((w.hardwareCall c).answer.error != "") = true := by simpa using herror
  rw [huse, hallow, hfuse, hne]
  exact ⟨rfl, rfl⟩

theorem round_success (huse : w.snapshotJpegBackend.useHardware = true)
    (hfuse : w.snapshotJpegHardwareFusedOff = false)
    (herror : (w.hardwareCall c).answer.error = "") :
    (w.round c).2.calls = [w.hardwareCall c] ∧ (w.round c).1 = w := by
  unfold round
  dsimp only
  have hne : ((w.hardwareCall c).answer.error != "") = false := by simpa using herror
  rw [huse, hfuse, hne]
  exact ⟨rfl, rfl⟩

end

end JpegWorker

/-! ## the captures of a run -/

theorem JpegRecord.Sound.of_backend {w w' : JpegWorker} {r : JpegRecord}
    (h : w'.snapshotJpegHardware = w.snapshotJpegHardware) (hr : r.Sound w') : r.Sound w := by
  obtain ⟨call, hlast, hjpeg, hbackend, hfailed⟩ := hr.delivers
  have hname : w'.nameOf call.encoder = w.nameOf call.encoder := by
    cases call.encoder with
    | hardware => exact congrArg (·.backend) h
    | cpu => rfl
  exact ⟨⟨call, hlast, hjpeg, hbackend.trans hname, hfailed⟩, hr.failed, hr.rgb, hr.frame,
    hr.completed⟩

namespace JpegWorker

theorem serve_sound (captures : List JpegCapture) :
    ∀ w : JpegWorker, ∀ r ∈ w.serve captures, r.Sound w := by
  induction captures with
  | nil =>
    intro w r hr
    cases hr
  | cons c captures ih =>
    intro w r hr
    rcases List.mem_cons.1 hr with rfl | hr
    · exact w.round_sound c
    · obtain ⟨fused, hfuse⟩ := w.round_fuse c
      apply (ih (w.round c).1 r hr).of_backend
      rw [hfuse]

theorem serve_jobs (captures : List JpegCapture) :
    ∀ w : JpegWorker, (w.serve captures).map (·.job) = captures.map (·.job) := by
  induction captures with
  | nil =>
    intro w
    rfl
  | cons c captures ih =>
    intro w
    have hjob : (w.round c).2.job = c.job := by
      unfold round
      dsimp only
      split
      · rfl
      · rfl
    show (w.round c).2.job :: (serve (w.round c).1 captures).map (·.job) = _
    rw [hjob, ih (w.round c).1]
    rfl

theorem serve_cpu (captures : List JpegCapture) {w : JpegWorker}
    (h : (w.snapshotJpegBackend.useHardware && !w.snapshotJpegHardwareFusedOff) = false) :
    ∀ r ∈ w.serve captures, ∀ call ∈ r.calls, call.encoder = .cpu := by
  induction captures with
  | nil =>
    intro r hr
    cases hr
  | cons c captures ih =>
    obtain ⟨hcalls, hsame⟩ := w.round_cpu c h
    intro r hr call hcall
    rcases List.mem_cons.1 hr with rfl | hr
    · rw [hcalls] at hcall
      obtain rfl := List.mem_singleton.1 hcall
      rfl
    · rw [hsame] at hr
      exact ih r hr call hcall

theorem serve_hardware (captures : List JpegCapture) {w : JpegWorker}
    (huse : w.snapshotJpegBackend.useHardware = true)
    (hstrict : w.snapshotJpegBackend.allowCPUFallback = false)
    (hfuse : w.snapshotJpegHardwareFusedOff = false) :
    ∀ r ∈ w.serve captures, ∃ call, r.calls = [call] ∧ call.encoder = .hardware := by
  induction captures with
  | nil =>
    intro r hr
    cases hr
  | cons c captures ih =>
    obtain ⟨hcalls, hsame⟩ := w.round_hardware c huse hstrict hfuse
    intro r hr
    rcases List.mem_cons.1 hr with rfl | hr
    · exact ⟨w.hardwareCall c, hcalls, rfl⟩
    · rw [hsame] at hr
      exact ih r hr

/-- what the record of a hardware error under the fallback says -/
structure Refuge (w : JpegWorker) (r : JpegRecord) (call : JpegCall) : Prop where
  retried : ∃ retry, r.calls = [call, retry] ∧ retry.encoder = .cpu ∧ r.Delivers w retry
  reason : r.result.jpegFallbackReason =
    "hardware JPEG backend failed and was fused off: " ++ call.answer.error

/-- a worker with the fallback, up to its first hardware error and after it -/
theorem serve_fallback (captures : List JpegCapture) {w : JpegWorker}
    (huse : w.snapshotJpegBackend.useHardware = true)
    (hallow : w.snapshotJpegBackend.allowCPUFallback = true)
    (hstate : w.snapshotJpegBackend.hardwareState ≠ "unavailable") {before after : List JpegRecord}
    {r : JpegRecord} (hrecords : w.serve captures = before ++ r :: after) {call : JpegCall}
    (hcall : call ∈ r.calls) (hencoder : call.encoder = .hardware)
    (herror : call.answer.error ≠ "") :
    w.Refuge r call ∧ ∀ r' ∈ after, ∀ call' ∈ r'.calls, call'.encoder = .cpu := by
  have hmem : r ∈ w.serve captures := by
    rw [hrecords]
    simp
  cases hfuse : w.snapshotJpegHardwareFusedOff with
  | true =>
    have hcpu := serve_cpu captures (by rw [huse, hfuse]; rfl) r hmem call hcall
    rw [hencoder] at hcpu
    cases hcpu
  | false =>
    induction captures generalizing before with
    | nil => cases hmem
    | cons c captures ih =>
      obtain ⟨hhead, htail⟩ | ⟨pre, hbefore, htail⟩ : ((w.round c).2 = r ∧
          serve (w.round c).1 captures = after) ∨ ∃ pre, before = (w.round c).2 :: pre ∧
            serve (w.round c).1 captures = pre ++ r :: after := by
        cases before with
        | nil =>
          obtain ⟨hhead, htail⟩ := List.cons.inj hrecords
          exact .inl ⟨hhead, htail⟩
        | cons first pre =>
          obtain ⟨hhead, htail⟩ := List.cons.inj hrecords
          exact .inr ⟨pre, by rw [← hhead], htail⟩
      · -- the first capture is the one with the error
        by_cases hfirst : (w.hardwareCall c).answer.error = ""
        · obtain ⟨hcalls, _⟩ := w.round_success c huse hfuse hfirst
          rw [← hhead, hcalls] at hcall
          obtain rfl := List.mem_singleton.1 hcall
          exact absurd hfirst herror
        · obtain ⟨hround, hblown⟩ := w.round_fallback c huse hallow hfuse hfirst
          obtain ⟨fused, hrest⟩ := w.round_fuse c
          rw [← hhead, hround] at hcall ⊢
          obtain rfl : call = w.hardwareCall c := by
            rcases List.mem_cons.1 hcall with h | h
            · exact h
            · obtain rfl := List.mem_singleton.1 h
              cases hencoder
          refine ⟨⟨⟨cpuCall c, rfl, rfl, w.delivers c _ rfl (w.cpuCall_name c)⟩, ?_⟩, ?_⟩
          · show (if _ then _ else _ : String) = _
            rw [if_neg fun h => hstate h.2]
          · rw [← htail]
            apply serve_cpu captures
            rw [hblown]
            simp
      · -- the error comes later
        by_cases hfirst : (w.hardwareCall c).answer.error = ""
        · obtain ⟨_, hsame⟩ := w.round_success c huse hfuse hfirst
          rw [hsame] at htail
          apply ih htail
          rw [htail]
          simp
        · obtain ⟨_, hblown⟩ := w.round_fallback c huse hallow hfuse hfirst
          have hcpu := serve_cpu (w := (w.round c).1) captures (by rw [hblown]; simp) r
            (by rw [htail]; simp) call hcall
          rw [hencoder] at hcpu
          cases hcpu

end JpegWorker

/-! ## the policy over a run -/

theorem loadJpegWorker_selects {policy : SnapshotJpegPolicy} {opening : HardwareOpening}
    {w : JpegWorker} (h : (loadJpegWorker policy opening).2 = some w) :
    w.snapshotJpegHardwareFusedOff = false ∧
      (policy = .cpu → w.snapshotJpegBackend.useHardware = false) ∧
      (policy = .hardware → w.snapshotJpegBackend.useHardware = true ∧
        w.snapshotJpegBackend.allowCPUFallback = false) ∧
      (policy = .auto → w.snapshotJpegBackend.useHardware = true →
        w.snapshotJpegBackend.allowCPUFallback = true ∧
          w.snapshotJpegBackend.hardwareState ≠ "unavailable") := by
  cases policy with
  | cpu =>
    obtain rfl := Option.some.inj h
    refine ⟨rfl, fun _ => rfl, ?_, ?_⟩
    · intro e
      cases e
    · intro e
      cases e
  | hardware =>
    cases opening with
    | failed error => cases h
    | opened backend =>
      obtain rfl := Option.some.inj h
      refine ⟨rfl, ?_, fun _ => ⟨rfl, rfl⟩, ?_⟩
      · intro e
        cases e
      · intro e
        cases e
  | auto =>
    cases opening with
    | failed error =>
      obtain rfl := Option.some.inj h
      refine ⟨rfl, ?_, ?_, ?_⟩
      · intro e
        cases e
      · intro e
        cases e
      · intro _ huse
        cases huse
    | opened backend =>
      obtain rfl := Option.some.inj h
      refine ⟨rfl, ?_, ?_, ?_⟩
      · intro e
        cases e
      · intro e
        cases e
      · intro _ _
        exact ⟨rfl, show "available" ≠ "unavailable" by decide⟩

/-- the snapshot JPEG policy over every run: `opens` tells whether `Load` opens the hardware
module, `records` are the captures that the worker `w` serves -/
structure JpegPolicySound (policy : SnapshotJpegPolicy) (opens : Bool) (w : JpegWorker)
    (records : List JpegRecord) : Prop where
  /-- under `cpu` the hardware is neither opened nor called -/
  cpu : policy = .cpu → opens = false ∧
    ∀ r ∈ records, ∀ call ∈ r.calls, call.encoder = .cpu
  /-- under `hardware` every capture is given to the hardware alone, and fails with it -/
  hardware : policy = .hardware → ∀ r ∈ records, ∃ call, r.calls = [call] ∧
    call.encoder = .hardware ∧ r.result.jpeg = call.answer.bytes ∧
    (call.answer.error ≠ "" → r.result.failed = true)
  /-- under `auto` the first hardware error is the last call of the hardware, and its capture is
  encoded again, from the same frame, on the CPU -/
  auto : policy = .auto → ∀ before r after, records = before ++ r :: after →
    ∀ call ∈ r.calls, call.encoder = .hardware → call.answer.error ≠ "" →
      (∀ r' ∈ after, ∀ call' ∈ r'.calls, call'.encoder = .cpu) ∧
      (∃ retry, r.calls = [call, retry] ∧ retry.encoder = .cpu ∧ retry.rgb = call.rgb ∧
        r.result.jpeg = retry.answer.bytes ∧
        (r.result.failed = false ↔ retry.answer.error = "" ∧ retry.answer.bytes ≠ [])) ∧
      r.result.jpegFallbackReason =
        "hardware JPEG backend failed and was fused off: " ++ call.answer.error
  /-- a delivered result is failed iff it has no image, names the encoder of its image, and has
  the frame of the job iff that was asked for -/
  delivered : ∀ r ∈ records, (r.result.failed = true ↔ r.result.jpeg = []) ∧
    (∃ call, r.calls.getLast? = some call ∧ call.rgb = r.job.rgb ∧
      r.result.jpeg = call.answer.bytes ∧ r.result.jpegBackend = w.nameOf call.encoder) ∧
    r.result.rgb = if r.job.includeRGB then r.job.rgb else []

/-- the snapshot JPEG policy is sound, for every policy, preflight and sequence of captures -/
theorem snapshotJpeg_policy (policy : SnapshotJpegPolicy) (opening : HardwareOpening)
    (w : JpegWorker) (hload : (loadJpegWorker policy opening).2 = some w)
    (captures : List JpegCapture) :
    (w.serve captures).map (·.job) = captures.map (·.job) ∧
      JpegPolicySound policy (loadJpegWorker policy opening).1 w (w.serve captures) := by
  obtain ⟨hfuse, hcpu, hhardware, hauto⟩ := loadJpegWorker_selects hload
  have hsound := JpegWorker.serve_sound captures w
  refine ⟨JpegWorker.serve_jobs captures w, ?_, ?_, ?_, ?_⟩
  · rintro rfl
    exact ⟨rfl, JpegWorker.serve_cpu captures (by rw [hcpu rfl]; rfl)⟩
  · intro hpolicy r hr
    obtain ⟨huse, hstrict⟩ := hhardware hpolicy
    obtain ⟨call, hcalls, hencoder⟩ :=
      JpegWorker.serve_hardware captures huse hstrict hfuse r hr
    obtain ⟨last, hlast, hjpeg, _, hfailed⟩ := (hsound r hr).delivers
    obtain rfl : call = last := by
      rw [hcalls] at hlast
      exact Option.some.inj hlast
    exact ⟨call, hcalls, hencoder, hjpeg, fun herror => hfailed.2 (.inl herror)⟩
  · intro hpolicy before r after hrecords call hcall hencoder herror
    have hmem : r ∈ w.serve captures := by
      rw [hrecords]
      simp
    cases huse : w.snapshotJpegBackend.useHardware with
    | false =>
      have := JpegWorker.serve_cpu captures (by rw [huse]; rfl) r hmem call hcall
      rw [hencoder] at this
      cases this
    | true =>
      obtain ⟨hallow, hstate⟩ := hauto hpolicy huse
      obtain ⟨⟨⟨retry, hcalls, hretry, hdelivers⟩, hreason⟩, hafter⟩ :=
        JpegWorker.serve_fallback captures huse hallow hstate hrecords hcall hencoder herror
      have hframe := (hsound r hmem).frame
      have hretryframe := hframe retry (by rw [hcalls]; simp)
      refine ⟨hafter, ⟨retry, hcalls, hretry, ?_, hdelivers.jpeg, ?_⟩, hreason⟩
      · rw [hretryframe.rgb, (hframe call hcall).rgb]
      · rw [← Bool.not_eq_true, hdelivers.failed]
        push Not
        rfl
  · intro r hr
    have hr' := hsound r hr
    obtain ⟨call, hlast, hjpeg, hbackend, _⟩ := hr'.delivers
    have hmem : call ∈ r.calls := List.mem_of_getLast? hlast
    exact ⟨hr'.failed, ⟨call, hlast, (hr'.frame call hmem).rgb, hjpeg, hbackend⟩, hr'.rgb⟩

/-- a hardware error, and a second capture of the same frame -/
def JpegCapture.sample : List JpegCapture :=
  let job : SnapshotResult := { SnapshotResult.empty with rgb := [1, 2, 3], width := 1, height := 1 }
  [⟨job, rfl, ⟨1, none, "device lost"⟩, some [7]⟩, ⟨job, rfl, ⟨0, none, ""⟩, some [8]⟩]

theorem snapshotJpeg_policy_sample :
    ∃ w, (loadJpegWorker .auto (.opened "nvjpeg-cuda")).2 = some w ∧
      (w.serve JpegCapture.sample).map (·.calls.map (·.encoder)) = [[.hardware, .cpu], [.cpu]] ∧
      (w.serve JpegCapture.sample).map (·.result.jpeg) = [[7], [8]] ∧
      JpegPolicySound .auto true w (w.serve JpegCapture.sample) := by
  refine ⟨_, rfl, by decide +kernel, by decide +kernel, ?_⟩
  exact (snapshotJpeg_policy .auto (.opened "nvjpeg-cuda") _ rfl JpegCapture.sample).2

/-! ## the worker thread of the plugin -/

/-- the configuration that `Load` derives from the selection -/
structure PluginConfig.Selects (cfg : PluginConfig) (w : JpegWorker) : Prop where
  useHardware : cfg.useHardware = w.snapshotJpegBackend.useHardware
  allowCPUFallback : cfg.allowCPUFallback = w.snapshotJpegBackend.allowCPUFallback
  preflightError : cfg.preflightError =
    if w.snapshotJpegPolicy = .auto ∧ w.snapshotJpegBackend.hardwareState = "unavailable" then
      some w.snapshotJpegHardwarePreflightError else none

theorem result_encoded {cfg : PluginConfig} {w : JpegWorker} (h : cfg.Selects w)
    (job : SnapshotResult) (reason : String) (encoded : JpegResult) :
    job.encoded cfg reason encoded = w.result job reason encoded := by
  have hreason : preflightReason reason cfg.preflightError =
      if w.snapshotJpegPolicy = .auto ∧ w.snapshotJpegBackend.hardwareState = "unavailable" then
        preflightReason reason (some w.snapshotJpegHardwarePreflightError)
      else reason := by
    rw [h.preflightError]
    split
    · rfl
    · rfl
  unfold SnapshotResult.encoded
  rw [hreason]
  rfl

/-- a round of the JPEG worker thread is a round of the worker: it delivers the same result, and
leaves the same fuse -/
theorem snapshotEncoderRound_serves {cfg : PluginConfig} {w : JpegWorker} (h : cfg.Selects w)
    (c : JpegCapture) {s : State} (hjob : s.snap.snapshotEncodeJob = some c.job)
    (hrunning : s.snap.snapshotEncoderStopping = false)
    (hfuse : s.snap.snapshotJpegHardwareFusedOff = w.snapshotJpegHardwareFusedOff) :
    ((snapshotEncoderRound cfg ⟨(w.hardwareCall c).answer, (JpegWorker.cpuCall c).answer⟩).solo
        s).1.snap =
      Snapshot.deliver { s.snap with
        snapshotEncodeJob := none
        encoding := some c.job
        snapshotJpegHardwareFusedOff := (w.round c).1.snapshotJpegHardwareFusedOff }
        (w.round c).2.result := by
  have htake : s.snap.takeEncode = ({ s.snap with
      snapshotEncodeJob := none, encoding := some c.job }, some c.job) := by
    unfold Snapshot.takeEncode
    rw [if_neg (by simp [hrunning]), hjob]
  unfold snapshotEncoderRound JpegWorker.round
  rw [Prog.solo_bind, Prog.solo_atomic, htake]
  rw [h.useHardware, h.allowCPUFallback]
  simp only [result_encoded h]
  cases huse : w.snapshotJpegBackend.useHardware with
  | false => simp [deliverSnapshot, write, access, hfuse]
  | true =>
    cases hblown : w.snapshotJpegHardwareFusedOff with
    | true => simp [deliverSnapshot, write, access, read, hfuse, hblown]
    | false =>
      cases herror : (w.hardwareCall c).answer.error == "" with
      | true => simp [deliverSnapshot, write, access, read, hfuse, hblown, herror, bne]
      | false =>
        cases hallow : w.snapshotJpegBackend.allowCPUFallback with
        | false => simp [deliverSnapshot, write, access, read, hfuse, hblown]
        | true => simp [deliverSnapshot, write, access, read, hfuse, hblown, herror, bne]

end MediaCamera
