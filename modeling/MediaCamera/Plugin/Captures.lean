import MediaCamera.Plugin.System

/-!
# The life of a capture

The protocol by which a capture travels over the threads, without the rest of the plugin.
`ExecutorCapture`, `RenderCapture` and `WorkerCapture` are the moves of the three threads on the
`Snapshot`; a move of the render thread happens in the callback `index`.

What the moves keep:

* `Snapshot.Phase`      the work for a submitted capture is in one place: carried by the render
                        thread, in the readback buffer, queued, or with the JPEG worker;
* `CaptureEvent.Warranted`   what must have happened before an event of the trail;
* `CaptureInv`          the trail is warranted, the work is in one phase, and a completed capture
                        has its event.
-/

namespace MediaCamera

/-! ## what a result was taken from -/

/-- the events that the render thread records -/
def CaptureEvent.byRender : CaptureEvent → Bool
  | .callback _ _ _ | .passed _ _ | .synchronous _ _ | .issued _ | .mapped _ => true
  | _ => false

/-- the callback whose frame the readback buffer holds -/
def lastIssued : List CaptureEvent → Option Nat
  | [] => none
  | .issued index :: _ => some index
  | _ :: trail => lastIssued trail

def lastOpened : List CaptureEvent → Option (Nat × Nat × String)
  | [] => none
  | .opened handle generation id :: _ => some (handle, generation, id)
  | _ :: trail => lastOpened trail

namespace SnapshotResult

/-- what a result says of its capture and of its frame -/
def frame (r : SnapshotResult) : SnapshotResult :=
  { SnapshotResult.empty with
    id := r.id
    generation := r.generation
    includeRGB := r.includeRGB
    jpegQuality := r.jpegQuality
    frameSequence := r.frameSequence
    calibrationValid := r.calibrationValid
    timestampNanoseconds := r.timestampNanoseconds
    width := r.width
    height := r.height
    cameraMatrix := r.cameraMatrix
    distortion := r.distortion
    renderPosition := r.renderPosition
    renderOrientation := r.renderOrientation
    renderPoseValid := r.renderPoseValid }

/-- the frame of a result is the view of a callback and its JPEG quality; without a perspective
projection the intrinsics stay those of an empty result -/
structure Shows (r : SnapshotResult) (view : RenderedView) (jpegQuality : Int) : Prop where
  width : r.width = view.width
  height : r.height = view.height
  jpegQuality : r.jpegQuality = jpegQuality
  timestampNanoseconds : r.timestampNanoseconds = view.simTimeNanoseconds
  renderPosition : r.renderPosition = view.position
  renderOrientation : r.renderOrientation = view.orientation
  renderPoseValid : r.renderPoseValid = true
  cameraMatrix : r.cameraMatrix = view.projection.getD (List.replicate 9 (.finite 0))
  calibrationValid : r.calibrationValid = view.projection.any projectionValid
  distortion : r.distortion =
    (view.projection.bind fun _ => view.distortion).getD (List.replicate 5 (.finite 0))

/-- the frame is that of one callback, and an earlier callback let the capture wait -/
structure TakenFrom (r : SnapshotResult) (trail : List CaptureEvent) : Prop where
  id : r.id ≠ ""
  frame : ∃ view quality, .callback r.frameSequence view quality ∈ trail ∧ r.Shows view quality
  later : ∃ index, index < r.frameSequence ∧ .passed r.generation index ∈ trail

def ReadFrom (r : SnapshotResult) (trail : List CaptureEvent) : Prop :=
  .synchronous r.frameSequence r.rgb ∈ trail ∨
    ∃ newer older, trail = newer ++ .mapped r.rgb :: older ∧
      lastIssued older = some r.frameSequence

def DeliveredIn (r : SnapshotResult) (trail : List CaptureEvent) : Prop :=
  ∃ job, .encoded job ∈ trail ∧ r.frame = job.frame ∧ r.rgb = if job.includeRGB then job.rgb else []

variable {r : SnapshotResult} {trail : List CaptureEvent}

theorem Shows.congr {r' : SnapshotResult} {view : RenderedView} {jpegQuality : Int}
    (h : r.Shows view jpegQuality) (hframe : r'.frame = r.frame) : r'.Shows view jpegQuality := by
  have hshows : r'.frame.Shows view jpegQuality := by
    rw [hframe]
    exact ⟨h.1, h.2, h.3, h.4, h.5, h.6, h.7, h.8, h.9, h.10⟩
  exact ⟨hshows.1, hshows.2, hshows.3, hshows.4, hshows.5, hshows.6, hshows.7, hshows.8, hshows.9,
    hshows.10⟩

theorem frame_capture {r' : SnapshotResult} (hframe : r'.frame = r.frame) :
    r'.id = r.id ∧ r'.generation = r.generation ∧ r'.includeRGB = r.includeRGB ∧
      r'.frameSequence = r.frameSequence := by
  show r'.frame.id = r.frame.id ∧ r'.frame.generation = r.frame.generation ∧
    r'.frame.includeRGB = r.frame.includeRGB ∧ r'.frame.frameSequence = r.frame.frameSequence
  rw [hframe]
  exact ⟨rfl, rfl, rfl, rfl⟩

theorem TakenFrom.congr {r' : SnapshotResult} (h : r.TakenFrom trail) (hframe : r'.frame = r.frame) :
    r'.TakenFrom trail := by
  obtain ⟨hid, hgeneration, _, hsequence⟩ := frame_capture hframe
  obtain ⟨view, quality, hmem, hshows⟩ := h.frame
  refine ⟨hid ▸ h.id, ⟨view, quality, ?_, hshows.congr hframe⟩, ?_⟩
  · rw [hsequence]
    exact hmem
  · rw [hsequence, hgeneration]
    exact h.later

theorem DeliveredIn.mono (h : r.DeliveredIn trail) (new : List CaptureEvent) :
    r.DeliveredIn (new ++ trail) := by
  obtain ⟨job, hmem, h⟩ := h
  exact ⟨job, List.mem_append_right _ hmem, h⟩

theorem TakenFrom.mono (h : r.TakenFrom trail) (new : List CaptureEvent) :
    r.TakenFrom (new ++ trail) := by
  obtain ⟨view, quality, hmem, hframe⟩ := h.frame
  obtain ⟨index, hlt, hpassed⟩ := h.later
  exact ⟨h.id, ⟨view, quality, List.mem_append_right _ hmem, hframe⟩,
    index, hlt, List.mem_append_right _ hpassed⟩

theorem ReadFrom.mono (h : r.ReadFrom trail) (new : List CaptureEvent) :
    r.ReadFrom (new ++ trail) := by
  rcases h with h | ⟨newer, older, rfl, hissued⟩
  · exact .inl (List.mem_append_right _ h)
  · exact .inr ⟨new ++ newer, older, by rw [List.append_assoc], hissued⟩

end SnapshotResult

/-! ## where the work is -/

namespace Snapshot

/-- no thread works for a capture -/
structure Resting (s : Snapshot) : Prop where
  pending : s.snapshotReadbackPending = false
  result : s.snapshotReadbackResult = none
  carried : s.carried = none
  job : s.snapshotEncodeJob = none
  encoding : s.encoding = none

/-- no capture is open, and no thread works for one -/
structure Free (s : Snapshot) : Prop where
  empty : s.snapshot = .empty
  resting : s.Resting

/-- the open capture is submitted, and `r` is its result -/
structure Works (s : Snapshot) (r : SnapshotResult) : Prop where
  isFor : s.isFor r = true
  submitted : s.snapshot.captureSubmitted = true
  taken : r.TakenFrom s.trail

inductive Phase (s : Snapshot) : Prop
  | resting (h : s.Resting)
      (hwaits : s.snapshot.captureSubmitted = false ∨ s.snapshot.completed = true)
  | carried {r : SnapshotResult} (h : s.Works r) (hcarried : s.carried = some r)
      (hpending : s.snapshotReadbackPending = false) (hresult : s.snapshotReadbackResult = none)
      (hjob : s.snapshotEncodeJob = none) (hencoding : s.encoding = none)
  | readback {r : SnapshotResult} (h : s.Works r) (hcarried : s.carried = none)
      (hpending : s.snapshotReadbackPending = true) (hresult : s.snapshotReadbackResult = some r)
      (hjob : s.snapshotEncodeJob = none) (hencoding : s.encoding = none)
      (hissued : lastIssued s.trail = some r.frameSequence)
  | queued {r : SnapshotResult} (h : s.Works r) (hcarried : s.carried = none)
      (hpending : s.snapshotReadbackPending = false) (hresult : s.snapshotReadbackResult = none)
      (hjob : s.snapshotEncodeJob = some r) (hencoding : s.encoding = none)
      (hread : r.ReadFrom s.trail)
  | encoding {r : SnapshotResult} (h : s.Works r) (hcarried : s.carried = none)
      (hpending : s.snapshotReadbackPending = false) (hresult : s.snapshotReadbackResult = none)
      (hjob : s.snapshotEncodeJob = none) (hencoding : s.encoding = some r)
      (hread : r.ReadFrom s.trail)

end Snapshot

/-! ## the moves -/

inductive ExecutorCapture : Label → Snapshot → Snapshot → Prop
  | admission {s : Snapshot} (handle : Nat) (id : String) (includeRGB : Bool) (h : s.Free) :
    ExecutorCapture .step s (s.admission handle id includeRGB)
  | finish {s : Snapshot} (keyframeGeneration applied failed : Nat) (late : Bool) :
    ExecutorCapture (.flushCapture late) s (s.finish keyframeGeneration applied failed late).1

inductive RenderCapture (index : Nat) : Label → Snapshot → Snapshot → Prop
  | frame {s : Snapshot} (hpending : s.snapshotReadbackPending = false)
      (hpassed : ∀ generation index', .passed generation index' ∈ s.trail → index' < index) :
    RenderCapture index .step s (s.frameToCapture index).1
  | fail {s : Snapshot} (work : Nat) (error : String) (h : s.Resting) :
    RenderCapture index (.failSnapshot work) s (s.fail work error)
  | synchronous {s : Snapshot} {r : SnapshotResult} (h : s.Resting) (hr : r.TakenFrom s.trail)
      (hindex : r.frameSequence = index) :
    RenderCapture index .step s ((s.record (.synchronous index r.rgb)).submit r).1
  | issued {s : Snapshot} {r : SnapshotResult} (h : s.Resting) (hr : r.TakenFrom s.trail)
      (hindex : r.frameSequence = index) :
    RenderCapture index (.issueReadback r) s ((s.record (.issued index)).submit r).1
  | startReadback {s : Snapshot} {r : SnapshotResult} (hcarried : s.carried = some r)
      (hissued : lastIssued s.trail = some r.frameSequence) :
    RenderCapture index .step s { s with
      snapshotReadbackResult := some { r with jpegReadback := "opengl-pbo" }
      snapshotReadbackPending := true
      carried := none }
  | dropReadback {s : Snapshot} (h : s.snapshotReadbackResult = none) :
    RenderCapture index .step s { s with snapshotReadbackPending := false }
  | readbackFailed {s : Snapshot} {r : SnapshotResult} (h : s.snapshotReadbackResult = some r) :
    RenderCapture index .step s { s with
      snapshotReadbackResult := none, snapshotReadbackPending := false, carried := some r }
  | unavailable {s : Snapshot} (reason : String) :
    RenderCapture index .step s { s with
      snapshotPBOFailureReason := reason, snapshotPBOAvailable := false }
  | notIssued {s : Snapshot} (r : SnapshotResult) (reason : String) :
    RenderCapture index (.issueReadback r) s { s with
      snapshotPBOFailureReason := reason, snapshotPBOAvailable := false }
  | rearm {s : Snapshot} {r : SnapshotResult} (hcarried : s.carried = some r) :
    RenderCapture index .step s (s.rearm r)
  | mapped {s : Snapshot} {r : SnapshotResult} (rgb : List UInt8)
      (h : s.snapshotReadbackResult = some r) :
    RenderCapture index .step s { s with
      snapshotReadbackResult := none, snapshotReadbackPending := false
      carried := some { r with rgb := rgb }
      trail := .mapped rgb :: s.trail }
  | queueEncode {s : Snapshot} {r : SnapshotResult} (hcarried : s.carried = some r)
      (hread : r.ReadFrom s.trail) :
    RenderCapture index .step s (s.queueEncode r).1

inductive WorkerCapture (cfg : PluginConfig) : Label → Snapshot → Snapshot → Prop
  | take {s : Snapshot} (h : s.encoding = none) : WorkerCapture cfg .takeEncode s s.takeEncode.1
  | fuse {s : Snapshot} :
    WorkerCapture cfg .step s { s with snapshotJpegHardwareFusedOff := true }
  | deliver {s : Snapshot} {job : SnapshotResult} (fallbackReason : String) (jpeg : JpegResult)
      (h : s.encoding = some job) :
    WorkerCapture cfg .step s (s.deliver (job.encoded cfg fallbackReason jpeg))

/-! ## the invariant -/

def CaptureEvent.index? : CaptureEvent → Option Nat
  | .callback index _ _ | .passed _ index => some index
  | _ => none

/-- the trail stands in the callback `index` -/
def Within (index : Nat) (trail : List CaptureEvent) : Prop :=
  ∀ e ∈ trail, ∀ index', e.index? = some index' → index' ≤ index

/-- what must have happened before an event -/
def CaptureEvent.Warranted : CaptureEvent → List CaptureEvent → Prop
  | .callback index _ _, older => ∀ e ∈ older, ∀ index', e.index? = some index' → index' < index
  | .opened _ generation _, older =>
    ∀ handle' generation' id', .opened handle' generation' id' ∈ older → generation' < generation
  | .passed generation index, older =>
    (∃ handle id, .opened handle generation id ∈ older) ∧ Within index older
  | .synchronous index _, older => (∃ view quality, .callback index view quality ∈ older) ∧
    Within index older
  | .issued index, older => (∃ view quality, .callback index view quality ∈ older) ∧
    Within index older
  | .encoded job, older => job.TakenFrom older ∧ job.ReadFrom older
  | _, _ => True

def Snapshot.Opened (s : Snapshot) : Prop :=
  ∃ handle, lastOpened s.trail = some (handle, s.snapshot.generation, s.snapshot.id)

structure CaptureInv (index : Nat) (s : Snapshot) : Prop where
  running : s.snapshotEncoderStopping = false
  warranted : Justified CaptureEvent.Warranted s.trail
  within : Within index s.trail
  generations : ∀ handle generation id, .opened handle generation id ∈ s.trail →
    generation ≤ s.snapshotGeneration
  opened : s.snapshot = .empty ∨ s.Opened
  passed : s.snapshot.id ≠ "" → s.snapshotRenderPassesToSkip = 0 →
    ∃ index, .passed s.snapshot.generation index ∈ s.trail
  phase : s.Phase
  completed : s.snapshot.completed = true → s.snapshot.failed = false →
    s.snapshot.DeliveredIn s.trail
  failed : s.snapshot.completed = true → s.snapshot.failed = true →
    ∃ work, .failed work s.snapshot.generation ∈ s.trail

section
variable {s s' : Snapshot} {r : SnapshotResult} {index : Nat}

namespace Snapshot

theorem isFor_iff : s.isFor r = true ↔ s.snapshot.id = r.id ∧
    s.snapshot.generation = r.generation ∧ s.snapshot.completed = false := by
  simp [isFor, and_assoc]

theorem Works.congr (h : s.Works r) (hsnapshot : s'.snapshot = s.snapshot)
    (htrail : ∃ new, s'.trail = new ++ s.trail) : s'.Works r := by
  obtain ⟨new, htrail⟩ := htrail
  refine ⟨?_, ?_, ?_⟩
  · rw [isFor_iff, hsnapshot]
    exact isFor_iff.mp h.isFor
  · rw [hsnapshot]
    exact h.submitted
  · rw [htrail]
    exact h.taken.mono new

theorem Phase.rests (h : s.Phase)
    (hwaits : s.snapshot.captureSubmitted = false ∨ s.snapshot.completed = true) : s.Resting := by
  have hno : ∀ r, ¬ s.Works r := by
    intro r hw
    rcases hwaits with hfalse | htrue
    · rw [hw.submitted] at hfalse
      cases hfalse
    · rw [(isFor_iff.mp hw.isFor).2.2] at htrue
      cases htrue
  cases h with
  | resting h _ => exact h
  | carried h | readback h | queued h | encoding h => exact absurd h (hno _)

theorem Phase.carries (h : s.Phase) (hcarried : s.carried = some r) :
    s.Works r ∧ s.snapshotReadbackPending = false ∧ s.snapshotReadbackResult = none ∧
      s.snapshotEncodeJob = none ∧ s.encoding = none := by
  cases h with
  | carried h hc h1 h2 h3 h4 =>
    obtain rfl := Option.some.inj (hcarried.symm.trans hc)
    exact ⟨h, h1, h2, h3, h4⟩
  | resting h => exact absurd (hcarried.symm.trans h.carried) (by simp)
  | readback _ hc | queued _ hc | encoding _ hc => exact absurd (hcarried.symm.trans hc) (by simp)

theorem Phase.readsBack (h : s.Phase) (hresult : s.snapshotReadbackResult = some r) :
    s.Works r ∧ s.carried = none ∧ s.snapshotEncodeJob = none ∧ s.encoding = none ∧
      lastIssued s.trail = some r.frameSequence := by
  cases h with
  | readback h hc _ hr h3 h4 hissued =>
    obtain rfl := Option.some.inj (hresult.symm.trans hr)
    exact ⟨h, hc, h3, h4, hissued⟩
  | resting h => exact absurd (hresult.symm.trans h.result) (by simp)
  | carried _ _ _ hr | queued _ _ _ hr | encoding _ _ _ hr =>
    exact absurd (hresult.symm.trans hr) (by simp)

theorem Phase.encodes (h : s.Phase) (hencoding : s.encoding = some r) :
    s.Works r ∧ s.carried = none ∧ s.snapshotReadbackPending = false ∧
      s.snapshotReadbackResult = none ∧ s.snapshotEncodeJob = none ∧ r.ReadFrom s.trail := by
  cases h with
  | encoding h hc h1 h2 h3 he hread =>
    obtain rfl := Option.some.inj (hencoding.symm.trans he)
    exact ⟨h, hc, h1, h2, h3, hread⟩
  | resting h => exact absurd (hencoding.symm.trans h.encoding) (by simp)
  | carried _ _ _ _ _ he | readback _ _ _ _ _ he | queued _ _ _ _ _ he =>
    exact absurd (hencoding.symm.trans he) (by simp)

theorem Phase.waits (h : s.Phase) (hresting : s.Resting) :
    s.snapshot.captureSubmitted = false ∨ s.snapshot.completed = true := by
  cases h with
  | resting _ hwaits => exact hwaits
  | carried _ hc => exact absurd (hresting.carried.symm.trans hc) (by simp)
  | readback _ _ _ hr => exact absurd (hresting.result.symm.trans hr) (by simp)
  | queued _ _ _ _ hj => exact absurd (hresting.job.symm.trans hj) (by simp)
  | encoding _ _ _ _ _ he => exact absurd (hresting.encoding.symm.trans he) (by simp)

/-- a move that leaves the work alone -/
theorem Phase.congr (h : s.Phase) (hsnapshot : s'.snapshot = s.snapshot)
    (hcarried : s'.carried = s.carried)
    (hpending : s'.snapshotReadbackPending = s.snapshotReadbackPending)
    (hresult : s'.snapshotReadbackResult = s.snapshotReadbackResult)
    (hjob : s'.snapshotEncodeJob = s.snapshotEncodeJob) (hencoding : s'.encoding = s.encoding)
    (htrail : ∃ new, s'.trail = new ++ s.trail)
    (hissued : lastIssued s'.trail = lastIssued s.trail) : s'.Phase := by
  have hread : ∀ r : SnapshotResult, r.ReadFrom s.trail → r.ReadFrom s'.trail := by
    obtain ⟨new, htrail⟩ := htrail
    rw [htrail]
    exact fun r h => h.mono new
  cases h with
  | resting h hwaits =>
    refine .resting ⟨hpending.trans h.pending, hresult.trans h.result, hcarried.trans h.carried,
      hjob.trans h.job, hencoding.trans h.encoding⟩ ?_
    rw [hsnapshot]
    exact hwaits
  | carried h h1 h2 h3 h4 h5 =>
    exact .carried (h.congr hsnapshot htrail) (hcarried.trans h1) (hpending.trans h2)
      (hresult.trans h3) (hjob.trans h4) (hencoding.trans h5)
  | readback h h1 h2 h3 h4 h5 h6 =>
    exact .readback (h.congr hsnapshot htrail) (hcarried.trans h1) (hpending.trans h2)
      (hresult.trans h3) (hjob.trans h4) (hencoding.trans h5) (hissued.trans h6)
  | queued h h1 h2 h3 h4 h5 h6 =>
    exact .queued (h.congr hsnapshot htrail) (hcarried.trans h1) (hpending.trans h2)
      (hresult.trans h3) (hjob.trans h4) (hencoding.trans h5) (hread _ h6)
  | encoding h h1 h2 h3 h4 h5 h6 =>
    exact .encoding (h.congr hsnapshot htrail) (hcarried.trans h1) (hpending.trans h2)
      (hresult.trans h3) (hjob.trans h4) (hencoding.trans h5) (hread _ h6)

theorem Works.open (h : s.Works r) :
    s.snapshot.id ≠ "" ∧ s.snapshot.completed = false ∧ s.idle = false := by
  obtain ⟨hid, _, hcompleted⟩ := isFor_iff.mp h.isFor
  have hne : s.snapshot.id ≠ "" := hid ▸ h.taken.id
  exact ⟨hne, hcompleted, by simp [idle, hne, hcompleted]⟩

theorem Phase.idle (h : s.Phase) (hidle : s.idle = true) :
    s.Resting ∧ (s.snapshot.captureSubmitted = false ∨ s.snapshot.completed = true) := by
  have hno : ∀ r, ¬ s.Works r := by
    intro r hw
    rw [hw.open.2.2] at hidle
    cases hidle
  cases h with
  | resting h hwaits => exact ⟨h, hwaits⟩
  | carried h | readback h | queued h | encoding h => exact absurd h (hno _)

theorem Free.not_isFor (h : s.Free) (hid : r.id ≠ "") : s.isFor r = false := by
  have hne : s.snapshot.id ≠ r.id := by
    rw [h.empty]
    exact fun e => hid e.symm
  simp [isFor, hne]

end Snapshot

open Snapshot

/-! ## every move keeps the invariant -/

theorem lastOpened_cons {trail : List CaptureEvent} {e : CaptureEvent}
    (he : ∀ handle generation id, e ≠ .opened handle generation id) :
    lastOpened (e :: trail) = lastOpened trail := by
  cases e with
  | opened handle generation id => exact absurd rfl (he handle generation id)
  | _ => rfl

theorem lastOpened_mem {trail : List CaptureEvent} {handle generation : Nat} {id : String}
    (h : lastOpened trail = some (handle, generation, id)) :
    .opened handle generation id ∈ trail := by
  induction trail with
  | nil => cases h
  | cons e trail ih =>
    cases e with
    | opened handle' generation' id' =>
      obtain ⟨rfl, rfl, rfl⟩ : handle' = handle ∧ generation' = generation ∧ id' = id := by
        simpa [lastOpened] using h
      exact List.mem_cons_self
    | _ => exact List.mem_cons_of_mem _ (ih h)

theorem Within.mono {trail : List CaptureEvent} (h : Within index trail) {index' : Nat}
    (hle : index ≤ index') : Within index' trail :=
  fun e he i hi => (h e he i hi).trans hle

theorem CaptureInv.callback (h : CaptureInv index s) (view : RenderedView) (quality : Int) :
    CaptureInv (index + 1) (s.record (.callback (index + 1) view quality)) where
  running := h.running
  warranted := ⟨fun e he i hi => Nat.lt_succ_of_le (h.within e he i hi), h.warranted⟩
  within := by
    intro e he i hi
    rcases List.mem_cons.mp he with rfl | he
    · exact (Option.some.inj hi).ge
    · exact (h.within.mono (Nat.le_succ index)) e he i hi
  generations handle generation id hmem :=
    h.generations handle generation id (by simpa [Snapshot.record] using hmem)
  opened := h.opened
  passed hid hskip := by
    obtain ⟨i, hi⟩ := h.passed hid hskip
    exact ⟨i, List.mem_cons_of_mem _ hi⟩
  phase := h.phase.congr rfl rfl rfl rfl rfl rfl ⟨[_], rfl⟩ rfl
  completed hc hf := (h.completed hc hf).mono [_]
  failed hc hf := by
    obtain ⟨work, hmem⟩ := h.failed hc hf
    exact ⟨work, List.mem_cons_of_mem _ hmem⟩

/-- a move that leaves the snapshot and the trail alone -/
theorem CaptureInv.congr (h : CaptureInv index s) (hsnapshot : s'.snapshot = s.snapshot)
    (hgeneration : s'.snapshotGeneration = s.snapshotGeneration)
    (hskip : s'.snapshotRenderPassesToSkip = s.snapshotRenderPassesToSkip)
    (hrunning : s'.snapshotEncoderStopping = s.snapshotEncoderStopping)
    (htrail : s'.trail = s.trail) (hphase : s'.Phase) : CaptureInv index s' where
  running := hrunning.trans h.running
  warranted := htrail ▸ h.warranted
  within := htrail ▸ h.within
  generations := by
    rw [hgeneration, htrail]
    exact h.generations
  opened := by
    rw [Snapshot.Opened, hsnapshot, htrail]
    exact h.opened
  passed := by
    rw [hsnapshot, hskip, htrail]
    exact h.passed
  phase := hphase
  completed := by
    rw [hsnapshot, htrail]
    exact h.completed
  failed := by
    rw [hsnapshot, htrail]
    exact h.failed

theorem CaptureInv.record (h : CaptureInv index s) {e : CaptureEvent}
    (he : e.Warranted s.trail) (hindex : ∀ i, e.index? = some i → i ≤ index)
    (hopened : ∀ handle generation id, e ≠ .opened handle generation id)
    (hphase : (s.record e).Phase) : CaptureInv index (s.record e) where
  running := h.running
  warranted := ⟨he, h.warranted⟩
  within := by
    intro e' he' i hi
    rcases List.mem_cons.mp he' with rfl | he'
    · exact hindex i hi
    · exact h.within e' he' i hi
  generations handle generation id hmem := by
    rcases List.mem_cons.mp hmem with e | hmem
    · exact absurd e.symm (hopened handle generation id)
    · exact h.generations handle generation id hmem
  opened := h.opened.imp_right fun ⟨handle, hlast⟩ =>
    ⟨handle, (lastOpened_cons hopened).trans hlast⟩
  passed hid hskip := by
    obtain ⟨i, hi⟩ := h.passed hid hskip
    exact ⟨i, List.mem_cons_of_mem _ hi⟩
  phase := hphase
  completed hc hf := (h.completed hc hf).mono [_]
  failed hc hf := by
    obtain ⟨work, hmem⟩ := h.failed hc hf
    exact ⟨work, List.mem_cons_of_mem _ hmem⟩

theorem CaptureInv.admission (h : CaptureInv index s) (handle : Nat) (id : String)
    (includeRGB : Bool) (hfree : s.Free) :
    CaptureInv index (s.admission handle id includeRGB) where
  running := h.running
  warranted := ⟨fun handle' generation' id' hmem =>
    Nat.lt_succ_of_le (h.generations handle' generation' id' hmem), h.warranted⟩
  within := by
    intro e he i hi
    rcases List.mem_cons.mp he with rfl | he
    · cases hi
    · exact h.within e he i hi
  generations handle' generation' id' hmem := by
    rcases List.mem_cons.mp hmem with e | hmem
    · cases e
      exact le_rfl
    · exact (h.generations handle' generation' id' hmem).trans (Nat.le_succ _)
  opened := .inr ⟨handle, rfl⟩
  passed _ hskip := by cases hskip
  phase := .resting ⟨hfree.resting.pending, hfree.resting.result, hfree.resting.carried,
    hfree.resting.job, hfree.resting.encoding⟩ (.inl rfl)
  completed hc := by cases hc
  failed hc := by cases hc

theorem CaptureInv.close (h : CaptureInv index s) (hresting : s.Resting) :
    CaptureInv index { s with snapshot := .empty, snapshotRenderPassesToSkip := 0 } where
  running := h.running
  warranted := h.warranted
  within := h.within
  generations := h.generations
  opened := .inl rfl
  passed hid := absurd rfl hid
  phase := .resting ⟨hresting.pending, hresting.result, hresting.carried, hresting.job,
    hresting.encoding⟩ (.inl rfl)
  completed hc := by cases hc
  failed hc := by cases hc

/-- `FlushCapture` waits, or nobody works for the capture and it is closed; a successful one was
delivered -/
theorem CaptureInv.finish_cases (h : CaptureInv index s) (keyframeGeneration applied failed : Nat)
    (late : Bool) :
    s.finish keyframeGeneration applied failed late = (s, .waiting) ∨
      s.Resting ∧ ∃ response, s.finish keyframeGeneration applied failed late =
        ({ s with snapshot := .empty, snapshotRenderPassesToSkip := 0 }, .finished response) ∧
        (response.failed = false → response.DeliveredIn s.trail ∧
          ∃ handle, lastOpened s.trail = some (handle, response.generation, response.id)) := by
  unfold Snapshot.finish
  dsimp only
  split
  · rename_i hcompleted
    split
    · exact .inl rfl
    · rename_i response hjudge
      refine .inr ⟨h.phase.rests (.inr hcompleted), _, rfl, fun hok => ?_⟩
      have hsnapshot : response = s.snapshot := by
        unfold Snapshot.judgeKeyframe at hjudge
        split at hjudge
        · split at hjudge
          · cases hjudge
          · cases hjudge
            cases hok
        · exact (Option.some.inj hjudge).symm
      rw [hsnapshot] at hok ⊢
      refine ⟨h.completed hcompleted hok, h.opened.resolve_left fun hempty => ?_⟩
      rw [hempty] at hcompleted
      cases hcompleted
  split
  · split
    · rename_i hquiet
      have hsubmitted : s.snapshot.captureSubmitted = false := by
        simp only [Bool.and_eq_true, Bool.not_eq_true'] at hquiet
        exact hquiet.1
      exact .inr ⟨h.phase.rests (.inl hsubmitted), _, rfl, fun hok => by cases hok⟩
    · exact .inl rfl
  · exact .inl rfl

theorem finish_trail (keyframeGeneration applied failed : Nat) (late : Bool) :
    (s.finish keyframeGeneration applied failed late).1.trail = s.trail := by
  unfold Snapshot.finish
  dsimp only
  repeat' split
  all_goals rfl

theorem CaptureInv.executorStep {l : Label} (h : CaptureInv index s)
    (hs : ExecutorCapture l s s') : CaptureInv index s' := by
  cases hs with
  | admission handle id includeRGB hfree => exact h.admission handle id includeRGB hfree
  | finish keyframeGeneration applied failed late =>
    rcases h.finish_cases keyframeGeneration applied failed late with e | ⟨hresting, _, e, _⟩
    · rw [e]
      exact h
    · rw [e]
      exact h.close hresting

theorem CaptureInv.frame (h : CaptureInv index s) : CaptureInv index (s.frameToCapture index).1 := by
  unfold Snapshot.frameToCapture
  split
  · exact h
  rename_i hwants
  split
  · have hwants : s.wantsFrame = true := by simpa using hwants
    have hid : s.snapshot.id ≠ "" := by
      simp only [Snapshot.wantsFrame, Bool.and_eq_true] at hwants
      simpa using hwants.1.1
    obtain ⟨handle, hlast⟩ : s.Opened := by
      refine h.opened.resolve_left fun hempty => hid ?_
      rw [hempty]
      rfl
    have hrecord := h.record (e := .passed s.snapshot.generation index)
      ⟨⟨handle, _, lastOpened_mem hlast⟩, h.within⟩ (fun i hi => (Option.some.inj hi).ge) (by simp)
      (h.phase.congr rfl rfl rfl rfl rfl rfl ⟨[_], rfl⟩ rfl)
    exact ⟨hrecord.running, hrecord.warranted, hrecord.within, hrecord.generations, hrecord.opened,
      fun _ _ => ⟨index, List.mem_cons_self⟩,
      hrecord.phase.congr rfl rfl rfl rfl rfl rfl ⟨[], rfl⟩ rfl, hrecord.completed,
      hrecord.failed⟩
  · exact h

theorem CaptureInv.fail (h : CaptureInv index s) (work : Nat) (error : String)
    (hresting : s.Resting) : CaptureInv index (s.fail work error) := by
  obtain ⟨h1, h2, _, h3, h4⟩ := hresting
  unfold Snapshot.fail
  split
  · rename_i hidle
    obtain ⟨_, hwaits⟩ := h.phase.idle hidle
    exact h.congr rfl rfl rfl rfl rfl (.resting ⟨h1, h2, rfl, h3, h4⟩ hwaits)
  · rename_i hopen
    have hopened : s.Opened := by
      refine h.opened.resolve_left fun hempty => ?_
      rw [Snapshot.idle, hempty] at hopen
      exact hopen rfl
    refine ⟨h.running, ⟨trivial, h.warranted⟩, ?_, ?_, .inr hopened,
      ?_, .resting ⟨h1, h2, rfl, h3, h4⟩ (.inr rfl), fun _ hf => (by cases hf),
      fun _ _ => ⟨work, List.mem_cons_self⟩⟩
    · intro e he i hi
      rcases List.mem_cons.mp he with rfl | he
      · cases hi
      · exact h.within e he i hi
    · intro handle generation id hmem
      exact h.generations handle generation id (by simpa using hmem)
    · intro hid hskip
      obtain ⟨i, hi⟩ := h.passed hid hskip
      exact ⟨i, List.mem_cons_of_mem _ hi⟩

/-- the render thread submits the open capture, or drops a result of another one -/
theorem CaptureInv.submit (h : CaptureInv index s) (hresting : s.Resting)
    (hr : r.TakenFrom s.trail) : CaptureInv index (s.submit r).1 := by
  unfold Snapshot.submit
  split
  · rename_i hfor
    obtain ⟨hid, hgeneration, hcompleted⟩ := isFor_iff.mp hfor
    have hnot : ∀ {p : Prop}, s.snapshot.completed = true → p := fun hc => by
      rw [hcompleted] at hc
      cases hc
    have hopened : s.Opened := by
      refine h.opened.resolve_left fun hempty => hr.id ?_
      rw [← hid, hempty]
      rfl
    refine ⟨h.running, h.warranted, h.within, h.generations, .inr hopened, h.passed, ?_, hnot, hnot⟩
    exact .carried ⟨isFor_iff.mpr ⟨hid, hgeneration, hcompleted⟩, rfl, hr⟩ rfl hresting.pending
      hresting.result hresting.job hresting.encoding
  · exact h

theorem CaptureInv.readBack (h : CaptureInv index s) (hresting : s.Resting)
    (hr : r.TakenFrom s.trail) (hindex : r.frameSequence = index) {e : CaptureEvent}
    (he : e = .synchronous index r.rgb ∨ e = .issued index) :
    CaptureInv index ((s.record e).submit r).1 := by
  have hwarranted : e.Warranted s.trail := by
    obtain ⟨view, quality, hmem, _⟩ := hr.frame
    rw [hindex] at hmem
    rcases he with rfl | rfl <;> exact ⟨⟨view, quality, hmem⟩, h.within⟩
  have hnone : ∀ i, e.index? = some i → i ≤ index := by
    intro i hi
    rcases he with rfl | rfl <;> cases hi
  have hphase : (s.record e).Phase :=
    .resting ⟨hresting.pending, hresting.result, hresting.carried, hresting.job,
      hresting.encoding⟩ (h.phase.waits hresting)
  have hopened : ∀ handle generation id, e ≠ .opened handle generation id := by
    rcases he with rfl | rfl <;> simp
  refine (h.record hwarranted hnone hopened hphase).submit ?_ (hr.mono [e])
  exact ⟨hresting.pending, hresting.result, hresting.carried, hresting.job, hresting.encoding⟩

theorem CaptureInv.rearm (h : CaptureInv index s) (hcarried : s.carried = some r) :
    CaptureInv index (s.rearm r) := by
  obtain ⟨hworks, h1, h2, h3, h4⟩ := h.phase.carries hcarried
  obtain ⟨_, hgeneration, hcompleted⟩ := isFor_iff.mp hworks.isFor
  have hnot : ∀ {p : Prop}, s.snapshot.completed = true → p := fun hc => by
    rw [hcompleted] at hc
    cases hc
  have hopened : s.Opened := by
    refine h.opened.resolve_left fun hempty => hworks.open.1 ?_
    rw [hempty]
    rfl
  rw [Snapshot.rearm, if_pos hworks.isFor]
  refine ⟨h.running, h.warranted, h.within, h.generations, .inr hopened, fun _ _ => ?_,
    .resting ⟨h1, h2, rfl, h3, h4⟩ (.inl rfl), hnot, hnot⟩
  obtain ⟨i, _, hpassed⟩ := hworks.taken.later
  exact ⟨i, hgeneration ▸ hpassed⟩

theorem CaptureInv.queueEncode (h : CaptureInv index s) (hcarried : s.carried = some r)
    (hread : r.ReadFrom s.trail) : CaptureInv index (s.queueEncode r).1 := by
  obtain ⟨hworks, h1, h2, h3, h4⟩ := h.phase.carries hcarried
  have hfree : ¬ (s.snapshotEncoderStopping = true ∨ s.snapshotEncodeJob.isSome = true) := by
    simp [h.running, h3]
  rw [Snapshot.queueEncode, if_neg hfree]
  refine h.congr rfl rfl rfl rfl rfl (.queued (r := r) ?_ rfl h1 h2 rfl h4 hread)
  exact hworks.congr rfl ⟨[], rfl⟩

theorem CaptureInv.renderStep {l : Label} (h : CaptureInv index s)
    (hs : RenderCapture index l s s') : CaptureInv index s' := by
  cases hs with
  | frame => exact h.frame
  | fail work error hwork => exact h.fail work error hwork
  | synchronous hresting hr hindex => exact h.readBack hresting hr hindex (.inl rfl)
  | issued hresting hr hindex => exact h.readBack hresting hr hindex (.inr rfl)
  | @startReadback _ r hcarried hissued =>
    obtain ⟨hworks, _, _, h3, h4⟩ := h.phase.carries hcarried
    refine h.congr rfl rfl rfl rfl rfl (.readback ⟨?_, ?_, ?_⟩ rfl rfl rfl h3 h4 hissued)
    · exact hworks.isFor
    · exact hworks.submitted
    · exact hworks.taken.congr rfl
  | dropReadback hresult =>
    refine h.congr rfl rfl rfl rfl rfl ?_
    cases h.phase with
    | resting hr hwaits =>
      exact .resting ⟨rfl, hr.result, hr.carried, hr.job, hr.encoding⟩ hwaits
    | readback _ _ _ hsome => exact absurd (hresult.symm.trans hsome) (by simp)
    | carried hw h1 _ h2 h3 h4 => exact .carried (hw.congr rfl ⟨[], rfl⟩) h1 rfl h2 h3 h4
    | queued hw h1 _ h2 h3 h4 h5 => exact .queued (hw.congr rfl ⟨[], rfl⟩) h1 rfl h2 h3 h4 h5
    | encoding hw h1 _ h2 h3 h4 h5 => exact .encoding (hw.congr rfl ⟨[], rfl⟩) h1 rfl h2 h3 h4 h5
  | readbackFailed hresult =>
    obtain ⟨hworks, _, h3, h4, _⟩ := h.phase.readsBack hresult
    exact h.congr rfl rfl rfl rfl rfl
      (.carried (hworks.congr rfl ⟨[], rfl⟩) rfl rfl rfl h3 h4)
  | unavailable | notIssued => exact h.congr rfl rfl rfl rfl rfl (h.phase.congr rfl rfl rfl rfl rfl rfl ⟨[], rfl⟩ rfl)
  | rearm hcarried => exact h.rearm hcarried
  | @mapped _ r rgb hresult =>
    obtain ⟨hworks, _, h3, h4, _⟩ := h.phase.readsBack hresult
    have hcarried : CaptureInv index { s with
        snapshotReadbackResult := none, snapshotReadbackPending := false
        carried := some { r with rgb := rgb } } :=
      h.congr rfl rfl rfl rfl rfl (.carried (r := { r with rgb := rgb })
        ⟨hworks.isFor, hworks.submitted, hworks.taken.congr rfl⟩ rfl rfl rfl h3 h4)
    exact hcarried.record trivial (fun _ hi => by cases hi) (by simp)
      (hcarried.phase.congr rfl rfl rfl rfl rfl rfl ⟨[_], rfl⟩ rfl)
  | queueEncode hcarried hread => exact h.queueEncode hcarried hread

theorem CaptureInv.deliver (h : CaptureInv index s) {job result : SnapshotResult}
    (hencoding : s.encoding = some job) (hframe : result.frame = job.frame)
    (hrgb : result.rgb = if job.includeRGB then job.rgb else [])
    (hcompleted : result.completed = true) : CaptureInv index (s.deliver result) := by
  obtain ⟨hworks, h1, h2, h3, h4, hread⟩ := h.phase.encodes hencoding
  obtain ⟨hid, hgeneration, hopen⟩ := isFor_iff.mp hworks.isFor
  obtain ⟨hid', hgeneration', _⟩ := SnapshotResult.frame_capture hframe
  have hopened : s.Opened := by
    refine h.opened.resolve_left fun hempty => hworks.open.1 ?_
    rw [hempty]
    rfl
  have hfor : s.isFor result = true :=
    isFor_iff.mpr ⟨hid.trans hid'.symm, hgeneration.trans hgeneration'.symm, hopen⟩
  have hsame : result.generation = s.snapshot.generation := hgeneration'.trans hgeneration.symm
  rw [Snapshot.deliver, if_pos hfor, hencoding]
  have hphase : ∀ trail, Snapshot.Phase { s with
      snapshot := result, encoding := none, trail := trail } :=
    fun _ => .resting ⟨h2, h3, h1, h4, rfl⟩ (.inr hcompleted)
  have hpassed : s.snapshot.id ≠ "" → s.snapshotRenderPassesToSkip = 0 →
      ∃ i, .passed result.generation i ∈ s.trail := by
    rw [hsame]
    exact h.passed
  have hname : result.id = s.snapshot.id := hid'.trans hid.symm
  have hlast : ∃ handle, lastOpened s.trail = some (handle, result.generation, result.id) := by
    rw [hsame, hname]
    exact hopened
  cases hfailed : result.failed with
  | true =>
    rw [if_pos rfl]
    refine ⟨h.running, ⟨trivial, h.warranted⟩, ?_, fun handle generation id hmem => ?_, .inr hlast,
      ?_, hphase _, fun _ hf => ?_, fun _ _ => ⟨result.generation, ?_⟩⟩
    · intro e he i hi
      rcases List.mem_cons.mp he with rfl | he
      · cases hi
      · exact h.within e he i hi
    · exact h.generations handle generation id (by simpa using hmem)
    · intro hne hskip
      obtain ⟨i, hi⟩ := hpassed (hname ▸ hne) hskip
      exact ⟨i, List.mem_cons_of_mem _ hi⟩
    · rw [hfailed] at hf
      cases hf
    · rw [← hsame]
      exact List.mem_cons_self
  | false =>
    rw [if_neg (by simp)]
    refine ⟨h.running, ⟨⟨hworks.taken, hread⟩, h.warranted⟩, ?_, fun handle generation id hmem => ?_,
      .inr hlast, ?_, hphase _, fun _ _ => ⟨job, List.mem_cons_self, hframe, hrgb⟩, fun _ hf => ?_⟩
    · intro e he i hi
      rcases List.mem_cons.mp he with rfl | he
      · cases hi
      · exact h.within e he i hi
    · exact h.generations handle generation id (by simpa using hmem)
    · intro hne hskip
      obtain ⟨i, hi⟩ := hpassed (hname ▸ hne) hskip
      exact ⟨i, List.mem_cons_of_mem _ hi⟩
    · rw [hfailed] at hf
      cases hf

theorem CaptureInv.workerStep {cfg : PluginConfig} {l : Label} (h : CaptureInv index s)
    (hs : WorkerCapture cfg l s s') : CaptureInv index s' := by
  cases hs with
  | take hnone =>
    rw [Snapshot.takeEncode, if_neg (by simp [h.running])]
    refine h.congr rfl rfl rfl rfl rfl ?_
    cases h.phase with
    | resting hr hwaits =>
      exact .resting ⟨hr.pending, hr.result, hr.carried, rfl, hr.job⟩ hwaits
    | carried hw h1 h2 h3 h4 h5 => exact .carried (hw.congr rfl ⟨[], rfl⟩) h1 h2 h3 rfl h4
    | readback hw h1 h2 h3 h4 h5 h6 =>
      exact .readback (hw.congr rfl ⟨[], rfl⟩) h1 h2 h3 rfl h4 h6
    | queued hw h1 h2 h3 h4 h5 h6 => exact .encoding (hw.congr rfl ⟨[], rfl⟩) h1 h2 h3 rfl h4 h6
    | encoding _ _ _ _ _ hsome => exact absurd (hnone.symm.trans hsome) (by simp)
  | fuse => exact h.congr rfl rfl rfl rfl rfl (h.phase.congr rfl rfl rfl rfl rfl rfl ⟨[], rfl⟩ rfl)
  | deliver reason jpeg hencoding => exact h.deliver hencoding rfl rfl rfl

theorem CaptureInv.load : CaptureInv 0 .load where
  running := rfl
  warranted := trivial
  within _ he := by cases he
  generations _ _ _ hmem := by cases hmem
  opened := .inl rfl
  passed hid := absurd rfl hid
  phase := .resting ⟨rfl, rfl, rfl, rfl, rfl⟩ (.inl rfl)
  completed hc := by cases hc
  failed hc := by cases hc

/-! ## what the executor sees -/

theorem RenderCapture.free {l : Label} (hs : RenderCapture index l s s') (h : s.Free) : s'.Free := by
  obtain ⟨hempty, hresting⟩ := h
  obtain ⟨h1, h2, h3, h4, h5⟩ := hresting
  have hidle : s.idle = true := by
    rw [Snapshot.idle, hempty]
    rfl
  cases hs with
  | frame =>
    have hwants : s.wantsFrame = false := by
      rw [Snapshot.wantsFrame, hempty]
      rfl
    rw [Snapshot.frameToCapture, if_pos (by simp [hwants])]
    exact ⟨hempty, h1, h2, h3, h4, h5⟩
  | fail =>
    rw [Snapshot.fail, if_pos hidle]
    exact ⟨hempty, h1, h2, rfl, h4, h5⟩
  | @synchronous _ r _ hr | @issued _ r _ hr =>
    have hfor : s.isFor r = false := Free.not_isFor ⟨hempty, h1, h2, h3, h4, h5⟩ hr.id
    have hsubmit : ∀ e, ((s.record e).submit r).1 = s.record e := fun e => by
      rw [Snapshot.submit, if_neg]
      show ¬ s.isFor r = true
      simp [hfor]
    rw [hsubmit]
    exact ⟨hempty, h1, h2, h3, h4, h5⟩
  | startReadback hcarried | rearm hcarried | queueEncode hcarried =>
    rw [h3] at hcarried
    cases hcarried
  | dropReadback => exact ⟨hempty, rfl, h2, h3, h4, h5⟩
  | readbackFailed hresult | mapped _ hresult =>
    rw [h2] at hresult
    cases hresult
  | unavailable | notIssued => exact ⟨hempty, h1, h2, h3, h4, h5⟩

theorem WorkerCapture.free {cfg : PluginConfig} {l : Label} (hs : WorkerCapture cfg l s s')
    (h : s.Free) : s'.Free := by
  obtain ⟨hempty, h1, h2, h3, h4, h5⟩ := h
  cases hs with
  | take =>
    unfold Snapshot.takeEncode
    split
    · exact ⟨hempty, h1, h2, h3, h4, h5⟩
    · exact ⟨hempty, h1, h2, h3, rfl, h4⟩
  | fuse => exact ⟨hempty, h1, h2, h3, h4, h5⟩
  | deliver _ _ hencoding =>
    rw [h5] at hencoding
    cases hencoding

structure Snapshot.ExecutorSame (s s' : Snapshot) : Prop where
  free : s.Free → s'.Free
  trail : ∃ new, s'.trail = new ++ s.trail
  opened : lastOpened s'.trail = lastOpened s.trail

theorem Snapshot.ExecutorSame.refl (s : Snapshot) : s.ExecutorSame s := ⟨id, ⟨[], rfl⟩, rfl⟩

theorem Snapshot.ExecutorSame.trans {s'' : Snapshot} (h : s.ExecutorSame s')
    (h' : s'.ExecutorSame s'') : s.ExecutorSame s'' := by
  obtain ⟨new, htrail⟩ := h.trail
  obtain ⟨new', htrail'⟩ := h'.trail
  exact ⟨fun hf => h'.free (h.free hf), ⟨new' ++ new, by rw [htrail', htrail, List.append_assoc]⟩,
    h'.opened.trans h.opened⟩

theorem Snapshot.ExecutorSame.of_record (hfree : s.Free → s'.Free) {e : CaptureEvent}
    (htrail : s'.trail = e :: s.trail)
    (he : ∀ handle generation id, e ≠ .opened handle generation id) : s.ExecutorSame s' :=
  ⟨hfree, ⟨[e], htrail⟩, by rw [htrail, lastOpened_cons he]⟩

theorem Snapshot.ExecutorSame.of_trail (hfree : s.Free → s'.Free) (htrail : s'.trail = s.trail) :
    s.ExecutorSame s' :=
  ⟨hfree, ⟨[], htrail⟩, by rw [htrail]⟩

theorem RenderCapture.executorSame {l : Label} (hs : RenderCapture index l s s') :
    s.ExecutorSame s' := by
  have hfree := hs.free
  cases hs with
  | frame =>
    revert hfree
    unfold Snapshot.frameToCapture
    split
    · exact fun hfree => .of_trail hfree rfl
    split
    · exact fun hfree => .of_record hfree rfl (by simp)
    · exact fun hfree => .of_trail hfree rfl
  | fail =>
    revert hfree
    unfold Snapshot.fail
    split
    · exact fun hfree => .of_trail hfree rfl
    · exact fun hfree => .of_record hfree rfl (by simp)
  | synchronous | issued =>
    revert hfree
    unfold Snapshot.submit
    split <;> exact fun hfree => .of_record hfree rfl (by simp)
  | rearm =>
    revert hfree
    unfold Snapshot.rearm
    split <;> exact fun hfree => .of_trail hfree rfl
  | queueEncode =>
    revert hfree
    unfold Snapshot.queueEncode
    split <;> exact fun hfree => .of_trail hfree rfl
  | mapped => exact .of_record hfree rfl (by simp)
  | startReadback | dropReadback | readbackFailed | unavailable | notIssued =>
    exact .of_trail hfree rfl

theorem WorkerCapture.executorSame {cfg : PluginConfig} {l : Label}
    (hs : WorkerCapture cfg l s s') : s.ExecutorSame s' := by
  have hfree := hs.free
  cases hs with
  | take =>
    revert hfree
    unfold Snapshot.takeEncode
    split <;> exact fun hfree => .of_trail hfree rfl
  | fuse => exact .of_trail hfree rfl
  | deliver reason jpeg hencoding =>
    revert hfree
    unfold Snapshot.deliver
    split
    · rw [hencoding]
      split
      · exact fun hfree => .of_record hfree rfl (by simp)
      · exact fun hfree => .of_record hfree rfl (by simp)
    · exact fun hfree => .of_trail hfree rfl

/-! ## what the render thread and the worker see -/

structure Snapshot.RenderSame (s s' : Snapshot) : Prop where
  pending : s'.snapshotReadbackPending = s.snapshotReadbackPending
  result : s'.snapshotReadbackResult = s.snapshotReadbackResult
  carried : s'.carried = s.carried
  trail : ∃ new, s'.trail = new ++ s.trail ∧ ∀ e ∈ new, e.byRender = false
  resting : s.Resting → s'.Resting

theorem Snapshot.RenderSame.refl (s : Snapshot) : s.RenderSame s :=
  ⟨rfl, rfl, rfl, ⟨[], rfl, by simp⟩, id⟩

theorem Snapshot.RenderSame.trans {s'' : Snapshot} (h : s.RenderSame s') (h' : s'.RenderSame s'') :
    s.RenderSame s'' := by
  obtain ⟨new, htrail, hnew⟩ := h.trail
  obtain ⟨new', htrail', hnew'⟩ := h'.trail
  refine ⟨h'.pending.trans h.pending, h'.result.trans h.result, h'.carried.trans h.carried,
    ⟨new' ++ new, by rw [htrail', htrail, List.append_assoc], ?_⟩, fun hr => h'.resting (h.resting hr)⟩
  intro e he
  rcases List.mem_append.mp he with he | he
  · exact hnew' e he
  · exact hnew e he

theorem ExecutorCapture.renderSame {l : Label} (hs : ExecutorCapture l s s') : s.RenderSame s' := by
  cases hs with
  | admission handle id includeRGB hfree =>
    exact ⟨rfl, rfl, rfl, ⟨[_], rfl, by simp [CaptureEvent.byRender]⟩,
      fun h => ⟨h.pending, h.result, h.carried, h.job, h.encoding⟩⟩
  | finish =>
    unfold Snapshot.finish
    dsimp only
    repeat' split
    all_goals exact ⟨rfl, rfl, rfl, ⟨[], rfl, by simp⟩,
      fun h => ⟨h.pending, h.result, h.carried, h.job, h.encoding⟩⟩

theorem WorkerCapture.renderSame {cfg : PluginConfig} {l : Label} (hs : WorkerCapture cfg l s s') :
    s.RenderSame s' := by
  cases hs with
  | take =>
    unfold Snapshot.takeEncode
    split
    · exact .refl s
    · exact ⟨rfl, rfl, rfl, ⟨[], rfl, by simp⟩,
        fun h => ⟨h.pending, h.result, h.carried, rfl, h.job⟩⟩
  | fuse =>
    exact ⟨rfl, rfl, rfl, ⟨[], rfl, by simp⟩,
      fun h => ⟨h.pending, h.result, h.carried, h.job, h.encoding⟩⟩
  | deliver reason jpeg hencoding =>
    unfold Snapshot.deliver
    split
    · refine ⟨rfl, rfl, rfl, ⟨_, rfl, fun e he => ?_⟩,
        fun h => ⟨h.pending, h.result, h.carried, h.job, rfl⟩⟩
      rw [hencoding] at he
      split at he
      · rcases List.mem_singleton.mp he with rfl
        rfl
      · rcases List.mem_singleton.mp he with rfl
        rfl
    · exact ⟨rfl, rfl, rfl, ⟨[], rfl, by simp⟩,
        fun h => ⟨h.pending, h.result, h.carried, h.job, rfl⟩⟩

theorem ExecutorCapture.encoding {l : Label} (hs : ExecutorCapture l s s') :
    s'.encoding = s.encoding := by
  cases hs with
  | admission => rfl
  | finish =>
    unfold Snapshot.finish
    dsimp only
    repeat' split
    all_goals rfl

theorem RenderCapture.encoding {l : Label} (hs : RenderCapture index l s s') :
    s'.encoding = s.encoding := by
  cases hs with
  | frame =>
    unfold Snapshot.frameToCapture
    repeat' split
    all_goals rfl
  | fail =>
    unfold Snapshot.fail
    split <;> rfl
  | synchronous | issued =>
    unfold Snapshot.submit
    split <;> rfl
  | rearm =>
    unfold Snapshot.rearm
    split <;> rfl
  | queueEncode =>
    unfold Snapshot.queueEncode
    split <;> rfl
  | _ => rfl

end

end MediaCamera
