import MediaCamera.Machine.Ledger
import MediaCamera.Machine.Script
import MediaCamera.Plugin.Render

/-!
# The asynchronous readback of a snapshot

What `IssueSnapshotPBOReadback` and `PollSnapshotPBOReadback` ask of OpenGL: the buffer and its
store, the framebuffer, the fence, the mapping, and the bindings of the context that Gazebo renders
in.

* `GLContext`   the bindings that the two functions change;
* `Reader`      the members of the readback, the context, and the ledger of the calls;
* `issueSnapshotPBOReadback`, `pollSnapshotPBOReadback`   the functions;
* `machine`     any sequence of calls of `CaptureSnapshot`.
-/

namespace MediaCamera.Readback

inductive Slot where
  | snapshotReadbackBuffer
  | snapshotReadFramebuffer
  /-- the local variable of `IssueSnapshotPBOReadback` -/
  | fence
  | snapshotReadbackFence
  /-- the mapping of the buffer -/
  | mapped
  deriving DecidableEq, Repr

def Slot.needs : Slot → List Slot
  | mapped => [snapshotReadbackBuffer]
  | _ => []

/-- the bindings and pixel-store parameters; `0` is no object -/
structure GLContext where
  readFramebuffer : Nat
  pixelPackBuffer : Nat
  packAlignment : Nat
  packRowLength : Nat
  packSkipRows : Nat
  packSkipPixels : Nat
  deriving DecidableEq, Repr

/-- the end of what `glReadPixels` writes for an image of `GL_RGB` bytes -/
def GLContext.packedBytes (c : GLContext) (width height : Nat) : Nat :=
  let row := if c.packRowLength = 0 then width else c.packRowLength
  let stride := (row * 3 + (c.packAlignment - 1)) / c.packAlignment * c.packAlignment
  if width = 0 ∨ height = 0 then 0
  else (c.packSkipRows + (height - 1)) * stride + (c.packSkipPixels + width) * 3

/-- the four `glPixelStorei` calls -/
def GLContext.packTightly (c : GLContext) : GLContext :=
  { c with packAlignment := 1, packRowLength := 0, packSkipRows := 0, packSkipPixels := 0 }

/-- `store` is the size of the buffer's data store, `snapshotReadbackResult` the size of the image
that is read back; `strays` counts the accesses to another object, or beyond the store -/
structure Reader where
  device : Device Slot
  context : GLContext
  store : Nat
  strays : Nat
  glewInitialized : Bool
  snapshotReadbackBufferBytes : Nat
  snapshotPBOAvailable : Bool
  snapshotPBOFailureReason : String
  snapshotReadbackPending : Bool
  snapshotReadbackResult : Option (Nat × Nat)

def Reader.initial (context : GLContext) : Reader :=
  ⟨.new, context, 0, 0, false, 0, true, "", false, none⟩

abbrev Render (α : Type) := Script Reader Empty α

namespace Reader

def onDevice (f : Device Slot → Device Slot) (r : Reader) : Reader := { r with device := f r.device }

def take (s : Slot) : Reader → Reader := onDevice (.take Slot.needs s)

def use (s : Slot) : Reader → Reader := onDevice (.use s)

def name (r : Reader) (s : Slot) : Nat := (r.device.members s).elim 0 (· + 1)

/-- `glBindBuffer(GL_PIXEL_PACK_BUFFER, snapshotReadbackBuffer_)` -/
def bindBuffer (r : Reader) : Reader :=
  { r.use .snapshotReadbackBuffer with
    context := { r.context with pixelPackBuffer := r.name .snapshotReadbackBuffer } }

def rebindBuffer (previous : Nat) (r : Reader) : Reader :=
  { r with context := { r.context with pixelPackBuffer := previous } }

def access (bytes : Nat) (r : Reader) : Reader :=
  { r.use .snapshotReadbackBuffer with
    strays := if r.context.pixelPackBuffer = r.name .snapshotReadbackBuffer ∧ bytes ≤ r.store
      then r.strays else r.strays + 1 }

def glReadPixels (width height : Nat) (r : Reader) : Reader :=
  ({ r.use .snapshotReadFramebuffer with
    strays := if r.context.readFramebuffer = r.name .snapshotReadFramebuffer
      then r.strays else r.strays + 1 } : Reader).access (r.context.packedBytes width height)

def giveUp (reason : String) (r : Reader) : Reader :=
  { r with snapshotPBOFailureReason := reason, snapshotPBOAvailable := false }

end Reader

def modify (f : Reader → Reader) : Render Unit := modifyThe Reader f

/-- a reason is stored, and the caller reads back synchronously -/
def unavailable (reason : String) : Render PboIssue := do
  modify (·.giveUp reason)
  return .unavailable reason

/-! ## issue -/

structure IssueAnswers where
  glewInit : Bool
  /-- `GLEW_ARB_pixel_buffer_object && GLEW_ARB_sync` -/
  extensions : Bool
  genBuffers : Bool
  genFramebuffers : Bool
  bufferData : Bool
  /-- the store that a failed `glBufferData` leaves -/
  storeAfterError : Nat
  glTexture : Bool
  framebufferComplete : Bool
  fenceSync : Bool
  /-- `glGetError() == GL_NO_ERROR` after the issue -/
  noError : Bool
  /-- the open capture is still the one that is read back -/
  current : Bool

def ensureGLEWDispatch (glewInit : Bool) : Render Bool :=
  .once (·.glewInitialized) (fun r => { r with glewInitialized := true }) glewInit

def Reader.genObjects (a : IssueAnswers) (r : Reader) : Reader :=
  let r := if !r.device.has .snapshotReadbackBuffer && a.genBuffers
    then r.take .snapshotReadbackBuffer else r
  if !r.device.has .snapshotReadFramebuffer && a.genFramebuffers
    then r.take .snapshotReadFramebuffer else r

def Reader.bufferData (bytes : Nat) (a : IssueAnswers) (r : Reader) : Reader :=
  let previous := r.context.pixelPackBuffer
  { r.bindBuffer.use .snapshotReadbackBuffer with
    store := if a.bufferData then bytes else a.storeAfterError }.rebindBuffer previous

def refused (reason : String) : Render (Option PboIssue) := do
  modify (·.giveUp reason)
  return some (.unavailable reason)

/-- `EnsureSnapshotPBO`; `none` where the buffer is ready -/
def ensureSnapshotPBO (bytes : Nat) (a : IssueAnswers) : Render (Option PboIssue) := do
  if !((← ensureGLEWDispatch a.glewInit) && a.extensions) then
    refused "asynchronous OpenGL PBO readback is unavailable"
  else
    modify (·.genObjects a)
    let r ← getThe Reader
    if !(r.device.has .snapshotReadbackBuffer && r.device.has .snapshotReadFramebuffer) then
      refused "OpenGL could not allocate snapshot PBO resources"
    else if r.snapshotReadbackBufferBytes ≠ bytes then
      modify (·.bufferData bytes a)
      if !a.bufferData then refused "OpenGL could not size the snapshot PBO"
      else
        modify fun r => { r with snapshotReadbackBufferBytes := bytes }
        return none
    else return none

def Reader.restore (previous : GLContext) (r : Reader) : Reader :=
  { r with context := { r.context with
      pixelPackBuffer := previous.pixelPackBuffer
      packAlignment := previous.packAlignment
      packRowLength := previous.packRowLength
      packSkipRows := previous.packSkipRows
      packSkipPixels := previous.packSkipPixels
      readFramebuffer := previous.readFramebuffer } }

def Reader.attachTexture (r : Reader) : Reader :=
  { r.use .snapshotReadFramebuffer with
    context := { r.context with readFramebuffer := r.name .snapshotReadFramebuffer } }

/-- from `glReadBuffer` to `glFenceSync` -/
def Reader.readPixels (width height : Nat) (a : IssueAnswers) (r : Reader) : Reader :=
  let r := r.bindBuffer
  let r := { r with context := r.context.packTightly }.glReadPixels width height
  if a.fenceSync then r.take .fence else r

/-- `IssueSnapshotPBOReadback` with the buffer -/
def issueReadback (width height : Nat) (a : IssueAnswers) : Render PboIssue := do
  if !a.glTexture then unavailable "Gazebo camera texture is not an OpenGL texture"
  else
    let previous := (← getThe Reader).context
    modify (·.attachTexture)
    if !a.framebufferComplete then
      modify (·.restore previous)
      unavailable "OpenGL could not bind the Gazebo texture for snapshot readback"
    else
      modify (·.readPixels width height a)
      modify (·.restore previous)
      if !(a.noError && a.fenceSync) then
        modify (·.onDevice (.dropIf .fence))
        unavailable "OpenGL could not issue asynchronous snapshot readback"
      else if !a.current then
        modify (·.onDevice (.drop .fence))
        return .issued
      else
        modify fun r => { r.onDevice (.move .fence .snapshotReadbackFence) with
          snapshotReadbackResult := some (width, height)
          snapshotReadbackPending := true }
        return .issued

def issueSnapshotPBOReadback (width height : Nat) (a : IssueAnswers) : Render PboIssue := do
  match ← ensureSnapshotPBO (width * height * 3) a with
  | some refused => return refused
  | none => issueReadback width height a

/-! ## poll -/

inductive WaitStatus where
  | timeoutExpired
  | waitFailed
  | signaled
  deriving DecidableEq, Repr

structure PollAnswers where
  clientWaitSync : WaitStatus
  mapBufferRange : Bool
  /-- the bytes of the mapped range -/
  contents : List UInt8
  unmapBuffer : Bool
  /-- `glGetError() == GL_NO_ERROR` -/
  noError : Bool

/-- `RearmSnapshotAfterPBOFailure`, less its section -/
def rearm (reason : String) : Render PboPoll := do
  modify (·.giveUp reason)
  return .failed reason

/-- `CopyGazeboPBOToImageOrder` on dimensions that a capture can have -/
def copies (bytes width height : Nat) : Bool :=
  decide (width ≠ 0 ∧ height ≠ 0 ∧ bytes = width * height * 3)

/-- the copy out of the mapped buffer, up to `glUnmapBuffer` -/
def Reader.copyOut (r : Reader) : Reader :=
  (((r.take .mapped).use .mapped).access r.snapshotReadbackBufferBytes).onDevice (.drop .mapped)

/-- `PollSnapshotPBOReadback` once the fence is deleted -/
def mapReadback (width height : Nat) (a : PollAnswers) : Render PboPoll := do
  let previous := (← getThe Reader).context.pixelPackBuffer
  modify (·.bindBuffer)
  if !a.mapBufferRange then
    modify (·.rebindBuffer previous)
    rearm "OpenGL could not map the completed snapshot PBO"
  else
    let copied := copies (← getThe Reader).snapshotReadbackBufferBytes width height
    modify (·.copyOut)
    modify (·.rebindBuffer previous)
    if !(copied && a.unmapBuffer && a.noError) then
      rearm "OpenGL could not complete the snapshot PBO mapping"
    else return .copied a.contents

def Reader.settle (r : Reader) : Reader :=
  { r.onDevice (.drop .snapshotReadbackFence) with
    snapshotReadbackResult := none
    snapshotReadbackPending := false }

/-- `PollSnapshotPBOReadback` with a result and a fence -/
def pollFence (width height : Nat) (a : PollAnswers) : Render PboPoll := do
  modify (·.use .snapshotReadbackFence)
  match a.clientWaitSync with
  | .timeoutExpired => return .timeout
  | .waitFailed =>
    modify (·.settle)
    rearm "OpenGL snapshot PBO fence wait failed"
  | .signaled =>
    modify (·.settle)
    mapReadback width height a

/-- `PollSnapshotPBOReadback`; `none` without a result or a fence -/
def pollSnapshotPBOReadback (a : PollAnswers) : Render (Option PboPoll) := do
  let r ← getThe Reader
  match r.snapshotReadbackResult with
  | none =>
    modify fun r => { r with snapshotReadbackPending := false }
    return none
  | some (width, height) =>
    if !r.device.has .snapshotReadbackFence then
      modify fun r => { r with snapshotReadbackPending := false }
      return none
    else
      let poll ← pollFence width height a
      return some poll

/-! ## the machine -/

/-- the calls of `CaptureSnapshot` that reach OpenGL: a poll, or a frame of this size -/
inductive Action where
  | poll (a : PollAnswers)
  | issue (width height : Nat) (a : IssueAnswers)

/-- `CaptureSnapshot` polls a readback that is pending, and issues one while it is available -/
def step (r : Reader) : Action → Reader
  | .poll a => if r.snapshotReadbackPending then (pollSnapshotPBOReadback a r).2 else r
  | .issue width height a =>
    if !r.snapshotReadbackPending && r.snapshotPBOAvailable then
      (issueSnapshotPBOReadback width height a r).2
    else r

/-- what the render thread does between two of these calls: Gazebo renders, and the encoder may
initialize GLEW -/
structure Meanwhile where
  context : GLContext
  glewInitialized : Bool

def Reader.resume (m : Meanwhile) (r : Reader) : Reader :=
  { r with context := m.context, glewInitialized := r.glewInitialized || m.glewInitialized }

def machine : Machine Reader (Meanwhile × Action) where
  init r := ∃ context, r = .initial context
  step r a := step (r.resume a.1) a.2

/-! ## what the calls keep -/

abbrev Returns {α : Type} (x : Render α) (r : Reader) (Q : α → Reader → Prop) : Prop :=
  Script.Ends x r Q fun _ _ => False

abbrev Reader.Owns (r : Reader) (l : List Slot) : Prop := r.device.Holding Slot.needs l

def objects : List Slot := [.snapshotReadFramebuffer, .snapshotReadbackBuffer]

/-- no readback is pending -/
structure Reader.Free (r : Reader) : Prop where
  owns : ∃ l, r.Owns l ∧ ∀ s ∈ l, s ∈ objects
  pending : r.snapshotReadbackPending = false
  result : r.snapshotReadbackResult = none
  store : r.snapshotPBOAvailable = true → r.store = r.snapshotReadbackBufferBytes
  strays : r.strays = 0

structure Reader.Pending (r : Reader) (width height : Nat) : Prop where
  owns : r.Owns (.snapshotReadbackFence :: objects)
  pending : r.snapshotReadbackPending = true
  result : r.snapshotReadbackResult = some (width, height)
  available : r.snapshotPBOAvailable = true
  store : r.store = r.snapshotReadbackBufferBytes
  bytes : r.snapshotReadbackBufferBytes = width * height * 3
  strays : r.strays = 0

/-- the members that the model of the plugin has -/
def Reader.view (r : Reader) : Bool × String × Bool × Option (Nat × Nat) :=
  (r.snapshotPBOAvailable, r.snapshotPBOFailureReason, r.snapshotReadbackPending,
    r.snapshotReadbackResult)

section
variable {r : Reader} {l : List Slot} {width height bytes : Nat} {a : IssueAnswers}

theorem Reader.Free.giveUp (h : r.Free) (reason : String) : (r.giveUp reason).Free :=
  ⟨h.owns, h.pending, h.result, fun hf => absurd hf Bool.false_ne_true, h.strays⟩

theorem Reader.Free.giveUp_view (h : r.Free) (reason : String) :
    (r.giveUp reason).view = (false, reason, false, none) := by
  show (false, reason, r.snapshotReadbackPending, r.snapshotReadbackResult) = _
  rw [h.pending, h.result]

def Ensured (bytes : Nat) (r : Reader) : Option PboIssue → Reader → Prop
  | some (.unavailable reason), r' =>
    r'.context = r.context ∧ r'.Free ∧ r'.view = (false, reason, false, none)
  | some .issued, _ => False
  | none, r' =>
    r'.context = r.context ∧ r'.Free ∧ r'.view = r.view ∧ r'.Owns objects ∧ r'.store = bytes ∧
      r'.snapshotReadbackBufferBytes = bytes

theorem refused_returns {r' : Reader} (h : r'.Free) (hcontext : r'.context = r.context)
    (reason : String) : Returns (refused reason) r' (Ensured bytes r) :=
  .modify_bind (.pure ⟨hcontext, h.giveUp reason, h.giveUp_view reason⟩)

theorem ensureGLEWDispatch_returns (h : r.Free) (glewInit : Bool) :
    Returns (ensureGLEWDispatch glewInit) r fun _ r' => r'.Free ∧ r'.context = r.context ∧
      r'.view = r.view := by
  apply Script.Ends.once
  · exact fun _ => ⟨h, rfl, rfl⟩
  · exact fun _ _ => ⟨h, rfl, rfl⟩
  · exact fun _ _ => ⟨⟨h.owns, h.pending, h.result, h.store, h.strays⟩, rfl, rfl⟩

theorem takeObject (h : r.Free) {s : Slot} (hs : s ∈ objects) (gen : Bool) :
    (if !r.device.has s && gen then r.take s else r).Free := by
  obtain ⟨l, hl, hobjects⟩ := h.owns
  split
  · rename_i hnew
    have hnot : s ∉ l := fun hmem => by simp [hl.has hmem] at hnew
    refine ⟨⟨s :: l, hl.take hnot ?_, List.forall_mem_cons.mpr ⟨hs, hobjects⟩⟩, h.pending, h.result,
      h.store, h.strays⟩
    simp only [objects, List.mem_cons, List.not_mem_nil, or_false] at hs
    rcases hs with rfl | rfl <;> simp [Slot.needs]
  · exact h

theorem genObjects_view (a : IssueAnswers) (r : Reader) :
    (r.genObjects a).view = r.view ∧ (r.genObjects a).context = r.context := by
  unfold Reader.genObjects
  dsimp only
  split <;> split <;> exact ⟨rfl, rfl⟩

theorem Reader.Free.owns_objects (h : r.Free)
    (hall : (r.device.has .snapshotReadbackBuffer && r.device.has .snapshotReadFramebuffer) = true) :
    r.Owns objects := by
  obtain ⟨l, hl, hobjects⟩ := h.owns
  obtain ⟨hbuffer, hframebuffer⟩ := (Bool.and_eq_true _ _).mp hall
  refine hl.congr fun s => ⟨hobjects s, fun hs => ?_⟩
  simp only [objects, List.mem_cons, List.not_mem_nil, or_false] at hs
  rcases hs with rfl | rfl
  · exact (hl.has_iff _).mp hframebuffer
  · exact (hl.has_iff _).mp hbuffer

theorem ensureSnapshotPBO_returns (h : r.Free) (havailable : r.snapshotPBOAvailable = true) :
    Returns (ensureSnapshotPBO bytes a) r (Ensured bytes r) := by
  refine .bind (ensureGLEWDispatch_returns h a.glewInit) ?_
  rintro b r₁ ⟨h₁, hcontext₁, hview₁⟩
  split
  · exact refused_returns h₁ hcontext₁ _
  have h₂ : (r₁.genObjects a).Free :=
    takeObject (takeObject h₁ (s := .snapshotReadbackBuffer) (by simp [objects]) a.genBuffers)
      (s := .snapshotReadFramebuffer) (by simp [objects]) a.genFramebuffers
  obtain ⟨hview₂, hcontext₂⟩ := genObjects_view a r₁
  have hcontext₂ := hcontext₂.trans hcontext₁
  have hview₂ := hview₂.trans hview₁
  refine .modify_bind (.get_bind ?_)
  generalize r₁.genObjects a = r₂ at h₂ hview₂ hcontext₂
  split
  · exact refused_returns h₂ hcontext₂ _
  rename_i hall
  have howns : r₂.Owns objects := h₂.owns_objects (by simpa using hall)
  have havailable₂ : r₂.snapshotPBOAvailable = true :=
    (congrArg Prod.fst hview₂).trans havailable
  split
  · -- the store gets its size
    have hsized : (r₂.bufferData bytes a).Owns objects :=
      (howns.use (by simp [objects])).use (by simp [objects])
    refine .modify_bind ?_
    split
    · refine .modify_bind (.pure ⟨hcontext₂, ⟨⟨_, hsized, fun s hs => hs⟩, h₂.pending, h₂.result,
        fun hf => absurd hf Bool.false_ne_true, h₂.strays⟩, ?_⟩)
      show (false, _, r₂.snapshotReadbackPending, r₂.snapshotReadbackResult) = _
      rw [h₂.pending, h₂.result]
      rfl
    · rename_i hdata
      have hstore : (r₂.bufferData bytes a).store = bytes := by
        show (if a.bufferData then _ else _) = _
        rw [if_pos (by simpa using hdata)]
      exact .modify_bind (.pure ⟨hcontext₂, ⟨⟨_, hsized, fun s hs => hs⟩, h₂.pending, h₂.result,
        fun _ => hstore, h₂.strays⟩, hview₂, hsized, hstore, rfl⟩)
  · rename_i hbytes
    have hbytes : r₂.snapshotReadbackBufferBytes = bytes := by simpa using hbytes
    exact .pure ⟨hcontext₂, h₂, hview₂, howns, (h₂.store havailable₂).trans hbytes, hbytes⟩

def Issued (width height : Nat) (current : Bool) (r : Reader) : PboIssue → Reader → Prop
  | .unavailable reason, r' =>
    r'.context = r.context ∧ r'.Free ∧ r'.view = (false, reason, false, none)
  | .issued, r' =>
    r'.context = r.context ∧
      r'.view = (true, r.snapshotPBOFailureReason, current,
        if current then some (width, height) else none) ∧
      (current = true → r'.Pending width height) ∧ (current = false → r'.Free)

theorem unavailable_returns {r' : Reader} {current : Bool} (h : r'.Free)
    (hcontext : r'.context = r.context) (reason : String) :
    Returns (unavailable reason) r' (Issued width height current r) :=
  .modify_bind (.pure ⟨hcontext, h.giveUp reason, h.giveUp_view reason⟩)

theorem packedBytes_packTightly (c : GLContext) :
    c.packTightly.packedBytes width height ≤ width * height * 3 := by
  have hpacked : c.packTightly.packedBytes width height = if width = 0 ∨ height = 0 then 0
      else (0 + (height - 1)) * ((width * 3 + (1 - 1)) / 1 * 1) + (0 + width) * 3 := rfl
  rw [hpacked]
  split
  · exact Nat.zero_le _
  · rename_i hsize
    obtain ⟨n, rfl⟩ : ∃ n, height = n + 1 := ⟨height - 1, by omega⟩
    have hrows : (0 + (n + 1 - 1)) * ((width * 3 + (1 - 1)) / 1 * 1) + (0 + width) * 3 =
        width * (n + 1) * 3 := by
      rw [Nat.sub_self, Nat.add_zero, Nat.div_one, Nat.mul_one, Nat.add_sub_cancel]
      ring
    exact le_of_eq hrows

theorem readPixels_owns (h : r.Owns objects) (width height : Nat) (a : IssueAnswers) :
    (r.readPixels width height a).Owns (if a.fenceSync then .fence :: objects else objects) := by
  have hread : (((r.device.use .snapshotReadbackBuffer).use .snapshotReadFramebuffer).use
      .snapshotReadbackBuffer).Holding Slot.needs objects :=
    ((h.use (by simp [objects])).use (by simp [objects])).use (by simp [objects])
  unfold Reader.readPixels
  dsimp only
  split
  · exact hread.take (by simp [objects]) (by simp [Slot.needs])
  · exact hread

/-- whatever the bindings and parameters of the context are, the pixels go into the store -/
theorem readPixels_members (hstore : width * height * 3 ≤ r.store)
    (hframebuffer : r.context.readFramebuffer = r.name .snapshotReadFramebuffer) :
    (r.readPixels width height a).view = r.view ∧ (r.readPixels width height a).store = r.store ∧
      (r.readPixels width height a).snapshotReadbackBufferBytes = r.snapshotReadbackBufferBytes ∧
        (r.readPixels width height a).strays = r.strays := by
  have hfits : ({ r.bindBuffer with context := r.bindBuffer.context.packTightly }.glReadPixels
      width height).strays = r.strays := by
    show (if r.name .snapshotReadbackBuffer = r.name .snapshotReadbackBuffer ∧ _ ≤ r.store then
      (if r.context.readFramebuffer = r.name .snapshotReadFramebuffer then r.strays
        else r.strays + 1) else _) = _
    rw [if_pos ⟨rfl, (packedBytes_packTightly _).trans hstore⟩, if_pos hframebuffer]
  unfold Reader.readPixels
  dsimp only
  split <;> exact ⟨rfl, rfl, rfl, hfits⟩

theorem issueReadback_returns (h : r.Free) (howns : r.Owns objects)
    (havailable : r.snapshotPBOAvailable = true) (hstore : r.store = width * height * 3)
    (hbytes : r.snapshotReadbackBufferBytes = width * height * 3) :
    Returns (issueReadback width height a) r (Issued width height a.current r) := by
  unfold issueReadback
  split
  · exact unavailable_returns h rfl _
  refine .get_bind (.modify_bind ?_)
  have hattach : r.attachTexture.Owns objects := howns.use (by simp [objects])
  split
  · refine .modify_bind (unavailable_returns ?_ rfl _)
    exact ⟨⟨_, hattach, fun s hs => hs⟩, h.pending, h.result, h.store, h.strays⟩
  -- the pixels go into a store of their size
  have hread := readPixels_owns hattach width height a
  obtain ⟨hview, hstore', hbytes', hstrays⟩ := readPixels_members (r := r.attachTexture) (a := a)
    (le_of_eq hstore.symm) rfl
  refine .modify_bind (.modify_bind ?_)
  generalize Reader.readPixels width height a r.attachTexture = r' at hread hview hstore' hbytes' hstrays
  have hview : r'.view = r.view := hview
  have hstore' : r'.store = r'.snapshotReadbackBufferBytes := by
    rw [hstore', hbytes']
    exact hstore.trans hbytes.symm
  have hpending : r'.snapshotReadbackPending = false :=
    (congrArg (fun v => v.2.2.1) hview).trans h.pending
  have hresult : r'.snapshotReadbackResult = none :=
    (congrArg (fun v => v.2.2.2) hview).trans h.result
  have hstrays : r'.strays = 0 := hstrays.trans h.strays
  split
  · -- the fence, if there is one, is deleted
    have hdrop : (r'.device.dropIf .fence).Holding Slot.needs objects := by
      cases hfence : a.fenceSync with
      | true =>
        rw [hfence, if_pos rfl] at hread
        refine (hread.dropIf (s := .fence) ?_).congr ?_ <;> simp [objects, Slot.needs]
      | false =>
        rw [hfence, if_neg Bool.false_ne_true] at hread
        refine (hread.dropIf (s := .fence) ?_).congr ?_ <;> simp [objects, Slot.needs]
    have hfree : Reader.Free ((r'.restore r.context).onDevice (.dropIf .fence)) :=
      ⟨⟨_, hdrop, fun s hs => hs⟩, hpending, hresult, fun _ => hstore', hstrays⟩
    have hcontext : ((r'.restore r.context).onDevice (.dropIf .fence)).context = r.context := rfl
    exact .modify_bind (unavailable_returns hfree hcontext _)
  rename_i hissued
  obtain ⟨-, hfence⟩ : a.noError = true ∧ a.fenceSync = true := by simpa using hissued
  rw [hfence, if_pos rfl] at hread
  have hviewed : (r'.snapshotPBOAvailable, r'.snapshotPBOFailureReason) =
      (true, r.snapshotPBOFailureReason) := by
    rw [← havailable]
    exact congrArg (fun v => (v.1, v.2.1)) hview
  obtain ⟨havailable', hreason'⟩ := Prod.mk.inj hviewed
  cases hcurrent : a.current with
  | false =>
    have hdrop : (r'.device.drop .fence).Holding Slot.needs objects := by
      refine (hread.drop (s := .fence) ?_ ?_).congr ?_ <;> simp [objects, Slot.needs]
    rw [if_pos (by simp)]
    refine .modify_bind (.pure ⟨rfl, ?_, fun hf => absurd hf Bool.false_ne_true, fun _ => ?_⟩)
    · show (r'.snapshotPBOAvailable, r'.snapshotPBOFailureReason, r'.snapshotReadbackPending,
        r'.snapshotReadbackResult) = _
      rw [havailable', hreason', hpending, hresult]
      rfl
    · exact ⟨⟨_, hdrop, fun s hs => hs⟩, hpending, hresult, fun _ => hstore', hstrays⟩
  | true =>
    have hmove : (r'.device.move .fence .snapshotReadbackFence).Holding Slot.needs
        (.snapshotReadbackFence :: objects) := by
      have hneeds : Slot.needs .snapshotReadbackFence = Slot.needs .fence := rfl
      refine (hread.move ?_ ?_ hneeds ?_).congr ?_ <;> simp [objects, Slot.needs]
    rw [if_neg (by simp)]
    refine .modify_bind (.pure ⟨rfl, ?_, fun _ => ?_, fun hf => absurd hf.symm Bool.false_ne_true⟩)
    · show (r'.snapshotPBOAvailable, r'.snapshotPBOFailureReason, true, some (width, height)) = _
      rw [havailable', hreason']
      rfl
    · refine ⟨hmove, rfl, rfl, havailable', hstore', ?_, hstrays⟩
      exact hbytes'.trans hbytes

theorem issueSnapshotPBOReadback_returns (h : r.Free) (havailable : r.snapshotPBOAvailable = true)
    (width height : Nat) (a : IssueAnswers) :
    Returns (issueSnapshotPBOReadback width height a) r (Issued width height a.current r) := by
  refine .bind (ensureSnapshotPBO_returns h havailable) ?_
  intro b r' hensured
  cases b with
  | some refused =>
    cases refused with
    | unavailable reason => exact .pure hensured
    | issued => exact absurd hensured id
  | none =>
    obtain ⟨hcontext, hfree, hview, howns, hstore, hbytes⟩ := hensured
    have havailable' : r'.snapshotPBOAvailable = true := (congrArg Prod.fst hview).trans havailable
    have hreason : r'.snapshotPBOFailureReason = r.snapshotPBOFailureReason :=
      congrArg (fun v => v.2.1) hview
    refine (issueReadback_returns hfree howns havailable' hstore hbytes).mono ?_ fun _ _ he => he
    intro b r'' hissued
    cases b with
    | unavailable reason => exact ⟨hissued.1.trans hcontext, hissued.2⟩
    | issued =>
      obtain ⟨hcontext', hview', hrest⟩ := hissued
      rw [hreason] at hview'
      exact ⟨hcontext'.trans hcontext, hview', hrest⟩

/-- what `PollSnapshotPBOReadback` leaves once the fence is signaled, or lost -/
def Settled (r : Reader) : PboPoll → Reader → Prop
  | .timeout, _ => False
  | .failed reason, r' => r'.context = r.context ∧ r'.Free ∧ r'.view = (false, reason, false, none)
  | .copied _, r' =>
    r'.context = r.context ∧ r'.Free ∧ r'.view = (true, r.snapshotPBOFailureReason, false, none)

theorem rearm_returns {r' : Reader} (h : r'.Free) (hcontext : r'.context = r.context)
    (reason : String) : Returns (rearm reason) r' (Settled r) :=
  .modify_bind (.pure ⟨hcontext, h.giveUp reason, h.giveUp_view reason⟩)

theorem Reader.Pending.settle (h : r.Pending width height) :
    r.settle.Free ∧ r.settle.Owns objects := by
  have hdrop : (r.device.drop .snapshotReadbackFence).Holding Slot.needs objects := by
    refine (h.owns.drop (s := .snapshotReadbackFence) ?_ ?_).congr ?_ <;> simp [objects, Slot.needs]
  exact ⟨⟨⟨_, hdrop, fun s hs => hs⟩, rfl, rfl, fun _ => h.store, h.strays⟩, hdrop⟩

theorem copyOut_returns (howns : r.Owns objects) (hstore : r.store = r.snapshotReadbackBufferBytes)
    (hbound : r.context.pixelPackBuffer = r.name .snapshotReadbackBuffer) :
    r.copyOut.Owns objects ∧ r.copyOut.strays = r.strays := by
  have hmapped : (r.device.take Slot.needs .mapped).Holding Slot.needs (.mapped :: objects) :=
    howns.take (by simp [objects]) (by simp [objects, Slot.needs])
  have hread : (((r.device.take Slot.needs .mapped).use .mapped).use
      .snapshotReadbackBuffer).Holding Slot.needs (.mapped :: objects) :=
    (hmapped.use (by simp)).use (by simp [objects])
  constructor
  · refine (hread.drop (s := .mapped) ?_ ?_).congr ?_ <;> simp [objects, Slot.needs]
  · have hname : ((r.take .mapped).use .mapped).name .snapshotReadbackBuffer =
        r.name .snapshotReadbackBuffer := by
      show Option.elim (Function.update r.device.members .mapped (some r.device.opened)
        .snapshotReadbackBuffer) 0 (· + 1) = _
      rw [Function.update_of_ne (by decide)]
      rfl
    show (if r.context.pixelPackBuffer = _ ∧ r.snapshotReadbackBufferBytes ≤ r.store then r.strays
      else r.strays + 1) = r.strays
    rw [hname, if_pos ⟨hbound, le_of_eq hstore.symm⟩]

theorem mapReadback_returns {a : PollAnswers} (h : r.Free) (howns : r.Owns objects)
    (havailable : r.snapshotPBOAvailable = true) :
    Returns (mapReadback width height a) r (Settled r) := by
  have hbind : r.bindBuffer.Owns objects := howns.use (by simp [objects])
  refine .get_bind (.modify_bind ?_)
  split
  · have hfree : (r.bindBuffer.rebindBuffer r.context.pixelPackBuffer).Free :=
      ⟨⟨_, hbind, fun s hs => hs⟩, h.pending, h.result, h.store, h.strays⟩
    exact .modify_bind (rearm_returns hfree rfl _)
  obtain ⟨hcopy, hstrays⟩ := copyOut_returns hbind (h.store havailable) rfl
  have hfree : (r.bindBuffer.copyOut.rebindBuffer r.context.pixelPackBuffer).Free :=
    ⟨⟨_, hcopy, fun s hs => hs⟩, h.pending, h.result, h.store, hstrays.trans h.strays⟩
  refine .get_bind (.modify_bind (.modify_bind ?_))
  split
  · exact rearm_returns hfree rfl _
  · refine .pure ⟨rfl, hfree, ?_⟩
    show (r.snapshotPBOAvailable, r.snapshotPBOFailureReason, r.snapshotReadbackPending,
      r.snapshotReadbackResult) = _
    rw [havailable, h.pending, h.result]

def Polled (width height : Nat) (r : Reader) (poll : PboPoll) (r' : Reader) : Prop :=
  Settled r poll r' ∨
    (poll = .timeout ∧ r'.context = r.context ∧ r'.Pending width height ∧ r'.view = r.view)

theorem pollFence_returns {a : PollAnswers} (h : r.Pending width height) :
    Returns (pollFence width height a) r (Polled width height r) := by
  have huse : (r.use .snapshotReadbackFence).Pending width height :=
    ⟨h.owns.use (by simp), h.pending, h.result, h.available, h.store, h.bytes, h.strays⟩
  obtain ⟨hfree, howns⟩ := huse.settle
  have hcontext : (r.use .snapshotReadbackFence).settle.context = r.context := rfl
  refine .modify_bind ?_
  cases a.clientWaitSync with
  | timeoutExpired => exact .pure (.inr ⟨rfl, rfl, huse, rfl⟩)
  | waitFailed =>
    refine .modify_bind ((rearm_returns hfree hcontext _).mono ?_ fun _ _ he => he)
    exact fun poll r' hsettled => .inl hsettled
  | signaled =>
    refine .modify_bind ((mapReadback_returns hfree howns h.available).mono ?_ fun _ _ he => he)
    intro poll r' hsettled
    left
    cases poll <;> exact hsettled

theorem pollSnapshotPBOReadback_returns {a : PollAnswers} (h : r.Pending width height) :
    Returns (pollSnapshotPBOReadback a) r fun poll r' =>
      ∃ found, poll = some found ∧ Polled width height r found r' := by
  refine .get_bind ?_
  rw [h.result]
  have hfence : r.device.has .snapshotReadbackFence = true := h.owns.has List.mem_cons_self
  rw [hfence]
  exact .bind (pollFence_returns h) fun found r' hpolled => .pure ⟨found, rfl, hpolled⟩

/-! ## every run -/

def Reader.Between (r : Reader) : Prop := r.Free ∨ ∃ width height, r.Pending width height

theorem Reader.Between.of_issued {r' : Reader} {current : Bool} {issue : PboIssue}
    (h : Issued width height current r issue r') : r'.context = r.context ∧ r'.Between := by
  cases issue with
  | unavailable reason => exact ⟨h.1, .inl h.2.1⟩
  | issued =>
    obtain ⟨hcontext, -, hpending, hfree⟩ := h
    refine ⟨hcontext, ?_⟩
    cases hc : current with
    | true => exact .inr ⟨width, height, hpending hc⟩
    | false => exact .inl (hfree hc)

theorem Reader.Between.of_polled {r' : Reader} {poll : PboPoll}
    (h : Polled width height r poll r') : r'.context = r.context ∧ r'.Between := by
  rcases h with hsettled | ⟨-, hcontext, hpending, -⟩
  · cases poll with
    | timeout => exact absurd hsettled id
    | failed reason => exact ⟨hsettled.1, .inl hsettled.2.1⟩
    | copied rgb => exact ⟨hsettled.1, .inl hsettled.2.1⟩
  · exact ⟨hcontext, .inr ⟨width, height, hpending⟩⟩

theorem step_between (h : r.Between) (a : Action) :
    (step r a).context = r.context ∧ (step r a).Between := by
  cases a with
  | poll a =>
    rw [step]
    split
    · rename_i hpending
      rcases h with hfree | ⟨width, height, h⟩
      · rw [hfree.pending] at hpending
        cases hpending
      · rcases (pollSnapshotPBOReadback_returns (a := a) h).cases with
          ⟨b, r', hrun, found, -, hpolled⟩ | ⟨e, -⟩
        · rw [hrun]
          exact Reader.Between.of_polled hpolled
        · cases e
    · exact ⟨rfl, h⟩
  | issue width height a =>
    rw [step]
    split
    · rename_i hfree
      obtain ⟨hpending, havailable⟩ := (Bool.and_eq_true _ _).mp hfree
      rcases h with h | ⟨width', height', h⟩
      · rcases (issueSnapshotPBOReadback_returns h havailable width height a).cases with
          ⟨b, r', hrun, hissued⟩ | ⟨e, -⟩
        · rw [hrun]
          exact Reader.Between.of_issued hissued
        · cases e
      · rw [h.pending] at hpending
        cases hpending
    · exact ⟨rfl, h⟩

theorem Reader.Between.resume (h : r.Between) (m : Meanwhile) : (r.resume m).Between := by
  rcases h with h | ⟨width, height, h⟩
  · exact .inl ⟨h.owns, h.pending, h.result, h.store, h.strays⟩
  · exact .inr ⟨width, height, h.owns, h.pending, h.result, h.available, h.store, h.bytes, h.strays⟩

theorem machine_between (h : machine.Reachable r) : r.Between := by
  refine h.invariant (P := Reader.Between) ?_ fun r a _ hr => (step_between (hr.resume a.1) a.2).2
  rintro r ⟨context, rfl⟩
  exact .inl ⟨⟨[], .new, fun s hs => by cases hs⟩, rfl, rfl, fun _ => rfl, rfl⟩

/-- **The readback and its context.**  In every run the calls on buffer, framebuffer, fence and
mapping are legal; between two callbacks the members hold what is open, no mapping and no nameless
fence is left, and there is a fence exactly for a pending readback; no call touched another object,
or memory beyond the store.  A callback leaves the bindings and pack parameters as it found them. -/
theorem readback_owned (h : machine.Reachable r) :
    Legal r.device.trace ∧
      (∀ n, n ∈ openIn r.device.trace ↔ ∃ s, r.device.members s = some n) ∧
      r.device.has .fence = false ∧ r.device.has .mapped = false ∧
      r.device.has .snapshotReadbackFence = r.snapshotReadbackPending ∧
      r.snapshotReadbackResult.isSome = r.snapshotReadbackPending ∧ r.strays = 0 ∧
      ∀ m a, (machine.step r (m, a)).context = m.context := by
  have hbetween := machine_between h
  have hcontext (m : Meanwhile) (a : Action) : (machine.step r (m, a)).context = m.context :=
    (step_between (hbetween.resume m) a).1
  rcases hbetween with hfree | ⟨width, height, hpending⟩
  · obtain ⟨l, howns, hobjects⟩ := hfree.owns
    have hnot {s : Slot} (hs : s ∉ objects) : r.device.has s = false :=
      howns.has_not fun hmem => hs (hobjects s hmem)
    refine ⟨howns.sound.legal, howns.sound.held, hnot (by simp [objects]), hnot (by simp [objects]),
      ?_, ?_, hfree.strays, hcontext⟩
    · rw [hnot (by simp [objects]), hfree.pending]
    · rw [hfree.result, hfree.pending]
      rfl
  · have howns := hpending.owns
    refine ⟨howns.sound.legal, howns.sound.held, howns.has_not (by simp [objects]),
      howns.has_not (by simp [objects]), ?_, ?_, hpending.strays, hcontext⟩
    · rw [howns.has List.mem_cons_self, hpending.pending]
    · rw [hpending.result, hpending.pending]
      rfl

def IssueAnswers.sample : IssueAnswers :=
  ⟨true, true, true, true, true, 0, true, true, true, true, true⟩

def PollAnswers.sample : PollAnswers := ⟨.signaled, true, [], true, true⟩

def GLContext.sample : GLContext := ⟨7, 9, 4, 100, 1, 2⟩

def Meanwhile.sample : Meanwhile := ⟨.sample, true⟩

/-- a readback that is signaled late, and a second one for a smaller image -/
def sampleRun : List (Meanwhile × Action) :=
  [(.sample, .issue 640 480 .sample), (.sample, .poll { PollAnswers.sample with
    clientWaitSync := .timeoutExpired }), (.sample, .poll .sample), (.sample, .issue 320 240 .sample)]

theorem readback_owned_sampleRun :
    let r := machine.run (.initial .sample) sampleRun
    r.snapshotReadbackPending = true ∧ r.device.opened = 5 ∧ r.strays = 0 ∧
      openIn r.device.trace = [4, 1, 0] := by
  have hstart : machine.Reachable (.initial .sample) := .start ⟨.sample, rfl⟩
  have hreach : machine.Reachable (machine.run (.initial .sample) sampleRun) := hstart.run _
  exact ⟨by decide +kernel, by decide +kernel, (readback_owned hreach).2.2.2.2.2.2.1,
    by decide +kernel⟩

end

end MediaCamera.Readback
