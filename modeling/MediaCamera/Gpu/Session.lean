import MediaCamera.Machine.Ledger
import MediaCamera.Machine.Run
import MediaCamera.Machine.Script

/-!
# The encoder session

What `EnsureEncoder`, `EncodeRenderedFrame` and `DestroyEncoder` ask of the dynamic loader, of OpenGL
and of NVENC, and which member of the plugin holds what they open.

* `Slot`      the members and local variables that hold a resource, and what a resource lives on;
* `Session`   these members, with the ledger of the calls;
* `FrameAnswers`   how the calls of one frame end;
* `destroyEncoder`, `ensureEncoder`, `encodeRenderedFrame`   the functions;
* `machine`   any sequence of frames and of calls of `DestroyEncoder`.
-/

namespace MediaCamera.Nvenc

inductive Slot where
  | nvencLibrary
  | encoder
  | registeredInput
  | bitstream
  | encoderTexture
  | readFramebuffer
  | drawFramebuffer
  /-- `mapping.mappedResource` -/
  | mappedResource
  /-- the lock of `bitstream_` -/
  | lockedBitstream
  deriving DecidableEq, Repr

def Slot.needs : Slot → List Slot
  | encoder => [nvencLibrary]
  | registeredInput => [encoder, encoderTexture]
  | bitstream => [encoder]
  | mappedResource => [encoder, registeredInput]
  | lockedBitstream => [encoder, bitstream]
  | _ => []

/-- the functions of `NV_ENCODE_API_FUNCTION_LIST` that the plugin calls -/
inductive ApiFunction where
  | openEncodeSessionEx
  | getEncodePresetConfigEx
  | initializeEncoder
  | registerResource
  | createBitstreamBuffer
  | mapInputResource
  | encodePicture
  | lockBitstream
  | unlockBitstream
  | unmapInputResource
  | unregisterResource
  | destroyBitstreamBuffer
  | destroyEncoder
  deriving DecidableEq, Repr

structure Session where
  device : Device Slot
  /-- `api_`: is the function there? -/
  api : ApiFunction → Bool
  glewInitialized : Bool
  encoderTextureWidth : Nat
  encoderTextureHeight : Nat
  encoderWidth : Nat
  encoderHeight : Nat
  encoderResourcesActive : Bool

def Session.initial : Session := ⟨.new, fun _ => false, false, 0, 0, 0, 0, false⟩

abbrev Render (α : Type) := Script Session Empty α

/-! ## the calls -/

namespace Session

def has (g : Session) (s : Slot) : Bool := g.device.has s

def onDevice (f : Device Slot → Device Slot) (g : Session) : Session :=
  { g with device := f g.device }

def take (s : Slot) : Session → Session := onDevice (.take Slot.needs s)

/-- a call with these resources that opens and closes nothing -/
def uses (args : List Slot) : Session → Session :=
  onDevice fun d => args.foldl (fun d s => d.use s) d

/-- a call through `api_` -/
def call (f : ApiFunction) (args : List Slot) (g : Session) : Session :=
  if g.api f then g.uses args else g.onDevice .null

/-- `if (s && api_.f) { api_.f(encoder_, s); } s = nullptr;` -/
def release (f : ApiFunction) (s : Slot) (g : Session) : Session :=
  if g.has s && g.api f then (g.uses [.encoder]).onDevice (.drop s) else g.onDevice (.forget s)

def destroyConversionTexture (g : Session) : Session :=
  { g with
    device := ((g.device.dropIf .readFramebuffer).dropIf .drawFramebuffer).dropIf .encoderTexture
    encoderTextureWidth := 0
    encoderTextureHeight := 0 }

/-- the first part of `DestroyEncoder`, when there is an encoder -/
def closeEncoder (g : Session) : Session :=
  let g := (g.release .unregisterResource .registeredInput).release .destroyBitstreamBuffer .bitstream
  g.onDevice (if g.api .destroyEncoder then .drop .encoder else .forget .encoder)

def destroyEncoder (g : Session) : Session :=
  let g := if g.has .encoder then g.closeEncoder else g
  destroyConversionTexture { g with
    device := g.device.dropIf .nvencLibrary
    api := fun _ => false
    encoderWidth := 0
    encoderHeight := 0
    encoderResourcesActive := false }

end Session

/-! ## creation -/

structure TextureAnswers where
  glewInit : Bool
  encoderTexture : Bool
  readFramebuffer : Bool
  drawFramebuffer : Bool
  /-- `glGetError() == GL_NO_ERROR` -/
  noError : Bool

def TextureAnswers.works (a : TextureAnswers) : Bool :=
  a.encoderTexture && a.readFramebuffer && a.drawFramebuffer && a.noError

structure CreationAnswers where
  texture : TextureAnswers
  dlopen : Bool
  dlsym : Bool
  createInstance : Bool
  /-- what `createInstance` leaves in `api_` -/
  table : ApiFunction → Bool
  openEncodeSessionEx : Bool
  /-- `nvEncOpenEncodeSessionEx` has set `encoder_` -/
  encoder : Bool
  getEncodePresetConfigEx : Bool
  initializeEncoder : Bool
  registerResource : Bool
  createBitstreamBuffer : Bool

def modify (f : Session → Session) : Render Unit := modifyThe Session f

/-- `DestroyEncoder(); return false;` -/
def giveUp : Render Bool := do
  modify (·.destroyEncoder)
  return false

def ensureGLEWDispatch (glewInit : Bool) : Render Bool :=
  .once (·.glewInitialized) (fun g => { g with glewInitialized := true }) glewInit

def Session.genTextures (a : TextureAnswers) (g : Session) : Session :=
  let g := if a.encoderTexture then g.take .encoderTexture else g
  let g := if a.readFramebuffer then g.take .readFramebuffer else g
  if a.drawFramebuffer then g.take .drawFramebuffer else g

def ensureConversionTexture (width height : Nat) (a : TextureAnswers) : Render Bool := do
  if !(← ensureGLEWDispatch a.glewInit) then return false
  else
    let g ← getThe Session
    if g.has .encoderTexture && g.encoderTextureWidth == width && g.encoderTextureHeight == height
    then return true
    else
      modify (·.destroyConversionTexture)
      modify (·.genTextures a)
      if !a.works then
        modify (·.destroyConversionTexture)
        return false
      else
        modify fun g => { g with encoderTextureWidth := width, encoderTextureHeight := height }
        return true

/-- `EnsureEncoder` from `nvEncRegisterResource` on -/
def registerBuffers (width height : Nat) (a : CreationAnswers) : Render Bool := do
  modify (·.call .registerResource [.encoder, .encoderTexture])
  if !a.registerResource then giveUp
  else
    modify (·.take .registeredInput)
    modify (·.call .createBitstreamBuffer [.encoder])
    if !a.createBitstreamBuffer then giveUp
    else
      modify (·.take .bitstream)
      modify fun g => { g with
        encoderWidth := width, encoderHeight := height, encoderResourcesActive := true }
      return true

/-- `EnsureEncoder` from `nvEncOpenEncodeSessionEx` on -/
def openSession (width height : Nat) (a : CreationAnswers) : Render Bool := do
  modify (·.call .openEncodeSessionEx [.nvencLibrary])
  modify fun g => if a.encoder then g.take .encoder else g
  if !a.openEncodeSessionEx then giveUp
  else
    modify (·.call .getEncodePresetConfigEx [.encoder])
    if !a.getEncodePresetConfigEx then giveUp
    else
      modify (·.call .initializeEncoder [.encoder])
      if !a.initializeEncoder then giveUp
      else registerBuffers width height a

def CreationAnswers.tableChecked (a : CreationAnswers) : Bool :=
  a.createInstance && a.table .openEncodeSessionEx && a.table .initializeEncoder &&
    a.table .getEncodePresetConfigEx

/-- `EnsureEncoder` from `dlopen` on -/
def loadLibrary (width height : Nat) (a : CreationAnswers) : Render Bool := do
  if !a.dlopen then return false
  else
    modify (·.take .nvencLibrary)
    modify (·.uses [.nvencLibrary])
    if !a.dlsym then giveUp
    else
      modify fun g => { g.uses [.nvencLibrary] with api := a.table }
      if !a.tableChecked then giveUp
      else openSession width height a

def ensureEncoder (width height : Nat) (a : CreationAnswers) : Render Bool := do
  let g ← getThe Session
  if g.has .encoder && g.encoderWidth == width && g.encoderHeight == height then return true
  else
    modify (·.destroyEncoder)
    if width = 0 ∨ height = 0 then return false
    else if !(← ensureConversionTexture width height a.texture) then return false
    else loadLibrary width height a

def CreationAnswers.works (glewInitialized : Bool) (a : CreationAnswers) : Bool :=
  (glewInitialized || a.texture.glewInit) && a.texture.works && a.dlopen && a.dlsym &&
    a.tableChecked && a.openEncodeSessionEx && a.getEncodePresetConfigEx && a.initializeEncoder &&
    a.registerResource && a.createBitstreamBuffer

/-! ## a frame -/

inductive EncodeStatus where
  | success
  | needMoreInput
  | error
  deriving DecidableEq, Repr

/-- how the calls of a frame end, and what `EncodeRenderedFrame` decides on other members -/
structure FrameAnswers where
  width : Nat
  height : Nat
  creation : CreationAnswers
  /-- `glCheckFramebufferStatus` -/
  framebuffersComplete : Bool
  /-- `glGetError() == GL_NO_ERROR` after the copy -/
  copied : Bool
  mapInputResource : Bool
  encodePicture : EncodeStatus
  lockBitstream : Bool
  /-- `ObserveSourceTime`: the source time lies before the last one -/
  timeWentBack : Bool
  /-- `TakePendingEncodedFrame` finds the metadata of the output -/
  paired : Bool
  /-- `SendH264AccessUnit` -/
  sent : Bool
  /-- `pendingEncodedFrames_.size() > kMaximumPendingEncodedFrames` -/
  overdue : Bool

def copyTextureToEncoderInput (a : FrameAnswers) : Render Bool := do
  modify (·.uses [.readFramebuffer, .drawFramebuffer, .encoderTexture])
  return a.framebuffersComplete && a.copied

def unmapInput : Render Unit :=
  modify fun g =>
    if g.api .unmapInputResource then (g.uses [.encoder]).onDevice (.drop .mappedResource)
    else g.onDevice .null

def unlockBitstream : Render Unit :=
  modify fun g =>
    if g.api .unlockBitstream then (g.uses [.encoder, .bitstream]).onDevice (.drop .lockedBitstream)
    else g.onDevice .null

/-- the output of a frame, up to `nvEncUnlockBitstream`: is it sent, is the encoder rebuilt? -/
def takeOutput (a : FrameAnswers) : Render (Bool × Bool) := do
  modify (·.call .lockBitstream [.encoder, .bitstream])
  if !a.lockBitstream then return (false, true)
  else
    modify (·.take .lockedBitstream)
    -- `SendH264AccessUnit` reads `locked.bitstreamBufferPtr`
    modify fun g => if a.paired then g.uses [.lockedBitstream] else g
    unlockBitstream
    return if a.paired then (a.sent, false) else (false, true)

def finishFrame (sent recreateEncoder : Bool) : Render Bool := do
  unmapInput
  if recreateEncoder then giveUp
  else return sent

/-- `EncodeRenderedFrame` from `nvEncMapInputResource` on -/
def submitFrame (a : FrameAnswers) : Render Bool := do
  modify (·.call .mapInputResource [.encoder, .registeredInput])
  if !a.mapInputResource then return false
  else
    modify (·.take .mappedResource)
    modify (·.call .encodePicture [.encoder, .mappedResource, .bitstream])
    match a.encodePicture with
    | .error =>
      unmapInput
      giveUp
    | .success =>
      let (sent, recreateEncoder) ← takeOutput a
      finishFrame sent recreateEncoder
    | .needMoreInput => finishFrame (!a.overdue) a.overdue

/-- `EncodeRenderedFrame` from `ObserveSourceTime` on -/
def encodeRenderedFrame (a : FrameAnswers) : Render Bool := do
  modify fun g => if a.timeWentBack then g.destroyEncoder else g
  if !(← ensureEncoder a.width a.height a.creation) then return false
  else if !(← copyTextureToEncoderInput a) then return false
  else submitFrame a

/-! ## the machine -/

inductive Action where
  | destroyEncoder
  | encodeRenderedFrame (a : FrameAnswers)

def step (g : Session) : Action → Session
  | .destroyEncoder => g.destroyEncoder
  | .encodeRenderedFrame a => (encodeRenderedFrame a g).2

def machine : Machine Session Action where
  init g := g = .initial
  step := step

end MediaCamera.Nvenc
