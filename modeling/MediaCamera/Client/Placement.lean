import MediaCamera.Client.SourceIdentity
import MediaCamera.Control.Json
import MediaCamera.Machine.Script

/-!
# Placement of a world camera

`place_world_camera` asks the world for one camera and hands the acknowledged entity to the runtime
through a receipt file.  The runtime owns what has a receipt; before that the script does.

* `Effects`            one run: how each step outside the script ends;
* `World`              the receipt path, the temporary file, the world and the diagnostics;
* `handoffReceipt`, `releaseFailedHandoff`, `placeCamera`, `main`   the script;
* `HandedOver`         what a placement has to leave behind: an owner, whole files, one entity;
* `placement_owned`    it does iff the receipt can be written down and the handoff fails with an
                       `OSError` only (or the path holds this receipt already).
-/

namespace MediaCamera.Placement

/-! ## exceptions -/

/-- what the handlers of the script tell apart; `base` is an exception that is no `Exception` -/
inductive Kind where
  | osError
  | exception
  | base
  deriving DecidableEq

structure PyException where
  kind : Kind
  /-- `type(error).__name__` -/
  name : String
  /-- `str(error)` -/
  text : String
  deriving DecidableEq

def usageError (text : String) : PyException := ⟨.exception, "UsageError", text⟩

/-- `" ".join(str(error).split()) or type(error).__name__` -/
def reason (error : PyException) : String :=
  let words := (error.text.toList.splitOnP isSpace).filter (· ≠ [])
  if words = [] then error.name else String.ofList ([' '].intercalate words)

/-! ## paths -/

/-- the leading slashes of a path that count -/
def root (path : List Char) : List Char :=
  match path with
  | '/' :: '/' :: '/' :: _ => ['/']
  | '/' :: '/' :: _ => ['/', '/']
  | '/' :: _ => ['/']
  | _ => []

def normpath (path : List Char) : List Char :=
  let comps := (path.splitOn '/').foldl (fun new comp =>
    if comp = [] ∨ comp = ['.'] then new
    else if comp ≠ ['.', '.'] ∨ (root path = [] ∧ new = []) ∨ new.getLast? = some ['.', '.'] then
      new ++ [comp]
    else new.dropLast) []
  let text := root path ++ ['/'].intercalate comps
  if text = [] then ['.'] else text

/-- `str(Path(path))` -/
def pathStr (path : List Char) : List Char :=
  let comps := (path.splitOn '/').filter (fun comp => comp ≠ [] ∧ comp ≠ ['.'])
  let text := root path ++ ['/'].intercalate comps
  if text = [] then ['.'] else text

/-- an absolute path that `os.path.normpath` leaves alone -/
def canonical (path : List Char) : Bool := root path ≠ [] ∧ path = normpath path

/-- `path.is_absolute()` and `str(path) == os.path.normpath(str(path))` -/
def canonicalPath (file : String) : Bool := canonical (pathStr file.toList)

/-! ## the data of a placement -/

/-- the arguments that `main` reads once they are parsed -/
structure Arguments where
  world_endpoint : String
  target_id : String
  model_name : String
  media_source_id : String
  camera_name : String
  receipt_file : String
  resolved_extrinsic_json : String
  frame_roles_json : String
  optical_frame : String
  xgc_camera_info_topic : String
  timeout : ℚ

structure EntityRef where
  id : String
  generation : Nat
  deriving DecidableEq

structure Entity where
  ref : Option EntityRef
  lifecycle : Option String
  /-- `state` -/
  state : Option Json

/-- what `place_entity` returns -/
structure Result where
  entities : List Entity

def Result.ref? (result : Result) : Option EntityRef := result.entities.head?.bind (·.ref)

/-- the one entity that `camera_context` accepts -/
def Result.readyEntity? (result : Result) (modelName : String) : Option (Entity × EntityRef) :=
  match result.entities with
  | [entity] =>
    (entity.ref.filter (fun ref => ref.id = modelName ∧ entity.lifecycle = some "ready")).map
      (fun ref => (entity, ref))
  | _ => none

structure CameraContext where
  id : String
  cameraId : String
  cameraName : String
  sourceId : String
  cameraInfoTopic : String
  parentFrame : String
  opticalFrame : String
  frameRolesJson : String
  resolvedExtrinsicJson : String
  /-- `x`, `y`, `z`, `roll`, `pitch`, `yaw` -/
  appliedLinkPose : List Double
  entityRef : EntityRef

structure WorldReference where
  service : String
  api_version : String
  profile : String
  target_id : String
  instance_id : String
  endpoint_kind : String
  address : String

structure Receipt where
  schema : String
  kind : String
  id : String
  entity : Result
  instanceId : String
  world : WorldReference
  cameraContext : Option CameraContext

/-! ## the steps outside the script -/

/-- how each step of one run ends; a failed `write` or `close` leaves so many characters -/
structure Effects where
  parseArguments : Except PyException Arguments
  /-- `apply_frozen_pose`, when there is a frozen extrinsic -/
  frozenPose : Except PyException Unit
  renderCamera : Except PyException Unit
  importPlacement : Except PyException Unit
  /-- `time.monotonic() - started` -/
  elapsed : ℚ
  placeEntity : Except PyException (Result × String)
  importTransforms : Except PyException Unit
  /-- the pose of the acknowledged entity, as a link pose -/
  linkPose : Option Json → Except PyException (List Double)
  /-- `json.dumps` -/
  dumps : Receipt → Except PyException String
  mkstemp : Except PyException Unit
  fdopen : Except PyException Unit
  write : Except (PyException × Nat) Unit
  close : Except (PyException × Nat) Unit
  replace : Except PyException Unit
  unlink : Except PyException Unit
  /-- the imports of the release, and the reference of the world -/
  serviceRef : Except PyException Unit
  runtime : Except PyException Unit
  client : Except PyException Unit
  operation : Except PyException Unit
  clientClose : Except PyException Unit
  runtimeClose : Except PyException Unit
  print : Except PyException Unit
  report : Except PyException Unit

structure World where
  /-- the file at the receipt path -/
  receiptFile : Option String
  /-- what `os.replace` has put there -/
  replaced : List String
  /-- the temporary file -/
  temporary : Option String
  /-- the calls of `place_entity` -/
  placements : List String
  /-- the calls of `release_failed_handoff` -/
  releases : List Receipt
  /-- the generations that the world was told to delete -/
  deletes : List EntityRef
  /-- the arguments, once `contacted` -/
  contacted : Option Arguments
  stdout : List String
  stderr : List String

/-- before the run, with this file at the receipt path -/
def World.initial (before : Option String) : World :=
  ⟨before, [], none, [], [], [], none, [], []⟩

abbrev Action (α : Type) := Script World PyException α

variable (fx : Effects)

/-! ## the handoff -/

/-- `stream.write(payload)`; what is written is in the file only once the stream is closed -/
def write (payload : String) : Action Unit :=
  match fx.write with
  | .ok () => pure ()
  | .error (e, n) => do
    modifyThe World fun w => { w with temporary := some (payload.take n).toString }
    throw e

/-- the end of `with os.fdopen(fd, "w") as stream` -/
def close (payload : String) : Action Unit :=
  match fx.close, fx.write with
  | .ok (), .ok () => modifyThe World fun w => { w with temporary := some payload }
  | .ok (), .error _ => pure ()
  | .error (e, n), _ => do
    modifyThe World fun w => { w with temporary := some (payload.take n).toString }
    throw e

/-- `os.replace(temporary, path)` -/
def replace : Action Unit := do
  Script.attempt fx.replace
  modifyThe World fun w =>
    { w with receiptFile := w.temporary, replaced := w.replaced ++ w.temporary.toList,
             temporary := none }

/-- the body of the `try` in `handoff_receipt` -/
def publish (payload : String) : Action Unit := do
  Script.attempt fx.mkstemp
  modifyThe World fun w => { w with temporary := some "" }
  Script.attempt fx.fdopen
  try
    write fx payload
  finally
    close fx payload
  replace fx

def deleteEntity (ref : EntityRef) : Action Unit := do
  modifyThe World fun w => { w with deletes := w.deletes ++ [ref] }
  Script.attempt fx.operation

/-- `receipt["entity"]["entities"][0]["ref"]` -/
def entityRef (receipt : Receipt) : Except PyException EntityRef :=
  match receipt.entity.entities with
  | [] => .error ⟨.exception, "IndexError", "list index out of range"⟩
  | entity :: _ =>
    match entity.ref with
    | none => .error ⟨.exception, "KeyError", "'ref'"⟩
    | some ref => .ok ref

def releaseFailedHandoff (receipt : Receipt) : Action Unit := do
  modifyThe World fun w => { w with releases := w.releases ++ [receipt] }
  Script.attempt fx.serviceRef
  let ref ← Script.attempt (entityRef receipt)
  Script.attempt fx.runtime
  try
    Script.attempt fx.client
    try
      deleteEntity fx ref
    finally
      Script.attempt fx.clientClose
  finally
    Script.attempt fx.runtimeClose

/-- `except Exception as release_error` -/
def releaseError (error releaseError : PyException) : PyException :=
  if releaseError.kind = .base then releaseError
  else usageError ("placement receipt handoff failed: " ++ error.text ++
    "; owned entity release failed: " ++ releaseError.text)

/-- `except OSError as error` -/
def failedHandoff (receipt : Receipt) (error : PyException) : Action Unit :=
  if error.kind = .osError then do
    try
      releaseFailedHandoff fx receipt
    catch e =>
      throw (releaseError error e)
    throw error
  else throw error

/-- the `finally` of `handoff_receipt` -/
def removeTemporary : Action Unit := do
  if (← getThe World).temporary ≠ none then
    Script.attempt fx.unlink
    modifyThe World fun w => { w with temporary := none }

/-- `handoff_receipt` up to its `finally` -/
def publishOrRelease (receipt : Receipt) (payload : String) : Action Unit := do
  try
    publish fx payload
  catch error =>
    failedHandoff fx receipt error

def handoffReceipt (receipt : Receipt) (payload : String) : Action Unit := do
  try
    publishOrRelease fx receipt payload
  finally
    removeTemporary fx

/-! ## the placement -/

def applyFrozenPose (args : Arguments) : Action Bool :=
  if args.resolved_extrinsic_json = "" then pure false
  else do
    Script.attempt fx.frozenPose
    pure true

def placeEntity (args : Arguments) : Action (Result × String) := do
  modifyThe World fun w => { w with placements := w.placements ++ [args.model_name] }
  Script.attempt fx.placeEntity

def cameraContext (args : Arguments) (result : Result) : Except PyException CameraContext := do
  fx.importTransforms
  match result.readyEntity? args.model_name with
  | none => .error (usageError "world did not acknowledge this camera's ready entity")
  | some (entity, ref) =>
    let link ← fx.linkPose entity.state
    return { id := args.media_source_id, cameraId := args.media_source_id
             cameraName := args.camera_name, sourceId := args.media_source_id
             cameraInfoTopic := args.xgc_camera_info_topic, parentFrame := "world"
             opticalFrame := args.optical_frame, frameRolesJson := args.frame_roles_json
             resolvedExtrinsicJson := args.resolved_extrinsic_json, appliedLinkPose := link
             entityRef := ref }

def placementReceipt (args : Arguments) (frozen : Bool) (placed : Result × String) :
    Except PyException Receipt := do
  let receipt : Receipt :=
    { schema := "xgc2.placement.v1", kind := "camera", id := args.model_name
      entity := placed.1, instanceId := placed.2
      world := { service := "xgc2.simulation", api_version := "v1", profile := "http.v1"
                 target_id := args.target_id, instance_id := placed.2
                 endpoint_kind := "unix", address := args.world_endpoint }
      cameraContext := none }
  if frozen then
    let context ← cameraContext fx args placed.1
    return { receipt with cameraContext := some context }
  else return receipt

def print (payload : String) : Action Unit := do
  Script.attempt fx.print
  modifyThe World fun w => { w with stdout := w.stdout ++ [payload] }

/-- from the acknowledged entity to the end -/
def handOver (args : Arguments) (frozen : Bool) (placed : Result × String) : Action Nat := do
  let receipt ← Script.attempt (placementReceipt fx args frozen placed)
  let payload ← Script.attempt (fx.dumps receipt)
  if args.receipt_file ≠ "" then
    if canonicalPath args.receipt_file then
      handoffReceipt fx receipt payload
    else throw (usageError "receipt file must be a canonical absolute path")
  print fx payload
  pure 0

/-- the body of the `try` in `main` -/
def placeCamera : Action Nat := do
  let args ← Script.attempt fx.parseArguments
  let frozen ← applyFrozenPose fx args
  Script.attempt fx.renderCamera
  Script.attempt fx.importPlacement
  if args.timeout - fx.elapsed ≤ 0 then
    throw (usageError "placement deadline exceeded during rendering")
  else do
    modifyThe World fun w => { w with contacted := some args }
    let placed ← placeEntity fx args
    handOver fx args frozen placed

def reportError (error : PyException) : Action Nat := do
  let contacted := (← getThe World).contacted
  let text := match contacted with
    | some args => args.model_name ++ ": " ++ reason error
    | none => reason error
  Script.attempt fx.report
  modifyThe World fun w => { w with stderr := w.stderr ++ ["place_world_camera: " ++ text] }
  pure (if contacted.isSome then 1 else 2)

def main : Action Nat := do
  try
    placeCamera fx
  catch error =>
    if error.kind = .base then throw error else reportError fx error

def final (before : Option String) : World := (main fx (World.initial before)).2

/-! ## what the handoff does -/

/-- how `with os.fdopen(fd, "w") as stream: stream.write(payload)` ends, once the file is open -/
def Effects.written : Except PyException Unit :=
  match fx.close, fx.write with
  | .error (e, _), _ => .error e
  | .ok (), .error (e, _) => .error e
  | .ok (), .ok () => .ok ()

/-- the first exception of the steps from `mkstemp` to `os.replace` -/
def Effects.handoff : Except PyException Unit := do
  fx.mkstemp
  fx.fdopen
  fx.written
  fx.replace

variable {fx} {receipt : Receipt} {payload : String}

open Script

theorem writeClose_spec (w : World) :
    Ends (tryFinally (write fx payload) (close fx payload)) w
      (fun _ w' => fx.written = .ok () ∧ w' = { w with temporary := some payload })
      (fun e w' => fx.written = .error e ∧ ∃ t, w' = { w with temporary := t }) := by
  have hwrite : Ends (write fx payload) w (fun _ w' => fx.write = .ok () ∧ w' = w)
      (fun e w' => (∃ n, fx.write = .error (e, n)) ∧ ∃ t, w' = { w with temporary := t }) := by
    unfold write
    rcases h : fx.write with ⟨e, n⟩ | -
    · exact Ends.modify_bind (Ends.throw ⟨⟨n, rfl⟩, _, rfl⟩)
    · exact Ends.pure ⟨rfl, rfl⟩
  refine Ends.ensuring hwrite ?_ ?_
  · rintro - w' ⟨hw, rfl⟩
    unfold close
    rcases hc : fx.close with ⟨e, n⟩ | u
    · exact Ends.modify_bind (Ends.throw ⟨by rw [Effects.written, hc], _, rfl⟩)
    · rw [hw]
      exact Ends.of_ok rfl ⟨by rw [Effects.written, hc, hw], rfl⟩
  · rintro e w' ⟨⟨n, hw⟩, t, rfl⟩
    unfold close
    rcases hc : fx.close with ⟨e', n'⟩ | u
    · exact Ends.modify_bind (Ends.throw ⟨by rw [Effects.written, hc], _, rfl⟩)
    · rw [hw]
      exact Ends.pure ⟨by rw [Effects.written, hc, hw], t, rfl⟩

theorem publish_spec {w : World} (h : w.temporary = none) :
    Ends (publish fx payload) w
      (fun _ w' => fx.handoff = .ok () ∧
        w' = { w with receiptFile := some payload, replaced := w.replaced ++ [payload] })
      (fun e w' => fx.handoff = .error e ∧ ∃ t, w' = { w with temporary := t }) := by
  unfold Effects.handoff
  refine Ends.attempt_bind (fun e hmk => ⟨by rw [hmk]; rfl, w.temporary, rfl⟩) fun _ hmk => ?_
  refine Ends.modify_bind ?_
  refine Ends.attempt_bind (fun e hfd => ⟨by rw [hmk, hfd]; rfl, _, rfl⟩) fun _ hfd => ?_
  refine Ends.bind (Ends.mono (writeClose_spec _) (fun _ _ => id) ?_) ?_
  · rintro e w' ⟨hwr, t, rfl⟩
    exact ⟨by rw [hmk, hfd, hwr]; rfl, t, rfl⟩
  rintro - w' ⟨hwr, rfl⟩
  refine Ends.attempt_bind (fun e hre => ⟨by rw [hmk, hfd, hwr, hre]; rfl, _, rfl⟩) fun _ hre => ?_
  exact Ends.of_ok rfl ⟨by rw [hmk, hfd, hwr, hre]; rfl, by rw [h]; rfl⟩

/-- the release of a handoff was tried: only the generation of the receipt may be gone -/
def World.Released (w : World) (receipt : Receipt) (w' : World) : Prop :=
  ∃ t d, w' = { w with temporary := t, releases := w.releases ++ [receipt],
                       deletes := w.deletes ++ d } ∧ ∀ ref ∈ d, receipt.entity.ref? = some ref

theorem entityRef_ok {ref : EntityRef} (h : entityRef receipt = .ok ref) :
    receipt.entity.ref? = some ref := by
  unfold entityRef at h
  unfold Result.ref?
  cases hents : receipt.entity.entities with
  | nil =>
    rw [hents] at h
    cases h
  | cons entity rest =>
    rw [hents] at h
    cases href : entity.ref with
    | none =>
      simp only [href] at h
      cases h
    | some r =>
      simp only [href] at h
      cases h
      exact href

theorem releaseFailedHandoff_spec (w : World) :
    Ends (releaseFailedHandoff fx receipt) w (fun _ => w.Released receipt)
      (fun _ => w.Released receipt) := by
  have hnone : w.Released receipt { w with releases := w.releases ++ [receipt] } :=
    ⟨w.temporary, [], by simp, by simp⟩
  have hlast : ∀ (x : Except PyException Unit) (w' : World), w.Released receipt w' →
      Ends (Script.attempt x) w' (fun _ => w.Released receipt) (fun _ => w.Released receipt) :=
    fun x w' hw' => Ends.attempt (fun _ _ => hw') (fun _ _ => hw')
  refine Ends.modify_bind ?_
  refine Ends.attempt_bind (fun e _ => hnone) fun _ _ => ?_
  refine Ends.attempt_bind (fun e _ => hnone) fun ref href => ?_
  refine Ends.attempt_bind (fun e _ => hnone) fun _ _ => ?_
  refine Ends.ensuring ?_ (fun _ w' => hlast _ w') (fun _ w' => hlast _ w')
  refine Ends.attempt_bind (fun e _ => hnone) fun _ _ => ?_
  refine Ends.ensuring ?_ (fun _ w' => hlast _ w') (fun _ w' => hlast _ w')
  refine Ends.modify_bind (hlast _ _ ⟨_, [ref], rfl, ?_⟩)
  intro r hr
  rw [List.mem_singleton] at hr
  rw [hr, entityRef_ok href]

theorem failedHandoff_spec (w : World) (error : PyException) :
    Ends (failedHandoff fx receipt error) w (fun _ _ => False)
      (fun _ w' => (error.kind = .osError ∧ w.Released receipt w') ∨
        (error.kind ≠ .osError ∧ w' = w)) := by
  unfold failedHandoff
  split
  next hk =>
    refine Ends.bind (Q := fun _ => w.Released receipt) ?_
      fun _ w' hw' => Ends.throw (.inl ⟨hk, hw'⟩)
    exact Ends.handle (releaseFailedHandoff_spec w) fun e w' hw' => Ends.throw (.inl ⟨hk, hw'⟩)
  next hk => exact Ends.throw (.inr ⟨hk, rfl⟩)

theorem removeTemporary_spec (w : World) :
    Ends (removeTemporary fx) w (fun _ w' => w' = { w with temporary := none })
      (fun _ w' => w' = w ∧ fx.unlink ≠ .ok () ∧ w.temporary ≠ none) := by
  show Ends (if w.temporary ≠ none then _ else _) w _ _
  split
  next h =>
    refine Ends.attempt_bind (fun e he => ⟨rfl, by rw [he]; nofun, h⟩) fun _ _ => ?_
    exact Ends.of_ok rfl rfl
  next h =>
    refine Ends.pure ?_
    rw [not_not] at h
    rw [← h]

/-- what the handoff does to the world that it starts in -/
inductive Handed (fx : Effects) (receipt : Receipt) (payload : String) (w w' : World) : Prop
  | published (ok : fx.handoff = .ok ())
      (eq : w' = { w with receiptFile := some payload, replaced := w.replaced ++ [payload] })
  | released (e : PyException) (error : fx.handoff = .error e) (kind : e.kind = .osError)
      (eq : w.Released receipt w')
  | lost (e : PyException) (error : fx.handoff = .error e) (kind : e.kind ≠ .osError)
      (eq : ∃ t, w' = { w with temporary := t })

theorem publishOrRelease_spec {w : World} (h : w.temporary = none) :
    Ends (publishOrRelease fx receipt payload) w
      (fun _ w' => Handed fx receipt payload w w' ∧ w'.temporary = none)
      (fun _ w' => Handed fx receipt payload w w' ∧ fx.handoff ≠ .ok ()) := by
  refine Ends.handle (Ends.mono (publish_spec h) ?_ (fun _ _ => id)) ?_
  · rintro - w' ⟨hok, rfl⟩
    exact ⟨.published hok rfl, h⟩
  rintro e w' ⟨herr, t, rfl⟩
  refine Ends.mono (failedHandoff_spec _ e) (fun _ _ => False.elim) ?_
  rintro - w' (⟨hk, t', d, rfl, hd⟩ | ⟨hk, rfl⟩)
  · exact ⟨.released e herr hk ⟨t', d, rfl, hd⟩, by rw [herr]; nofun⟩
  · exact ⟨.lost e herr hk ⟨t, rfl⟩, by rw [herr]; nofun⟩

theorem Handed.remove {w w' : World} (h : Handed fx receipt payload w w')
    (hw : w.temporary = none) : Handed fx receipt payload w { w' with temporary := none } := by
  cases h with
  | published ok eq =>
    subst eq
    exact .published ok (by rw [← hw])
  | released e error kind eq =>
    obtain ⟨t, d, rfl, hd⟩ := eq
    exact .released e error kind ⟨none, d, rfl, hd⟩
  | lost e error kind eq =>
    obtain ⟨t, rfl⟩ := eq
    exact .lost e error kind ⟨none, rfl⟩

theorem handoffReceipt_spec {w : World} (h : w.temporary = none) :
    Ends (handoffReceipt fx receipt payload) w
      (fun _ w' => Handed fx receipt payload w w' ∧ (fx.unlink = .ok () → w'.temporary = none))
      (fun _ w' => Handed fx receipt payload w w' ∧ (fx.unlink = .ok () → w'.temporary = none)) := by
  refine Ends.ensuring (publishOrRelease_spec h) ?_ ?_
  · rintro - w₁ ⟨hw₁, -⟩
    refine Ends.mono (removeTemporary_spec w₁) ?_ ?_
    · rintro - w' rfl
      exact ⟨hw₁.remove h, fun _ => rfl⟩
    · rintro - w' ⟨rfl, hun, -⟩
      exact ⟨hw₁, fun hok => absurd hok hun⟩
  · rintro - w₁ ⟨hw₁, -⟩
    refine Ends.mono (removeTemporary_spec w₁) ?_ ?_
    · rintro - w' rfl
      exact ⟨hw₁.remove h, fun _ => rfl⟩
    · rintro - w' ⟨rfl, hun, -⟩
      exact ⟨hw₁, fun hok => absurd hok hun⟩

/-! ## what a placement leaves behind -/

def Effects.receiptText (fx : Effects) (args : Arguments) (placed : Result × String) :
    Except PyException String := do
  let receipt ← placementReceipt fx args (args.resolved_extrinsic_json ≠ "") placed
  fx.dumps receipt

/-- the receipt of this entity is at the receipt path, or its release was tried -/
def Owned (fx : Effects) (args : Arguments) (placed : Result × String) (ref : EntityRef)
    (w : World) : Prop :=
  (∃ text, fx.receiptText args placed = .ok text ∧ w.receiptFile = some text) ∨
    ∃ receipt ∈ w.releases, receipt.entity.ref? = some ref

/-- no other generation is released, no part of a receipt is published, nothing is placed twice -/
structure Whole (fx : Effects) (before : Option String) (args : Arguments)
    (placed : Result × String) (ref : EntityRef) (w : World) : Prop where
  releases : ∀ receipt ∈ w.releases, receipt.entity.ref? = some ref
  deletes : ∀ r ∈ w.deletes, r = ref
  replaced : ∀ content ∈ w.replaced, fx.receiptText args placed = .ok content
  unchanged : w.replaced = [] → w.receiptFile = before
  temporary : fx.unlink = .ok () → w.temporary = none
  placements : w.placements.length ≤ 1

/-- what a placement has to leave behind -/
structure HandedOver (fx : Effects) (before : Option String) (args : Arguments)
    (placed : Result × String) (ref : EntityRef) (w : World) : Prop
    extends Whole fx before args placed ref w where
  owned : Owned fx args placed ref w

/-- the receipt can be written down, and no exception but an `OSError` ends its handoff -/
def CanHandOver (fx : Effects) (before : Option String) (args : Arguments)
    (placed : Result × String) : Prop :=
  ∃ text, fx.receiptText args placed = .ok text ∧
    (before = some text ∨
      canonicalPath args.receipt_file = true ∧ ∀ e, fx.handoff = .error e → e.kind = .osError)

/-- where the world is whole, and the entity has an owner in exactly these cases -/
structure Settled (fx : Effects) (before : Option String) (args : Arguments)
    (placed : Result × String) (ref : EntityRef) (w : World) : Prop
    extends Whole fx before args placed ref w where
  owned_iff : Owned fx args placed ref w ↔ CanHandOver fx before args placed

/-- the entity is acknowledged and nothing else has happened -/
structure Acknowledged (before : Option String) (w : World) : Prop where
  receiptFile : w.receiptFile = before
  replaced : w.replaced = []
  temporary : w.temporary = none
  releases : w.releases = []
  deletes : w.deletes = []
  placements : w.placements.length ≤ 1

section
variable {before : Option String} {args : Arguments} {placed : Result × String} {ref : EntityRef}
  {w w' : World}

theorem Settled.output (h : Settled fx before args placed ref w) (out err : List String) :
    Settled fx before args placed ref { w with stdout := out, stderr := err } :=
  ⟨⟨h.releases, h.deletes, h.replaced, h.unchanged, h.temporary, h.placements⟩, h.owned_iff⟩

theorem Acknowledged.whole (h : Acknowledged before w) : Whole fx before args placed ref w where
  releases r hr := by simp [h.releases] at hr
  deletes r hr := by simp [h.deletes] at hr
  replaced r hr := by simp [h.replaced] at hr
  unchanged _ := h.receiptFile
  temporary _ := h.temporary
  placements := h.placements

theorem Acknowledged.settled (h : Acknowledged before w)
    (hcan : CanHandOver fx before args placed →
      ∃ text, fx.receiptText args placed = .ok text ∧ before = some text) :
    Settled fx before args placed ref w := by
  refine ⟨h.whole, ?_, fun hc => .inl ?_⟩
  · rintro (⟨text, htext, hfile⟩ | ⟨r, hr, -⟩)
    · exact ⟨text, htext, .inl (by rw [← h.receiptFile, hfile])⟩
    · simp [h.releases] at hr
  · rw [h.receiptFile]
    exact hcan hc

theorem Handed.settled (h : Handed fx receipt payload w w') (hw : Acknowledged before w)
    (hclean : fx.unlink = .ok () → w'.temporary = none)
    (htext : fx.receiptText args placed = .ok payload)
    (hpath : canonicalPath args.receipt_file = true)
    (href : receipt.entity.ref? = some ref) : Settled fx before args placed ref w' := by
  have hwh : Whole fx before args placed ref w := hw.whole
  cases h with
  | published ok eq =>
    subst eq
    refine ⟨⟨hwh.releases, hwh.deletes, ?_, ?_, hclean, hw.placements⟩, ?_⟩
    · intro content hc
      rw [hw.replaced, List.nil_append, List.mem_singleton] at hc
      rw [hc, htext]
    · intro hnil
      simp at hnil
    · refine ⟨fun _ => ⟨payload, htext, .inr ⟨hpath, ?_⟩⟩, fun _ => .inl ⟨payload, htext, rfl⟩⟩
      intro e he
      rw [ok] at he
      cases he
  | released e error kind eq =>
    obtain ⟨t, d, rfl, hd⟩ := eq
    have hmem : receipt ∈ w.releases ++ [receipt] := by simp
    refine ⟨⟨?_, ?_, hwh.replaced, hwh.unchanged, hclean, hw.placements⟩, ?_⟩
    · intro r hr
      rw [hw.releases, List.nil_append, List.mem_singleton] at hr
      rw [hr, href]
    · intro r hr
      rw [hw.deletes, List.nil_append] at hr
      have := hd r hr
      rw [href] at this
      exact (Option.some.inj this).symm
    · refine ⟨fun _ => ⟨payload, htext, .inr ⟨hpath, ?_⟩⟩, fun _ => .inr ⟨receipt, hmem, href⟩⟩
      intro e' he'
      rw [error] at he'
      cases he'
      exact kind
  | lost e error kind eq =>
    obtain ⟨t, rfl⟩ := eq
    have hset : Settled fx before args placed ref w := by
      refine hw.settled ?_
      rintro ⟨text, htext', hb | ⟨-, hos⟩⟩
      · exact ⟨text, htext', hb⟩
      · exact absurd (hos e error) kind
    exact ⟨⟨hset.releases, hset.deletes, hset.replaced, hset.unchanged, hclean, hset.placements⟩,
      hset.owned_iff⟩

/-! ## the run -/

theorem placementReceipt_entity {frozen : Bool}
    (h : placementReceipt fx args frozen placed = .ok receipt) : receipt.entity = placed.1 := by
  unfold placementReceipt at h
  cases frozen with
  | false =>
    cases h
    rfl
  | true =>
    cases hc : cameraContext fx args placed.1 with
    | error e =>
      rw [hc] at h
      cases h
    | ok context =>
      rw [hc] at h
      cases h
      rfl

theorem print_spec (h : Settled fx before args placed ref w) (text : String) :
    Ends (print fx text) w (fun _ => Settled fx before args placed ref)
      (fun _ => Settled fx before args placed ref) :=
  Ends.attempt_bind (fun _ _ => h) fun _ _ => Ends.of_ok rfl (h.output _ _)

theorem handOver_spec (hfile : args.receipt_file ≠ "") (href : placed.1.ref? = some ref)
    (hw : Acknowledged before w) :
    Ends (handOver fx args (args.resolved_extrinsic_json ≠ "") placed) w
      (fun _ => Settled fx before args placed ref)
      (fun _ => Settled fx before args placed ref) := by
  have hfail : ∀ e, fx.receiptText args placed = .error e →
      Settled fx before args placed ref w := by
    intro e he
    refine hw.settled ?_
    rintro ⟨text, htext, -⟩
    rw [he] at htext
    cases htext
  refine Ends.attempt_bind (fun e he => hfail e ?_) fun receipt hrec => ?_
  · rw [Effects.receiptText, he]
    rfl
  have hdumps : fx.receiptText args placed = fx.dumps receipt := by
    rw [Effects.receiptText, hrec]
    rfl
  refine Ends.attempt_bind (fun e he => hfail e (hdumps.trans he)) fun payload hpay => ?_
  have htext := hdumps.trans hpay
  rw [if_pos hfile]
  split
  next hpath =>
    have hent : receipt.entity.ref? = some ref := by rw [placementReceipt_entity hrec, href]
    have hkept : Ends (handoffReceipt fx receipt payload) w
        (fun _ => Settled fx before args placed ref) fun _ => Settled fx before args placed ref := by
      refine Ends.mono (handoffReceipt_spec hw.temporary) ?_ ?_
      · rintro - w' ⟨hw', hclean⟩
        exact hw'.settled hw hclean htext hpath hent
      · rintro - w' ⟨hw', hclean⟩
        exact hw'.settled hw hclean htext hpath hent
    exact Ends.bind hkept fun _ w' hw' =>
      Ends.bind (print_spec hw' payload) fun _ _ h => Ends.pure h
  next hpath =>
    refine Ends.bind (Q := fun _ _ => False) (Ends.throw (hw.settled ?_)) fun _ _ => False.elim
    rintro ⟨text, htext', hb | ⟨hcan, -⟩⟩
    · exact ⟨text, htext', hb⟩
    · exact absurd hcan hpath

def Final (fx : Effects) (before : Option String) (args : Arguments) (placed : Result × String)
    (ref : EntityRef) (w : World) : Prop :=
  w.placements ≠ [] → Settled fx before args placed ref w

theorem placeCamera_spec (hargs : fx.parseArguments = .ok args) (hfile : args.receipt_file ≠ "")
    (hplaced : fx.placeEntity = .ok placed) (href : placed.1.ref? = some ref) :
    Ends (placeCamera fx) (World.initial before) (fun _ => Final fx before args placed ref)
      (fun _ => Final fx before args placed ref) := by
  have hnone : Final fx before args placed ref (World.initial before) := fun h => absurd rfl h
  refine Ends.attempt_bind (fun e _ => hnone) fun args' hargs' => ?_
  obtain rfl : args = args' := by
    rw [hargs] at hargs'
    cases hargs'
    rfl
  refine Ends.bind (Q := fun frozen w => frozen = decide (args.resolved_extrinsic_json ≠ "") ∧
    w = World.initial before) ?_ ?_
  · unfold applyFrozenPose
    split
    next hjson => exact Ends.pure ⟨by simp [hjson], rfl⟩
    next hjson =>
      exact Ends.attempt_bind (fun e _ => hnone) fun _ _ => Ends.pure ⟨by simp [hjson], rfl⟩
  rintro frozen w ⟨rfl, rfl⟩
  refine Ends.attempt_bind (fun e _ => hnone) fun _ _ => ?_
  refine Ends.attempt_bind (fun e _ => hnone) fun _ _ => ?_
  split
  next => exact Ends.throw hnone
  refine Ends.modify_bind ?_
  refine Ends.bind (Q := fun p w => p = placed ∧ Acknowledged before w) ?_ ?_
  · unfold placeEntity
    rw [hplaced]
    exact Ends.of_ok rfl ⟨rfl, rfl, rfl, rfl, rfl, rfl, Nat.le_refl 1⟩
  rintro _ w ⟨rfl, hw⟩
  exact Ends.mono (handOver_spec hfile href hw) (fun _ _ h _ => h) (fun _ _ h _ => h)

theorem reportError_spec (h : Final fx before args placed ref w) (error : PyException) :
    Ends (reportError fx error) w (fun _ => Final fx before args placed ref)
      (fun _ => Final fx before args placed ref) := by
  refine Ends.bind (Q := fun _ w' => w' = w) (Ends.of_ok rfl rfl) fun w₁ w₂ hw => ?_
  rw [hw]
  refine Ends.attempt_bind (fun _ _ => h) fun _ _ => Ends.modify_bind (Ends.pure ?_)
  exact fun hp => (h hp).output _ _

theorem main_spec (hargs : fx.parseArguments = .ok args) (hfile : args.receipt_file ≠ "")
    (hplaced : fx.placeEntity = .ok placed) (href : placed.1.ref? = some ref) :
    Ends (main fx) (World.initial before) (fun _ => Final fx before args placed ref)
      (fun _ => Final fx before args placed ref) := by
  refine Ends.handle (placeCamera_spec hargs hfile hplaced href) fun e w h => ?_
  split
  · exact Ends.throw h
  · exact reportError_spec h e

end

/-- **Every acknowledged entity has an owner at exit iff its receipt can be handed over.** -/
theorem placement_owned (fx : Effects) (before : Option String) (args : Arguments)
    (placed : Result × String) (ref : EntityRef) (hargs : fx.parseArguments = .ok args)
    (hfile : args.receipt_file ≠ "") (hplaced : fx.placeEntity = .ok placed)
    (href : placed.1.ref? = some ref) (hasked : (final fx before).placements ≠ []) :
    HandedOver fx before args placed ref (final fx before) ↔
      CanHandOver fx before args placed := by
  have hset : Settled fx before args placed ref (final fx before) := by
    unfold final
    rcases (main_spec hargs hfile hplaced href).cases with ⟨n, w, hrun, hw⟩ | ⟨e, w, hrun, hw⟩
    · rw [final, hrun] at hasked
      rw [hrun]
      exact hw hasked
    · rw [final, hrun] at hasked
      rw [hrun]
      exact hw hasked
  constructor
  · intro h
    exact hset.owned_iff.mp h.owned
  · intro h
    exact ⟨hset.toWhole, hset.owned_iff.mpr h⟩

def Arguments.sample : Arguments where
  world_endpoint := "/run/world.sock"
  target_id := "world"
  model_name := "camera"
  media_source_id := "usb_cam"
  camera_name := "cam"
  receipt_file := "/run/camera.json"
  resolved_extrinsic_json := ""
  frame_roles_json := ""
  optical_frame := "usb_cam_optical_frame"
  xgc_camera_info_topic := "/xgc/camera/world/camera_info"
  timeout := 50

def receiptSample : String :=
  "\x7b\"schema\":\"xgc2.placement.v1\",\"kind\":\"camera\",\"id\":\"camera\"," ++
  "\"entity\":\x7b\"entities\":[\x7b\"ref\":\x7b\"id\":\"camera\",\"generation\":7\x7d," ++
  "\"lifecycle\":\"ready\"\x7d]\x7d,\"instance\":\"w1\",\"world\":\x7b\"service\":" ++
  "\"xgc2.simulation\",\"api_version\":\"v1\",\"profile\":\"http.v1\"," ++
  "\"target_id\":\"world\",\"instance_id\":\"w1\",\"endpoint\":\x7b\"kind\":\"unix\"," ++
  "\"address\":\"/run/world.sock\"\x7d\x7d\x7d"

def Result.sample (lifecycle : String) : Result :=
  ⟨[⟨some ⟨"camera", 7⟩, some lifecycle, none⟩]⟩

def Effects.sample : Effects where
  parseArguments := .ok .sample
  frozenPose := .ok ()
  renderCamera := .ok ()
  importPlacement := .ok ()
  elapsed := 1
  placeEntity := .ok (.sample "ready", "w1")
  importTransforms := .ok ()
  linkPose _ := .error ⟨.exception, "TypeError", "'NoneType' object is not subscriptable"⟩
  dumps _ := .ok receiptSample
  mkstemp := .ok ()
  fdopen := .ok ()
  write := .ok ()
  close := .ok ()
  replace := .ok ()
  unlink := .ok ()
  serviceRef := .ok ()
  runtime := .ok ()
  client := .ok ()
  operation := .ok ()
  clientClose := .ok ()
  runtimeClose := .ok ()
  print := .ok ()
  report := .ok ()

theorem placement_owned_sample :
    HandedOver .sample none .sample (.sample "ready", "w1") ⟨"camera", 7⟩ (final .sample none) :=
  (placement_owned .sample none .sample (.sample "ready", "w1") ⟨"camera", 7⟩ rfl (by decide) rfl
    rfl (by decide +kernel)).mpr ⟨receiptSample, rfl, .inr ⟨by decide +kernel, fun _ h => by cases h⟩⟩

/-- a placement with a frozen extrinsic, whose entity the world has not made ready yet -/
def Effects.pending : Effects :=
  { Effects.sample with
    parseArguments := .ok { Arguments.sample with resolved_extrinsic_json := "\x7b\x7d" }
    placeEntity := .ok (.sample "pending", "w1") }

/-- the context of this entity is refused, and nobody releases it -/
theorem pending_unowned : ¬ ∀ (fx : Effects) (before : Option String) (args : Arguments)
    (placed : Result × String) (ref : EntityRef), fx.parseArguments = .ok args →
    args.receipt_file ≠ "" → fx.placeEntity = .ok placed → placed.1.ref? = some ref →
    (final fx before).placements ≠ [] → HandedOver fx before args placed ref (final fx before) := by
  intro h
  have hpending := h .pending none _ _ ⟨"camera", 7⟩ rfl (by decide) rfl rfl (by decide +kernel)
  rcases hpending.owned with ⟨text, -, hfile⟩ | ⟨receipt, hr, -⟩
  · have hnone : (final .pending none).receiptFile = none := by decide +kernel
    rw [hnone] at hfile
    cases hfile
  · have hnone : (final .pending none).releases.length = 0 := by decide +kernel
    rw [List.length_eq_zero_iff.mp hnone] at hr
    cases hr

end MediaCamera.Placement
