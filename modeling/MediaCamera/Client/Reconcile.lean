import MediaCamera.Client.Intrinsics
import MediaCamera.Client.Placement
import MediaCamera.Control.Request

/-!
# One reconciliation of the publisher

`_apply_camera_info_metadata` reads the configuration of its source, sends the calibration of the
publisher if another one is applied, and returns once the provider acknowledges the publication.

* `Answers`                  how each call of one reconciliation ends;
* `applyCameraInfoMetadata`  the script, which notes what it asks of the provider;
* `Intrinsics.patches`       the document that it sends after it read a status;
* `reconciliation_ends`      it sends at most this, and returns with an acknowledged status only,
                             of a source that applied its calibration or took its request.
-/

namespace MediaCamera

open Placement (PyException)

/-! ## documents -/

/-- a number as Python compares it -/
def Number.value? : Number → Option ℚ
  | .int n => some n
  | .uint n => some n
  | .real (.finite q) => some q
  | .real .nonfinite => none

def sameValues (numbers : List Number) (values : List Double) : Bool :=
  numbers.map (·.value?) = values.map (Number.real · |>.value?) ∧ .nonfinite ∉ values

/-- `status["applied"]["calibration"] == calibration` -/
def CalibrationDocument.equals (document : CalibrationDocument) (i : Intrinsics) : Bool :=
  DistortionModel.parse i.model = some document.model ∧ i.width = document.width ∧
    i.height = document.height ∧ sameValues document.camera_matrix i.camera_matrix = true ∧
    sameValues document.distortion i.distortion = true

namespace Intrinsics
variable (i : Intrinsics)

def configured (configuration : Configuration) : Bool :=
  configuration.calibration.any (·.equals i)

/-- `status["applied"]["calibration"] != calibration` -/
def differs (status : CameraStatus) : Bool := !i.configured status.applied

def patchDocument (revision : Nat) : Json :=
  .object [("config", .object [("calibration", calibrationRequest i)]),
    ("expected_revision", .number (.int revision)), ("persist", .bool false)]

/-- what a reconciliation sends after it read this status -/
def patches (status : CameraStatus) : Option Json :=
  if status.pending = false ∧ i.differs status = true then
    some (i.patchDocument status.desired_revision)
  else none

end Intrinsics

/-- the last test of a reconciliation -/
def CameraStatus.acknowledged (status : CameraStatus) : Bool :=
  !status.pending && status.published_calibration_revision == status.applied_revision

/-! ## the script -/

namespace Reconcile

/-- how the calls of one reconciliation end -/
structure Answers where
  /-- `_realize_placement` -/
  realizePlacement : Except PyException Unit
  /-- the capabilities of the descriptor -/
  describe : Except PyException (List String)
  configuration : Except PyException CameraStatus
  /-- the answer to the `PATCH` -/
  patch : Except PyException CameraStatus

inductive Call where
  | describe (route : List Char)
  | configuration (route : List Char)
  | patch (route : List Char) (document : Json)
  deriving DecidableEq

def Call.patch? : Call → Option Json
  | .patch _ document => some document
  | _ => none

/-- a script with the calls that it has made -/
abbrev Action (α : Type) := Script (List Call) PyException α

def call {α : Type} (c : Call) (outcome : Except PyException α) : Action α := do
  modifyThe (List Call) (· ++ [c])
  Script.attempt outcome

def runtimeError (text : String) : PyException := ⟨.exception, "RuntimeError", text⟩

def nameError : PyException :=
  ⟨.exception, "ValueError", "camera_name must match ^[A-Za-z][A-Za-z0-9._-]\x7b0,63\x7d$"⟩

variable (fx : Answers) (i : Intrinsics)

def reconcileSource (route : List Char) : Action (List Char × Nat) := do
  let capabilities ← call (.describe (route ++ "/describe".toList)) fx.describe
  if "calibration-metadata" ∉ capabilities then
    throw (runtimeError "native camera source cannot publish calibration metadata")
  else
    let status ← call (.configuration (route ++ "/config".toList)) fx.configuration
    if status.pending then
      throw (runtimeError "camera metadata application is still pending")
    else
      let status ← if i.differs status then
          call (.patch (route ++ "/config".toList) (i.patchDocument status.desired_revision)) fx.patch
        else pure status
      if !status.acknowledged then
        throw (runtimeError "native CameraInfo publication is not yet acknowledged")
      else pure (route ++ "/observe/".toList, status.event_revision)

def applyCameraInfoMetadata (mediaSourceID : List Char) (sources : List (List Char)) :
    Action (List Char × Nat) := do
  Script.attempt fx.realizePlacement
  let sourceID ← Script.attempt ((stableCameraName mediaSourceID).elim (.error nameError) .ok)
  if !sources.contains sourceID then throw (runtimeError "camera source has not registered")
  else reconcileSource fx i (route sourceID)

/-! ## what it sends, and when it returns -/

/-- the documents sent: none, or the one that the status asks for -/
def Sent (calls : List Call) : Prop :=
  calls.filterMap (·.patch?) = [] ∨ ∃ status document, fx.configuration = .ok status ∧
    i.patches status = some document ∧ calls.filterMap (·.patch?) = [document]

/-- the status with which a reconciliation returns: that of the `PATCH`, or the one read first,
which has the calibration of the publisher applied -/
def Returned (status : CameraStatus) (calls : List Call) : Prop :=
  status.acknowledged = true ∧
    (fx.configuration = .ok status ∧ i.differs status = false ∨
      fx.patch = .ok status ∧ calls.filterMap (·.patch?) ≠ [])

abbrev EndsWith (x : Action (List Char × Nat)) (calls : List Call) : Prop :=
  Script.Ends x calls
    (fun r calls => Sent fx i calls ∧
      ∃ status, Returned fx i status calls ∧ r.2 = status.event_revision)
    fun _ calls => Sent fx i calls

theorem call_ends {α β : Type} {c : Call} {outcome : Except PyException α} {f : α → Action β}
    {calls : List Call} {Q : β → List Call → Prop} {E : PyException → List Call → Prop}
    (error : ∀ e, outcome = .error e → E e (calls ++ [c]))
    (ok : ∀ a, outcome = .ok a → Script.Ends (f a) (calls ++ [c]) Q E) :
    Script.Ends (call c outcome >>= f) calls Q E := by
  refine Script.Ends.bind (Q := fun a calls' => calls' = calls ++ [c] ∧ outcome = .ok a) ?_ ?_
  · exact .modify_bind (.attempt (fun _ h => ⟨rfl, h⟩) fun e h => error e h)
  · rintro a calls' ⟨rfl, h⟩
    exact ok a h

theorem acknowledge_ends {status : CameraStatus} {calls : List Call} (route : List Char)
    (hsent : Sent fx i calls)
    (hreturned : status.acknowledged = true → Returned fx i status calls) :
    EndsWith fx i (if !status.acknowledged then
        throw (runtimeError "native CameraInfo publication is not yet acknowledged")
      else pure (route ++ "/observe/".toList, status.event_revision)) calls := by
  cases hack : status.acknowledged with
  | false => exact .throw hsent
  | true => exact .pure ⟨hsent, status, hreturned hack, rfl⟩

theorem reconcileSource_ends (route : List Char) : EndsWith fx i (reconcileSource fx i route) [] := by
  refine call_ends (fun _ _ => .inl rfl) fun capabilities _ => ?_
  split
  · exact .throw (.inl rfl)
  refine call_ends (fun _ _ => .inl rfl) fun status hstatus => ?_
  cases hpending : status.pending with
  | true => exact .throw (.inl rfl)
  | false =>
    cases hdiffers : i.differs status with
    | false =>
      apply acknowledge_ends fx i route (.inl rfl)
      exact fun hack => ⟨hack, .inl ⟨hstatus, hdiffers⟩⟩
    | true =>
      have hpatches : i.patches status = some (i.patchDocument status.desired_revision) :=
        if_pos ⟨hpending, hdiffers⟩
      refine call_ends (fun _ _ => .inr ⟨status, _, hstatus, hpatches, rfl⟩) fun answer hanswer => ?_
      apply acknowledge_ends fx i route (.inr ⟨status, _, hstatus, hpatches, rfl⟩)
      exact fun hack => ⟨hack, .inr ⟨hanswer, List.cons_ne_nil _ _⟩⟩

/-- **What a reconciliation does.** -/
theorem reconciliation_ends (mediaSourceID : List Char) (sources : List (List Char)) :
    EndsWith fx i (applyCameraInfoMetadata fx i mediaSourceID sources) [] := by
  refine .attempt_bind (fun _ _ => .inl rfl) fun _ _ => ?_
  refine .attempt_bind (fun _ _ => .inl rfl) fun sourceID _ => ?_
  split
  · exact .throw (.inl rfl)
  · exact reconcileSource_ends fx i (route sourceID)

end Reconcile

/-! ## what the source makes of the document -/

section
variable {i : Intrinsics}

theorem coefficients_ok {values : List Double} {numbers : List Number}
    (h : (realNumbers values).mapM coefficient = .ok numbers) :
    .nonfinite ∉ values ∧ numbers = values.map .real := by
  by_cases hnonfinite : Double.nonfinite ∈ values
  · rw [coefficients_nonfinite hnonfinite] at h
    cases h
  · rw [coefficients_finite hnonfinite] at h
    exact ⟨hnonfinite, (Except.ok.inj h).symm⟩

theorem sameValues_reals {values : List Double} (h : .nonfinite ∉ values) :
    sameValues (values.map .real) values = true := by
  simp [sameValues, h, Function.comp_def]

theorem uint32_int {size : Int} {n : Nat} (h : (Number.int size).uint32? = some n) : size = n := by
  obtain ⟨hsome, _⟩ := Option.filter_eq_some_iff.mp h
  simp only [Number.uint64?] at hsome
  split at hsome
  · obtain rfl := Option.some.inj hsome
    omega
  · cases hsome

theorem CalibrationDocument.parse_equals {streamWidth streamHeight : Nat}
    {document : CalibrationDocument}
    (h : CalibrationDocument.parse streamWidth streamHeight (calibrationRequest i) = .ok document) :
    document.equals i = true := by
  unfold CalibrationDocument.parse at h
  dsimp only at h
  have hobject : (calibrationRequest i).isObject = true := rfl
  have hallowed : requireFields (calibrationRequest i)
      ["scope", "model", "width", "height", "camera_matrix", "distortion"] = .ok () := rfl
  have hscope : (calibrationRequest i).get? "scope" = some (.string "calibration-metadata") := rfl
  have hname : (calibrationRequest i).get? "model" = some (.string i.model) := rfl
  have hwidth : (calibrationRequest i).get? "width" = some (.number (.int i.width)) := rfl
  have hheight : (calibrationRequest i).get? "height" = some (.number (.int i.height)) := rfl
  have hmatrix : (calibrationRequest i).get? "camera_matrix" =
      some (.array (realNumbers i.camera_matrix)) := rfl
  have hdistortion : (calibrationRequest i).get? "distortion" =
      some (.array (realNumbers i.distortion)) := rfl
  simp only [hobject, hallowed, hscope, hname, hwidth, hheight, hmatrix, hdistortion,
    Option.bind_some, Json.string?, Json.number?, Json.array?] at h
  rw [if_neg (by decide)] at h
  obtain ⟨_, _, h⟩ := Executor.except_bind_ok h
  split at h
  case h_2 => cases h
  rename_i width hwidth
  split at h
  case h_2 => cases h
  rename_i height hheight
  split at h
  · cases h
  split at h
  case h_2 => cases h
  rename_i model hmodel
  split at h
  · cases h
  obtain ⟨matrix, hmatrix, h⟩ := Executor.except_bind_ok h
  obtain ⟨distortion, hdistortion, h⟩ := Executor.except_bind_ok h
  split at h
  · cases h
  cases h
  obtain ⟨hfinite, rfl⟩ := coefficients_ok hmatrix
  obtain ⟨hfinite', rfl⟩ := coefficients_ok hdistortion
  simp only [CalibrationDocument.equals, decide_eq_true_eq]
  exact ⟨hmodel, uint32_int hwidth, uint32_int hheight, sameValues_reals hfinite,
    sameValues_reals hfinite'⟩

end

end MediaCamera
