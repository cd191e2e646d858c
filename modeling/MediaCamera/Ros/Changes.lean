import MediaCamera.Ros.Epoch

/-!
# What one action of the ROS branch changes

* `Moves`       every section but two keeps the calibration, moves forward in epochs and sequence
                numbers, and does not stop the publisher (`rosStep_moves`);
* `Publishes`   what is handed to the publishers only grows, and a camera info comes from the
                worker, which took the branch's calibration (`rosStep_publishes`);
* `rosStep_enqueuing`   who changes the access unit of a running `EnqueueROSAccessUnit`.
-/

namespace MediaCamera

def RosMessage.cameraInfo? : RosMessage → Option NativeCalibrationMetadata
  | .cameraInfo calibration => some calibration
  | _ => none

/-- the records that `PublishCameraInfo` published, newest first -/
def RosState.cameraInfos (s : RosState) : List NativeCalibrationMetadata :=
  s.out.filterMap (·.cameraInfo?)

/-! ## the branch -/

structure RosBranch.Moves (r r' : RosBranch) : Prop where
  calibration : r'.calibrationMetadata = r.calibrationMetadata
  forward : r'.NotBefore r
  running : r.rosPublisherStopping = false → r'.rosPublisherStopping = false

namespace RosBranch.Moves
variable {cfg : RosConfig} {r r' r'' : RosBranch}

theorem refl (r : RosBranch) : r.Moves r := ⟨rfl, .refl r, id⟩

theorem trans (h : r.Moves r') (h' : r'.Moves r'') : r.Moves r'' where
  calibration := h'.calibration.trans h.calibration
  forward := by
    have h1 := h.forward
    have h2 := h'.forward
    unfold RosBranch.NotBefore at *
    omega
  running := h'.running ∘ h.running

theorem of_eq (hcalibration : r'.calibrationMetadata = r.calibrationMetadata)
    (hindex : r.epochIndex = r'.epochIndex)
    (hnext : r.nextPublishedFrameSequence = r'.nextPublishedFrameSequence)
    (hstopping : r.rosPublisherStopping = false → r'.rosPublisherStopping = false) : r.Moves r' :=
  ⟨hcalibration, .of_eq hindex hnext, hstopping⟩

theorem advance (cause : EpochCause) (extra : Nat) :
    r.Moves (r.advanceROSEpochLocked cause extra) :=
  ⟨rfl, notBefore_advance r cause extra, id⟩

theorem beginROSEpoch (cause : EpochCause) : r.Moves (r.beginROSEpoch cfg cause) := by
  unfold RosBranch.beginROSEpoch
  split
  · exact advance cause 0
  · exact refl r

theorem overflowed (unit : AccessUnit) : r.Moves (r.overflowed cfg unit) := by
  unfold RosBranch.overflowed
  split
  · exact advance _ _
  · exact refl r

theorem pushFrame (offer : Nat) (unit : AccessUnit) : r.Moves (r.pushFrame offer unit) :=
  ⟨rfl, .inr ⟨rfl, Nat.le_succ _⟩, id⟩

theorem enqueueLocked (unit : AccessUnit) : r.Moves (r.enqueueLocked cfg unit).1 := by
  have hexamined : r.Moves r.examined := of_eq rfl rfl rfl id
  rcases enqueueLocked_cases cfg r unit with
    ⟨_, e⟩ | ⟨_, _, _, e⟩ | ⟨_, _, _, _, e⟩ | ⟨_, _, e⟩ <;> rw [e]
  · exact refl r
  · exact hexamined.trans (overflowed unit)
  · exact of_eq rfl rfl rfl id
  · exact (hexamined.trans (overflowed unit)).trans (pushFrame _ unit)

theorem discardQueue : r.Moves r.discardQueue := by
  unfold RosBranch.discardQueue
  split
  · exact refl r
  · exact of_eq rfl rfl rfl id

theorem activateConsumers : r.Moves r.activateConsumers := by
  unfold RosBranch.activateConsumers
  split
  · exact of_eq rfl rfl rfl id
  · exact refl r

end RosBranch.Moves

theorem enqueuedFrame_some {cfg : RosConfig} {r : RosBranch} {unit : AccessUnit}
    {frame : QueuedROSFrame}
    (h : r.enqueuedFrame cfg unit = some frame) :
    frame = (r.examined.overflowed cfg unit).stampFrame r.offered unit ∧
      (r.enqueueLocked cfg unit).1 = (r.examined.overflowed cfg unit).pushFrame r.offered unit := by
  obtain ⟨hkept, hframe⟩ : (r.rosPublisherStopping = false ∧
      ((r.examined.overflowed cfg unit).rosWaitingForIDR = true → unit.keyframe = true)) ∧
      (r.examined.overflowed cfg unit).stampFrame r.offered unit = frame := by
    simpa [RosBranch.enqueuedFrame, not_or, not_and] using h
  refine ⟨hframe.symm, ?_⟩
  rcases enqueueLocked_cases cfg r unit with
    ⟨hstop, _⟩ | ⟨_, hfull, hdelta, _⟩ | ⟨_, hroom, hwait, hdelta, _⟩ | ⟨_, _, e⟩
  · rw [hkept.1] at hstop; cases hstop
  · have hover : (r.examined.overflowed cfg unit).rosWaitingForIDR = true := by
      unfold RosBranch.overflowed
      rw [if_pos (show _ ≤ r.examined.rosFrameQueue.length from hfull)]
      rfl
    rw [hkept.2 hover] at hdelta; cases hdelta
  · have hover : (r.examined.overflowed cfg unit).rosWaitingForIDR = true := by
      unfold RosBranch.overflowed
      rw [if_neg (show ¬ _ ≤ r.examined.rosFrameQueue.length from Nat.not_le.mpr hroom)]
      exact hwait
    rw [hkept.2 hover] at hdelta; cases hdelta
  · exact e

section
variable {cfg : RosConfig} {s : RosState}

theorem stepCallback_moves (desiredActive : Bool) :
    s.branch.Moves (s.stepCallback cfg desiredActive).branch := by
  unfold RosState.stepCallback
  split
  · exact .refl _
  · exact .beginROSEpoch _
  · exact .refl _
  · exact .refl _
  · exact .refl _
  · exact .activateConsumers
  · exact .discardQueue

theorem popWork_moves : s.branch.Moves s.popWork.branch := by
  unfold RosState.popWork
  repeat' split
  all_goals exact .of_eq rfl rfl rfl id

theorem stepWorker_moves : s.branch.Moves s.stepWorker.branch := by
  unfold RosState.stepWorker
  split
  · exact .refl _
  · exact popWork_moves
  · exact .refl _
  · unfold RosState.publishStreamInfo
    split <;> exact .refl _
  · unfold RosState.publishROSFrame
    split <;> exact .refl _

theorem stepRegistration_moves (succeeds : Bool) :
    s.branch.Moves (s.stepRegistration succeeds).branch := by
  unfold RosState.stepRegistration
  repeat' split
  all_goals first | exact .of_eq rfl rfl rfl id | exact .of_eq rfl rfl rfl fun _ => rfl

theorem rosStep_moves {a : RosAction} (hstop : a ≠ .stopPublisher)
    (hcalibration : ∀ calibration, a ≠ .applyCalibration calibration) :
    s.branch.Moves (rosStep cfg s a).branch := by
  cases a with
  | beginEpoch cause => exact .beginROSEpoch cause
  | applyCalibration calibration => exact absurd rfl (hcalibration calibration)
  | describeStream => exact .of_eq rfl rfl rfl id
  | check unit =>
    show s.branch.Moves (s.check cfg unit).branch
    unfold RosState.check
    split <;> exact .refl _
  | enqueue =>
    show s.branch.Moves (s.enqueue cfg).branch
    unfold RosState.enqueue
    split
    · exact .refl _
    · exact .enqueueLocked _
  | connect =>
    show s.branch.Moves s.connect.branch
    unfold RosState.connect
    split
    · exact .of_eq rfl rfl rfl id
    · exact .refl _
  | disconnect =>
    show s.branch.Moves s.disconnect.branch
    unfold RosState.disconnect
    split
    · exact .of_eq rfl rfl rfl id
    · exact .refl _
  | callback desiredActive => exact stepCallback_moves desiredActive
  | worker => exact stepWorker_moves
  | register succeeds =>
    show s.branch.Moves (if _ then s.stepRegistration succeeds else s).branch
    split
    · exact stepRegistration_moves succeeds
    · exact .refl _
  | stopPublisher => exact absurd rfl hstop
  | closeSubscribers => exact .of_eq rfl rfl rfl id

/-! ## the publishers -/

structure RosState.Publishes (s s' : RosState) : Prop where
  out : ∃ new, s'.out = new ++ s.out
  published : (s'.cameraInfos = s.cameraInfos ∧
      s'.publishedCalibrationRevision = s.publishedCalibrationRevision) ∨
    ∃ calibration, s.worker = .cameraInfo calibration ∧
      s'.cameraInfos = calibration :: s.cameraInfos ∧
      s'.publishedCalibrationRevision = calibration.revision
  held : ∀ calibration, s'.worker = .cameraInfo calibration →
    s.worker = .cameraInfo calibration ∨ calibration = s.branch.calibrationMetadata

theorem RosState.Publishes.silent {s' : RosState} (hout : s'.out = s.out)
    (hpublished : s'.publishedCalibrationRevision = s.publishedCalibrationRevision)
    (hheld : ∀ calibration, s'.worker = .cameraInfo calibration →
      s.worker = .cameraInfo calibration ∨ calibration = s.branch.calibrationMetadata) :
    s.Publishes s' where
  out := ⟨[], hout⟩
  published := .inl ⟨by simp only [RosState.cameraInfos, hout], hpublished⟩
  held := hheld

theorem popWork_publishes : s.Publishes s.popWork := by
  unfold RosState.popWork
  split
  · exact .silent rfl rfl (by simp)
  split
  · exact .silent rfl rfl fun calibration h => .inr (by simpa using h.symm)
  split
  · exact .silent rfl rfl (by simp)
  split
  · exact .silent rfl rfl fun _ => .inl
  · exact .silent rfl rfl (by simp)

theorem stepWorker_publishes : s.Publishes s.stepWorker := by
  unfold RosState.stepWorker
  split
  · exact .silent rfl rfl fun _ => .inl
  · exact popWork_publishes
  · rename_i calibration hworker
    exact ⟨⟨[_], rfl⟩, .inr ⟨calibration, hworker, rfl, rfl⟩, by simp [RosState.publishCameraInfo]⟩
  · unfold RosState.publishStreamInfo
    split
    · exact ⟨⟨[_], rfl⟩, .inl ⟨rfl, rfl⟩, by simp⟩
    · exact .silent rfl rfl (by simp)
  · unfold RosState.publishROSFrame
    split
    · exact ⟨⟨[_], rfl⟩, .inl ⟨rfl, rfl⟩, by simp⟩
    · exact .silent rfl rfl (by simp)

theorem stepRegistration_publishes (succeeds : Bool) :
    s.Publishes (s.stepRegistration succeeds) := by
  unfold RosState.stepRegistration
  repeat' split
  all_goals first
    | exact .silent rfl rfl fun _ => .inl
    | exact .silent rfl rfl (by simp)

theorem stepCallback_publishes (desiredActive : Bool) :
    s.Publishes (s.stepCallback cfg desiredActive) := by
  unfold RosState.stepCallback
  split <;> exact .silent rfl rfl fun _ => .inl

theorem rosStep_publishes (a : RosAction) : s.Publishes (rosStep cfg s a) := by
  cases a with
  | worker => exact stepWorker_publishes
  | register succeeds =>
    show s.Publishes (if _ then s.stepRegistration succeeds else s)
    split
    · exact stepRegistration_publishes succeeds
    · exact .silent rfl rfl fun _ => .inl
  | callback desiredActive => exact stepCallback_publishes desiredActive
  | check unit =>
    show s.Publishes (s.check cfg unit)
    unfold RosState.check
    split <;> exact .silent rfl rfl fun _ => .inl
  | enqueue =>
    show s.Publishes (s.enqueue cfg)
    unfold RosState.enqueue
    split <;> exact .silent rfl rfl fun _ => .inl
  | connect =>
    show s.Publishes s.connect
    unfold RosState.connect
    split <;> exact .silent rfl rfl fun _ => .inl
  | disconnect =>
    show s.Publishes s.disconnect
    unfold RosState.disconnect
    split <;> exact .silent rfl rfl fun _ => .inl
  | _ => exact .silent rfl rfl fun _ => .inl

/-! ## the access unit -/

theorem popWork_enqueuing : s.popWork.enqueuing = s.enqueuing := by
  unfold RosState.popWork
  repeat' split
  all_goals rfl

theorem stepWorker_enqueuing : s.stepWorker.enqueuing = s.enqueuing := by
  unfold RosState.stepWorker
  split
  · rfl
  · exact popWork_enqueuing
  · rfl
  · unfold RosState.publishStreamInfo
    split <;> rfl
  · unfold RosState.publishROSFrame
    split <;> rfl

theorem stepRegistration_enqueuing (succeeds : Bool) :
    (s.stepRegistration succeeds).enqueuing = s.enqueuing := by
  unfold RosState.stepRegistration
  repeat' split
  all_goals rfl

theorem rosStep_enqueuing {a : RosAction} (hcheck : ∀ unit, a ≠ .check unit) (h : a ≠ .enqueue) :
    (rosStep cfg s a).enqueuing = s.enqueuing := by
  cases a with
  | check unit => exact absurd rfl (hcheck unit)
  | enqueue => exact absurd rfl h
  | worker => exact stepWorker_enqueuing
  | register succeeds =>
    show (if _ then s.stepRegistration succeeds else s).enqueuing = _
    split
    · exact stepRegistration_enqueuing succeeds
    · rfl
  | callback desiredActive =>
    show (s.stepCallback cfg desiredActive).enqueuing = _
    unfold RosState.stepCallback
    split <;> rfl
  | connect =>
    show s.connect.enqueuing = _
    unfold RosState.connect
    split <;> rfl
  | disconnect =>
    show s.disconnect.enqueuing = _
    unfold RosState.disconnect
    split <;> rfl
  | _ => rfl

end

end MediaCamera
