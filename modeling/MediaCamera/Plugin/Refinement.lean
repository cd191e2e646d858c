import MediaCamera.Plugin.Handoff
import MediaCamera.Plugin.Steps

/-!
# The plugin refines the handoff

* `State.handoff`        what the plugin's state says of the handoff;
* `ThreadStep.handoff`   every effect of a thread is a move of the protocol or leaves it alone;
* `HandoffInv.refines`   so every effect keeps the invariant of the protocol.
-/

namespace MediaCamera

def WorkerPC.calibration? : WorkerPC → Option NativeCalibrationMetadata
  | .cameraInfo calibration => some calibration
  | _ => none

def State.handoff (s : State) : Handoff where
  pending := s.ctl.pendingControl
  desiredRevision := s.ctl.desiredRevision
  desiredConfig := s.ctl.desiredConfig
  appliedRevision := s.ctl.appliedRevision
  appliedConfig := s.ctl.appliedConfig
  command := s.nat.nativeCommand
  awaiting := s.nat.awaitingNativeControl
  desiredActive := s.nat.desiredActive
  failing := s.nat.failing
  jpegQuality := s.nat.jpegQuality
  nativeApplied := s.nat.nativeAppliedRevision
  nativeFailed := s.nat.nativeFailedRevision
  calibration := s.ros.branch.calibrationMetadata
  held := s.ros.worker.calibration?
  publishedRevision := s.ros.publishedCalibrationRevision
  published := s.ros.cameraInfos
  log := s.log.filter (·.ofMutation)

section
variable {cfg : PluginConfig} {l : Label} {s s' : State}

theorem mem_handoff_log {e : Event} (he : e ∈ s.log) (hof : e.ofMutation = true) :
    e ∈ s.handoff.log :=
  List.mem_filter.mpr ⟨he, hof⟩

theorem State.Acknowledged.handoff {pending : PendingControl} (h : s.Acknowledged pending)
    (hpending : s.ctl.pendingControl = some pending) : s.handoff.Acknowledged pending :=
  ⟨hpending, mem_handoff_log h.acknowledged rfl, h.published⟩

theorem ExecutorStep.handoff (h : ExecutorStep cfg l s s') :
    s'.handoff = s.handoff ∨
      HandoffStep cfg.ros.rosPublishingEnabled l s.handoff s'.handoff := by
  cases h with
  | admission _ hnone _ _ hdesired =>
    obtain ⟨width, height, input, hdesired⟩ := hdesired
    exact .inr (.admission _ _ hnone (Executor.desiredMutation_follows hdesired))
  | failPending hpending hfailed =>
    exact .inr (.failPending hpending (mem_handoff_log hfailed rfl) rfl rfl)
  | applyConfiguration active hpending hack =>
    exact .inr (.applyConfiguration active (hack.handoff hpending))
  | completePending time hpending hack happlied =>
    exact .inr (.completePending (hack.handoff hpending) happlied rfl rfl)
  | expirePending hpending hcommand =>
    exact .inr (.expirePending hpending hcommand rfl rfl)
  | endWatcher _ hanswer =>
    rcases hanswer with rfl | ⟨response, rfl, _⟩ <;> exact .inl rfl
  | _ => exact .inl rfl

theorem handoff_ros {a : RosAction} (hstop : a ≠ .stopPublisher)
    (hcalibration : ∀ calibration, a ≠ .applyCalibration calibration)
    (hctl : s'.ctl = s.ctl) (hnat : s'.nat = s.nat) (hros : s'.ros = rosStep cfg.ros s.ros a)
    (hlog : s'.log.filter (·.ofMutation) = s.log.filter (·.ofMutation)) :
    HandoffStep cfg.ros.rosPublishingEnabled l s.handoff s'.handoff := by
  have hmoves : s.ros.branch.Moves (rosStep cfg.ros s.ros a).branch := rosStep_moves hstop hcalibration
  have hpublishes : s.ros.Publishes (rosStep cfg.ros s.ros a) := rosStep_publishes a
  have hheld : s.handoff.CanHold (rosStep cfg.ros s.ros a).worker.calibration? := by
    intro calibration hworker
    have hworker : (rosStep cfg.ros s.ros a).worker = .cameraInfo calibration := by
      revert hworker
      cases (rosStep cfg.ros s.ros a).worker <;> simp [WorkerPC.calibration?]
    refine (hpublishes.held calibration hworker).imp_left fun hw => ?_
    show s.ros.worker.calibration? = some calibration
    rw [hw]
    rfl
  have hsame : s'.handoff = { s.handoff with
      calibration := (rosStep cfg.ros s.ros a).branch.calibrationMetadata
      held := (rosStep cfg.ros s.ros a).worker.calibration?
      publishedRevision := (rosStep cfg.ros s.ros a).publishedCalibrationRevision
      published := (rosStep cfg.ros s.ros a).cameraInfos } := by
    simp only [State.handoff, hctl, hnat, hros, hlog]
  rw [hsame, hmoves.calibration]
  rcases hpublishes.published with ⟨hinfos, hrevision⟩ | ⟨calibration, hworker, hinfos, hrevision⟩
  · rw [hinfos, hrevision]
    exact .hold _ hheld
  · rw [hinfos, hrevision]
    refine .publish _ ?_ hheld
    show s.ros.worker.calibration? = some calibration
    rw [hworker]
    rfl

theorem RenderStep.handoff (h : RenderStep cfg l s s') :
    s'.handoff = s.handoff ∨
      HandoffStep cfg.ros.rosPublishingEnabled l s.handoff s'.handoff := by
  cases h with
  | rest h => cases h <;> exact .inl rfl
  | @applyConfiguration _ command _ hcommand hkind _ _ hfailing =>
    obtain ⟨revision, active, jpegQuality, keyframe, calibration, kind⟩ := command
    cases calibration <;> exact .inr (.applyCalibrated hcommand hkind hfailing)
  | @applyCommand _ command hcommand hkind _ _ hfailing =>
    obtain ⟨revision, active, jpegQuality, keyframe, calibration, kind⟩ := command
    cases calibration <;> exact .inr (.applyCommand hcommand hkind hfailing)
  | acknowledge hawaiting => exact .inr (.acknowledge hawaiting)
  | failNative hawaiting hkind => exact .inr (.failNative hawaiting hkind)
  | deactivate hfailing => exact .inr (.deactivate hfailing)
  | beginROSEpoch cause =>
    exact .inr (handoff_ros (a := .beginEpoch cause) (by simp) (by simp) rfl rfl rfl rfl)
  | describeStream width height fps gopLength =>
    exact .inr (handoff_ros (a := .describeStream width height fps gopLength) (by simp) (by simp)
      rfl rfl rfl rfl)
  | checkROS unit => exact .inr (handoff_ros (a := .check unit) (by simp) (by simp) rfl rfl rfl rfl)
  | enqueueROS =>
    refine .inr (handoff_ros (a := .enqueue) (by simp) (by simp) rfl rfl rfl ?_)
    unfold State.enqueueROS
    dsimp only
    split <;> rfl
  | enqueueRTP =>
    refine .inl ?_
    simp only [State.handoff, State.enqueueRTP]
    split <;> rfl
  | destroyEncoder =>
    refine .inl ?_
    simp only [State.handoff, State.destroyEncoder]
    cases s.enc.session <;> rfl
  | _ => exact .inl rfl

theorem OtherStep.handoff (h : OtherStep cfg l s s') :
    s'.handoff = s.handoff ∨
      HandoffStep cfg.ros.rosPublishingEnabled l s.handoff s'.handoff := by
  cases h with
  | pacer h => cases h <;> exact .inl rfl
  | worker h => cases h <;> exact .inl rfl
  | rosSide side =>
    obtain ⟨hstop, _, hcalibration, _⟩ := side.action_ne s.nat.desiredActive
    exact .inr (handoff_ros hstop hcalibration rfl rfl rfl rfl)
  | hostSide side =>
    obtain ⟨reserved, elsewhere, e⟩ := hostSide_eq side s
    rw [e]
    exact .inl rfl

/-- **Refinement.**  Every effect is a move of the protocol or leaves it alone. -/
theorem ThreadStep.handoff {t : ThreadName} (h : ThreadStep cfg t l s s') :
    s'.handoff = s.handoff ∨
      HandoffStep cfg.ros.rosPublishingEnabled l s.handoff s'.handoff := by
  rcases h.kinds with h | h | h
  · exact h.handoff
  · exact h.handoff
  · exact h.handoff

end

theorem HandoffInv.load (cfg : PluginConfig) (input : LoadInput) :
    HandoffInv (State.load cfg input).handoff where
  warranted := trivial
  known _ he := by cases he
  desired := le_rfl
  atomics := ⟨.inl rfl, .inl rfl⟩
  free _ := ⟨rfl, rfl⟩
  slot _ h := by cases h
  failing _ := rfl
  publishes _ _ h := by cases h

theorem HandoffInv.refines {cfg : PluginConfig} {l : Label} {s s' : State}
    (hI : HandoffInv s.handoff) (h : s'.handoff = s.handoff ∨
      HandoffStep cfg.ros.rosPublishingEnabled l s.handoff s'.handoff) : HandoffInv s'.handoff := by
  rcases h with e | hmove
  · rw [e]
    exact hI
  · exact hI.step hmove

end MediaCamera
