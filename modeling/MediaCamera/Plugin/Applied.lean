import MediaCamera.Plugin.Outcome

/-!
# The applied configuration and the native one

Without a pending mutation, `appliedConfig_` should tell the JPEG quality and the calibration that
the native side uses.  `FlushControl` makes it from the desired configuration as a whole, which keeps
the fields of mutations that were given up, while a command carries only some of them
(`applied_differs`).

`AppliedKept` is the condition on a step under which nothing of a lost mutation becomes applied, or
native without being applied, and `applied_mirrors_native` proves the two equal in the runs whose
steps satisfy it.
-/

namespace MediaCamera

/-! ## the property -/

/-- the configuration has the document of the native calibration -/
def Configuration.Calibrated (configuration : Configuration)
    (calibration : NativeCalibrationMetadata) : Prop :=
  ∃ document, configuration.calibration = some document ∧
    document.record calibration.revision = calibration

/-- without a pending mutation, the applied configuration is the native one -/
def AppliedMirrors (cfg : PluginConfig) (s : State) : Prop :=
  s.ctl.pendingControl = none →
    s.ctl.appliedConfig.jpeg_quality = s.nat.jpegQuality ∧
      (cfg.ros.rosPublishingEnabled = true →
        s.ctl.appliedConfig.Calibrated s.ros.branch.calibrationMetadata)

/-! ## the condition -/

/-- the content of a configuration's calibration, under no revision -/
def Configuration.calibrationRecord (configuration : Configuration) :
    Option NativeCalibrationMetadata :=
  configuration.calibration.map (·.record 0)

/-- a mutation without a calibration completes while the desired calibration is the applied one, and
a command that fails natively carried the applied JPEG quality -/
def AppliedKept : Label → State → Prop
  | .applyConfiguration pending, s => pending.calibration = true ∨
      s.ctl.desiredConfig.calibrationRecord = s.ctl.appliedConfig.calibrationRecord
  | .failNative command, s => command.jpegQuality = s.ctl.appliedConfig.jpeg_quality
  | _, _ => True

instance AppliedKept.decidable (l : Label) (s : State) : Decidable (AppliedKept l s) := by
  apply Label.casesOn (motive := fun l => Decidable (AppliedKept l s)) l
  all_goals
    intros
    dsimp only [AppliedKept]
    infer_instance

/-! ## the invariant -/

theorem CalibrationDocument.record_eq (document : CalibrationDocument) (revision : Nat) :
    document.record revision = { document.record 0 with revision := revision } := rfl

theorem Configuration.Calibrated.congr {configuration configuration' : Configuration}
    {calibration : NativeCalibrationMetadata} (h : configuration.Calibrated calibration)
    (hrecord : configuration'.calibrationRecord = configuration.calibrationRecord) :
    configuration'.Calibrated calibration := by
  obtain ⟨document, hdocument, hcalibration⟩ := h
  simp only [calibrationRecord, hdocument, Option.map_some] at hrecord
  obtain ⟨document', hdocument', he⟩ := Option.map_eq_some_iff.mp hrecord
  refine ⟨document', hdocument', ?_⟩
  rw [document'.record_eq, he, ← document.record_eq]
  exact hcalibration

structure Handoff.Mirrors (rosPublishingEnabled : Bool) (h : Handoff)
    (configuration : Configuration) : Prop where
  quality : configuration.jpeg_quality = h.jpegQuality
  calibration : rosPublishingEnabled = true → configuration.Calibrated h.calibration

/-- the pending mutation, if there is one, has not reached the native side, or has failed there, or
is applied -/
def Handoff.Settled (h : Handoff) : Prop :=
  ∀ pending, h.pending = some pending → h.command ≠ none ∨
    .nativeFailed pending.revision ∈ h.log ∨ h.appliedRevision = pending.revision

structure MirrorInv (rosPublishingEnabled : Bool) (h : Handoff) : Prop where
  handoff : HandoffInv h
  behind : h.appliedRevision ≤ h.desiredRevision
  unapplied : ∀ pending, h.pending = some pending → .acknowledged pending.revision ∉ h.log →
    h.appliedRevision < pending.revision
  settled : h.Settled → h.Mirrors rosPublishingEnabled h.appliedConfig
  plain : ∀ pending, h.pending = some pending → pending.calibration = false →
    rosPublishingEnabled = true → h.appliedConfig.Calibrated h.calibration
  command : ∀ command, h.command = some command →
    command.jpegQuality = h.desiredConfig.jpeg_quality ∧
      ∀ calibration, command.calibration = some calibration →
        h.desiredConfig.Calibrated calibration
  consumed : ∀ pending, h.pending = some pending → h.command = none →
    h.desiredConfig.jpeg_quality = h.jpegQuality ∧
      (pending.calibration = true → h.desiredConfig.Calibrated h.calibration)
  awaiting : ∀ command, h.awaiting = some command → command.jpegQuality = h.jpegQuality

section
variable {rosPublishingEnabled : Bool} {l : Label} {h h' : Handoff} {pending : PendingControl}

theorem MirrorInv.admission (hI : MirrorInv rosPublishingEnabled h) (handle : Nat)
    (request : ControlRequest) {kind : ControlKind} {desired : Executor.Desired}
    (hnone : h.pending = none) (hdesired : desired.Follows rosPublishingEnabled h.desiredConfig kind)
    (hhandoff : HandoffInv (h.admission handle kind request desired)) :
    MirrorInv rosPublishingEnabled (h.admission handle kind request desired) := by
  have hmirrors : h.Mirrors rosPublishingEnabled h.appliedConfig :=
    hI.settled fun _ hsome => by cases hnone.symm.trans hsome
  refine ⟨hhandoff, Nat.le_succ_of_le hI.behind, fun pending hsome _ => ?_,
    fun _ => ⟨hmirrors.quality, hmirrors.calibration⟩, fun _ _ _ => hmirrors.calibration,
    fun command hsome => ?_, fun _ _ hcommand => (by cases hcommand), fun command hsome => ?_⟩
  · cases hsome
    exact Nat.lt_succ_of_le hI.behind
  · cases hsome
    refine ⟨rfl, fun calibration hcalibration => ?_⟩
    obtain ⟨document, hdocument, rfl⟩ := Option.map_eq_some_iff.mp hcalibration
    refine ⟨document, ?_, rfl⟩
    show desired.configuration.calibration = _
    rw [hdesired.calibration, hdocument]
    rfl
  · have hsome : h.awaiting = some command := hsome
    rw [(hI.handoff.free hnone).2] at hsome
    cases hsome

theorem MirrorInv.settle (hI : MirrorInv rosPublishingEnabled h) {receipt : Receipt}
    (hsettled : h.Settled) (hhandoff : HandoffInv h')
    (hh' : h' = { h.settle pending.revision receipt with command := none }) :
    MirrorInv rosPublishingEnabled h' := by
  subst hh'
  have hmirrors := hI.settled hsettled
  exact ⟨hhandoff, hI.behind, fun _ hsome => (by cases hsome),
    fun _ => ⟨hmirrors.quality, hmirrors.calibration⟩, fun _ hsome => (by cases hsome),
    fun _ hsome => (by cases hsome), fun _ hsome => (by cases hsome), hI.awaiting⟩

theorem MirrorInv.applyConfiguration (hI : MirrorInv rosPublishingEnabled h) (active : Bool)
    (hpending : h.Acknowledged pending)
    (hkept : pending.calibration = true ∨
      h.desiredConfig.calibrationRecord = h.appliedConfig.calibrationRecord)
    (hhandoff : HandoffInv { h with
      appliedRevision := pending.revision
      appliedConfig := { h.desiredConfig with active := active } }) :
    MirrorInv rosPublishingEnabled { h with
      appliedRevision := pending.revision
      appliedConfig := { h.desiredConfig with active := active } } := by
  obtain ⟨hcommand, hawaiting⟩ := hI.handoff.idle hpending.slot (.inl hpending.acknowledged)
  obtain ⟨hquality, hcarried⟩ := hI.consumed pending hpending.slot hcommand
  have hcalibrated : rosPublishingEnabled = true → h.desiredConfig.Calibrated h.calibration := by
    intro hros
    cases hcalibration : pending.calibration with
    | true => exact hcarried hcalibration
    | false =>
      have hrecord := hkept.resolve_left (by simp [hcalibration])
      exact (hI.plain pending hpending.slot hcalibration hros).congr hrecord
  refine ⟨hhandoff, (hI.handoff.slot pending hpending.slot).latest.le, fun pending' hsome hack => ?_,
    fun _ => ⟨hquality, hcalibrated⟩, fun _ _ _ => hcalibrated, hI.command, hI.consumed,
    hI.awaiting⟩
  obtain rfl : pending' = pending := Option.some.inj (hsome.symm.trans hpending.slot)
  exact absurd hpending.acknowledged hack

theorem MirrorInv.consume (hI : MirrorInv rosPublishingEnabled h) {command : NativeControlCommand}
    (hcommand : h.command = some command) (hpending : h.pending = some pending)
    (hmatch : command.Matches pending) :
    h.desiredConfig.jpeg_quality = (h.consume command).jpegQuality ∧
      (pending.calibration = true → h.desiredConfig.Calibrated (h.consume command).calibration) ∧
      (pending.calibration = false → rosPublishingEnabled = true →
        h.appliedConfig.Calibrated (h.consume command).calibration) := by
  obtain ⟨hquality, hcarried⟩ := hI.command command hcommand
  refine ⟨hquality.symm, fun hcalibration => ?_, fun hcalibration hros => ?_⟩
  · have hsome : command.calibration.isSome = true := hmatch.calibration.trans hcalibration
    obtain ⟨calibration, hcalibration⟩ := Option.isSome_iff_exists.mp hsome
    show h.desiredConfig.Calibrated (command.calibration.getD h.calibration)
    rw [hcalibration]
    exact hcarried calibration hcalibration
  · have hnone : command.calibration = none :=
      Option.not_isSome_iff_eq_none.mp (by rw [hmatch.calibration, hcalibration]; simp)
    show h.appliedConfig.Calibrated (command.calibration.getD h.calibration)
    rw [hnone]
    exact hI.plain pending hpending hcalibration hros

theorem MirrorInv.applyCalibrated (hI : MirrorInv rosPublishingEnabled h)
    {command : NativeControlCommand} (hcommand : h.command = some command)
    (hhandoff : HandoffInv { h.consume command with
      nativeApplied := command.revision
      log := .acknowledged command.revision ::
        .consumed command ⟨h.desiredActive, command.active⟩ :: h.log }) :
    MirrorInv rosPublishingEnabled { h.consume command with
      nativeApplied := command.revision
      log := .acknowledged command.revision ::
        .consumed command ⟨h.desiredActive, command.active⟩ :: h.log } := by
  obtain ⟨pending, hpending, ho, hmatch, hawaiting, honly⟩ := hI.handoff.queued hcommand
  obtain ⟨hquality, hcarried, hplain⟩ := hI.consume hcommand hpending hmatch
  have hunapplied : h.appliedRevision < pending.revision := hI.unapplied pending hpending
    fun hmem => honly.not_consumed (hI.handoff.warranted.consumed_of_acknowledged hmem)
  refine ⟨hhandoff, hI.behind, fun pending' hsome _ => ?_, fun hsettled => ?_,
    fun pending' hsome => ?_, fun _ hsome => (by cases hsome), fun pending' hsome _ => ?_,
    fun command' hsome => (by cases hawaiting.symm.trans hsome)⟩
  · obtain rfl : pending' = pending := Option.some.inj (hsome.symm.trans hpending)
    exact hunapplied
  · rcases hsettled pending hpending with hcommand' | hfailed | happlied
    · exact absurd rfl hcommand'
    · have hfailed : .nativeFailed pending.revision ∈ h.log := by simpa using hfailed
      exact absurd (hI.handoff.warranted.consumed_of_nativeFailed hfailed) honly.not_consumed
    · exact absurd happlied hunapplied.ne
  · obtain rfl : pending' = pending := Option.some.inj (hsome.symm.trans hpending)
    exact hplain
  · obtain rfl : pending' = pending := Option.some.inj (hsome.symm.trans hpending)
    exact ⟨hquality, hcarried⟩

theorem MirrorInv.applyCommand (hI : MirrorInv rosPublishingEnabled h)
    {command : NativeControlCommand} (hcommand : h.command = some command)
    (hhandoff : HandoffInv { h.consume command with awaiting := some command }) :
    MirrorInv rosPublishingEnabled { h.consume command with awaiting := some command } := by
  obtain ⟨pending, hpending, ho, hmatch, _, honly⟩ := hI.handoff.queued hcommand
  obtain ⟨hquality, hcarried, hplain⟩ := hI.consume hcommand hpending hmatch
  have hunapplied : h.appliedRevision < pending.revision := hI.unapplied pending hpending
    fun hmem => honly.not_consumed (hI.handoff.warranted.consumed_of_acknowledged hmem)
  refine ⟨hhandoff, hI.behind, fun pending' hsome _ => ?_, fun hsettled => ?_,
    fun pending' hsome => ?_, fun _ hsome => (by cases hsome), fun pending' hsome _ => ?_,
    fun command' hsome => ?_⟩
  · obtain rfl : pending' = pending := Option.some.inj (hsome.symm.trans hpending)
    exact hunapplied
  · rcases hsettled pending hpending with hcommand' | hfailed | happlied
    · exact absurd rfl hcommand'
    · have hfailed : .nativeFailed pending.revision ∈ h.log := by
        simpa [Handoff.consume] using hfailed
      exact absurd (hI.handoff.warranted.consumed_of_nativeFailed hfailed) honly.not_consumed
    · exact absurd happlied hunapplied.ne
  · obtain rfl : pending' = pending := Option.some.inj (hsome.symm.trans hpending)
    exact hplain
  · obtain rfl : pending' = pending := Option.some.inj (hsome.symm.trans hpending)
    exact ⟨hquality, hcarried⟩
  · cases hsome
    rfl

theorem MirrorInv.acknowledge (hI : MirrorInv rosPublishingEnabled h)
    {command : NativeControlCommand}
    (hhandoff : HandoffInv { h with
      nativeApplied := command.revision, awaiting := none
      log := .acknowledged command.revision :: h.log }) :
    MirrorInv rosPublishingEnabled { h with
      nativeApplied := command.revision, awaiting := none
      log := .acknowledged command.revision :: h.log } := by
  refine ⟨hhandoff, hI.behind, fun pending hsome hack => ?_, fun hsettled => ?_, hI.plain,
    hI.command, hI.consumed, fun _ hsome => by cases hsome⟩
  · exact hI.unapplied pending hsome fun hmem => hack (List.mem_cons_of_mem _ hmem)
  · have hmirrors := hI.settled fun pending hsome =>
      (hsettled pending hsome).imp_right (Or.imp_left fun hmem => by simpa using hmem)
    exact ⟨hmirrors.quality, hmirrors.calibration⟩

theorem MirrorInv.failNative (hI : MirrorInv rosPublishingEnabled h)
    {command : NativeControlCommand} (hawaiting : h.awaiting = some command)
    (hkept : command.jpegQuality = h.appliedConfig.jpeg_quality)
    (hhandoff : HandoffInv { h with
      nativeFailed := command.revision, awaiting := none, failing := true
      log := .nativeFailed command.revision :: h.log }) :
    MirrorInv rosPublishingEnabled { h with
      nativeFailed := command.revision, awaiting := none, failing := true
      log := .nativeFailed command.revision :: h.log } := by
  obtain ⟨pending, hpending, ho, hmatch, _, hkind, _⟩ := hI.handoff.awaits hawaiting
  refine ⟨hhandoff, hI.behind, fun pending' hsome hack => ?_, fun _ => ⟨?_, ?_⟩, hI.plain,
    hI.command, hI.consumed, fun _ hsome => by cases hsome⟩
  · exact hI.unapplied pending' hsome fun hmem => hack (List.mem_cons_of_mem _ hmem)
  · exact hkept.symm.trans (hI.awaiting command hawaiting)
  · exact hI.plain pending hpending (ho.plain (hmatch.kind ▸ hkind))

theorem MirrorInv.step {s : State} (hI : MirrorInv rosPublishingEnabled s.handoff)
    (hD : AppliedKept l s) (hmove : HandoffStep rosPublishingEnabled l s.handoff h') :
    MirrorInv rosPublishingEnabled h' := by
  have hhandoff : HandoffInv h' := hI.handoff.step hmove
  cases hmove with
  | admission handle request hnone hdesired => exact hI.admission handle request hnone hdesired hhandoff
  | @failPending _ pending receipt hpending hfailed =>
    refine hI.settle (fun pending' hsome => ?_) hhandoff
      (Handoff.settle_eq (hI.handoff.idle hpending (.inr hfailed)).1 _ _)
    obtain rfl : pending' = pending := Option.some.inj (hsome.symm.trans hpending)
    exact .inr (.inl hfailed)
  | applyConfiguration active hpending => exact hI.applyConfiguration active hpending hD hhandoff
  | @completePending _ pending receipt hpending happlied =>
    refine hI.settle (fun pending' hsome => ?_) hhandoff
      (Handoff.settle_eq (hI.handoff.idle hpending.slot (.inl hpending.acknowledged)).1 _ _)
    obtain rfl : pending' = pending := Option.some.inj (hsome.symm.trans hpending.slot)
    exact .inr (.inr happlied)
  | expirePending hpending hcommand =>
    refine hI.settle (fun _ _ => .inl fun hnone => ?_) hhandoff rfl
    rw [hnone] at hcommand
    cases hcommand
  | applyCalibrated hcommand => exact hI.applyCalibrated hcommand hhandoff
  | applyCommand hcommand => exact hI.applyCommand hcommand hhandoff
  | acknowledge => exact hI.acknowledge hhandoff
  | failNative hawaiting => exact hI.failNative hawaiting hD hhandoff
  | deactivate | hold | publish =>
    exact ⟨hhandoff, hI.behind, hI.unapplied,
      fun hsettled => ⟨(hI.settled hsettled).quality, (hI.settled hsettled).calibration⟩, hI.plain,
      hI.command, hI.consumed, hI.awaiting⟩

end

theorem LoadInput.calibration_record (input : LoadInput) :
    input.calibration.record 1 = input.calibrationMetadata := by
  simp [calibration, calibrationMetadata, CalibrationDocument.record, Number.asDouble,
    Function.comp_def]

theorem MirrorInv.load (cfg : PluginConfig) (input : LoadInput) :
    MirrorInv cfg.ros.rosPublishingEnabled (State.load cfg input).handoff where
  handoff := .load cfg input
  behind := le_rfl
  unapplied _ hsome := by cases hsome
  settled _ := ⟨rfl, fun hros => ⟨input.calibration, if_pos hros, input.calibration_record⟩⟩
  plain _ hsome := by cases hsome
  command _ hsome := by cases hsome
  consumed _ hsome := by cases hsome
  awaiting _ hsome := by cases hsome

theorem mirrorInv {cfg : PluginConfig} {s : PluginState}
    (h : (pluginMachine cfg).ReachableUnder (Pool.Obeys AppliedKept) s) :
    MirrorInv cfg.ros.rosPublishingEnabled s.shared.handoff :=
  handoff_invariant (MirrorInv.load cfg) (fun _ _ _ hD hmove hI => hI.step hD hmove) h

def calibrationObject : Json :=
  .object [
    ("camera_matrix", .array ([2, 0, 1, 0, 2, 1, 0, 0, 1].map fun n => .number (.int n))),
    ("distortion", .array ([0, 0, 0, 0, 0].map fun n => .number (.int n))),
    ("height", .number (.uint 480)), ("model", .string "plumb_bob"),
    ("scope", .string "calibration-metadata"), ("width", .number (.uint 640))]

/-- the calibration is configured, consumed and published, and completes -/
def calibratedRun : List PluginAction :=
  consumerRun ++ runCall .executor (configCall "a" 1 [("calibration", calibrationObject)]) 8 ++
    runCall .render (postRenderCall 1) 16 ++
    (List.replicate 2 (runCall .rosSide .worker 1)).flatten ++ runCall .executor (flushCall 2) 24

/-- a calibration is given up at its deadline, and the stream is started -/
def lostCalibrationRun : List PluginAction :=
  runCall .executor (configCall "c" 1 [("calibration", calibrationObject)]) 8 ++
    runCall .executor (flushCall 10) 24 ++ startRun

end MediaCamera
