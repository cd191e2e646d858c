import MediaCamera.Plugin.Applied

/-!
# What the publication acknowledgment says

A client that configured a calibration compares `published_calibration_revision` with
`applied_revision`.  The first counts calibrations only, the second every completed mutation.

* `Handoff.PublishedInOrder`   revisions only grow on the way from the native side over the worker
                          to the publication;
* `AckInv`                the native calibration is not newer than the applied mutation, but for a
                          pending one that was consumed;
* `acknowledgment_exact`  without a pending mutation the two revisions agree iff the latest
                          completed mutation carried the native calibration and this is published,
                          and then it is the applied one too.
-/

namespace MediaCamera

/-! ## the invariant -/

namespace Handoff

/-- the worker holds the native calibration or an older one, and has published none but older ones
before -/
structure PublishedInOrder (h : Handoff) : Prop where
  held : ∀ calibration, h.held = some calibration →
    (calibration = h.calibration ∨ calibration.revision < h.calibration.revision) ∧
      h.publishedRevision ≤ calibration.revision
  latest : ∀ calibration ∈ h.published, calibration.revision ≤ h.publishedRevision
  behind : h.publishedRevision ≤ h.calibration.revision
  current : h.publishedRevision = h.calibration.revision → h.calibration ∈ h.published

/-- a calibration that is pending has reached the native side -/
def Carried (h : Handoff) (pending : PendingControl) : Prop :=
  h.pending = some pending ∧ pending.calibration = true ∧ h.command = none

end Handoff

structure AckInv (rosPublishingEnabled : Bool) (h : Handoff) : Prop where
  handoff : HandoffInv h
  published : h.PublishedInOrder
  applied : h.appliedRevision ≤ h.desiredRevision
  unapplied : ∀ pending, h.pending = some pending → .acknowledged pending.revision ∉ h.log →
    h.appliedRevision < pending.revision
  command : ∀ command calibration, h.command = some command →
    command.calibration = some calibration →
      calibration.revision = command.revision ∧ h.desiredConfig.Calibrated calibration
  carried : ∀ pending, h.Carried pending →
    h.calibration.revision = pending.revision ∧ h.desiredConfig.Calibrated h.calibration
  older : ∀ pending, h.pending = some pending → ¬ h.Carried pending →
    h.calibration.revision < pending.revision
  settled : (∀ pending, ¬ h.Carried pending) → h.calibration.revision ≤ h.appliedRevision
  calibrated : rosPublishingEnabled = true → h.calibration.revision = h.appliedRevision →
    h.appliedConfig.Calibrated h.calibration

section
variable {rosPublishingEnabled : Bool} {l : Label} {h h' : Handoff} {pending : PendingControl}

theorem Handoff.PublishedInOrder.renew (ho : h.PublishedInOrder)
    {calibration : NativeCalibrationMetadata} (hheld : h'.held = h.held)
    (hpublished : h'.published = h.published)
    (hrevision : h'.publishedRevision = h.publishedRevision)
    (hcalibration : h'.calibration = calibration)
    (hnewer : h.calibration.revision < calibration.revision) : h'.PublishedInOrder where
  held held hsome := by
    rw [hheld] at hsome
    rw [hcalibration, hrevision]
    obtain ⟨hsame, hpublished⟩ := ho.held held hsome
    refine ⟨.inr ?_, hpublished⟩
    rcases hsame with rfl | hlt
    · exact hnewer
    · exact hlt.trans hnewer
  latest := by
    rw [hpublished, hrevision]
    exact ho.latest
  behind := by
    rw [hrevision, hcalibration]
    exact ho.behind.trans hnewer.le
  current he := by
    rw [hrevision, hcalibration] at he
    have hbehind := ho.behind
    omega

theorem Handoff.PublishedInOrder.hold (ho : h.PublishedInOrder)
    {held : Option NativeCalibrationMetadata} (hheld : h.CanHold held) :
    ({ h with held := held } : Handoff).PublishedInOrder := by
  refine ⟨fun calibration hsome => ?_, ho.latest, ho.behind, ho.current⟩
  rcases hheld calibration hsome with hold | rfl
  · exact ho.held calibration hold
  · exact ⟨.inl rfl, ho.behind⟩

theorem Handoff.PublishedInOrder.publish (ho : h.PublishedInOrder)
    {calibration : NativeCalibrationMetadata} {held : Option NativeCalibrationMetadata}
    (hcalibration : h.held = some calibration) (hheld : h.CanHold held) :
    ({ h with
      held := held
      published := calibration :: h.published
      publishedRevision := calibration.revision } : Handoff).PublishedInOrder := by
  obtain ⟨hsame, hpublished⟩ := ho.held calibration hcalibration
  have hle : calibration.revision ≤ h.calibration.revision := by
    rcases hsame with rfl | hlt
    · exact le_rfl
    · exact hlt.le
  refine ⟨fun other hsome => ?_, fun other hmem => ?_, hle, fun he => ?_⟩
  · rcases hheld other hsome with hold | rfl
    · obtain rfl : calibration = other := Option.some.inj (hcalibration.symm.trans hold)
      exact ⟨hsame, le_rfl⟩
    · exact ⟨.inl rfl, hle⟩
  · rcases List.mem_cons.mp hmem with rfl | hmem
    · exact le_rfl
    · exact (ho.latest other hmem).trans hpublished
  · rcases hsame with rfl | hlt
    · exact List.mem_cons_self
    · exact absurd he hlt.ne

theorem HandoffStep.published_subset (hmove : HandoffStep rosPublishingEnabled l h h') :
    h.published ⊆ h'.published := by
  cases hmove with
  | publish => exact List.subset_cons_self _ _
  | _ => exact List.Subset.refl _

theorem AckInv.admission (hI : AckInv rosPublishingEnabled h) (handle : Nat)
    (request : ControlRequest) {kind : ControlKind} {desired : Executor.Desired}
    (hnone : h.pending = none)
    (hdesired : desired.Follows rosPublishingEnabled h.desiredConfig kind)
    (hhandoff : HandoffInv (h.admission handle kind request desired)) :
    AckInv rosPublishingEnabled (h.admission handle kind request desired) := by
  have hsettled : h.calibration.revision ≤ h.appliedRevision := by
    apply hI.settled
    rintro pending ⟨hsome, -⟩
    cases hnone.symm.trans hsome
  have happlied := hI.applied
  have hqueued : ∀ pending, ¬ (h.admission handle kind request desired).Carried pending := by
    rintro pending ⟨-, -, hcommand⟩
    cases hcommand
  refine ⟨hhandoff, ⟨hI.published.held, hI.published.latest, hI.published.behind,
    hI.published.current⟩, Nat.le_succ_of_le happlied, fun pending hsome _ => ?_,
    fun command calibration hsome hcalibration => ?_, fun pending hcarried => ?_,
    fun pending hsome _ => ?_, fun _ => hsettled, hI.calibrated⟩
  · cases hsome
    exact Nat.lt_succ_of_le happlied
  · cases hsome
    obtain ⟨document, hdocument, rfl⟩ := Option.map_eq_some_iff.mp hcalibration
    refine ⟨rfl, document, ?_, rfl⟩
    show desired.configuration.calibration = _
    rw [hdesired.calibration, hdocument]
    rfl
  · exact absurd hcarried (hqueued pending)
  · cases hsome
    exact Nat.lt_succ_of_le (hsettled.trans happlied)

theorem AckInv.settle (hI : AckInv rosPublishingEnabled h) {receipt : Receipt}
    (hsettled : h.calibration.revision ≤ h.appliedRevision) (hhandoff : HandoffInv h')
    (hh' : h' = { h.settle pending.revision receipt with command := none }) :
    AckInv rosPublishingEnabled h' := by
  subst hh'
  refine ⟨hhandoff, ⟨hI.published.held, hI.published.latest, hI.published.behind,
    hI.published.current⟩, hI.applied, fun _ hsome => ?_, fun _ _ hsome => ?_,
    fun _ hcarried => ?_, fun _ hsome => ?_, fun _ => hsettled, hI.calibrated⟩
  · cases hsome
  · cases hsome
  · cases hcarried.1
  · cases hsome

theorem AckInv.applyConfiguration (hI : AckInv rosPublishingEnabled h) (active : Bool)
    (hpending : h.Acknowledged pending)
    (hhandoff : HandoffInv { h with
      appliedRevision := pending.revision
      appliedConfig := { h.desiredConfig with active := active } }) :
    AckInv rosPublishingEnabled { h with
      appliedRevision := pending.revision
      appliedConfig := { h.desiredConfig with active := active } } := by
  have hlatest : pending.revision = h.desiredRevision := (hI.handoff.slot pending hpending.slot).latest
  refine ⟨hhandoff, ⟨hI.published.held, hI.published.latest, hI.published.behind,
    hI.published.current⟩, hlatest.le, fun pending' hsome hack => ?_, hI.command, hI.carried,
    hI.older, fun hfree => ?_, fun _ he => ?_⟩
  · obtain rfl : pending' = pending := Option.some.inj (hsome.symm.trans hpending.slot)
    exact absurd hpending.acknowledged hack
  · exact (hI.older pending hpending.slot (hfree pending)).le
  · have hcarried : h.Carried pending := by
      by_contra hfree
      exact (hI.older pending hpending.slot hfree).ne he
    exact (hI.carried pending hcarried).2

theorem AckInv.consume (hI : AckInv rosPublishingEnabled h) {command : NativeControlCommand}
    (hcommand : h.command = some command) (hhandoff : HandoffInv h')
    (hpending : h'.pending = h.pending) (hnone : h'.command = none)
    (hcalibration : h'.calibration = command.calibration.getD h.calibration)
    (hheld : h'.held = h.held) (hpublished : h'.published = h.published)
    (hrevision : h'.publishedRevision = h.publishedRevision)
    (hdesired : h'.desiredRevision = h.desiredRevision ∧ h'.desiredConfig = h.desiredConfig)
    (happlied : h'.appliedRevision = h.appliedRevision ∧ h'.appliedConfig = h.appliedConfig) :
    AckInv rosPublishingEnabled h' := by
  obtain ⟨pending, hsome, ho, hmatch, hawaiting, honly⟩ := hI.handoff.queued hcommand
  have hunapplied : h.appliedRevision < pending.revision := hI.unapplied pending hsome
    fun hmem => honly.not_consumed (hI.handoff.warranted.consumed_of_acknowledged hmem)
  have hqueued : ∀ pending, ¬ h.Carried pending := by
    rintro pending' ⟨-, -, hfree⟩
    rw [hcommand] at hfree
    cases hfree
  have holder : h.calibration.revision < pending.revision := hI.older pending hsome (hqueued pending)
  have hslot : ∀ pending', h'.pending = some pending' → pending' = pending := fun pending' hsome' =>
    Option.some.inj ((hpending ▸ hsome').symm.trans hsome)
  cases hc : command.calibration with
  | some calibration =>
    rw [hc, Option.getD_some] at hcalibration
    obtain ⟨hown, hcalibrated⟩ := hI.command command calibration hcommand hc
    have hown : calibration.revision = pending.revision := hown.trans hmatch.revision
    have hcarries : pending.calibration = true := by
      rw [← hmatch.calibration, hc]
      rfl
    have hcarried : h'.Carried pending := ⟨hpending.trans hsome, hcarries, hnone⟩
    refine ⟨hhandoff, hI.published.renew hheld hpublished hrevision hcalibration (hown ▸ holder),
      ?_, fun pending' hsome' _ => ?_, fun _ _ hsome' => ?_, fun pending' hcarried' => ?_,
      fun pending' hsome' hfree => ?_, fun hfree => ?_, fun _ he => ?_⟩
    · rw [happlied.1, hdesired.1]
      exact hI.applied
    · rw [hslot pending' hsome', happlied.1]
      exact hunapplied
    · cases hnone.symm.trans hsome'
    · rw [hslot pending' hcarried'.1, hcalibration, hdesired.2]
      exact ⟨hown, hcalibrated⟩
    · rw [hslot pending' hsome'] at hfree
      exact absurd hcarried hfree
    · exact absurd hcarried (hfree pending)
    · rw [hcalibration, happlied.1, hown] at he
      exact absurd he hunapplied.ne'
  | none =>
    rw [hc, Option.getD_none] at hcalibration
    have hplain : pending.calibration = false := by
      rw [← hmatch.calibration, hc]
      rfl
    have hnothing : ∀ pending', ¬ h'.Carried pending' := by
      rintro pending' ⟨hsome', hcarries, -⟩
      rw [hslot pending' hsome', hplain] at hcarries
      cases hcarries
    have horder : h'.PublishedInOrder := by
      obtain ⟨hheld', hlatest, hbehind, hcurrent⟩ := hI.published
      refine ⟨?_, ?_, ?_, ?_⟩
      · rw [hheld, hcalibration, hrevision]
        exact hheld'
      · rw [hpublished, hrevision]
        exact hlatest
      · rw [hrevision, hcalibration]
        exact hbehind
      · rw [hrevision, hcalibration, hpublished]
        exact hcurrent
    refine ⟨hhandoff, horder, ?_, fun pending' hsome' _ => ?_, fun _ _ hsome' => ?_,
      fun pending' hcarried => absurd hcarried (hnothing pending'), fun pending' hsome' _ => ?_,
      fun _ => ?_, ?_⟩
    · rw [happlied.1, hdesired.1]
      exact hI.applied
    · rw [hslot pending' hsome', happlied.1]
      exact hunapplied
    · cases hnone.symm.trans hsome'
    · rw [hslot pending' hsome', hcalibration]
      exact holder
    · rw [hcalibration, happlied.1]
      exact hI.settled hqueued
    · rw [hcalibration, happlied.1, happlied.2]
      exact hI.calibrated

theorem AckInv.aside (hI : AckInv rosPublishingEnabled h) (hhandoff : HandoffInv h')
    (hh' : h' = { h with
      awaiting := h'.awaiting, desiredActive := h'.desiredActive, failing := h'.failing
      nativeApplied := h'.nativeApplied, nativeFailed := h'.nativeFailed, log := h'.log })
    (hlog : h.log ⊆ h'.log) : AckInv rosPublishingEnabled h' := by
  rw [hh'] at hhandoff ⊢
  exact ⟨hhandoff, ⟨hI.published.held, hI.published.latest, hI.published.behind,
    hI.published.current⟩, hI.applied,
    fun pending hsome hack => hI.unapplied pending hsome fun hmem => hack (hlog hmem), hI.command,
    hI.carried, hI.older, hI.settled, hI.calibrated⟩

theorem AckInv.step (hI : AckInv rosPublishingEnabled h)
    (hmove : HandoffStep rosPublishingEnabled l h h') : AckInv rosPublishingEnabled h' := by
  have hhandoff : HandoffInv h' := hI.handoff.step hmove
  cases hmove with
  | admission handle request hnone hdesired =>
    exact hI.admission handle request hnone hdesired hhandoff
  | @failPending _ pending receipt hpending hfailed =>
    have hplain : pending.calibration = false :=
      (hI.handoff.slot pending hpending).plain (hI.handoff.failed_kind hpending hfailed)
    refine hI.settle (hI.settled ?_) hhandoff
      (Handoff.settle_eq (hI.handoff.idle hpending (.inr hfailed)).1 _ _)
    rintro pending' ⟨hsome, hcarries, -⟩
    obtain rfl : pending' = pending := Option.some.inj (hsome.symm.trans hpending)
    rw [hplain] at hcarries
    cases hcarries
  | applyConfiguration active hpending => exact hI.applyConfiguration active hpending hhandoff
  | @completePending _ pending receipt hpending happlied =>
    refine hI.settle ?_ hhandoff
      (Handoff.settle_eq (hI.handoff.idle hpending.slot (.inl hpending.acknowledged)).1 _ _)
    rw [happlied]
    by_cases hcarried : h.Carried pending
    · exact (hI.carried pending hcarried).1.le
    · exact (hI.older pending hpending.slot hcarried).le
  | expirePending hpending hcommand =>
    refine hI.settle (hI.settled ?_) hhandoff rfl
    rintro pending' ⟨-, -, hnone⟩
    rw [hnone] at hcommand
    cases hcommand
  | applyCalibrated hcommand =>
    exact hI.consume hcommand hhandoff rfl rfl rfl rfl rfl rfl ⟨rfl, rfl⟩ ⟨rfl, rfl⟩
  | applyCommand hcommand =>
    exact hI.consume hcommand hhandoff rfl rfl rfl rfl rfl rfl ⟨rfl, rfl⟩ ⟨rfl, rfl⟩
  | acknowledge => exact hI.aside hhandoff rfl (List.subset_cons_self _ _)
  | failNative => exact hI.aside hhandoff rfl (List.subset_cons_self _ _)
  | deactivate => exact hI.aside hhandoff rfl (List.Subset.refl _)
  | hold held hheld =>
    exact ⟨hhandoff, hI.published.hold hheld, hI.applied, hI.unapplied, hI.command, hI.carried,
      hI.older, hI.settled, hI.calibrated⟩
  | publish held hcalibration hheld =>
    exact ⟨hhandoff, hI.published.publish hcalibration hheld, hI.applied, hI.unapplied, hI.command,
      hI.carried, hI.older, hI.settled, hI.calibrated⟩

end

/-! ## every state -/

theorem AckInv.refines {cfg : PluginConfig} {l : Label} {s s' : State}
    (hI : AckInv cfg.ros.rosPublishingEnabled s.handoff) (h : s'.handoff = s.handoff ∨
      HandoffStep cfg.ros.rosPublishingEnabled l s.handoff s'.handoff) :
    AckInv cfg.ros.rosPublishingEnabled s'.handoff := by
  rcases h with e | hmove
  · rw [e]
    exact hI
  · exact hI.step hmove

theorem AckInv.load (cfg : PluginConfig) (input : LoadInput) :
    AckInv cfg.ros.rosPublishingEnabled (State.load cfg input).handoff where
  handoff := .load cfg input
  published :=
    { held := fun _ hsome => by cases hsome
      latest := fun _ hmem => by cases hmem
      behind := Nat.zero_le _
      current := fun he => by cases he }
  applied := le_rfl
  unapplied _ hsome := by cases hsome
  command _ _ hsome := by cases hsome
  carried _ hcarried := by cases hcarried.1
  older _ hsome := by cases hsome
  settled _ := le_rfl
  calibrated hros _ := ⟨input.calibration, if_pos hros, input.calibration_record⟩

theorem ackInv {cfg : PluginConfig} {s : PluginState} (h : (pluginMachine cfg).Reachable s) :
    AckInv cfg.ros.rosPublishingEnabled s.shared.handoff :=
  handoff_invariant (D := fun _ _ => True) (AckInv.load cfg)
    (fun _ _ _ _ hmove hI => hI.step hmove) (h.mono fun s a _ => Pool.Obeys.trivial s a)

/-- without a pending mutation, the published revision is the applied one only if the native
calibration is published under it -/
theorem AckInv.acknowledged {rosPublishingEnabled : Bool} {s : State}
    (hI : AckInv rosPublishingEnabled s.handoff) (hnone : s.ctl.pendingControl = none)
    (hrevision : s.ros.publishedCalibrationRevision = s.ctl.appliedRevision) :
    s.ros.branch.calibrationMetadata.revision = s.ctl.appliedRevision ∧
      s.ros.branch.calibrationMetadata ∈ s.ros.cameraInfos := by
  have hsettled : s.ros.branch.calibrationMetadata.revision ≤ s.ctl.appliedRevision := by
    apply hI.settled
    rintro pending ⟨hsome, -⟩
    cases hnone.symm.trans hsome
  have hbehind : s.ros.publishedCalibrationRevision ≤
      s.ros.branch.calibrationMetadata.revision := hI.published.behind
  have hagree : s.ros.branch.calibrationMetadata.revision = s.ctl.appliedRevision := by omega
  exact ⟨hagree, hI.published.current (hrevision.trans hagree.symm)⟩

/-- **The acknowledgment is exact.**  Without a pending mutation, the published revision is the
applied one iff the applied mutation carried the native calibration and this is published; and then
it is the calibration of the applied configuration. -/
theorem acknowledgment_exact {cfg : PluginConfig} {s : PluginState}
    (h : (pluginMachine cfg).Reachable s) (hnone : s.shared.ctl.pendingControl = none) :
    (s.shared.ros.publishedCalibrationRevision = s.shared.ctl.appliedRevision ↔
      s.shared.ros.branch.calibrationMetadata.revision = s.shared.ctl.appliedRevision ∧
        s.shared.ros.branch.calibrationMetadata ∈ s.shared.ros.cameraInfos) ∧
    (cfg.ros.rosPublishingEnabled = true →
      s.shared.ros.publishedCalibrationRevision = s.shared.ctl.appliedRevision →
        s.shared.ctl.appliedConfig.Calibrated s.shared.ros.branch.calibrationMetadata) := by
  have hI := ackInv h
  refine ⟨⟨fun he => hI.acknowledged hnone he, fun ⟨hnative, hmem⟩ => ?_⟩, fun hros he => ?_⟩
  · have hlatest : s.shared.ros.branch.calibrationMetadata.revision ≤
        s.shared.ros.publishedCalibrationRevision := hI.published.latest _ hmem
    have hbehind : s.shared.ros.publishedCalibrationRevision ≤
        s.shared.ros.branch.calibrationMetadata.revision := hI.published.behind
    omega
  · exact hI.calibrated hros (hI.acknowledged hnone he).1

theorem acknowledgment_exact_calibratedRun :
    let s := ((pluginMachine .sample).run .sample calibratedRun).shared
    s.ros.branch.calibrationMetadata ∈ s.ros.cameraInfos ∧
      s.ctl.appliedConfig.Calibrated s.ros.branch.calibrationMetadata := by
  have h := acknowledgment_exact
    (Machine.Reachable.run (PluginState.sample_reachable _) calibratedRun) (by decide +kernel)
  have hrevision : ((pluginMachine .sample).run .sample
      calibratedRun).shared.ros.publishedCalibrationRevision =
      ((pluginMachine .sample).run .sample calibratedRun).shared.ctl.appliedRevision := by
    decide +kernel
  exact ⟨(h.1.mp hrevision).2, h.2 rfl hrevision⟩

end MediaCamera
