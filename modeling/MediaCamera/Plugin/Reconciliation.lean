import MediaCamera.Plugin.Dialog
import MediaCamera.Plugin.Requests

/-!
# Publishers reconcile one source

Any number of publishers with the same calibration reconcile a source, while other clients start,
stop and configure it.  What a publisher sends depends on a status that may be long out of date, and
replies get lost.

* `Reconciles`           the condition on the requests: a calibration is only configured by a
                         publisher that has read a status;
* `Handoff.Asks`         so a calibration is only admitted while another one is applied: the
                         revision that the request expects fences every older status;
* `Replay`, `ReplayInv`  none was consumed; one was, and is pending; or one was, and is applied;
* `single_replay`        at most one calibration is ever consumed;
* `reconciliation_published`   a reconciliation that returns has its calibration published;
* `reconciliation_stuck`  once another mutation completes, none returns any more.
-/

namespace MediaCamera

/-! ## the condition -/

def configuresCalibration (input : Json) : Bool :=
  ((input.get? "config").getD .null).isMember "calibration"

/-- a status after which a reconciliation sends this document -/
def Event.asks (i : Intrinsics) (input : Json) : Event → Bool
  | .replied _ (.configuration status) => i.patches status = some input
  | _ => false

def Label.request? : Label → Option (String × ControlRequest × Json)
  | .request operation asked input => some (operation, asked, input)
  | _ => none

/-- calibrations are only configured by reconciliations, after a status of this source -/
def Reconciles (i : Intrinsics) (l : Label) (s : State) : Prop :=
  ∀ r ∈ l.request?, Route.parse r.2.1.method r.1 = .mutation .config →
    configuresCalibration r.2.2 = true → ∃ e ∈ s.log, e.asks i r.2.2 = true

instance (i : Intrinsics) (l : Label) (s : State) : Decidable (Reconciles i l s) :=
  inferInstanceAs (Decidable (∀ r ∈ l.request?, _ → _ → _))

/-- what a reconciliation sends is within the condition -/
theorem reconciles_sent {i : Intrinsics} {fx : Reconcile.Answers} {calls : List Reconcile.Call}
    {s : State} {document : Json} (hsent : Reconcile.Sent fx i calls)
    (hmem : document ∈ calls.filterMap (·.patch?))
    (hstatus : ∀ status, fx.configuration = .ok status →
      ∃ handle, .replied handle (.configuration status) ∈ s.log)
    (operation : String) (request : ControlRequest) :
    Reconciles i (.request operation request document) s := by
  rintro _ ⟨rfl⟩ _ _
  rcases hsent with hnone | ⟨status, document', hconfiguration, hpatches, hcalls⟩
  · rw [hnone] at hmem
    cases hmem
  · rw [hcalls] at hmem
    obtain rfl := List.mem_singleton.mp hmem
    obtain ⟨handle, hreplied⟩ := hstatus status hconfiguration
    exact ⟨_, hreplied, decide_eq_true hpatches⟩

/-! ## the fence -/

section
variable {i : Intrinsics} {s s' : State}

/-- a status of the present revision, read without a pending mutation, is still true -/
def State.Current (s : State) (status : CameraStatus) : Prop :=
  status.desired_revision ≤ s.ctl.desiredRevision ∧
    (status.desired_revision = s.ctl.desiredRevision → status.pending = false →
      s.ctl.pendingControl = none ∧ status.applied = s.ctl.appliedConfig)

theorem ExecutorStep.current {cfg : PluginConfig} {l : Label} (h : ExecutorStep cfg l s s')
    {status : CameraStatus} (hs : s.Current status) : s'.Current status := by
  obtain ⟨hle, hsame⟩ := hs
  -- a pending mutation makes the status an old one or one that told of it
  have hgone : ∀ pending, s.ctl.pendingControl = some pending →
      status.desired_revision = s.ctl.desiredRevision → status.pending = false → False := by
    intro pending hsome he hfree
    rw [(hsame he hfree).1] at hsome
    cases hsome
  cases h with
  | admission =>
    refine ⟨Nat.le_succ_of_le hle, fun he => ?_⟩
    have he : status.desired_revision = s.ctl.desiredRevision + 1 := he
    omega
  | failPending hpending | applyConfiguration _ hpending | completePending _ hpending
  | expirePending hpending =>
    exact ⟨hle, fun he hfree => (hgone _ hpending he hfree).elim⟩
  | _ => exact ⟨hle, hsame⟩

theorem ThreadStep.current {cfg : PluginConfig} {t : ThreadName} {l : Label}
    (h : ThreadStep cfg t l s s') {status : CameraStatus} (hs : s.Current status) :
    s'.Current status := by
  by_cases ht : t = .executor
  · subst ht
    exact ExecutorStep.current h hs
  · unfold State.Current
    rw [(h.executorRely ht).ctl]
    exact hs

theorem State.Told.current {cfg : PluginConfig} {status : CameraStatus} (h : s.Told cfg status) :
    s.Current status := by
  refine ⟨h.desired.le, fun _ hfree => ⟨?_, h.applied⟩⟩
  rw [h.pending] at hfree
  cases hpending : s.ctl.pendingControl with
  | none => rfl
  | some pending =>
    rw [hpending] at hfree
    cases hfree

theorem Executor.desiredMutation_calibration {e : Executor} {rosPublishingEnabled : Bool}
    {width height : Nat} {kind : ControlKind} {request : ControlRequest} {input : Json}
    {desired : Executor.Desired} {document : CalibrationDocument}
    (h : e.desiredMutation rosPublishingEnabled width height kind request input = .ok desired)
    (hdocument : desired.calibration = some document) :
    kind = .config ∧ ∃ calibration,
      ((input.get? "config").getD .null).get? "calibration" = some calibration ∧
        CalibrationDocument.parse width height calibration = .ok document := by
  unfold desiredMutation at h
  dsimp only at h
  split at h
  · cases h
  cases kind with
  | config =>
    refine ⟨rfl, ?_⟩
    dsimp only at h
    unfold desiredConfiguration at h
    dsimp only at h
    split at h
    · cases h
    obtain ⟨_, _, h⟩ := except_bind_ok h
    split at h
    · cases h
    obtain ⟨quality, _, h⟩ := except_bind_ok h
    obtain ⟨calibration, hcalibration, h⟩ := except_bind_ok h
    cases h
    obtain rfl : calibration = some document := hdocument
    unfold desiredCalibration at hcalibration
    split at hcalibration
    · cases hcalibration
    rename_i value hvalue
    split at hcalibration
    · refine ⟨value, hvalue, ?_⟩
      cases hparse : CalibrationDocument.parse width height value with
      | error message =>
        rw [hparse] at hcalibration
        cases hcalibration
      | ok document' =>
        rw [hparse] at hcalibration
        cases hcalibration
        rfl
    · cases hcalibration
  | start | stop | requestKeyframe =>
    cases h
    cases hdocument

/-- a calibration is admitted only while another one is applied, and it is that of the publishers -/
def Handoff.Asks (i : Intrinsics) (h h' : Handoff) : Prop :=
  h.pending = none → ∀ pending, h'.pending = some pending → pending.calibration = true →
    i.configured h.appliedConfig = false ∧ i.configured h'.desiredConfig = true

/-- every status of a `GET` that was answered is current -/
def State.TellsCurrent (s : State) : Prop :=
  ∀ handle status, .replied handle (.configuration status) ∈ s.log → s.Current status

/-- the revision that a request expects fences the status that it was made for -/
theorem State.Asked.asks {cfg : PluginConfig} (h : s.Asked cfg (Reconciles i) s')
    (htells : s.TellsCurrent) : s.handoff.Asks i s'.handoff := by
  obtain ⟨operation, request, input, kind, handle, desired, older, hD, hlog, hroute, hcheck,
    ⟨width, height, hdesired⟩, rfl⟩ := h
  rintro _ pending ⟨rfl⟩ hcalibration
  obtain ⟨document, hdocument⟩ := Option.isSome_iff_exists.mp hcalibration
  obtain ⟨rfl, calibration, hmember, hparse⟩ :=
    Executor.desiredMutation_calibration hdesired hdocument
  have hconfigures : configuresCalibration input = true := by
    rw [configuresCalibration, Json.isMember, hmember]
    rfl
  obtain ⟨e, he, hasks⟩ := hD (operation, request, input) rfl hroute hconfigures
  cases e with
  | replied handle response =>
    cases response with
    | configuration status =>
      have hpatches : i.patches status = some input := of_decide_eq_true hasks
      unfold Intrinsics.patches at hpatches
      split at hpatches
      case isFalse => cases hpatches
      rename_i hwants
      obtain rfl := Option.some.inj hpatches
      have hexpected := Executor.checkMutation_expected hcheck
      have hrevision : status.desired_revision = s.ctl.desiredRevision := Option.some.inj hexpected
      obtain ⟨_, happlied⟩ := (htells handle status (hlog he)).2 hrevision hwants.1
      refine ⟨?_, ?_⟩
      · show i.configured s.ctl.appliedConfig = false
        rw [← happlied]
        simpa [Intrinsics.differs] using hwants.2
      · obtain rfl : calibrationRequest i = calibration := Option.some.inj hmember
        have hfollows := Executor.desiredMutation_follows hdesired
        show (desired.configuration.calibration.any (·.equals i)) = true
        rw [hfollows.calibration, hdocument]
        exact CalibrationDocument.parse_equals hparse
    | _ => cases hasks
  | _ => cases hasks

end

/-! ## one replay -/

def Event.calibrates : Event → Bool
  | .consumed command _ => command.calibration.isSome
  | _ => false

namespace Handoff

def calibrations (h : Handoff) : List Event := h.log.filter (·.calibrates)

/-- none was taken over, or one: it is pending or applied -/
inductive Replay (i : Intrinsics) (h : Handoff) : Prop
  | untouched (hnone : h.calibrations = [])
  | carried {pending : PendingControl} (hone : h.calibrations.length = 1)
      (hcarried : h.Carried pending)
      (happlied : h.appliedRevision = pending.revision → i.configured h.appliedConfig = true)
  | applied (hone : h.calibrations.length = 1) (happlied : i.configured h.appliedConfig = true)

end Handoff

structure ReplayInv (i : Intrinsics) (h : Handoff) : Prop where
  first : h.calibrations = [] → h.calibration.revision = 1
  asked : ∀ pending, h.pending = some pending → pending.calibration = true →
    i.configured h.desiredConfig = true
  kept : i.configured h.appliedConfig = true → i.configured h.desiredConfig = true
  fenced : i.configured h.appliedConfig = true → ∀ pending, h.pending = some pending →
    pending.calibration = true → h.Carried pending
  phase : h.Replay i

section
variable {rosPublishingEnabled : Bool} {i : Intrinsics} {l : Label} {h h' : Handoff}
  {pending : PendingControl}

theorem ReplayInv.congr (hI : ReplayInv i h) (hpending : h'.pending = h.pending)
    (hcommand : h'.command = h.command) (hcalibration : h'.calibration = h.calibration)
    (hdesired : h'.desiredConfig = h.desiredConfig)
    (hrevision : h'.appliedRevision = h.appliedRevision)
    (happlied : h'.appliedConfig = h.appliedConfig)
    (hcalibrations : h'.calibrations = h.calibrations) : ReplayInv i h' where
  first := by
    rw [hcalibrations, hcalibration]
    exact hI.first
  asked := by
    rw [hpending, hdesired]
    exact hI.asked
  kept := by
    rw [happlied, hdesired]
    exact hI.kept
  fenced := by
    unfold Handoff.Carried
    rw [happlied, hpending, hcommand]
    exact hI.fenced
  phase := by
    cases hI.phase with
    | untouched hnone => exact .untouched (hcalibrations.trans hnone)
    | carried hone hcarried hconfigured =>
      refine .carried (hcalibrations ▸ hone)
        ⟨hpending.trans hcarried.1, hcarried.2.1, hcommand.trans hcarried.2.2⟩ ?_
      rw [hrevision, happlied]
      exact hconfigured
    | applied hone hconfigured => exact .applied (hcalibrations ▸ hone) (happlied ▸ hconfigured)

theorem ReplayInv.admission (hI : ReplayInv i h) (handle : Nat) (request : ControlRequest)
    {kind : ControlKind} {desired : Executor.Desired} (hnone : h.pending = none)
    (hdesired : desired.Follows rosPublishingEnabled h.desiredConfig kind)
    (hasks : h.Asks i (h.admission handle kind request desired)) :
    ReplayInv i (h.admission handle kind request desired) := by
  have hasks : desired.calibration.isSome = true →
      i.configured h.appliedConfig = false ∧ i.configured desired.configuration = true :=
    hasks hnone _ rfl
  refine ⟨hI.first, fun pending hsome hcalibration => ?_, fun hconfigured => ?_,
    fun hconfigured pending hsome hcalibration => ?_, ?_⟩
  · cases hsome
    exact (hasks hcalibration).2
  · cases hcalibration : desired.calibration with
    | some document =>
      apply (hasks ?_).2
      rw [hcalibration]
      rfl
    | none =>
      have hsame : desired.configuration.calibration = h.desiredConfig.calibration := by
        rw [hdesired.calibration, hcalibration, Option.none_or]
      show desired.configuration.calibration.any _ = true
      rw [hsame]
      exact hI.kept hconfigured
  · cases hsome
    have hother : i.configured h.appliedConfig = false := (hasks hcalibration).1
    have hconfigured : i.configured h.appliedConfig = true := hconfigured
    rw [hother] at hconfigured
    cases hconfigured
  · cases hI.phase with
    | untouched h => exact .untouched h
    | carried _ hcarried =>
      rw [hcarried.1] at hnone
      cases hnone
    | applied hone hconfigured => exact .applied hone hconfigured

theorem ReplayInv.settle (hI : ReplayInv i h) (revision : Nat) (receipt : Receipt)
    (hcompleted : ∀ pending, h.Carried pending → h.appliedRevision = pending.revision) :
    ReplayInv i { h.settle revision receipt with command := none } where
  first := hI.first
  asked _ hsome := by cases hsome
  kept := hI.kept
  fenced _ _ hsome := by cases hsome
  phase := by
    cases hI.phase with
    | untouched hnone => exact .untouched hnone
    | carried hone hcarried hconfigured =>
      exact .applied hone (hconfigured (hcompleted _ hcarried))
    | applied hone hconfigured => exact .applied hone hconfigured

theorem ReplayInv.applyConfiguration (hI : ReplayInv i h) (revision : Nat) (active : Bool)
    (hcommand : h.command = none) :
    ReplayInv i { h with
      appliedRevision := revision
      appliedConfig := { h.desiredConfig with active := active } } where
  first := hI.first
  asked := hI.asked
  kept hconfigured := hconfigured
  fenced _ _ hsome hcalibration := ⟨hsome, hcalibration, hcommand⟩
  phase := by
    cases hI.phase with
    | untouched hnone => exact .untouched hnone
    | carried hone hcarried _ =>
      exact .carried hone hcarried fun _ => hI.asked _ hcarried.1 hcarried.2.1
    | applied hone hconfigured => exact .applied hone (hI.kept hconfigured)

theorem ReplayInv.consume (hI : ReplayInv i h) (hack : AckInv rosPublishingEnabled h)
    {command : NativeControlCommand} (hcommand : h.command = some command)
    (hpending : h'.pending = h.pending) (hnone : h'.command = none)
    (hcalibration : h'.calibration = command.calibration.getD h.calibration)
    (hdesired : h'.desiredConfig = h.desiredConfig)
    (hrevision : h'.appliedRevision = h.appliedRevision)
    (happlied : h'.appliedConfig = h.appliedConfig)
    (hcalibrations : h'.calibrations =
      if command.calibration.isSome then .consumed command ⟨h.desiredActive, command.active⟩ :: h.calibrations
      else h.calibrations) : ReplayInv i h' := by
  obtain ⟨pending, hsome, _, hmatch, _, honly⟩ := hack.handoff.queued hcommand
  have hqueued : ∀ pending, ¬ h.Carried pending := by
    rintro pending' ⟨-, -, hfree⟩
    rw [hcommand] at hfree
    cases hfree
  have hasked : ∀ pending, h'.pending = some pending → pending.calibration = true →
      i.configured h'.desiredConfig = true := by
    rw [hpending, hdesired]
    exact hI.asked
  have hkept : i.configured h'.appliedConfig = true → i.configured h'.desiredConfig = true := by
    rw [happlied, hdesired]
    exact hI.kept
  have hfenced : i.configured h'.appliedConfig = true → ∀ pending, h'.pending = some pending →
      pending.calibration = true → h'.Carried pending := fun _ _ hsome hcalibration =>
    ⟨hsome, hcalibration, hnone⟩
  cases hc : command.calibration with
  | some calibration =>
    rw [hc, Option.isSome_some, if_pos rfl] at hcalibrations
    have hcarries : pending.calibration = true := by
      rw [← hmatch.calibration, hc]
      rfl
    have hnothing : h.calibrations = [] := by
      cases hI.phase with
      | untouched h => exact h
      | carried _ hcarried => exact absurd hcarried (hqueued _)
      | applied _ hconfigured =>
        exact absurd (hI.fenced hconfigured pending hsome hcarries) (hqueued _)
    have hunapplied : h.appliedRevision < pending.revision := hack.unapplied pending hsome
      fun hmem => honly.not_consumed (hack.handoff.warranted.consumed_of_acknowledged hmem)
    refine ⟨fun hempty => ?_, hasked, hkept, hfenced,
      .carried ?_ ⟨hpending.trans hsome, hcarries, hnone⟩ fun he => ?_⟩
    · rw [hcalibrations] at hempty
      cases hempty
    · rw [hcalibrations, hnothing]
      rfl
    · rw [hrevision] at he
      omega
  | none =>
    rw [hc, Option.isSome_none, if_neg Bool.false_ne_true] at hcalibrations
    rw [hc, Option.getD_none] at hcalibration
    refine ⟨?_, hasked, hkept, hfenced, ?_⟩
    · rw [hcalibrations, hcalibration]
      exact hI.first
    · cases hI.phase with
      | untouched h => exact .untouched (hcalibrations.trans h)
      | carried _ hcarried => exact absurd hcarried (hqueued _)
      | applied hone hconfigured => exact .applied (hcalibrations ▸ hone) (happlied ▸ hconfigured)

/-- **A move past the fence** leaves one replay at most. -/
theorem ReplayInv.step (hI : ReplayInv i h) (hack : AckInv rosPublishingEnabled h)
    (hasks : h.Asks i h') (hmove : HandoffStep rosPublishingEnabled l h h') : ReplayInv i h' := by
  cases hmove with
  | admission handle request hnone hdesired =>
    exact hI.admission handle request hnone hdesired hasks
  | @failPending _ pending receipt hpending hfailed =>
    rw [Handoff.settle_eq (hack.handoff.idle hpending (.inr hfailed)).1]
    apply hI.settle
    rintro pending' ⟨hsome, hcarries, -⟩
    obtain rfl : pending' = pending := Option.some.inj (hsome.symm.trans hpending)
    rw [(hack.handoff.slot _ hpending).plain (hack.handoff.failed_kind hpending hfailed)] at hcarries
    cases hcarries
  | applyConfiguration active hpending =>
    exact hI.applyConfiguration _ active
      (hack.handoff.idle hpending.slot (.inl hpending.acknowledged)).1
  | @completePending _ pending receipt hpending happlied =>
    rw [Handoff.settle_eq (hack.handoff.idle hpending.slot (.inl hpending.acknowledged)).1]
    apply hI.settle
    rintro pending' ⟨hsome, -, -⟩
    obtain rfl : pending' = pending := Option.some.inj (hsome.symm.trans hpending.slot)
    exact happlied
  | expirePending hpending hcommand =>
    apply hI.settle
    rintro pending' ⟨-, -, hnone⟩
    rw [hnone] at hcommand
    cases hcommand
  | @applyCalibrated _ command hcommand =>
    refine hI.consume hack hcommand rfl rfl rfl rfl rfl rfl ?_
    cases hc : command.calibration <;> simp [Handoff.calibrations, Event.calibrates, hc]
  | @applyCommand _ command hcommand =>
    refine hI.consume hack hcommand rfl rfl rfl rfl rfl rfl ?_
    cases hc : command.calibration <;>
      simp [Handoff.calibrations, Handoff.consume, Event.calibrates, hc]
  | acknowledge | failNative | deactivate | hold | publish =>
    exact hI.congr rfl rfl rfl rfl rfl rfl rfl

end

theorem ReplayInv.load (i : Intrinsics) (cfg : PluginConfig) (input : LoadInput) :
    ReplayInv i (State.load cfg input).handoff where
  first _ := rfl
  asked _ hsome := by cases hsome
  kept h := h
  fenced _ _ hsome := by cases hsome
  phase := .untouched rfl

/-! ## every run of publishers -/

/-- what publishers of one calibration keep -/
structure State.Reconciled (cfg : PluginConfig) (i : Intrinsics) (s : State) : Prop where
  replay : ReplayInv i s.handoff
  tells : s.TellsCurrent
  acknowledges : s.Acknowledges cfg
  configured : ∀ handle status receipt active, .replied handle (.applied status receipt active) ∈
    s.log → status.acknowledged = true → i.configured status.applied = true

section
variable {cfg : PluginConfig} {i : Intrinsics} {t : ThreadName} {l : Label} {s s' : State}

theorem ThreadStep.asks (h : ThreadStep cfg t l s s')
    (hspeaks : t = .executor → s.Speaks cfg (Reconciles i) s') (htells : s.TellsCurrent) :
    s.handoff.Asks i s'.handoff := by
  intro hnone pending hsome
  have ht : t = .executor := by
    by_contra ht
    have hctl : s'.ctl = s.ctl := (h.executorRely ht).ctl
    have hsome : s'.ctl.pendingControl = some pending := hsome
    have hnone : s.ctl.pendingControl = none := hnone
    rw [hctl, hnone] at hsome
    cases hsome
  have hasked : s.Asked cfg (Reconciles i) s' := by
    refine (hspeaks ht).asked hnone fun hfree => ?_
    cases hfree.symm.trans hsome
  exact hasked.asks htells hnone pending hsome

/-- an acknowledged status of a mutation comes after the replay -/
theorem ReplayInv.configured_of_told (hI : ReplayInv i s.handoff)
    (hack : AckInv cfg.ros.rosPublishingEnabled s.handoff) {status : CameraStatus}
    (htold : s.Told cfg status) (hone : 1 < status.applied_revision)
    (hacknowledged : status.acknowledged = true) : i.configured status.applied = true := by
  obtain ⟨calibration, hmem, hrevision, _⟩ := htold.acknowledged hacknowledged
  have hlatest : calibration.revision ≤ s.handoff.publishedRevision :=
    hack.published.latest calibration hmem
  have hbehind : s.handoff.publishedRevision ≤ s.handoff.calibration.revision :=
    hack.published.behind
  have hfree : s.handoff.pending = none := by
    have hpending : status.pending = false := by
      have hboth := hacknowledged
      rw [CameraStatus.acknowledged, Bool.and_eq_true] at hboth
      simpa using hboth.1
    rw [htold.pending] at hpending
    exact Option.isNone_iff_eq_none.mp (Option.isSome_eq_false_iff.mp hpending)
  rw [htold.applied]
  cases hI.phase with
  | untouched hnone =>
    have hfirst := hI.first hnone
    omega
  | carried _ hcarried =>
    rw [hcarried.1] at hfree
    cases hfree
  | applied _ hconfigured => exact hconfigured

theorem State.Reconciled.step (hX : s.Reconciled cfg i)
    (hack : AckInv cfg.ros.rosPublishingEnabled s.handoff) (h : ThreadStep cfg t l s s')
    (hspeaks : t = .executor → s.Speaks cfg (Reconciles i) s') : s'.Reconciled cfg i := by
  have hreplay : ReplayInv i s'.handoff := by
    rcases h.handoff with e | hmove
    · rw [e]
      exact hX.replay
    · exact hX.replay.step hack (h.asks hspeaks hX.tells) hmove
  refine ⟨hreplay, fun handle status hmem => ?_, hX.acknowledges.step h hspeaks,
    fun handle status receipt active hmem hone => ?_⟩
  · by_cases hold : .replied handle (.configuration status) ∈ s.log
    · exact h.current (hX.tells handle status hold)
    · have ht : t = .executor := by
        by_contra ht
        exact hold (h.replied_before ht hmem)
      exact ((hspeaks ht).told handle _ status hmem rfl hold).1.current
  · by_cases hold : .replied handle (.applied status receipt active) ∈ s.log
    · exact hX.configured handle status receipt active hold hone
    · have ht : t = .executor := by
        by_contra ht
        exact hold (h.replied_before ht hmem)
      obtain ⟨htold, hlater⟩ := (hspeaks ht).told handle _ status hmem rfl hold
      exact hreplay.configured_of_told (hack.refines h.handoff) htold (hlater rfl) hone

end

section
variable {cfg : PluginConfig} {i : Intrinsics} {s : PluginState}

theorem State.Reconciled.load (cfg : PluginConfig) (i : Intrinsics) (input : LoadInput) :
    (State.load cfg input).Reconciled cfg i where
  replay := .load i cfg input
  tells _ _ hmem := by cases hmem
  acknowledges _ _ _ hmem := by cases hmem
  configured _ _ _ _ hmem := by cases hmem

theorem reconciled (h : (pluginMachine cfg).ReachableUnder (Pool.Obeys (Reconciles i)) s) :
    s.shared.Reconciled cfg i :=
  dialog_invariant (.load cfg i) (fun _ _ _ _ hack _ hstep hspeaks hX => hX.step hack hstep hspeaks) h

theorem State.calibrations (s : State) : s.handoff.calibrations = s.log.filter (·.calibrates) := by
  show (s.log.filter (·.ofMutation)).filter (·.calibrates) = _
  rw [List.filter_filter]
  refine List.filter_congr fun e _ => ?_
  cases e <;> simp [Event.calibrates, Event.ofMutation, Event.mutation?]

/-- **A single replay.**  However often publishers reconcile the source, with whatever old statuses
and lost replies, the native side takes their calibration over at most once; and then it is the
applied one, but for the mutation that is still pending. -/
theorem single_replay (h : (pluginMachine cfg).ReachableUnder (Pool.Obeys (Reconciles i)) s) :
    (s.shared.log.filter (·.calibrates)).length ≤ 1 ∧
      (s.shared.ctl.pendingControl = none → s.shared.log.filter (·.calibrates) ≠ [] →
        i.configured s.shared.ctl.appliedConfig = true) := by
  rw [← State.calibrations]
  cases (reconciled h).replay.phase with
  | untouched hnone =>
    rw [hnone]
    exact ⟨Nat.zero_le _, fun _ hsome => absurd rfl hsome⟩
  | carried hone hcarried =>
    refine ⟨hone.le, fun hfree => ?_⟩
    cases hfree.symm.trans hcarried.1
  | applied hone hconfigured => exact ⟨hone.le, fun _ _ => hconfigured⟩

theorem Intrinsics.calibrated {configuration : Configuration}
    {calibration : NativeCalibrationMetadata} (hconfigured : i.configured configuration = true)
    (hcalibrated : configuration.Calibrated calibration) :
    ∃ document : CalibrationDocument, document.equals i = true ∧
      document.record calibration.revision = calibration := by
  obtain ⟨document, hdocument, hrecord⟩ := hcalibrated
  rw [Intrinsics.configured, hdocument] at hconfigured
  exact ⟨document, hconfigured, hrecord⟩

/-- **What a reconciliation acknowledges is published.**  When a reconciliation returns, with a
status and an answer of the source, the source has published the calibration of the publisher. -/
theorem reconciliation_published {fx : Reconcile.Answers} {mediaSourceID route : List Char}
    {sources : List (List Char)} {revision : Nat} {calls : List Reconcile.Call}
    (h : (pluginMachine cfg).ReachableUnder (Pool.Obeys (Reconciles i)) s)
    (hros : cfg.ros.rosPublishingEnabled = true)
    (hconfiguration : ∀ status, fx.configuration = .ok status →
      ∃ handle, .replied handle (.configuration status) ∈ s.shared.log)
    (hpatch : ∀ status, fx.patch = .ok status →
      ∃ handle receipt active, .replied handle (.applied status receipt active) ∈ s.shared.log)
    (hreturn : Reconcile.applyCameraInfoMetadata fx i mediaSourceID sources [] =
      (.ok (route, revision), calls)) :
    ∃ calibration ∈ s.shared.ros.cameraInfos, ∃ document : CalibrationDocument,
      document.equals i = true ∧ document.record calibration.revision = calibration := by
  have hX := reconciled h
  have hends := Reconcile.reconciliation_ends fx i mediaSourceID sources
  rw [Reconcile.EndsWith, Script.Ends, hreturn] at hends
  obtain ⟨_, status, ⟨hacknowledged, hstatus⟩, _⟩ := hends
  have hsent : s.shared.PublishesApplied cfg status ∧ i.configured status.applied = true := by
    rcases hstatus with ⟨hread, hsame⟩ | ⟨hanswer, _⟩
    · obtain ⟨handle, hmem⟩ := hconfiguration status hread
      refine ⟨hX.acknowledges handle _ status hmem rfl hacknowledged, ?_⟩
      simpa [Intrinsics.differs] using hsame
    · obtain ⟨handle, receipt, active, hmem⟩ := hpatch status hanswer
      exact ⟨hX.acknowledges handle _ status hmem rfl hacknowledged,
        hX.configured handle status receipt active hmem hacknowledged⟩
  obtain ⟨⟨calibration, hmem, _, hcalibrated⟩, hconfigured⟩ := hsent
  exact ⟨calibration, hmem, Intrinsics.calibrated hconfigured (hcalibrated hros)⟩

end

/-! ## after another mutation -/

/-- the calibration of the publishers is applied, and a later mutation too -/
structure Handoff.Overtaken (i : Intrinsics) (h : Handoff) : Prop where
  configured : i.configured h.appliedConfig = true
  later : h.calibration.revision < h.appliedRevision

section
variable {cfg : PluginConfig} {i : Intrinsics} {l : Label} {h h' : Handoff}

/-- no calibration comes any more, so that no revision is acknowledged -/
theorem Handoff.Overtaken.step {rosPublishingEnabled : Bool} (hO : h.Overtaken i)
    (hI : ReplayInv i h) (hack : AckInv rosPublishingEnabled h)
    (hmove : HandoffStep rosPublishingEnabled l h h') : h'.Overtaken i := by
  obtain ⟨hconfigured, hlater⟩ := hO
  have hplain : ∀ command, h.command = some command → command.calibration = none := by
    intro command hcommand
    obtain ⟨pending, hsome, _, hmatch, _, _⟩ := hack.handoff.queued hcommand
    cases hc : command.calibration with
    | none => rfl
    | some calibration =>
      have hcarries : pending.calibration = true := by
        rw [← hmatch.calibration, hc]
        rfl
      have hnone : h.command = none := (hI.fenced hconfigured pending hsome hcarries).2.2
      rw [hcommand] at hnone
      cases hnone
  cases hmove with
  | @applyConfiguration _ pending active hpending =>
    refine ⟨hI.kept hconfigured, ?_⟩
    have hlatest : pending.revision = h.desiredRevision :=
      (hack.handoff.slot pending hpending.slot).latest
    have happlied := hack.applied
    show h.calibration.revision < pending.revision
    omega
  | @applyCalibrated _ command hcommand | @applyCommand _ command hcommand =>
    refine ⟨hconfigured, ?_⟩
    show (command.calibration.getD h.calibration).revision < h.appliedRevision
    rw [hplain command hcommand]
    exact hlater
  | _ => exact ⟨hconfigured, hlater⟩

theorem Handoff.Overtaken.told {s : State} (hO : s.handoff.Overtaken i)
    (hack : AckInv cfg.ros.rosPublishingEnabled s.handoff) {status : CameraStatus}
    (htold : s.Told cfg status) :
    i.configured status.applied = true ∧ status.acknowledged = false := by
  refine ⟨htold.applied ▸ hO.configured, ?_⟩
  by_contra hacknowledged
  obtain ⟨calibration, hmem, hrevision, _⟩ :=
    htold.acknowledged (Bool.eq_true_of_not_eq_false hacknowledged)
  have hlatest : calibration.revision ≤ s.handoff.publishedRevision :=
    hack.published.latest calibration hmem
  have hbehind : s.handoff.publishedRevision ≤ s.handoff.calibration.revision :=
    hack.published.behind
  have hlater : s.handoff.calibration.revision < s.ctl.appliedRevision := hO.later
  rw [htold.revision] at hrevision
  omega

theorem Reconcile.unacknowledged {fx : Answers} {status : CameraStatus}
    (hread : fx.configuration = .ok status) (hconfigured : i.configured status.applied = true)
    (hacknowledged : status.acknowledged = false) (mediaSourceID : List Char)
    (sources : List (List Char)) :
    ∃ e calls, applyCameraInfoMetadata fx i mediaSourceID sources [] = (.error e, calls) ∧
      calls.filterMap (·.patch?) = [] := by
  have hends := reconciliation_ends fx i mediaSourceID sources
  have hnothing : ∀ calls, Sent fx i calls → calls.filterMap (·.patch?) = [] := by
    rintro calls (hnone | ⟨status', document, hread', hpatches, _⟩)
    · exact hnone
    · cases hread.symm.trans hread'
      simp [Intrinsics.patches, Intrinsics.differs, hconfigured] at hpatches
  rw [EndsWith, Script.Ends] at hends
  rcases hrun : applyCameraInfoMetadata fx i mediaSourceID sources [] with ⟨e | returned, calls⟩
  · rw [hrun] at hends
    exact ⟨e, calls, rfl, hnothing calls hends⟩
  · rw [hrun] at hends
    obtain ⟨hsent, status', ⟨hack, ⟨hread', _⟩ | ⟨_, hsome⟩⟩, _⟩ := hends
    · cases hread.symm.trans hread'
      rw [hacknowledged] at hack
      cases hack
    · exact absurd (hnothing calls hsent) hsome

end

structure Overtakes (cfg : PluginConfig) (i : Intrinsics) (old : List Event) (s : PluginState) :
    Prop where
  reachable : (pluginMachine cfg).ReachableUnder (Pool.Obeys (Reconciles i)) s
  overtaken : s.shared.handoff.Overtaken i
  told : ∀ handle status, .replied handle (.configuration status) ∈ s.shared.log →
    .replied handle (.configuration status) ∉ old →
      i.configured status.applied = true ∧ status.acknowledged = false

section
variable {cfg : PluginConfig} {i : Intrinsics} {s : PluginState}

theorem Overtakes.step {old : List Event} (hO : Overtakes cfg i old s) {a : PluginAction}
    (ha : Pool.Obeys (Reconciles i) s a) : Overtakes cfg i old ((pluginMachine cfg).step s a) := by
  have hack : AckInv cfg.ros.rosPublishingEnabled s.shared.handoff := ackInv hO.reachable.reachable
  have hreachable := hO.reachable.next a ha
  rcases dialog_step hO.reachable ha with e | ⟨t, l, hstep, hspeaks⟩
  · refine ⟨hreachable, ?_, ?_⟩
    · rw [e]
      exact hO.overtaken
    · rw [e]
      exact hO.told
  have hovertaken : ((pluginMachine cfg).step s a).shared.handoff.Overtaken i := by
    rcases hstep.handoff with e | hmove
    · rw [e]
      exact hO.overtaken
    · exact hO.overtaken.step (reconciled hO.reachable).replay hack hmove
  refine ⟨hreachable, hovertaken, fun handle status hmem hnew => ?_⟩
  by_cases hold : .replied handle (.configuration status) ∈ s.shared.log
  · exact hO.told handle status hold hnew
  · have ht : t = .executor := by
      by_contra ht
      exact hold (hstep.replied_before ht hmem)
    exact hovertaken.told (hack.refines hstep.handoff)
      ((hspeaks ht).told handle _ status hmem rfl hold).1

theorem Overtakes.run {old : List Event} (hO : Overtakes cfg i old s) (as : List PluginAction)
    (has : (pluginMachine cfg).Along (Pool.Obeys (Reconciles i)) s as) :
    Overtakes cfg i old ((pluginMachine cfg).run s as) := by
  induction as generalizing s with
  | nil => exact hO
  | cons a as ih => exact ih (hO.step has.1) has.2

/-- **An overtaken calibration is never acknowledged again.**  Once the calibration of the
publishers is the applied one and a mutation was applied after it, no reconciliation that reads a
later status returns, whatever comes; and none of them sends the calibration again. -/
theorem reconciliation_stuck
    (h : (pluginMachine cfg).ReachableUnder (Pool.Obeys (Reconciles i)) s)
    (hconfigured : i.configured s.shared.ctl.appliedConfig = true)
    (hlater : s.shared.ros.branch.calibrationMetadata.revision < s.shared.ctl.appliedRevision)
    (as : List PluginAction)
    (has : (pluginMachine cfg).Along (Pool.Obeys (Reconciles i)) s as) {fx : Reconcile.Answers}
    {status : CameraStatus} (hread : fx.configuration = .ok status) (handle : Nat)
    (hmem : .replied handle (.configuration status) ∈ ((pluginMachine cfg).run s as).shared.log)
    (hnew : .replied handle (.configuration status) ∉ s.shared.log) (mediaSourceID : List Char)
    (sources : List (List Char)) :
    ∃ e calls, Reconcile.applyCameraInfoMetadata fx i mediaSourceID sources [] = (.error e, calls) ∧
      calls.filterMap (·.patch?) = [] := by
  have hstart : Overtakes cfg i s.shared.log s :=
    ⟨h, ⟨hconfigured, hlater⟩, fun _ _ hmem hnew => absurd hmem hnew⟩
  obtain ⟨happlied, hacknowledged⟩ := (hstart.run as has).told handle status hmem hnew
  exact Reconcile.unacknowledged hread happlied hacknowledged mediaSourceID sources

end

/-! ## runs -/

def Intrinsics.sample : Intrinsics where
  width := 640
  height := 480
  camera_matrix := [2, 0, 1, 0, 2, 1, 0, 0, 1].map .finite
  distortion := List.replicate 5 (.finite 0)
  model := "plumb_bob"

def readCall (request_id : String) : Call .executor :=
  .request "config" ⟨"GET", request_id, 10⟩ (.object []) 0

def publisherCall (i : Intrinsics) (request_id : String) (revision : Nat) : Call .executor :=
  .request "config" ⟨"PATCH", request_id, 10⟩ (i.patchDocument revision) 0

/-- a publisher reads the configuration and sends its calibration; a second one that read the same
status sends it again -/
def publisherRun : List PluginAction :=
  consumerRun ++ runCall .executor (readCall "a") 8 ++
    runCall .executor (publisherCall .sample "b" 1) 8 ++
    runCall .executor (publisherCall .sample "c" 1) 8 ++ runCall .render (postRenderCall 1) 16 ++
    (List.replicate 2 (runCall .rosSide .worker 1)).flatten ++ runCall .executor (flushCall 2) 24

/-- the stream is started after the calibration -/
def overtakingRun : List PluginAction := publisherRun ++ startRun

def Reconcile.Answers.sample (configuration patch : Except Placement.PyException CameraStatus) : Answers where
  realizePlacement := .ok ()
  describe := .ok ["calibration-metadata"]
  configuration := configuration
  patch := patch

def statusAfter (actions : List PluginAction) : CameraStatus :=
  ((pluginMachine .sample).run .sample actions).shared.cameraStatus

theorem single_replay_publisherRun :
    let s := ((pluginMachine .sample).run .sample publisherRun).shared
    (s.log.filter (·.calibrates)).length = 1 ∧
      Intrinsics.sample.configured s.ctl.appliedConfig = true := by
  have h := single_replay (i := .sample)
    ((PluginState.sample_reachable _).run publisherRun (by decide +kernel))
  exact ⟨by decide +kernel, h.2 (by decide +kernel) (by decide +kernel)⟩

/-- the first publisher returns -/
theorem reconciliation_published_publisherRun :
    let s := ((pluginMachine .sample).run .sample publisherRun).shared
    ∃ calibration ∈ s.ros.cameraInfos, ∃ document : CalibrationDocument,
      document.equals .sample = true ∧ document.record calibration.revision = calibration := by
  have hreturn : Reconcile.applyCameraInfoMetadata
      (.sample (.ok (statusAfter consumerRun)) (.ok (statusAfter publisherRun))) .sample "camera".toList
      ["camera".toList] [] =
      (.ok ("/v1/media/sources/camera/observe/".toList, 1),
        [.describe "/v1/media/sources/camera/describe".toList,
          .configuration "/v1/media/sources/camera/config".toList,
          .patch "/v1/media/sources/camera/config".toList (Intrinsics.sample.patchDocument 1)]) := by
    decide +kernel
  refine reconciliation_published ((PluginState.sample_reachable _).run publisherRun
    (by decide +kernel)) rfl ?_ ?_ hreturn
  · intro status h
    obtain rfl : statusAfter consumerRun = status := Except.ok.inj h
    exact ⟨0, by decide +kernel⟩
  · intro status h
    obtain rfl : statusAfter publisherRun = status := Except.ok.inj h
    exact ⟨1, ⟨"b", .mutation .config, .completed, 2, 2, 1, ""⟩, none, by decide +kernel⟩

/-- a publisher that reads the status of the started stream is refused -/
theorem reconciliation_stuck_overtakingRun :
    ∃ e calls, Reconcile.applyCameraInfoMetadata
      (.sample (.ok (statusAfter overtakingRun)) (.error Reconcile.nameError)) .sample
      "camera".toList ["camera".toList] [] = (.error e, calls) ∧
      calls.filterMap (·.patch?) = [] := by
  apply reconciliation_stuck ((PluginState.sample_reachable _).run overtakingRun (by decide +kernel))
    (by decide +kernel) (by decide +kernel) (runCall .executor (readCall "e") 8)
    (by decide +kernel) rfl 4 (by decide +kernel) (by decide +kernel)

end MediaCamera
