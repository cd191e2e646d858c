import MediaCamera.Plugin.Executor

/-!
# The handoff of a mutation

The protocol by which the executor hands a mutation to the render thread, without the rest of the
plugin.  A `Handoff` is what the two threads and the publisher worker know of it; `HandoffStep`
are its moves:

* the executor admits a mutation into its free slot, and settles it: failed, completed, expired;
* the render thread consumes the command, and acknowledges it or fails;
* the worker takes the calibration and publishes it.

What the moves keep:

* `Event.Warranted`   what must have been recorded before an event: a command is consumed after its
                      admission and nothing else, acknowledged or failed after it is consumed, and
                      a receipt tells the `Outcome`;
* `Phase`             where the command of the pending mutation is;
* `HandoffInv`        the log is warranted, and the pending mutation is in one phase.
-/

namespace MediaCamera

/-! ## the protocol -/

def Event.mutation? : Event → Option Nat
  | .admitted _ _ revision | .acknowledged revision | .nativeFailed revision => some revision
  | .consumed command _ => some command.revision
  | .recorded mutation _ => mutation
  | _ => none

def Event.ofMutation (e : Event) : Bool := e.mutation?.isSome

def Event.recorded? : Event → Option Nat
  | .recorded mutation _ => mutation
  | _ => none

structure Handoff where
  pending : Option PendingControl
  desiredRevision : Nat
  desiredConfig : Configuration
  appliedRevision : Nat
  appliedConfig : Configuration
  command : Option NativeControlCommand
  awaiting : Option NativeControlCommand
  desiredActive : Bool
  failing : Bool
  jpegQuality : Int
  nativeApplied : Nat
  nativeFailed : Nat
  calibration : NativeCalibrationMetadata
  /-- the record in the hands of the worker -/
  held : Option NativeCalibrationMetadata
  publishedRevision : Nat
  published : List NativeCalibrationMetadata
  log : List Event

namespace Handoff

def settle (h : Handoff) (revision : Nat) (receipt : Receipt) : Handoff :=
  { h with pending := none, log := .recorded (some revision) receipt :: h.log }

def admission (h : Handoff) (handle : Nat) (kind : ControlKind) (request : ControlRequest)
    (desired : Executor.Desired) : Handoff :=
  { h with
    desiredRevision := h.desiredRevision + 1
    desiredConfig := desired.configuration
    pending := some ⟨handle, request.request_id, kind, request.deadline, h.desiredRevision + 1,
      desired.calibration.isSome⟩
    command := some (nativeCommand h.desiredActive kind (h.desiredRevision + 1) desired)
    log := .admitted handle kind (h.desiredRevision + 1) :: h.log }

def consume (h : Handoff) (command : NativeControlCommand) : Handoff :=
  { h with
    command := none
    desiredActive := command.active
    jpegQuality := command.jpegQuality
    calibration := command.calibration.getD h.calibration
    log := .consumed command ⟨h.desiredActive, command.active⟩ :: h.log }

/-- the mutation is acknowledged, and published where it carries a calibration -/
structure Acknowledged (h : Handoff) (pending : PendingControl) : Prop where
  slot : h.pending = some pending
  acknowledged : .acknowledged pending.revision ∈ h.log
  published : pending.calibration = true →
    ∃ calibration ∈ h.published, calibration.revision = pending.revision

/-- what the worker may hold next -/
def CanHold (h : Handoff) (held : Option NativeCalibrationMetadata) : Prop :=
  ∀ calibration, held = some calibration → h.held = some calibration ∨ calibration = h.calibration

end Handoff

open Handoff in
inductive HandoffStep (rosPublishingEnabled : Bool) : Label → Handoff → Handoff → Prop
  | admission {h : Handoff} (handle : Nat) (request : ControlRequest) {kind : ControlKind}
      {desired : Executor.Desired} (hnone : h.pending = none)
      (hdesired : desired.Follows rosPublishingEnabled h.desiredConfig kind) :
    HandoffStep _ (.admission request.request_id kind desired.configuration) h
      (h.admission handle kind request desired)
  | failPending {h : Handoff} {pending : PendingControl} {receipt : Receipt}
      (hpending : h.pending = some pending) (hfailed : .nativeFailed pending.revision ∈ h.log)
      (hstage : receipt.stage = .failed) (herror : receipt.error = notAccepted.message) :
    HandoffStep _ .step h (h.settle pending.revision receipt)
  | applyConfiguration {h : Handoff} {pending : PendingControl} (active : Bool)
      (hpending : h.Acknowledged pending) :
    HandoffStep _ (.applyConfiguration pending) h { h with
      appliedRevision := pending.revision
      appliedConfig := { h.desiredConfig with active := active } }
  | completePending {h : Handoff} {pending : PendingControl} {receipt : Receipt}
      (hpending : h.Acknowledged pending) (happlied : h.appliedRevision = pending.revision)
      (hstage : receipt.stage = .completed) (herror : receipt.error = "") :
    HandoffStep _ .step h (h.settle pending.revision receipt)
  | expirePending {h : Handoff} {pending : PendingControl} {receipt : Receipt}
      (hpending : h.pending = some pending)
      (hcommand : h.command.map (·.revision) = some pending.revision)
      (hstage : receipt.stage = .failed) (herror : receipt.error = deadlineExceeded.message) :
    HandoffStep _ (.expirePending pending) h
      { h.settle pending.revision receipt with command := none }
  | applyCalibrated {h : Handoff} {command : NativeControlCommand}
      (hcommand : h.command = some command) (hkind : command.kind = .config)
      (hfailing : h.failing = false) :
    HandoffStep _ .step h { h.consume command with
      nativeApplied := command.revision
      log := .acknowledged command.revision ::
        .consumed command ⟨h.desiredActive, command.active⟩ :: h.log }
  | applyCommand {h : Handoff} {command : NativeControlCommand}
      (hcommand : h.command = some command) (hkind : command.kind ≠ .config)
      (hfailing : h.failing = false) :
    HandoffStep _ .step h { h.consume command with awaiting := some command }
  | acknowledge {h : Handoff} {command : NativeControlCommand}
      (hawaiting : h.awaiting = some command) :
    HandoffStep _ .step h { h with
      nativeApplied := command.revision, awaiting := none
      log := .acknowledged command.revision :: h.log }
  | failNative {h : Handoff} {command : NativeControlCommand}
      (hawaiting : h.awaiting = some command)
      (hkind : command.kind = .start ∨ command.kind = .requestKeyframe) :
    HandoffStep _ (.failNative command) h { h with
      nativeFailed := command.revision, awaiting := none, failing := true
      log := .nativeFailed command.revision :: h.log }
  | deactivate {h : Handoff} (hfailing : h.failing = true) :
    HandoffStep _ .step h { h with desiredActive := false, failing := false }
  | hold {h : Handoff} {l : Label} (held : Option NativeCalibrationMetadata)
      (hheld : h.CanHold held) : HandoffStep _ l h { h with held := held }
  | publish {h : Handoff} {l : Label} {calibration : NativeCalibrationMetadata}
      (held : Option NativeCalibrationMetadata) (hcalibration : h.held = some calibration)
      (hheld : h.CanHold held) :
    HandoffStep _ l h { h with
      held := held
      published := calibration :: h.published
      publishedRevision := calibration.revision }

/-! ## the order of events -/

/-- how a mutation ended: its receipt, and what was recorded before -/
inductive Outcome (older : List Event) (revision : Nat) (receipt : Receipt) : Prop
  | completed (hstage : receipt.stage = .completed) (herror : receipt.error = "")
      (h : .acknowledged revision ∈ older)
  | failed (hstage : receipt.stage = .failed) (herror : receipt.error = notAccepted.message)
      (h : .nativeFailed revision ∈ older)
  | expired (hstage : receipt.stage = .failed) (herror : receipt.error = deadlineExceeded.message)
      (h : ∀ command demand, .consumed command demand ∈ older → command.revision ≠ revision)

def Consumed (log : List Event) (revision : Nat) : Prop :=
  ∃ command demand, .consumed command demand ∈ log ∧ command.revision = revision

/-- nothing but the admission of this revision was recorded -/
def OnlyAdmitted (log : List Event) (revision : Nat) : Prop :=
  ∀ e ∈ log, e.mutation? = some revision → ∃ reply kind, e = .admitted reply kind revision

/-- no receipt of this revision was recorded -/
def Unrecorded (log : List Event) (revision : Nat) : Prop :=
  ∀ receipt, .recorded (some revision) receipt ∉ log

/-- what was recorded before an event -/
def Event.Warranted : Event → List Event → Prop
  | .admitted _ _ revision, older => ∀ e ∈ older, e.mutation? ≠ some revision
  | .consumed command _, older => OnlyAdmitted older command.revision
  | .acknowledged revision, older => Consumed older revision
  | .nativeFailed revision, older => Consumed older revision
  | .recorded (some revision) receipt, older =>
    Unrecorded older revision ∧ Outcome older revision receipt
  | _, _ => True

theorem OnlyAdmitted.not_consumed {log : List Event} {revision : Nat}
    (h : OnlyAdmitted log revision) : ¬ Consumed log revision := by
  rintro ⟨command, demand, hmem, hrevision⟩
  obtain ⟨_, _, e⟩ := h _ hmem (congrArg some hrevision)
  cases e

theorem OnlyAdmitted.unrecorded {log : List Event} {revision : Nat}
    (h : OnlyAdmitted log revision) : Unrecorded log revision := by
  intro receipt hmem
  obtain ⟨_, _, e⟩ := h _ hmem rfl
  cases e

theorem Consumed.mono {log older : List Event} {revision : Nat} (h : Consumed older revision)
    (hlog : older ⊆ log) : Consumed log revision := by
  obtain ⟨command, demand, hmem, hrevision⟩ := h
  exact ⟨command, demand, hlog hmem, hrevision⟩

namespace Justified
variable {log : List Event}

theorem consumed_of_acknowledged {revision : Nat} (h : Justified Event.Warranted log)
    (hmem : .acknowledged revision ∈ log) : Consumed log revision := by
  obtain ⟨newer, older, rfl⟩ := List.append_of_mem hmem
  have hconsumed : Consumed older revision := h.split rfl
  exact hconsumed.mono (by simp)

theorem consumed_of_nativeFailed {revision : Nat} (h : Justified Event.Warranted log)
    (hmem : .nativeFailed revision ∈ log) : Consumed log revision := by
  obtain ⟨newer, older, rfl⟩ := List.append_of_mem hmem
  have hconsumed : Consumed older revision := h.split rfl
  exact hconsumed.mono (by simp)

/-- a mutation has at most one receipt -/
theorem recorded_nodup (h : Justified Event.Warranted log) : (log.filterMap (·.recorded?)).Nodup := by
  induction log with
  | nil => exact List.nodup_nil
  | cons e log ih =>
    have ih := ih h.2
    cases e with
    | recorded mutation receipt =>
      cases mutation with
      | none => exact ih
      | some revision =>
        refine List.nodup_cons.mpr ⟨?_, ih⟩
        intro hmem
        obtain ⟨e, he, hrecorded⟩ := List.mem_filterMap.mp hmem
        cases e with
        | recorded mutation receipt' =>
          subst hrecorded
          exact h.1.1 receipt' he
        | _ => cases hrecorded
    | _ => exact ih

/-- a mutation that was given up is never consumed -/
theorem not_consumed_of_expired {revision : Nat} {receipt : Receipt}
    (h : Justified Event.Warranted log) (hmem : .recorded (some revision) receipt ∈ log)
    (herror : receipt.error = deadlineExceeded.message) :
    ¬ Consumed log revision := by
  induction log with
  | nil => cases hmem
  | cons e log ih =>
    rintro ⟨command, demand, hconsumed, hrevision⟩
    rcases List.mem_cons.mp hmem with rfl | hold
    · have hconsumed : .consumed command demand ∈ log := by
        rcases List.mem_cons.mp hconsumed with he | h
        · cases he
        · exact h
      rcases h.1.2 with ⟨_, herror', _⟩ | ⟨_, herror', _⟩ | ⟨_, _, hnever⟩
      · rw [herror'] at herror
        exact absurd herror (by decide)
      · rw [herror'] at herror
        exact absurd herror (by decide)
      · exact hnever command demand hconsumed hrevision
    · rcases List.mem_cons.mp hconsumed with rfl | hconsumed
      · have hfresh : OnlyAdmitted log revision := hrevision ▸ h.1
        exact hfresh.unrecorded _ hold
      · exact ih h.2 hold ⟨command, demand, hconsumed, hrevision⟩

end Justified

/-! ## where the command is -/

/-- the command carries out the pending mutation -/
structure NativeControlCommand.Matches (command : NativeControlCommand) (pending : PendingControl) :
    Prop where
  revision : command.revision = pending.revision
  kind : command.kind = pending.operation
  calibration : command.calibration.isSome = pending.calibration

inductive Handoff.Phase (h : Handoff) (pending : PendingControl) : Prop
  | queued {command : NativeControlCommand} (hcommand : h.command = some command)
      (hawaiting : h.awaiting = none) (hmatch : command.Matches pending)
      (hlog : OnlyAdmitted h.log pending.revision)
  | awaiting {command : NativeControlCommand} (hcommand : h.command = none)
      (hawaiting : h.awaiting = some command) (hmatch : command.Matches pending)
      (hkind : command.kind ≠ .config) (hconsumed : Consumed h.log pending.revision)
      (hack : .acknowledged pending.revision ∉ h.log)
      (hfailed : .nativeFailed pending.revision ∉ h.log)
  | acknowledged (hcommand : h.command = none) (hawaiting : h.awaiting = none)
      (hack : .acknowledged pending.revision ∈ h.log)
      (hfailed : .nativeFailed pending.revision ∉ h.log)
      (hnative : h.nativeApplied = pending.revision)
  | failed (hcommand : h.command = none) (hawaiting : h.awaiting = none)
      (hkind : pending.operation ≠ .config) (hack : .acknowledged pending.revision ∉ h.log)
      (hfailed : .nativeFailed pending.revision ∈ h.log)
      (hnative : h.nativeFailed = pending.revision)

/-- the pending mutation is the latest one, without a receipt, and in one phase -/
structure Handoff.Open (h : Handoff) (pending : PendingControl) : Prop where
  latest : pending.revision = h.desiredRevision
  admitted : .admitted pending.reply pending.operation pending.revision ∈ h.log
  unrecorded : Unrecorded h.log pending.revision
  plain : pending.operation ≠ .config → pending.calibration = false
  phase : h.Phase pending

/-- the calibration of a consumed command is the pending one, or it is published -/
def Handoff.Publishes (h : Handoff) : Prop :=
  ∀ command demand, .consumed command demand ∈ h.log → command.calibration.isSome = true →
    (∃ pending, h.pending = some pending ∧ command.revision = pending.revision ∧
      pending.calibration = true) ∨
    ∃ calibration ∈ h.published, calibration.revision = command.revision

structure HandoffInv (h : Handoff) : Prop where
  warranted : Justified Event.Warranted h.log
  known : ∀ e ∈ h.log, ∀ revision, e.mutation? = some revision →
    1 < revision ∧ revision ≤ h.desiredRevision
  desired : 1 ≤ h.desiredRevision
  atomics : (h.nativeApplied = 1 ∨ .acknowledged h.nativeApplied ∈ h.log) ∧
    (h.nativeFailed = 0 ∨ .nativeFailed h.nativeFailed ∈ h.log)
  free : h.pending = none → h.command = none ∧ h.awaiting = none
  slot : ∀ pending, h.pending = some pending → h.Open pending
  failing : h.failing = true → h.awaiting = none
  publishes : h.Publishes

/-! ## every move keeps the invariant -/

section
variable {rosPublishingEnabled : Bool} {l : Label} {h h' : Handoff} {pending : PendingControl}

theorem Handoff.Phase.congr (hp : h.Phase pending) (hcommand : h'.command = h.command)
    (hawaiting : h'.awaiting = h.awaiting) (happlied : h'.nativeApplied = h.nativeApplied)
    (hfailed : h'.nativeFailed = h.nativeFailed) (hlog : h'.log = h.log) : h'.Phase pending := by
  cases hp with
  | queued h1 h2 h3 h4 =>
    exact .queued (hcommand.trans h1) (hawaiting.trans h2) h3 (hlog ▸ h4)
  | awaiting h1 h2 h3 h4 h5 h6 h7 =>
    exact .awaiting (hcommand.trans h1) (hawaiting.trans h2) h3 h4 (hlog ▸ h5) (hlog ▸ h6)
      (hlog ▸ h7)
  | acknowledged h1 h2 h3 h4 h5 =>
    exact .acknowledged (hcommand.trans h1) (hawaiting.trans h2) (hlog ▸ h3) (hlog ▸ h4)
      (happlied.trans h5)
  | failed h1 h2 h3 h4 h5 h6 =>
    exact .failed (hcommand.trans h1) (hawaiting.trans h2) h3 (hlog ▸ h4) (hlog ▸ h5)
      (hfailed.trans h6)

/-- a move that leaves the slot, the command and the log alone -/
theorem HandoffInv.congr (hI : HandoffInv h) (hpending : h'.pending = h.pending)
    (hdesired : h'.desiredRevision = h.desiredRevision) (hcommand : h'.command = h.command)
    (hawaiting : h'.awaiting = h.awaiting) (happlied : h'.nativeApplied = h.nativeApplied)
    (hfailed : h'.nativeFailed = h.nativeFailed) (hlog : h'.log = h.log)
    (hfailing : h'.failing = true → h.failing = true)
    (hpublished : ∀ calibration ∈ h.published, calibration ∈ h'.published) : HandoffInv h' where
  warranted := hlog ▸ hI.warranted
  known := by
    rw [hlog, hdesired]
    exact hI.known
  desired := hdesired ▸ hI.desired
  atomics := by
    rw [happlied, hfailed, hlog]
    exact hI.atomics
  free hnone := by
    rw [hcommand, hawaiting]
    exact hI.free (hpending ▸ hnone)
  slot pending hsome := by
    have ho := hI.slot pending (hpending ▸ hsome)
    exact ⟨hdesired ▸ ho.latest, hlog ▸ ho.admitted, hlog ▸ ho.unrecorded, ho.plain,
      ho.phase.congr hcommand hawaiting happlied hfailed hlog⟩
  failing h := hawaiting ▸ hI.failing (hfailing h)
  publishes command demand hmem hsome := by
    rw [hlog] at hmem
    rw [hpending]
    refine (hI.publishes command demand hmem hsome).imp_right ?_
    rintro ⟨calibration, hc, hrevision⟩
    exact ⟨calibration, hpublished _ hc, hrevision⟩

theorem HandoffInv.queued (hI : HandoffInv h) {command : NativeControlCommand}
    (hcommand : h.command = some command) :
    ∃ pending, h.pending = some pending ∧ h.Open pending ∧ command.Matches pending ∧
      h.awaiting = none ∧ OnlyAdmitted h.log pending.revision := by
  rcases hpending : h.pending with _ | pending
  · rw [(hI.free hpending).1] at hcommand
    cases hcommand
  · have ho := hI.slot pending hpending
    refine ⟨pending, rfl, ho, ?_⟩
    rcases ho.phase with ⟨h1, h2, h3, h4⟩ | ⟨h1, _⟩ | ⟨h1, _⟩ | ⟨h1, _⟩
    · rw [hcommand] at h1
      cases h1
      exact ⟨h3, h2, h4⟩
    all_goals
      rw [hcommand] at h1
      cases h1

theorem HandoffInv.awaits (hI : HandoffInv h) {command : NativeControlCommand}
    (hawaiting : h.awaiting = some command) :
    ∃ pending, h.pending = some pending ∧ h.Open pending ∧ command.Matches pending ∧
      h.command = none ∧ command.kind ≠ .config ∧ Consumed h.log pending.revision ∧
      .acknowledged pending.revision ∉ h.log ∧ .nativeFailed pending.revision ∉ h.log := by
  rcases hpending : h.pending with _ | pending
  · rw [(hI.free hpending).2] at hawaiting
    cases hawaiting
  · have ho := hI.slot pending hpending
    refine ⟨pending, rfl, ho, ?_⟩
    rcases ho.phase with ⟨_, h1, _⟩ | ⟨h0, h1, h2, h3, h4, h5, h6⟩ | ⟨_, h1, _⟩ | ⟨_, h1, _⟩
    case some.awaiting =>
      rw [hawaiting] at h1
      cases h1
      exact ⟨h2, h0, h3, h4, h5, h6⟩
    all_goals
      rw [hawaiting] at h1
      cases h1

theorem HandoffInv.idle (hI : HandoffInv h) (hpending : h.pending = some pending)
    (hend : .acknowledged pending.revision ∈ h.log ∨ .nativeFailed pending.revision ∈ h.log) :
    h.command = none ∧ h.awaiting = none := by
  rcases (hI.slot pending hpending).phase with
    ⟨_, _, _, hlog⟩ | ⟨_, _, _, _, _, hack, hfailed⟩ | ⟨h1, h2, _⟩ | ⟨h1, h2, _⟩
  · refine absurd ?_ hlog.not_consumed
    exact hend.elim hI.warranted.consumed_of_acknowledged hI.warranted.consumed_of_nativeFailed
  · exact absurd hend (not_or.mpr ⟨hack, hfailed⟩)
  · exact ⟨h1, h2⟩
  · exact ⟨h1, h2⟩

theorem HandoffInv.failed_kind (hI : HandoffInv h) (hpending : h.pending = some pending)
    (hfailed : .nativeFailed pending.revision ∈ h.log) : pending.operation ≠ .config := by
  rcases (hI.slot pending hpending).phase with
    ⟨_, _, _, hlog⟩ | ⟨_, _, _, _, _, _, hnone⟩ | ⟨_, _, _, hnone, _⟩ | ⟨_, _, hkind, _⟩
  · exact absurd (hI.warranted.consumed_of_nativeFailed hfailed) hlog.not_consumed
  · exact absurd hfailed hnone
  · exact absurd hfailed hnone
  · exact hkind

theorem HandoffInv.admission (hI : HandoffInv h) (handle : Nat) (request : ControlRequest)
    {kind : ControlKind} {desired : Executor.Desired} (hnone : h.pending = none)
    (hplain : kind ≠ .config → desired.calibration = none) :
    HandoffInv (h.admission handle kind request desired) where
  warranted := by
    refine ⟨fun e he hrevision => ?_, hI.warranted⟩
    have := (hI.known e he _ hrevision).2
    omega
  known e he revision hrevision := by
    show 1 < revision ∧ revision ≤ h.desiredRevision + 1
    rcases List.mem_cons.mp he with rfl | he
    · cases hrevision
      have := hI.desired
      omega
    · have := hI.known e he revision hrevision
      omega
  desired := Nat.le_succ_of_le hI.desired
  atomics := ⟨hI.atomics.1.imp_right (List.mem_cons_of_mem _),
    hI.atomics.2.imp_right (List.mem_cons_of_mem _)⟩
  free h := by cases h
  slot pending hsome := by
    cases hsome
    have honly : OnlyAdmitted (.admitted handle kind (h.desiredRevision + 1) :: h.log)
        (h.desiredRevision + 1) := by
      intro e he hrevision
      rcases List.mem_cons.mp he with rfl | he
      · exact ⟨_, _, rfl⟩
      · have := (hI.known e he _ hrevision).2
        omega
    refine ⟨rfl, List.mem_cons_self, honly.unrecorded,
      fun hkind => congrArg Option.isSome (hplain hkind), ?_⟩
    refine .queued rfl (hI.free hnone).2 ⟨rfl, rfl, ?_⟩ honly
    show (desired.calibration.map _).isSome = desired.calibration.isSome
    rw [Option.isSome_map]
  failing := hI.failing
  publishes command demand hmem hsome := by
    rcases List.mem_cons.mp hmem with he | hmem
    · cases he
    rcases hI.publishes command demand hmem hsome with ⟨pending, hpending, _⟩ | hpublished
    · rw [hnone] at hpending
      cases hpending
    · exact .inr hpublished

theorem HandoffInv.settle (hI : HandoffInv h) {receipt : Receipt}
    (hpending : h.pending = some pending) (houtcome : Outcome h.log pending.revision receipt)
    (hawaiting : h.awaiting = none)
    (hpublished : pending.calibration = true → Consumed h.log pending.revision →
      ∃ calibration ∈ h.published, calibration.revision = pending.revision) :
    HandoffInv { h.settle pending.revision receipt with command := none } where
  warranted := ⟨⟨(hI.slot pending hpending).unrecorded, houtcome⟩, hI.warranted⟩
  known e he revision hrevision := by
    rcases List.mem_cons.mp he with rfl | he
    · cases hrevision
      exact hI.known _ (hI.slot pending hpending).admitted _ rfl
    · exact hI.known e he revision hrevision
  desired := hI.desired
  atomics := ⟨hI.atomics.1.imp_right (List.mem_cons_of_mem _),
    hI.atomics.2.imp_right (List.mem_cons_of_mem _)⟩
  free _ := ⟨rfl, hawaiting⟩
  slot _ h := by cases h
  failing _ := hawaiting
  publishes command demand hmem hsome := by
    rcases List.mem_cons.mp hmem with he | hmem
    · cases he
    rcases hI.publishes command demand hmem hsome with ⟨pending', hp, hrevision, hcalibration⟩ | h
    · rw [hpending] at hp
      cases hp
      obtain ⟨calibration, hc, hr⟩ := hpublished hcalibration ⟨command, demand, hmem, hrevision⟩
      exact .inr ⟨calibration, hc, hr.trans hrevision.symm⟩
    · exact .inr h

theorem HandoffInv.known_consume (hI : HandoffInv h) {command : NativeControlCommand}
    (hcommand : h.command = some command) (demand : DemandChange) :
    ∀ e ∈ .consumed command demand :: h.log, ∀ revision, e.mutation? = some revision →
      1 < revision ∧ revision ≤ h.desiredRevision := by
  intro e he revision hrevision
  rcases List.mem_cons.mp he with rfl | he
  · obtain ⟨pending, _, ho, hmatch, _⟩ := hI.queued hcommand
    cases hrevision
    show 1 < command.revision ∧ _
    rw [hmatch.revision]
    exact hI.known _ ho.admitted _ rfl
  · exact hI.known e he revision hrevision

theorem known_outcome {log : List Event} {e : Event} {revision bound : Nat}
    (hlog : ∀ e ∈ log, ∀ revision, e.mutation? = some revision → 1 < revision ∧ revision ≤ bound)
    (hconsumed : Consumed log revision) (he : e.mutation? = some revision) :
    ∀ e' ∈ e :: log, ∀ revision, e'.mutation? = some revision →
      1 < revision ∧ revision ≤ bound := by
  intro e' he' revision' hrevision
  rcases List.mem_cons.mp he' with rfl | he'
  · obtain ⟨command, demand, hmem, hr⟩ := hconsumed
    rw [he] at hrevision
    cases hrevision
    rw [← hr]
    exact hlog _ hmem _ rfl
  · exact hlog e' he' revision' hrevision

theorem HandoffInv.publishes_consume (hI : HandoffInv h) {command : NativeControlCommand}
    (hcommand : h.command = some command) {command' : NativeControlCommand} {demand demand' : DemandChange}
    (hmem : .consumed command' demand' ∈ .consumed command demand :: h.log)
    (hsome : command'.calibration.isSome = true) :
    (∃ pending, h.pending = some pending ∧ command'.revision = pending.revision ∧
      pending.calibration = true) ∨
    ∃ calibration ∈ h.published, calibration.revision = command'.revision := by
  rcases List.mem_cons.mp hmem with he | hmem
  · cases he
    obtain ⟨pending, hpending, _, hmatch, _⟩ := hI.queued hcommand
    exact .inl ⟨pending, hpending, hmatch.revision, hmatch.calibration ▸ hsome⟩
  · exact hI.publishes command' demand' hmem hsome

theorem HandoffInv.applyCalibrated (hI : HandoffInv h) {command : NativeControlCommand}
    (hcommand : h.command = some command) :
    HandoffInv { h.consume command with
      nativeApplied := command.revision
      log := .acknowledged command.revision ::
        .consumed command ⟨h.desiredActive, command.active⟩ :: h.log } := by
  obtain ⟨pending, hpending, ho, hmatch, hawaiting, honly⟩ := hI.queued hcommand
  have hfresh : OnlyAdmitted h.log command.revision := hmatch.revision ▸ honly
  have hconsumed : Consumed (.consumed command ⟨h.desiredActive, command.active⟩ :: h.log)
      command.revision :=
    ⟨command, _, List.mem_cons_self, rfl⟩
  refine ⟨⟨hconsumed, hfresh, hI.warranted⟩,
    known_outcome (hI.known_consume hcommand _) hconsumed rfl, hI.desired,
    ⟨.inr List.mem_cons_self, ?_⟩, fun _ => ⟨rfl, hawaiting⟩, ?_, fun _ => hawaiting, ?_⟩
  · exact hI.atomics.2.imp_right fun h => List.mem_cons_of_mem _ (List.mem_cons_of_mem _ h)
  · intro pending' hsome
    obtain rfl : pending' = pending := Option.some.inj (hsome.symm.trans hpending)
    refine ⟨ho.latest, by simp [ho.admitted], ?_, ?_, ?_⟩
    · intro receipt hmem
      exact ho.unrecorded receipt (by simpa using hmem)
    · exact ho.plain
    · refine .acknowledged rfl hawaiting ?_ ?_ hmatch.revision
      · rw [hmatch.revision]
        exact List.mem_cons_self
      · intro hmem
        have hmem : .nativeFailed pending'.revision ∈ h.log := by simpa using hmem
        exact honly.not_consumed (hI.warranted.consumed_of_nativeFailed hmem)
  · intro command' demand hmem hsome
    rcases List.mem_cons.mp hmem with he | hmem
    · cases he
    · exact hI.publishes_consume hcommand hmem hsome

theorem HandoffInv.applyCommand (hI : HandoffInv h) {command : NativeControlCommand}
    (hcommand : h.command = some command) (hkind : command.kind ≠ .config)
    (hfailing : h.failing = false) :
    HandoffInv { h.consume command with awaiting := some command } := by
  obtain ⟨pending, hpending, ho, hmatch, hawaiting, honly⟩ := hI.queued hcommand
  have hfresh : OnlyAdmitted h.log command.revision := hmatch.revision ▸ honly
  refine ⟨⟨hfresh, hI.warranted⟩, hI.known_consume hcommand _, hI.desired,
    ⟨hI.atomics.1.imp_right (List.mem_cons_of_mem _),
      hI.atomics.2.imp_right (List.mem_cons_of_mem _)⟩, ?_, ?_, ?_, ?_⟩
  · intro hnone
    cases hpending.symm.trans hnone
  · intro pending' hsome
    obtain rfl : pending' = pending := Option.some.inj (hsome.symm.trans hpending)
    refine ⟨ho.latest, List.mem_cons_of_mem _ ho.admitted, ?_, ?_, ?_⟩
    · intro receipt hmem
      exact ho.unrecorded receipt (by simpa [Handoff.consume] using hmem)
    · exact ho.plain
    · refine .awaiting rfl rfl hmatch hkind ⟨command, _, List.mem_cons_self, hmatch.revision⟩ ?_ ?_
      · intro hmem
        have hmem : .acknowledged pending'.revision ∈ h.log := by
          simpa [Handoff.consume] using hmem
        exact honly.not_consumed (hI.warranted.consumed_of_acknowledged hmem)
      · intro hmem
        have hmem : .nativeFailed pending'.revision ∈ h.log := by
          simpa [Handoff.consume] using hmem
        exact honly.not_consumed (hI.warranted.consumed_of_nativeFailed hmem)
  · intro h
    cases hfailing.symm.trans h
  · intro command' demand hmem hsome
    exact hI.publishes_consume hcommand hmem hsome

theorem HandoffInv.acknowledge (hI : HandoffInv h) {command : NativeControlCommand}
    (hawaiting : h.awaiting = some command) :
    HandoffInv { h with
      nativeApplied := command.revision, awaiting := none
      log := .acknowledged command.revision :: h.log } := by
  obtain ⟨pending, hpending, ho, hmatch, hcommand, _, hconsumed, _, hfailed⟩ := hI.awaits hawaiting
  have hconsumed : Consumed h.log command.revision := hmatch.revision ▸ hconsumed
  refine ⟨⟨hconsumed, hI.warranted⟩, known_outcome hI.known hconsumed rfl, hI.desired,
    ⟨.inr List.mem_cons_self, hI.atomics.2.imp_right (List.mem_cons_of_mem _)⟩,
    fun _ => ⟨hcommand, rfl⟩, ?_, fun _ => rfl, ?_⟩
  · intro pending' hsome
    obtain rfl : pending' = pending := Option.some.inj (hsome.symm.trans hpending)
    refine ⟨ho.latest, List.mem_cons_of_mem _ ho.admitted, ?_, ?_, ?_⟩
    · intro receipt hmem
      exact ho.unrecorded receipt (by simpa using hmem)
    · exact ho.plain
    · refine .acknowledged hcommand rfl ?_ ?_ hmatch.revision
      · rw [hmatch.revision]
        exact List.mem_cons_self
      · intro hmem
        exact hfailed (by simpa using hmem)
  · intro command' demand hmem hsome
    exact hI.publishes command' demand (by simpa using hmem) hsome

theorem HandoffInv.failNative (hI : HandoffInv h) {command : NativeControlCommand}
    (hawaiting : h.awaiting = some command) :
    HandoffInv { h with
      nativeFailed := command.revision, awaiting := none, failing := true
      log := .nativeFailed command.revision :: h.log } := by
  obtain ⟨pending, hpending, ho, hmatch, hcommand, hkind, hconsumed, hack, _⟩ :=
    hI.awaits hawaiting
  have hconsumed : Consumed h.log command.revision := hmatch.revision ▸ hconsumed
  refine ⟨⟨hconsumed, hI.warranted⟩, known_outcome hI.known hconsumed rfl, hI.desired,
    ⟨hI.atomics.1.imp_right (List.mem_cons_of_mem _), .inr List.mem_cons_self⟩,
    fun _ => ⟨hcommand, rfl⟩, ?_, fun _ => rfl, ?_⟩
  · intro pending' hsome
    obtain rfl : pending' = pending := Option.some.inj (hsome.symm.trans hpending)
    refine ⟨ho.latest, List.mem_cons_of_mem _ ho.admitted, ?_, ?_, ?_⟩
    · intro receipt hmem
      exact ho.unrecorded receipt (by simpa using hmem)
    · exact ho.plain
    · refine .failed hcommand rfl (hmatch.kind ▸ hkind) ?_ ?_ hmatch.revision
      · intro hmem
        exact hack (by simpa using hmem)
      · rw [hmatch.revision]
        exact List.mem_cons_self
  · intro command' demand hmem hsome
    exact hI.publishes command' demand (by simpa using hmem) hsome

theorem Handoff.settle_eq (hcommand : h.command = none) (revision : Nat) (receipt : Receipt) :
    h.settle revision receipt = { h.settle revision receipt with command := none } := by
  simp only [Handoff.settle, hcommand]

theorem HandoffInv.step (hI : HandoffInv h) (hmove : HandoffStep rosPublishingEnabled l h h') :
    HandoffInv h' := by
  cases hmove with
  | admission handle request hnone hdesired => exact hI.admission handle request hnone hdesired.plain
  | @failPending _ pending receipt hpending hfailed hstage herror =>
    obtain ⟨hcommand, hawaiting⟩ := hI.idle hpending (.inr hfailed)
    rw [Handoff.settle_eq hcommand]
    refine hI.settle hpending (.failed hstage herror hfailed) hawaiting fun hcalibration _ => ?_
    rw [(hI.slot pending hpending).plain (hI.failed_kind hpending hfailed)] at hcalibration
    cases hcalibration
  | applyConfiguration => exact hI.congr rfl rfl rfl rfl rfl rfl rfl id fun _ => id
  | completePending hack _ hstage herror =>
    obtain ⟨hcommand, hawaiting⟩ := hI.idle hack.slot (.inl hack.acknowledged)
    rw [Handoff.settle_eq hcommand]
    exact hI.settle hack.slot (.completed hstage herror hack.acknowledged) hawaiting
      fun hcalibration _ => hack.published hcalibration
  | @expirePending _ pending receipt hpending hcommand hstage herror =>
    obtain ⟨command, hcommand, _⟩ := Option.map_eq_some_iff.mp hcommand
    obtain ⟨pending', hpending', _, _, hawaiting, honly⟩ := hI.queued hcommand
    obtain rfl : pending' = pending := Option.some.inj (hpending'.symm.trans hpending)
    refine hI.settle hpending (.expired hstage herror fun command demand hmem hr => ?_) hawaiting
      fun _ hconsumed => absurd hconsumed honly.not_consumed
    exact honly.not_consumed ⟨command, demand, hmem, hr⟩
  | applyCalibrated hcommand => exact hI.applyCalibrated hcommand
  | applyCommand hcommand hkind hfailing => exact hI.applyCommand hcommand hkind hfailing
  | acknowledge hawaiting => exact hI.acknowledge hawaiting
  | failNative hawaiting _ => exact hI.failNative hawaiting
  | deactivate => exact hI.congr rfl rfl rfl rfl rfl rfl rfl (fun h => by cases h) fun _ => id
  | hold => exact hI.congr rfl rfl rfl rfl rfl rfl rfl id fun _ => id
  | publish =>
    exact hI.congr rfl rfl rfl rfl rfl rfl rfl id fun _ => List.mem_cons_of_mem _

end

end MediaCamera
