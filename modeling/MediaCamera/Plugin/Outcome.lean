import MediaCamera.Plugin.Verified

/-!
# Exactly one outcome for every mutation

* `MutationPhase`, `State.Completed`   where a mutation stands, and how it completed;
* `ExactlyOnce`   what the invariant of the handoff says of the plugin: one reply and one receipt,
                  which tells what happened.
-/

namespace MediaCamera

theorem handoffInv {cfg : PluginConfig} {D : Label → State → Prop} {s : PluginState}
    (h : (pluginMachine cfg).ReachableUnder (Pool.Obeys D) s) : HandoffInv s.shared.handoff :=
  handoff_invariant (D := D) (HandoffInv.load cfg) (fun _ _ _ _ hmove hI => hI.step hmove) h

/-! ## exactly one outcome -/

/-- where the command of a mutation can be -/
inductive MutationPhase where
  | queued
  | awaiting
  | acknowledged
  | failed
  deriving DecidableEq, Repr

/-- what the handoff says of a revision in a phase -/
def State.InPhase (s : State) (revision : Nat) : MutationPhase → Prop
  | .queued => s.nat.nativeCommand.map (·.revision) = some revision
  | .awaiting => s.nat.awaitingNativeControl.map (·.revision) = some revision
  | .acknowledged => s.nat.nativeAppliedRevision = revision
  | .failed => s.nat.nativeFailedRevision = revision

/-- the mutation was consumed, then acknowledged, and published where it carries a calibration -/
def State.Completed (s : State) (older : List Event) (revision : Nat) : Prop :=
  ∃ between before command demand, older = between ++ .acknowledged revision :: before ∧
    .consumed command demand ∈ before ∧ command.revision = revision ∧
    (command.calibration.isSome = true →
      ∃ calibration ∈ s.ros.cameraInfos, calibration.revision = revision)

structure ExactlyOnce (s : State) : Prop where
  reply : ∀ handle kind revision, .admitted handle kind revision ∈ s.log →
    s.replied.count handle ≤ 1
  receipt : ∀ revision, (s.log.filterMap (·.recorded?)).count revision ≤ 1
  completed : ∀ newer older revision receipt,
    s.log = newer ++ .recorded (some revision) receipt :: older → receipt.stage = .completed →
      s.Completed older revision
  expired : ∀ revision receipt command demand, .recorded (some revision) receipt ∈ s.log →
    receipt.error = deadlineExceeded.message → .consumed command demand ∈ s.log →
      command.revision ≠ revision
  pending : ∀ pending, s.ctl.pendingControl = some pending →
    ∃! phase, s.InPhase pending.revision phase

section
variable {s : State}

theorem handoff_recorded (s : State) :
    s.handoff.log.filterMap (·.recorded?) = s.log.filterMap (·.recorded?) := by
  show (s.log.filter (·.ofMutation)).filterMap (·.recorded?) = _
  rw [List.filterMap_filter]
  congr 1
  funext e
  cases e with
  | recorded mutation receipt => cases mutation <;> rfl
  | _ => rfl

variable {pending : PendingControl}

theorem HandoffInv.not_acknowledged (hI : HandoffInv s.handoff)
    (hpending : s.ctl.pendingControl = some pending)
    (hnone : .acknowledged pending.revision ∉ s.handoff.log) :
    s.nat.nativeAppliedRevision ≠ pending.revision := by
  intro e
  have hlate := hI.known _ (hI.slot pending hpending).admitted _ rfl
  rcases hI.atomics.1 with h | h
  · have h : s.nat.nativeAppliedRevision = 1 := h
    omega
  · have h : .acknowledged s.nat.nativeAppliedRevision ∈ s.handoff.log := h
    rw [e] at h
    exact hnone h

theorem HandoffInv.not_failed (hI : HandoffInv s.handoff)
    (hpending : s.ctl.pendingControl = some pending)
    (hnone : .nativeFailed pending.revision ∉ s.handoff.log) :
    s.nat.nativeFailedRevision ≠ pending.revision := by
  intro e
  have hlate := hI.known _ (hI.slot pending hpending).admitted _ rfl
  rcases hI.atomics.2 with h | h
  · have h : s.nat.nativeFailedRevision = 0 := h
    omega
  · have h : .nativeFailed s.nat.nativeFailedRevision ∈ s.handoff.log := h
    rw [e] at h
    exact hnone h

theorem State.not_queued {revision : Nat} (h : s.nat.nativeCommand = none) :
    ¬ s.InPhase revision .queued := by
  simp [State.InPhase, h]

theorem State.not_awaiting {revision : Nat} (h : s.nat.awaitingNativeControl = none) :
    ¬ s.InPhase revision .awaiting := by
  simp [State.InPhase, h]

/-- the pending command is in exactly one phase -/
theorem HandoffInv.inPhase (hI : HandoffInv s.handoff)
    (hpending : s.ctl.pendingControl = some pending) :
    ∃! phase, s.InPhase pending.revision phase := by
  rcases (hI.slot pending hpending).phase with
    ⟨hcommand, hawaiting, hmatch, honly⟩ |
    ⟨hcommand, hawaiting, hmatch, _, _, hack, hfailed⟩ |
    ⟨hcommand, hawaiting, _, hfailed, hnative⟩ |
    ⟨hcommand, hawaiting, _, hack, _, hnative⟩
  · refine ⟨.queued, ?_, fun phase h => ?_⟩
    · have hcommand : s.nat.nativeCommand = some _ := hcommand
      simp [State.InPhase, hcommand, hmatch.revision]
    · cases phase with
      | queued => rfl
      | awaiting => exact absurd h (State.not_awaiting hawaiting)
      | acknowledged =>
        exact absurd h (hI.not_acknowledged hpending fun hmem =>
          honly.not_consumed (hI.warranted.consumed_of_acknowledged hmem))
      | failed =>
        exact absurd h (hI.not_failed hpending fun hmem =>
          honly.not_consumed (hI.warranted.consumed_of_nativeFailed hmem))
  · refine ⟨.awaiting, ?_, fun phase h => ?_⟩
    · have hawaiting : s.nat.awaitingNativeControl = some _ := hawaiting
      simp [State.InPhase, hawaiting, hmatch.revision]
    · cases phase with
      | queued => exact absurd h (State.not_queued hcommand)
      | awaiting => rfl
      | acknowledged => exact absurd h (hI.not_acknowledged hpending hack)
      | failed => exact absurd h (hI.not_failed hpending hfailed)
  · refine ⟨.acknowledged, hnative, fun phase h => ?_⟩
    cases phase with
    | queued => exact absurd h (State.not_queued hcommand)
    | awaiting => exact absurd h (State.not_awaiting hawaiting)
    | acknowledged => rfl
    | failed => exact absurd h (hI.not_failed hpending hfailed)
  · refine ⟨.failed, hnative, fun phase h => ?_⟩
    cases phase with
    | queued => exact absurd h (State.not_queued hcommand)
    | awaiting => exact absurd h (State.not_awaiting hawaiting)
    | acknowledged => exact absurd h (hI.not_acknowledged hpending hack)
    | failed => rfl

theorem HandoffInv.completed (hI : HandoffInv s.handoff) {newer older : List Event} {revision : Nat}
    {receipt : Receipt} (hlog : s.log = newer ++ .recorded (some revision) receipt :: older)
    (hstage : receipt.stage = .completed) : s.Completed older revision := by
  have hhandoff : s.handoff.log = newer.filter (·.ofMutation) ++
      .recorded (some revision) receipt :: older.filter (·.ofMutation) := by
    show s.log.filter (·.ofMutation) = _
    rw [hlog, List.filter_append]
    rfl
  obtain ⟨_, houtcome⟩ : Event.Warranted _ _ := hI.warranted.split hhandoff
  rcases houtcome with ⟨_, _, hack⟩ | ⟨hfailed, _⟩ | ⟨hfailed, _⟩
  · obtain ⟨between, before, holder⟩ := List.append_of_mem (List.mem_of_mem_filter hack)
    have hacknowledged : s.handoff.log = (newer.filter (·.ofMutation) ++
        .recorded (some revision) receipt :: between.filter (·.ofMutation)) ++
          .acknowledged revision :: before.filter (·.ofMutation) := by
      rw [hhandoff, holder, List.filter_append, List.append_assoc]
      rfl
    have hconsumed : Consumed (before.filter (·.ofMutation)) revision :=
      hI.warranted.split hacknowledged
    obtain ⟨command, demand, hmem, hrevision⟩ := hconsumed
    have hmem : .consumed command demand ∈ before := List.mem_of_mem_filter hmem
    refine ⟨between, before, command, demand, holder, hmem, hrevision, fun hsome => ?_⟩
    have hall : .consumed command demand ∈ s.handoff.log := by
      refine mem_handoff_log ?_ rfl
      simp [hlog, holder, hmem]
    rcases hI.publishes command demand hall hsome with ⟨pending, hpending, he, _⟩ | hpublished
    · refine absurd ?_ ((hI.slot pending hpending).unrecorded receipt)
      rw [← he, hrevision, hhandoff]
      simp
    · rw [← hrevision]
      exact hpublished
  · rw [hstage] at hfailed
    cases hfailed
  · rw [hstage] at hfailed
    cases hfailed

end

/-- **Every mutation has exactly one outcome.** -/
theorem exactly_one_outcome {cfg : PluginConfig} {s : PluginState}
    (h : (pluginMachine cfg).Reachable s) : ExactlyOnce s.shared := by
  have hfree : (pluginMachine cfg).ReachableUnder (Pool.Obeys fun _ _ => True) s :=
    h.mono fun s a _ => Pool.Obeys.trivial s a
  have hbooks : Books cfg s.shared := ((pluginVerified cfg).safe hfree).1
  have hI : HandoffInv s.shared.handoff := handoffInv hfree
  refine ⟨fun handle _ _ _ => ?_, fun revision => ?_, fun newer older revision receipt hlog hstage =>
    hI.completed hlog hstage, fun revision receipt command demand hmem herror hconsumed => ?_,
    fun pending hpending => hI.inPhase hpending⟩
  · have := hbooks.reply.once handle
    unfold State.uses at this
    omega
  · refine List.nodup_iff_count_le_one.mp ?_ revision
    rw [← handoff_recorded]
    exact hI.warranted.recorded_nodup
  · intro hrevision
    refine hI.warranted.not_consumed_of_expired (mem_handoff_log hmem rfl) herror ?_
    exact ⟨command, demand, mem_handoff_log hconsumed rfl, hrevision⟩

/-- the JPEG quality is configured, and a start is given up at its deadline -/
def outcomeRun : List PluginAction :=
  runCall .executor (configCall "a" 1 [("jpeg_quality", .number (.int 80))]) 8 ++
    runCall .render (postRenderCall 1) 16 ++ runCall .executor (flushCall 2) 20 ++
    runCall .executor (mutationCall "start" "b") 8 ++ runCall .executor (flushCall 10) 20

theorem exactly_one_outcome_outcomeRun :
    let s := ((pluginMachine .sample).run .sample outcomeRun).shared
    ExactlyOnce s ∧ s.log.filterMap (·.recorded?) = [3, 2] ∧ s.replied = [1, 0] :=
  ⟨exactly_one_outcome (Machine.Reachable.run (PluginState.sample_reachable _) outcomeRun),
    by decide +kernel, by decide +kernel⟩

end MediaCamera
