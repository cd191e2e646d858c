import MediaCamera.Plugin.Outcome

/-!
# Neutral mutations

A configuration and a keyframe request should leave the native demand as it is.  The command copies
its `active` at admission: a configuration from `desiredActive_`, a keyframe request from the
desired configuration, which a withdrawn stop has already changed (`not_neutral`).

`NeutralAdmission` is the condition on an admission under which the copied value is still the native
demand when the command is consumed, and `neutral_on_live_stream` proves the consumption neutral in
every run whose admissions satisfy it.
-/

namespace MediaCamera

/-! ## the property -/

/-- the mutations that should not touch the native demand -/
def ControlKind.neutral : ControlKind → Bool
  | .config | .requestKeyframe => true
  | _ => false

/-- the step that consumed a neutral command left `desiredActive_` as it was, and a keyframe request
waits only while there is demand -/
structure Neutral (s : State) : Prop where
  consumed : ∀ command demand, .consumed command demand ∈ s.log →
    command.kind.neutral = true → demand.after = demand.before
  awaiting : ∀ command, s.nat.awaitingNativeControl = some command →
    command.kind = .requestKeyframe → s.nat.desiredActive = true

/-! ## the condition -/

/-- a keyframe request is admitted while the stream is desired and natively demanded, and nothing
is admitted between a native failure and its withdrawal of the demand -/
def NeutralAdmission : Label → State → Prop
  | .admission _ .requestKeyframe _, s =>
    s.ctl.desiredConfig.active = true ∧ s.nat.desiredActive = true ∧ s.nat.failing = false
  | .admission _ .config _, s => s.nat.failing = true → s.nat.desiredActive = false
  | _, _ => True

instance NeutralAdmission.decidable (l : Label) (s : State) : Decidable (NeutralAdmission l s) := by
  apply Label.casesOn (motive := fun l => Decidable (NeutralAdmission l s)) l
  case admission =>
    intro requestID kind desired
    apply ControlKind.casesOn
      (motive := fun kind => Decidable (NeutralAdmission (.admission requestID kind desired) s)) kind
    all_goals
      dsimp only [NeutralAdmission]
      infer_instance
  all_goals
    intros
    exact .isTrue trivial

/-! ## the invariant -/

structure NeutralInv (h : Handoff) : Prop where
  handoff : HandoffInv h
  consumed : ∀ command demand, .consumed command demand ∈ h.log →
    command.kind.neutral = true → demand.after = demand.before
  queued : ∀ command, h.command = some command → command.kind.neutral = true →
    command.active = h.desiredActive ∧ (h.failing = true → h.desiredActive = false)
  keyframe : ∀ command, h.command = some command ∨ h.awaiting = some command →
    command.kind = .requestKeyframe → h.desiredActive = true

section
variable {rosPublishingEnabled : Bool} {l : Label} {h h' : Handoff}

theorem NeutralInv.congr (hI : NeutralInv h) (hhandoff : HandoffInv h')
    (hlog : ∀ command demand, .consumed command demand ∈ h'.log →
      .consumed command demand ∈ h.log)
    (hcommand : h'.command = h.command ∨ h'.command = none)
    (hawaiting : h'.awaiting = h.awaiting ∨ h'.awaiting = none)
    (hactive : h'.desiredActive = h.desiredActive) (hfailing : h'.failing = h.failing) :
    NeutralInv h' where
  handoff := hhandoff
  consumed command demand hmem := hI.consumed command demand (hlog _ _ hmem)
  queued command hsome := by
    rw [hactive, hfailing]
    rcases hcommand with e | e
    · exact hI.queued command (e ▸ hsome)
    · rw [e] at hsome
      cases hsome
  keyframe command hsome := by
    rw [hactive]
    refine hI.keyframe command (hsome.imp (fun hs => ?_) fun hs => ?_)
    · rcases hcommand with e | e
      · exact e ▸ hs
      · rw [e] at hs
        cases hs
    · rcases hawaiting with e | e
      · exact e ▸ hs
      · rw [e] at hs
        cases hs

theorem NeutralInv.consumed_consume (hI : NeutralInv h) {command : NativeControlCommand}
    (hcommand : h.command = some command) :
    ∀ command' demand, .consumed command' demand ∈ (h.consume command).log →
      command'.kind.neutral = true → demand.after = demand.before := by
  intro command' demand hmem hneutral
  rcases List.mem_cons.mp hmem with e | hmem
  · cases e
    exact (hI.queued command hcommand hneutral).1
  · exact hI.consumed command' demand hmem hneutral

theorem NeutralInv.step {s : State} (hI : NeutralInv s.handoff) (hD : NeutralAdmission l s)
    (hmove : HandoffStep rosPublishingEnabled l s.handoff h') : NeutralInv h' := by
  have hhandoff : HandoffInv h' := hI.handoff.step hmove
  cases hmove with
  | @admission _ handle request kind desired hnone hdesired =>
    refine ⟨hhandoff, fun command demand hmem => ?_, fun command hsome hneutral => ?_,
      fun command hsome hkind => ?_⟩
    · exact hI.consumed command demand (by simpa [Handoff.admission] using hmem)
    · cases hsome
      cases kind with
      | config => exact ⟨rfl, hD⟩
      | requestKeyframe =>
        obtain ⟨hdesiredActive, hactive, hfailing⟩ := hD
        refine ⟨?_, fun hfail => absurd (hfailing.symm.trans hfail) (by decide)⟩
        show desired.configuration.active = s.nat.desiredActive
        rw [hdesired.active, hactive]
        exact hdesiredActive
      | start => cases hneutral
      | stop => cases hneutral
    · rcases hsome with hsome | hsome
      · cases hsome
        have hkind : kind = .requestKeyframe := hkind
        subst hkind
        exact hD.2.1
      · have hsome : s.handoff.awaiting = some command := hsome
        rw [(hI.handoff.free hnone).2] at hsome
        cases hsome
  | failPending | completePending =>
    exact hI.congr hhandoff (fun _ _ hmem => by simpa [Handoff.settle] using hmem) (.inl rfl)
      (.inl rfl) rfl rfl
  | expirePending =>
    exact hI.congr hhandoff (fun _ _ hmem => by simpa [Handoff.settle] using hmem) (.inr rfl)
      (.inl rfl) rfl rfl
  | applyConfiguration | hold | publish =>
    exact hI.congr hhandoff (fun _ _ hmem => hmem) (.inl rfl) (.inl rfl) rfl rfl
  | @applyCalibrated _ command hcommand hkind hfailing =>
    refine ⟨hhandoff, fun command' demand hmem => ?_, fun _ hsome => (by cases hsome),
      fun command' hsome => ?_⟩
    · exact hI.consumed_consume hcommand command' demand (by simpa [Handoff.consume] using hmem)
    · obtain ⟨_, _, _, _, hawaiting, _⟩ := hI.handoff.queued hcommand
      rcases hsome with hsome | hsome
      · cases hsome
      · have hsome : s.handoff.awaiting = some command' := hsome
        rw [hawaiting] at hsome
        cases hsome
  | @applyCommand _ command hcommand hkind hfailing =>
    refine ⟨hhandoff, hI.consumed_consume hcommand, fun _ hsome => (by cases hsome),
      fun command' hsome hkeyframe => ?_⟩
    rcases hsome with hsome | hsome
    · cases hsome
    · cases hsome
      have hneutral : command.kind.neutral = true := by rw [hkeyframe]; rfl
      show command.active = true
      rw [(hI.queued command hcommand hneutral).1]
      exact hI.keyframe command (.inl hcommand) hkeyframe
  | acknowledge hawaiting =>
    exact hI.congr hhandoff (fun _ _ hmem => by simpa using hmem) (.inl rfl) (.inr rfl) rfl rfl
  | failNative hawaiting hkind =>
    obtain ⟨_, _, _, _, hcommand, _⟩ := hI.handoff.awaits hawaiting
    refine ⟨hhandoff, fun command' demand hmem => ?_, fun command' hsome => ?_,
      fun command' hsome => ?_⟩
    · exact hI.consumed command' demand (by simpa using hmem)
    · have hsome : s.handoff.command = some command' := hsome
      rw [hcommand] at hsome
      cases hsome
    · rcases hsome with hsome | hsome
      · have hsome : s.handoff.command = some command' := hsome
        rw [hcommand] at hsome
        cases hsome
      · cases hsome
  | deactivate hfailing =>
    have hawaiting := hI.handoff.failing hfailing
    refine ⟨hhandoff, hI.consumed, fun command hsome hneutral => ?_, fun command hsome hkind => ?_⟩
    · obtain ⟨hactive, hdown⟩ := hI.queued command hsome hneutral
      exact ⟨hactive.trans (hdown hfailing), fun hfail => by cases hfail⟩
    · rcases hsome with hsome | hsome
      · have hneutral : command.kind.neutral = true := by rw [hkind]; rfl
        have hup := hI.keyframe command (.inl hsome) hkind
        rw [(hI.queued command hsome hneutral).2 hfailing] at hup
        cases hup
      · have hsome : s.handoff.awaiting = some command := hsome
        rw [hawaiting] at hsome
        cases hsome

end

theorem NeutralInv.load (cfg : PluginConfig) (input : LoadInput) :
    NeutralInv (State.load cfg input).handoff where
  handoff := .load cfg input
  consumed _ _ hmem := by cases hmem
  queued _ hsome := by cases hsome
  keyframe _ hsome := hsome.elim (fun h => by cases h) fun h => by cases h

/-- **Configurations and keyframe requests are neutral** in every run whose admissions satisfy the
condition. -/
theorem neutral_on_live_stream {cfg : PluginConfig} {s : PluginState}
    (h : (pluginMachine cfg).ReachableUnder (Pool.Obeys NeutralAdmission) s) :
    Neutral s.shared := by
  have hI : NeutralInv s.shared.handoff :=
    handoff_invariant (NeutralInv.load cfg) (fun _ _ _ hD hmove hI => hI.step hD hmove) h
  exact ⟨fun command demand hmem => hI.consumed command demand (mem_handoff_log hmem rfl),
    fun command hawaiting => hI.keyframe command (.inr hawaiting)⟩

/-! ## runs -/

/-- the stream runs, and a keyframe request is consumed -/
def keyframeRun : List PluginAction :=
  startRun ++ runCall .executor (mutationCall "request-keyframe" "b") 8 ++
    runCall .render (postRenderCall 3) 20

theorem neutral_on_live_stream_keyframeRun :
    let s := ((pluginMachine .sample).run .sample keyframeRun).shared
    Neutral s ∧ s.nat.awaitingNativeControl.map (·.kind) = some .requestKeyframe :=
  ⟨neutral_on_live_stream
    ((PluginState.sample_reachable _).run keyframeRun (by decide +kernel)), by decide +kernel⟩

/-- the stream runs, a stop is withdrawn at its deadline, and a keyframe request is consumed -/
def withdrawnStopRun : List PluginAction :=
  startRun ++ runCall .executor (mutationCall "stop" "b") 8 ++
    runCall .executor (flushCall 10) 24 ++
    runCall .executor (mutationCall "request-keyframe" "c") 8 ++
    runCall .render (postRenderCall 3) 20

/-- the keyframe request of `withdrawnStopRun` stops the stream and waits for a frame -/
theorem not_neutral :
    (pluginMachine .sample).Reachable ((pluginMachine .sample).run .sample withdrawnStopRun) ∧
      ¬ Neutral ((pluginMachine .sample).run .sample withdrawnStopRun).shared := by
  refine ⟨Machine.Reachable.run (PluginState.sample_reachable _) withdrawnStopRun, fun h => ?_⟩
  have hdown : ((pluginMachine .sample).run .sample withdrawnStopRun).shared.nat.desiredActive =
      false := by decide +kernel
  obtain ⟨command, hawaiting, hkind⟩ :
      ∃ command, ((pluginMachine .sample).run .sample
        withdrawnStopRun).shared.nat.awaitingNativeControl = some command ∧
          command.kind = .requestKeyframe :=
    Option.map_eq_some_iff.mp (show Option.map _ _ = some _ by decide +kernel)
  rw [h.awaiting command hawaiting hkind] at hdown
  cases hdown

end MediaCamera
