import MediaCamera.Plugin.Neutral

/-!
# The reported lifecycle state

The executor stores `starting` or `stopping` with the admission of a start or a stop; the render
thread stores the outcome.  A start or a stop that is given up before it is consumed leaves the
admission's value behind (`not_truthful`).

* `Truthful`              the state is idle, active or faulted, and active iff the native side is;
* `GivesUp`, `KeepsDrive` the action that gives a mutation up, and the condition on it;
* `LifecycleInv`          without a start or a stop under way the state is truthful;
* `Unconsumed`            while a mutation waits for its consumption, the state is its admission's;
* `lifecycle_truthful`    the property, for every run that gives up no start and no stop.
-/

namespace MediaCamera

/-! ## the property -/

/-- the state is idle, active or faulted, and active exactly when the native side is -/
structure Native.Truthful (n : Native) : Prop where
  settled : n.nativeLifecycleState = .idle ∨ n.nativeLifecycleState = .active ∨
    n.nativeLifecycleState = .faulted
  active : n.nativeLifecycleState = .active ↔ n.nativeAppliedActive = true

def AdmitsMutation (cfg : PluginConfig) (s : PluginState) (a : PluginAction)
    (pending : PendingControl) : Prop :=
  s.shared.ctl.pendingControl = none ∧
    ((pluginMachine cfg).step s a).shared.ctl.pendingControl = some pending

/-- the action ends the mutation while its command waits for consumption -/
def GivesUp (cfg : PluginConfig) (s : PluginState) (a : PluginAction) (pending : PendingControl) :
    Prop :=
  s.shared.ctl.pendingControl = some pending ∧
    s.shared.nat.nativeCommand.map (·.revision) = some pending.revision ∧
    ((pluginMachine cfg).step s a).shared.ctl.pendingControl = none

instance GivesUp.decidable (cfg : PluginConfig) (s : PluginState) (a : PluginAction)
    (pending : PendingControl) : Decidable (GivesUp cfg s a pending) := inferInstanceAs (Decidable (_ ∧ _ ∧ _))

/-! ## the condition -/

/-- no start and no stop is given up -/
def KeepsDrive (cfg : PluginConfig) (s : PluginState) (a : PluginAction) : Prop :=
  ∀ pending ∈ s.shared.ctl.pendingControl, GivesUp cfg s a pending →
    pending.operation.neutral = true

instance KeepsDrive.decidable (cfg : PluginConfig) (s : PluginState) (a : PluginAction) :
    Decidable (KeepsDrive cfg s a) :=
  inferInstanceAs (Decidable (∀ pending ∈ s.shared.ctl.pendingControl, _ → _))

/-! ## the invariant -/

/-- no start and no stop is queued or awaited -/
def Native.Steady (n : Native) : Prop :=
  ∀ command, n.nativeCommand = some command ∨ n.awaitingNativeControl = some command →
    command.kind.neutral = true

/-- without a start or a stop under way, and outside the failure routine, the state is truthful -/
def LifecycleInv (s : State) : Prop := s.nat.faulting = false → s.nat.Steady → s.nat.Truthful

section
variable {cfg : PluginConfig} {t : ThreadName} {l : Label} {s s' : State}

theorem LifecycleInv.keep (h : LifecycleInv s)
    (hcommand : s'.nat.nativeCommand = s.nat.nativeCommand)
    (hawaiting : s'.nat.awaitingNativeControl = s.nat.awaitingNativeControl)
    (hstate : s'.nat.nativeLifecycleState = s.nat.nativeLifecycleState)
    (hactive : s'.nat.nativeAppliedActive = s.nat.nativeAppliedActive)
    (hfaulting : s'.nat.faulting = s.nat.faulting) : LifecycleInv s' := by
  intro hoff hsteady
  have hsteady : s.nat.Steady := by
    intro command hc
    rw [← hcommand, ← hawaiting] at hc
    exact hsteady command hc
  obtain ⟨hset, hact⟩ := h (hfaulting ▸ hoff) hsteady
  exact ⟨by rw [hstate]; exact hset, by rw [hstate, hactive]; exact hact⟩

theorem LifecycleInv.executorStep (h : LifecycleInv s) (hI : HandoffInv s.handoff)
    (hs : ExecutorStep cfg l s s')
    (hkeeps : ∀ pending, s.ctl.pendingControl = some pending →
      s.nat.nativeCommand.map (·.revision) = some pending.revision →
      s'.ctl.pendingControl = none → pending.operation.neutral = true) : LifecycleInv s' := by
  cases hs with
  | @admission _ handle kind request desired _ hnone =>
    intro hoff hsteady
    have hneutral : kind.neutral = true := hsteady _ (.inl rfl)
    have hstate : admittedLifecycle s.nat.nativeLifecycleState kind =
        s.nat.nativeLifecycleState := by
      cases kind <;> first | rfl | cases hneutral
    obtain ⟨hcommand, hawaiting⟩ := hI.free hnone
    have hsteady : s.nat.Steady := by
      rintro command (hc | hc)
      · cases hcommand.symm.trans hc
      · cases hawaiting.symm.trans hc
    obtain ⟨hset, hact⟩ := h hoff hsteady
    rw [← hstate] at hset hact
    exact ⟨hset, hact⟩
  | @expirePending _ pending hpending hcommand =>
    intro hoff hsteady
    have hsteady : s.nat.Steady := by
      rintro command (hc | hc)
      · obtain ⟨pending', hpending', _, hmatch, _⟩ := hI.queued hc
        obtain rfl : pending = pending' := Option.some.inj (hpending.symm.trans hpending')
        rw [hmatch.kind]
        exact hkeeps pending hpending hcommand rfl
      · exact hsteady command (.inr hc)
    obtain ⟨hset, hact⟩ := h hoff hsteady
    exact ⟨hset, hact⟩
  | _ => exact h.keep rfl rfl rfl rfl rfl

theorem LifecycleInv.of_awaiting {command : NativeControlCommand}
    (hawaiting : s.nat.awaitingNativeControl = some command)
    (hkind : command.kind.neutral = false) : LifecycleInv s := by
  intro _ hsteady
  rw [hsteady command (.inr hawaiting)] at hkind
  cases hkind

theorem LifecycleInv.renderStep (h : LifecycleInv s) (hI : HandoffInv s.handoff)
    (hs : RenderStep cfg l s s') : LifecycleInv s' := by
  cases hs with
  | rest hr =>
    cases hr with
    | @storeApplied _ command active hawaiting hkind =>
      refine LifecycleInv.of_awaiting hawaiting (?_ : command.kind.neutral = false)
      rcases hkind with ⟨hk, _⟩ | ⟨hk, _⟩ <;> rw [hk] <;> rfl
    | @storeState _ command state hawaiting hkind =>
      refine LifecycleInv.of_awaiting hawaiting (?_ : command.kind.neutral = false)
      rcases hkind with ⟨hk, _⟩ | ⟨hk, _⟩ <;> rw [hk] <;> rfl
    | faultActive hfaulting =>
      intro hoff
      rw [hfaulting] at hoff
      cases hoff
    | _ => exact h.keep rfl rfl rfl rfl rfl
  | faultState _ hactive =>
    intro _ _
    exact ⟨.inr (.inr rfl), by simp [State.fault, hactive]⟩
  | @applyConfiguration _ command time hcommand hkind =>
    intro hoff hsteady
    obtain ⟨hset, hact⟩ := h hoff (by
      rintro c (hc | hc)
      · obtain rfl := Option.some.inj (hcommand.symm.trans hc)
        rw [hkind]
        rfl
      · exact hsteady c (.inr hc))
    exact ⟨hset, hact⟩
  | @applyCommand _ command hcommand =>
    intro hoff hsteady
    obtain ⟨_, _, _, _, hawaiting, _⟩ := hI.queued hcommand
    obtain ⟨hset, hact⟩ := h hoff (by
      rintro c (hc | hc)
      · obtain rfl := Option.some.inj (hcommand.symm.trans hc)
        exact hsteady command (.inr rfl)
      · cases hawaiting.symm.trans hc)
    exact ⟨hset, hact⟩
  | @acknowledge _ command hawaiting hstored =>
    intro hoff hsteady
    have hcommand : s.nat.nativeCommand = none := by
      obtain ⟨_, _, _, _, hnone, _⟩ := hI.awaits hawaiting
      exact hnone
    by_cases hneutral : command.kind.neutral = true
    · obtain ⟨hset, hact⟩ := h hoff (by
        rintro c (hc | hc)
        · cases hcommand.symm.trans hc
        · obtain rfl := Option.some.inj (hawaiting.symm.trans hc)
          exact hneutral)
      exact ⟨hset, hact⟩
    · cases hkind : command.kind with
      | start =>
        obtain ⟨hactive, hstate⟩ := hstored.start hkind
        exact ⟨.inr (.inl hstate), fun _ => hactive, fun _ => hstate⟩
      | stop =>
        obtain ⟨hactive, hstate⟩ := hstored.stop hkind
        exact ⟨.inl hstate, fun he => (by cases he.symm.trans hstate),
          fun he => (by cases he.symm.trans hactive)⟩
      | config | requestKeyframe => simp [hkind, ControlKind.neutral] at hneutral
  | failNative => exact fun hoff => (by cases hoff)
  | _ => exact h.keep rfl rfl rfl rfl rfl

theorem LifecycleInv.otherStep (h : LifecycleInv s) (hs : OtherStep cfg l s s') :
    LifecycleInv s' := by
  cases hs with
  | pacer hs => cases hs <;> exact h.keep rfl rfl rfl rfl rfl
  | worker hs => cases hs <;> exact h.keep rfl rfl rfl rfl rfl
  | rosSide side => exact h.keep rfl rfl rfl rfl rfl
  | hostSide side =>
    obtain ⟨reserved, elsewhere, e⟩ := hostSide_eq side s
    rw [e]
    exact h.keep rfl rfl rfl rfl rfl

theorem LifecycleInv.step (h : LifecycleInv s) (hI : HandoffInv s.handoff)
    (hs : ThreadStep cfg t l s s')
    (hkeeps : ∀ pending, s.ctl.pendingControl = some pending →
      s.nat.nativeCommand.map (·.revision) = some pending.revision →
      s'.ctl.pendingControl = none → pending.operation.neutral = true) : LifecycleInv s' := by
  rcases hs.kinds with hs | hs | hs
  · exact h.executorStep hI hs hkeeps
  · exact h.renderStep hI hs
  · exact h.otherStep hs

/-! ## an unconsumed mutation -/

/-- the mutation waits for its consumption, and the lifecycle state is `state` -/
structure Unconsumed (pending : PendingControl) (state : LifecycleState) (s : State) : Prop where
  slot : s.ctl.pendingControl = some pending
  queued : s.nat.nativeCommand.map (·.revision) = some pending.revision
  lifecycle : s.nat.nativeLifecycleState = state
  outside : s.nat.faulting = false

variable {pending : PendingControl} {state : LifecycleState}

theorem Unconsumed.keep (h : Unconsumed pending state s)
    (hpending : s'.ctl.pendingControl = s.ctl.pendingControl)
    (hcommand : s'.nat.nativeCommand = s.nat.nativeCommand)
    (hstate : s'.nat.nativeLifecycleState = s.nat.nativeLifecycleState)
    (hfaulting : s'.nat.faulting = s.nat.faulting) : Unconsumed pending state s' :=
  ⟨hpending.trans h.slot, by rw [hcommand]; exact h.queued, hstate.trans h.lifecycle,
    hfaulting.trans h.outside⟩

theorem queued_mutation (hI : HandoffInv s.handoff) (hpending : s.ctl.pendingControl = some pending)
    (hqueued : s.nat.nativeCommand.map (·.revision) = some pending.revision) :
    ∃ command, s.nat.nativeCommand = some command ∧ command.revision = pending.revision ∧
      s.nat.awaitingNativeControl = none ∧ OnlyAdmitted s.handoff.log pending.revision := by
  obtain ⟨command, hcommand, hrevision⟩ := Option.map_eq_some_iff.mp hqueued
  obtain ⟨pending', hpending', _, _, hawaiting, honly⟩ := hI.queued hcommand
  obtain rfl : pending = pending' := Option.some.inj (hpending.symm.trans hpending')
  exact ⟨command, hcommand, hrevision, hawaiting, honly⟩

theorem only_admitted (hI : HandoffInv s.handoff) (hpending : s.ctl.pendingControl = some pending)
    (hqueued : s.nat.nativeCommand.map (·.revision) = some pending.revision) {e : Event}
    (he : e ∈ s.log) (hmutation : e.mutation? = some pending.revision) :
    ∃ reply kind, e = .admitted reply kind pending.revision := by
  obtain ⟨_, _, _, _, honly⟩ := queued_mutation hI hpending hqueued
  exact honly e (mem_handoff_log he (by rw [Event.ofMutation, hmutation]; rfl)) hmutation

theorem Unconsumed.step (h : Unconsumed pending state s) (hI : HandoffInv s.handoff)
    (hs : ThreadStep cfg t l s s') :
    Unconsumed pending state s' ∨ ∃ e ∈ s'.log, e.mutation? = some pending.revision ∧
      ∀ reply kind, e ≠ .admitted reply kind pending.revision := by
  obtain ⟨command, hcommand, hrevision, hawaiting, _⟩ := queued_mutation hI h.slot h.queued
  have hpending : ∀ {other}, s.ctl.pendingControl = some other → other = pending := fun hother =>
    Option.some.inj (hother.symm.trans h.slot)
  have hconsumed : ∀ {other}, s.nat.nativeCommand = some other → other.revision = pending.revision :=
    fun hother => (Option.some.inj (hother.symm.trans hcommand)) ▸ hrevision
  rcases hs.kinds with hs | hs | hs
  · cases hs with
    | admission _ hnone => cases hnone.symm.trans h.slot
    | failPending hother | expirePending hother =>
      obtain rfl := hpending hother
      exact .inr ⟨.recorded (some _) _, List.mem_cons_of_mem _ (List.mem_cons_self ..), rfl,
        fun _ _ he => (by cases he)⟩
    | completePending _ hother =>
      obtain rfl := hpending hother
      exact .inr ⟨.recorded (some _) _, List.mem_cons_self .., rfl, fun _ _ he => (by cases he)⟩
    | _ => exact .inl (h.keep rfl rfl rfl rfl)
  · cases hs with
    | rest hr =>
      cases hr with
      | storeState _ hother => cases hawaiting.symm.trans hother
      | _ => exact .inl (h.keep rfl rfl rfl rfl)
    | faultState hfaulting => cases hfaulting.symm.trans h.outside
    | @applyConfiguration _ other time hother =>
      exact .inr ⟨.consumed other ⟨s.nat.desiredActive, other.active⟩,
        List.mem_cons_of_mem _ (List.mem_cons_self ..), congrArg some (hconsumed hother),
        fun _ _ he => (by cases he)⟩
    | @applyCommand _ other hother =>
      exact .inr ⟨.consumed other ⟨s.nat.desiredActive, other.active⟩, List.mem_cons_self ..,
        congrArg some (hconsumed hother), fun _ _ he => (by cases he)⟩
    | acknowledge hother | failNative hother => cases hawaiting.symm.trans hother
    | _ => exact .inl (h.keep rfl rfl rfl rfl)
  · cases hs with
    | pacer hs => cases hs <;> exact .inl (h.keep rfl rfl rfl rfl)
    | worker hs => cases hs <;> exact .inl (h.keep rfl rfl rfl rfl)
    | rosSide side => exact .inl (h.keep rfl rfl rfl rfl)
    | hostSide side =>
      obtain ⟨reserved, elsewhere, e⟩ := hostSide_eq side s
      rw [e]
      exact .inl (h.keep rfl rfl rfl rfl)

theorem ThreadStep.admits (hs : ThreadStep cfg t l s s') (hnone : s.ctl.pendingControl = none)
    (hpending : s'.ctl.pendingControl = some pending) (hneutral : pending.operation.neutral = true)
    (houtside : s.nat.faulting = false) :
    Unconsumed pending s.nat.nativeLifecycleState s' := by
  by_cases ht : t = .executor
  · subst ht
    have hs : ExecutorStep cfg l s s' := hs
    cases hs with
    | @admission _ handle kind request desired =>
      obtain rfl := Option.some.inj hpending
      refine ⟨rfl, rfl, ?_, houtside⟩
      show admittedLifecycle s.nat.nativeLifecycleState kind = _
      cases kind <;> first | rfl | cases hneutral
    | failPending | completePending | expirePending => cases hpending
    | _ => cases hnone.symm.trans hpending
  · rw [(hs.executorRely ht).ctl] at hpending
    cases hnone.symm.trans hpending

theorem ThreadStep.ends (hs : ThreadStep cfg t l s s') (hpending : s.ctl.pendingControl ≠ none)
    (hnone : s'.ctl.pendingControl = none) :
    s'.nat.nativeLifecycleState = s.nat.nativeLifecycleState := by
  by_cases ht : t = .executor
  · subst ht
    have hs : ExecutorStep cfg l s s' := hs
    cases hs with
    | admission _ hother => exact absurd hother hpending
    | _ => rfl
  · rw [(hs.executorRely ht).ctl] at hnone
    exact absurd hnone hpending

end

/-! ## runs -/

section
variable {cfg : PluginConfig}

theorem Unconsumed.run {s : PluginState} {pending : PendingControl} {state : LifecycleState}
    (h : (pluginMachine cfg).Reachable s) (hs : Unconsumed pending state s.shared)
    (as : List PluginAction) :
    Unconsumed pending state ((pluginMachine cfg).run s as).shared ∨
      ∃ e ∈ ((pluginMachine cfg).run s as).shared.log, e.mutation? = some pending.revision ∧
        ∀ reply kind, e ≠ .admitted reply kind pending.revision := by
  induction as generalizing s with
  | nil => exact .inl hs
  | cons a as ih =>
    rw [Machine.run_cons]
    rcases plugin_step h a with hsame | ⟨t, l, rfl, _, hstep⟩
    · exact ih (h.next a) (hsame ▸ hs)
    · rcases hs.step (plugin_books h).handoff hstep with hs | ⟨e, he, hmutation, hnot⟩
      · exact ih (h.next _) hs
      · obtain ⟨new, hlog⟩ := log_run (h.next (.step t)) as
        exact .inr ⟨e, by rw [hlog]; exact List.mem_append_right _ he, hmutation, hnot⟩

theorem lifecycleInv {s : PluginState} (h : (pluginMachine cfg).ReachableUnder (KeepsDrive cfg) s) :
    LifecycleInv s.shared := by
  refine plugin_invariant_under (J := LifecycleInv) (fun input _ _ => ?_) ?_ h
  · exact ⟨.inl rfl, fun he => (by cases he), fun he => (by cases he)⟩
  · intro s a t l hbooks hkeeps hs hI
    exact hI.step hbooks.handoff hs fun pending hpending hcommand hnone =>
      hkeeps pending hpending ⟨hpending, hcommand, hnone⟩

/-- **The reported lifecycle state is truthful** in every run that gives up no start and no stop,
and what is given up leaves it alone. -/
theorem lifecycle_truthful {s : PluginState}
    (h : (pluginMachine cfg).ReachableUnder (KeepsDrive cfg) s) :
    (s.shared.ctl.pendingControl = none → s.shared.nat.faulting = false → s.shared.nat.Truthful) ∧
      ∀ a as b pending, AdmitsMutation cfg s a pending → s.shared.nat.faulting = false →
        let before := (pluginMachine cfg).run ((pluginMachine cfg).step s a) as
        KeepsDrive cfg before b → GivesUp cfg before b pending →
        ((pluginMachine cfg).step before b).shared.nat.nativeLifecycleState =
          s.shared.nat.nativeLifecycleState := by
  refine ⟨fun hnone hoff => ?_, fun a as b pending ⟨hnone, hadmitted⟩ hoff => ?_⟩
  · have hI : HandoffInv s.shared.handoff := (plugin_books h).handoff
    obtain ⟨hcommand, hawaiting⟩ := hI.free hnone
    refine (lifecycleInv h) hoff ?_
    rintro command (hc | hc)
    · cases hcommand.symm.trans hc
    · cases hawaiting.symm.trans hc
  · intro before hkeeps hgives
    have hneutral : pending.operation.neutral = true := hkeeps pending hgives.1 hgives
    have hbefore : (pluginMachine cfg).Reachable before := (h.reachable.next a).run as
    have hunconsumed : Unconsumed pending s.shared.nat.nativeLifecycleState
        ((pluginMachine cfg).step s a).shared := by
      rcases plugin_step h.reachable a with hsame | ⟨t, l, _, _, hs⟩
      · rw [hsame, hnone] at hadmitted
        cases hadmitted
      · exact hs.admits hnone hadmitted hneutral hoff
    have hrun : Unconsumed pending s.shared.nat.nativeLifecycleState before.shared := by
      rcases hunconsumed.run (h.reachable.next a) as with hrun | ⟨e, he, hmutation, hnot⟩
      · exact hrun
      · obtain ⟨reply, kind, hadmission⟩ :=
          only_admitted (plugin_books hbefore).handoff hgives.1 hgives.2.1 he hmutation
        exact absurd hadmission (hnot reply kind)
    refine Eq.trans ?_ hrun.lifecycle
    rcases plugin_step hbefore b with hsame | ⟨t, l, _, _, hs⟩
    · rw [hsame]
    · exact hs.ends (by simp [hgives.1]) hgives.2.2

end

/-- a start is given up before it is consumed -/
def givenUpStartRun : List PluginAction :=
  runCall .executor (mutationCall "start" "a") 8 ++ runCall .executor (flushCall 10) 24

/-- a configuration that the next step admits -/
def configRun : List PluginAction :=
  runCall .executor (configCall "a" 1 [("jpeg_quality", .number (.int 80))]) 3

/-- the configuration of `configRun` is given up, and the stream stays idle -/
theorem lifecycle_truthful_configRun :
    let s := (pluginMachine .sample).run .sample configRun
    let before := (pluginMachine .sample).run ((pluginMachine .sample).step s (.step .executor))
      (runCall .executor (flushCall 10) 3)
    s.shared.nat.Truthful ∧
      ((pluginMachine .sample).step before (.step .executor)).shared.nat.nativeLifecycleState =
        s.shared.nat.nativeLifecycleState := by
  have hreach : (pluginMachine .sample).ReachableUnder (KeepsDrive .sample)
      ((pluginMachine .sample).run .sample configRun) :=
    (PluginState.sample_reachable _).run configRun (by decide +kernel)
  obtain ⟨htruthful, hgiven⟩ := lifecycle_truthful hreach
  refine ⟨htruthful (by decide +kernel) (by decide +kernel), ?_⟩
  refine hgiven (.step .executor) (runCall .executor (flushCall 10) 3) (.step .executor)
    ⟨0, "a", .config, 10, 2, false⟩ ⟨?_, ?_⟩ ?_ ?_ ?_ <;> decide +kernel

/-- nothing is in progress, and the state is `starting` -/
theorem not_truthful :
    let s := (pluginMachine .sample).run .sample givenUpStartRun
    (pluginMachine .sample).Reachable s ∧ s.shared.ctl.pendingControl = none ∧
      s.shared.nat.faulting = false ∧ ¬ s.shared.nat.Truthful := by
  refine ⟨Machine.Reachable.run (PluginState.sample_reachable _) _, by decide +kernel,
    by decide +kernel, fun h => ?_⟩
  have hstate : ((pluginMachine .sample).run .sample
      givenUpStartRun).shared.nat.nativeLifecycleState = .starting := by decide +kernel
  have hset := h.settled
  rw [hstate] at hset
  simp at hset

end MediaCamera
