import MediaCamera.Plugin.Activation
import MediaCamera.Machine.Rely

/-!
# No dormant frame after a reactivation

A disabled sensor keeps its last render target, and shows it once more when it is enabled again.

* `GatePhase`, `phase`   where a history stands between two activations;
* `Lawful`               after a disabling pass the first callback with demand is rejected, the
                         encoder is destroyed, and no frame is submitted before a callback with
                         another source time;
* `Undisturbed`          the two windows in which the other thread must not move;
* `Inv`                  while the sensor is dormant, whoever has set a flag has armed the gate;
* `reactivation_lawful`  the runs that keep out of the windows are lawful.
-/

namespace MediaCamera

inductive GatePhase where
  | awake
  /-- the sensor was disabled; no callback with demand has come since -/
  | dormant
  /-- a callback of this time was rejected -/
  | rejected (sourceTimeNanoseconds : Int)
  /-- a callback of this time was rejected, and the encoder destroyed -/
  | stale (sourceTimeNanoseconds : Int)
  deriving DecidableEq, Repr

def GatePhase.next : GatePhase → GateEvent → GatePhase
  | _, .deactivated => .dormant
  | _, .observed .discardAndReset time => .rejected time
  | _, .observed .accept _ => .awake
  | .rejected time, .destroyed => .stale time
  | phase, _ => phase

def phase : List GateEvent → GatePhase
  | [] => .awake
  | event :: older => (phase older).next event

def GatePhase.Allows : GatePhase → GateEvent → Prop
  | .dormant, .observed decision _ => decision = .discardAndReset
  | .rejected _, .observed _ _ => False
  | .stale old, .observed decision time => decision = .accept → time ≠ old
  | phase, .submitted _ => phase = .awake
  | _, _ => True

instance : ∀ phase event, Decidable (GatePhase.Allows phase event) := by
  intro phase event
  unfold GatePhase.Allows
  split <;> infer_instance

def Lawful : List GateEvent → Prop := Justified fun event older => (phase older).Allows event

instance : DecidablePred Lawful := fun log => inferInstanceAs (Decidable (Justified _ log))

theorem Lawful.cons {event : GateEvent} {older : List GateEvent}
    (hallows : (phase older).Allows event) (h : Lawful older) : Lawful (event :: older) :=
  ⟨hallows, h⟩

theorem GatePhase.allows_deactivated (phase : GatePhase) : phase.Allows .deactivated := by
  cases phase <;> trivial

theorem GatePhase.allows_destroyed (phase : GatePhase) : phase.Allows .destroyed := by
  cases phase <;> trivial

namespace Activation

/-- the gate has not seen the last request -/
def armed (s : Activation) : Prop :=
  s.rosFreshRenderGate.observedGeneration < s.rosFreshRenderGeneration

instance (s : Activation) : Decidable s.armed := inferInstanceAs (Decidable (_ < _))

def dormant (s : Activation) : Prop := phase s.log = .dormant

instance (s : Activation) : Decidable s.dormant := inferInstanceAs (Decidable (_ = _))

/-- no pass disables the sensor while `OnROSSubscriberConnected` stands between its decision about
the gate and the end of the connection; `OnROSSubscriberConnected` does not end while
`ApplyNativeControl` stands between setting `desiredActive_` and its decision.  In both windows an
armed gate does no harm. -/
def Undisturbed : ActivationLabel → Activation → Prop
  | .endPass, s => s.lowered = true → s.desiredActive = false →
      s.rosConsumersActive = true ∨ s.activating = true → s.armed
  | .activate, s => s.dormant → s.starting = true → s.armed
  | .step, _ => True

instance : ∀ l s, Decidable (Undisturbed l s)
  | .endPass, _ => inferInstanceAs (Decidable (_ → _ → _ → _))
  | .activate, _ => inferInstanceAs (Decidable (_ → _ → _))
  | .step, _ => .isTrue trivial

structure Inv (s : Activation) : Prop where
  lawful : Lawful s.log
  observed_le : s.rosFreshRenderGate.observedGeneration ≤ s.rosFreshRenderGeneration
  floor : ∀ time, phase s.log = .rejected time ∨ phase s.log = .stale time →
    s.rosFreshRenderGate.sourceTimeFloorNanoseconds = some time
  desired : s.dormant → s.desiredActive = true → s.starting = false → s.armed
  consumers : s.dormant → s.rosConsumersActive = true → s.armed
  activating : s.dormant → s.activating = true → s.starting = true ∨ s.armed

/-! ## what the threads rely on -/

structure RenderRely (s s' : Activation) : Prop where
  desired : s'.desiredActive = s.desiredActive
  gate : s'.rosFreshRenderGate = s.rosFreshRenderGate
  starting : s'.starting = s.starting
  lowered : s'.lowered = s.lowered
  log : s'.log = s.log
  generation : s.rosFreshRenderGeneration ≤ s'.rosFreshRenderGeneration

def CallbackRely (s s' : Activation) : Prop := s'.activating = s.activating

def contract : ActivationThread → Contract Inv Undisturbed
  | .render =>
    { rely := RenderRely
      guar _ := CallbackRely
      rely_refl _ := ⟨rfl, rfl, rfl, rfl, rfl, le_rfl⟩
      rely_trans h h' := ⟨h'.1.trans h.1, h'.2.trans h.2, h'.3.trans h.3, h'.4.trans h.4,
        h'.5.trans h.5, h.6.trans h'.6⟩ }
  | .callback =>
    { rely := CallbackRely
      guar _ := RenderRely
      rely_refl _ := rfl
      rely_trans h h' := h'.trans h }
  | .executor | .registration =>
    { rely _ _ := True
      guar _ s s' := RenderRely s s' ∧ CallbackRely s s'
      rely_refl _ := trivial
      rely_trans _ _ := trivial }

section
variable {s s' : Activation} {α : Type}

open Contract

/-! ## steps that keep the invariant -/

theorem armed.mono (h : s.armed) (hgate : s'.rosFreshRenderGate = s.rosFreshRenderGate)
    (hgeneration : s.rosFreshRenderGeneration ≤ s'.rosFreshRenderGeneration) : s'.armed := by
  unfold armed at *
  rw [hgate]
  omega

theorem Inv.keep (h : Inv s) (hlog : s'.log = s.log)
    (hgate : s'.rosFreshRenderGate = s.rosFreshRenderGate)
    (hgeneration : s.rosFreshRenderGeneration ≤ s'.rosFreshRenderGeneration)
    (hdesired : s.dormant → s'.desiredActive = true → s'.starting = false →
      (s.desiredActive = true ∧ s.starting = false) ∨ s'.armed)
    (hconsumers : s.dormant → s'.rosConsumersActive = true →
      s.rosConsumersActive = true ∨ s'.armed)
    (hactivating : s.dormant → s'.activating = true →
      (s.activating = true ∧ (s.starting = true → s'.starting = true)) ∨ s'.starting = true ∨
        s'.armed) : Inv s' := by
  have hdormant : s'.dormant → s.dormant := by
    unfold dormant
    rw [hlog]
    exact id
  refine ⟨by rw [hlog]; exact h.lawful, by rw [hgate]; exact h.observed_le.trans hgeneration, ?_,
    fun hd hdes hst => ?_, fun hd hc => ?_, fun hd ha => ?_⟩
  · rw [hlog, hgate]
    exact h.floor
  · rcases hdesired (hdormant hd) hdes hst with ⟨h1, h2⟩ | harmed
    · exact (h.desired (hdormant hd) h1 h2).mono hgate hgeneration
    · exact harmed
  · rcases hconsumers (hdormant hd) hc with h1 | harmed
    · exact (h.consumers (hdormant hd) h1).mono hgate hgeneration
    · exact harmed
  · rcases hactivating (hdormant hd) ha with ⟨h1, h2⟩ | harmed
    · rcases h.activating (hdormant hd) h1 with hst | harmed
      · exact .inl (h2 hst)
      · exact .inr (harmed.mono hgate hgeneration)
    · exact harmed

/-- a step about neither demand nor freshness -/
structure Quiet (s s' : Activation) : Prop where
  desired : s'.desiredActive = s.desiredActive
  consumers : s'.rosConsumersActive = s.rosConsumersActive
  generation : s'.rosFreshRenderGeneration = s.rosFreshRenderGeneration
  gate : s'.rosFreshRenderGate = s.rosFreshRenderGate
  starting : s'.starting = s.starting
  activating : s'.activating = s.activating
  log : s'.log = s.log

theorem Quiet.refl (s : Activation) : Quiet s s := ⟨rfl, rfl, rfl, rfl, rfl, rfl, rfl⟩

theorem Quiet.inv (hs : Quiet s s') (h : Inv s) : Inv s' :=
  h.keep hs.log hs.gate hs.generation.ge
    (fun _ hd hst => .inl ⟨hs.desired ▸ hd, hs.starting ▸ hst⟩)
    (fun _ hc => .inl (hs.consumers ▸ hc))
    (fun _ ha => .inl ⟨hs.activating ▸ ha, fun hst => hs.starting.trans hst⟩)

/-! ## the executor and the registration -/

/-- a step that takes consumers away, or concerns neither flag -/
def SideStep (s s' : Activation) : Prop :=
  RenderRely s s' ∧ CallbackRely s s' ∧
    (s'.rosConsumersActive = true → s.rosConsumersActive = true)

theorem SideStep.inv (hs : SideStep s s') (h : Inv s) : Inv s' :=
  h.keep hs.1.log hs.1.gate hs.1.generation
    (fun _ hd hst => .inl ⟨hs.1.desired ▸ hd, hs.1.starting ▸ hst⟩) (fun _ hc => .inl (hs.2.2 hc))
    (fun _ ha => .inl ⟨hs.2.1 ▸ ha, fun hst => hs.1.starting.trans hst⟩)

theorem executor_triple {f : Activation → Activation} (hf : ∀ s, SideStep s (f s)) :
    (contract .executor).Triple (fun _ => True) (write f) fun _ _ => True :=
  .atomic .true (fun _ => .true) fun s hI _ _ =>
    ⟨(hf s).inv hI, ⟨(hf s).1, (hf s).2.1⟩, trivial⟩

theorem registration_triple {f : Activation → Activation} (hf : ∀ s, SideStep s (f s)) :
    (contract .registration).Triple (fun _ => True) (write f) fun _ _ => True :=
  .atomic .true (fun _ => .true) fun s hI _ _ =>
    ⟨(hf s).inv hI, ⟨(hf s).1, (hf s).2.1⟩, trivial⟩

/-! ## the callback thread -/

theorem stable_activating (b : Bool) : (contract .callback).Stable (·.activating = b) :=
  .of_eq (fun _ _ h => h) (· = b)

theorem onROSSubscriberConnected_triple :
    (contract .callback).Triple (fun _ => True) onROSSubscriberConnected
      fun _ _ => True := by
  have hcount : (contract .callback).Triple (fun _ => True) (access connected)
      fun _ _ => True := by
    refine .atomic .true (fun _ => .true) fun s hI _ _ => ?_
    have hq : Quiet s s.connected.1 := by
      unfold connected
      split
      · exact ⟨rfl, rfl, rfl, rfl, rfl, rfl, rfl⟩
      · exact .refl s
    have hlowered : s.connected.1.lowered = s.lowered := by
      unfold connected
      split <;> rfl
    exact ⟨hq.inv hI, ⟨hq.desired, hq.gate, hq.starting, hlowered, hq.log, hq.generation.ge⟩,
      trivial⟩
  refine .bind hcount fun first => .ite (fun _ => ?_) fun _ => .skip
  have hlook : (contract .callback).Triple (fun _ => True)
      (access fun s => ({ s with activating := s.desiredActive }, s.desiredActive))
      fun desired s => s.activating = desired := by
    refine .atomic .true (fun b => stable_activating b) fun s hI _ _ => ⟨?_, ?_, rfl⟩
    · refine hI.keep rfl rfl le_rfl (fun _ hd hst => .inl ⟨hd, hst⟩) (fun _ => .inl)
        fun hdorm (hd : s.desiredActive = true) => .inr ?_
      by_cases hst : s.starting = true
      · exact .inl hst
      · exact .inr (hI.desired hdorm hd (by simpa using hst))
    · exact ⟨rfl, rfl, rfl, rfl, rfl, le_rfl⟩
  refine .bind hlook fun desired => ?_
  have hactivate : (contract .callback).Triple (·.activating = true)
      (Prog.atomic .activate fun s => (s.activateConsumers, ())) fun _ _ => True := by
    refine .atomic (stable_activating true) (fun _ => .true) fun s hI ha hC => ⟨?_, ?_, trivial⟩
    · refine hI.keep rfl rfl le_rfl (fun _ hd hst => .inl ⟨hd, hst⟩) (fun hdorm hc => ?_) nofun
      rcases hI.activating hdorm ha with hst | harmed
      · exact .inr (hC hdorm hst)
      · exact .inr harmed
    · exact ⟨rfl, rfl, rfl, rfl, rfl, le_rfl⟩
  cases desired with
  | true => exact hactivate
  | false =>
    refine .bind (Q := fun _ s => s.activating = true) ?_ fun _ => hactivate
    refine .atomic (stable_activating false) (fun _ => stable_activating true)
      fun s hI _ _ => ⟨?_, ⟨rfl, rfl, rfl, rfl, rfl, Nat.le_succ _⟩, rfl⟩
    have harmed : s.armConsumer.armed := Nat.lt_succ_of_le hI.observed_le
    exact hI.keep rfl rfl (Nat.le_succ _) (fun _ _ _ => .inr harmed) (fun _ _ => .inr harmed)
      fun _ _ => .inr (.inr harmed)

theorem onROSSubscriberDisconnected_triple :
    (contract .callback).Triple (fun _ => True) onROSSubscriberDisconnected
      fun _ _ => True := by
  refine .atomic .true (fun _ => .true) fun s hI _ _ => ?_
  show Inv s.disconnected ∧ RenderRely s s.disconnected ∧ True
  unfold disconnected
  split
  · refine ⟨hI.keep rfl rfl le_rfl (fun _ hd hst => .inl ⟨hd, hst⟩) (fun _ hc => .inl ?_)
      (fun _ ha => .inl ⟨ha, id⟩), ⟨rfl, rfl, rfl, rfl, rfl, le_rfl⟩, trivial⟩
    simp only [Bool.and_eq_true] at hc
    exact hc.1
  · exact ⟨hI, ⟨rfl, rfl, rfl, rfl, rfl, le_rfl⟩, trivial⟩

/-! ## the render thread: demand -/

/-- the render thread between two calls: no start is undecided, and no rejected encoder is left -/
structure Rest (s : Activation) : Prop where
  starting : s.starting = false
  destroyed : ∀ time, phase s.log ≠ .rejected time

theorem stable_render {τ : Type} {v : Activation → τ} (hv : ∀ s s', RenderRely s s' → v s' = v s)
    (P : τ → Prop) : (contract .render).Stable fun s => P (v s) :=
  .of_eq hv P

theorem stable_destroyed :
    (contract .render).Stable fun s => ∀ time, phase s.log ≠ .rejected time :=
  stable_render (fun _ _ h => h.log) fun log => ∀ time, phase log ≠ .rejected time

theorem stable_rest : (contract .render).Stable Rest := by
  intro s s' hr _ hP
  refine ⟨hr.starting.trans hP.starting, ?_⟩
  rw [hr.log]
  exact hP.destroyed

abbrev Quietly {α : Type} (p : Thread α) : Prop := p.Within fun _ => Quiet

theorem quiet_rest {p : Thread α} (hp : Quietly p) :
    (contract .render).Triple Rest p fun _ => Rest :=
  hp.triple (fun _ _ _ hs hI => hs.inv hI) (fun _ _ _ hs => hs.activating) stable_rest
    fun _ _ _ hs hP => ⟨hs.starting.trans hP.starting, by rw [hs.log]; exact hP.destroyed⟩

theorem quietly_read {f : Activation → α} : Quietly (read f) := .atomic fun s => .refl s

theorem quietly_write {f : Activation → Activation} (hf : ∀ s, Quiet s (f s)) :
    Quietly (write f) := .atomic hf

theorem quietly_setActive (active : Bool) : Quietly (write (setActive active)) :=
  quietly_write fun _ => ⟨rfl, rfl, rfl, rfl, rfl, rfl, rfl⟩

theorem quietly_await (command : Option NativeControlCommand) :
    Quietly (write fun s => { s with awaitingNativeControl := command }) :=
  quietly_write fun _ => ⟨rfl, rfl, rfl, rfl, rfl, rfl, rfl⟩

theorem completeNativeStopIfDrained_quietly (input : PassInput) :
    Quietly (completeNativeStopIfDrained input) := by
  refine .bind quietly_read fun awaiting => ?_
  cases awaiting with
  | none => exact .ret _
  | some command =>
    have hdrained : Quietly (drained input) :=
      .ite (.ret _) (.bind quietly_read fun _ => .ite (.ret _) quietly_read)
    refine .ite (.bind hdrained fun _ => .ite ?_ (.ret _)) (.ret _)
    refine .bind quietly_read fun _ => .ite ?_ (quietly_await none)
    exact .ite (.bind (quietly_setActive false) fun _ => quietly_await none) (quietly_await none)

theorem wantsEncode_quietly : Quietly wantsEncode :=
  .bind quietly_read fun _ => .ite (.ret _) quietly_read

theorem finishCommand_quietly (input : PassInput) (command : NativeControlCommand) :
    Quietly (finishCommand input command) := by
  have hdemand : Quietly (demandAfter input command) :=
    .ite (.ret _) (.bind quietly_read fun _ => .ite (.ret _) (.ret _))
  exact .bind hdemand fun demand => .bind (quietly_setActive demand) fun _ =>
    .ite (quietly_await _) (.ret _)

theorem driveSensor_quietly (input : PassInput) (shouldEncode : Bool) :
    Quietly (driveSensor input shouldEncode) := by
  refine .ite (quietly_setActive true)
    (.bind quietly_read fun _ => .ite ?_ (quietly_setActive false))
  exact .bind (quietly_write fun _ => ⟨rfl, rfl, rfl, rfl, rfl, rfl, rfl⟩)
    fun _ => quietly_setActive true

theorem driveDemand_quietly (input : PassInput) (shouldEncode : Bool) :
    Quietly (driveDemand input shouldEncode) :=
  .ite (.ite (quietly_setActive true) (.ret _))
    (.ite (driveSensor_quietly input shouldEncode) (.ret _))

/-- the render thread inside `ApplyNativeControl`: whether a start is undecided -/
structure Deciding (starting : Bool) (s : Activation) : Prop where
  starting : s.starting = starting
  destroyed : ∀ time, phase s.log ≠ .rejected time

theorem stable_deciding (starting : Bool) : (contract .render).Stable (Deciding starting) :=
  fun s s' hr hI hP => ⟨hr.starting.trans hP.starting, stable_destroyed s s' hr hI hP.destroyed⟩

theorem exchange_triple (command : NativeControlCommand) :
    (contract .render).Triple Rest (access fun s => (s.exchange command, s.desiredActive))
      fun oldActive => Deciding (command.active && !oldActive) := by
  refine .atomic stable_rest (fun _ => stable_deciding _)
    fun s hI hP _ => ⟨?_, rfl, rfl, hP.destroyed⟩
  refine hI.keep rfl rfl le_rfl (fun _ (ha : command.active = true) hst => .inl ?_) (fun _ => .inl)
    fun hdorm ha => .inl ⟨ha, fun hst => ?_⟩
  · have hold : (command.active && !s.desiredActive) = false := hst
    rw [ha] at hold
    exact ⟨by simpa using hold, hP.starting⟩
  · rw [hP.starting] at hst
    cases hst

/-- with consumers the gate is armed already -/
theorem checkConsumers_triple :
    (contract .render).Triple (Deciding true) (access checkConsumers)
      fun consumers => Deciding (!consumers) := by
  refine .atomic (stable_deciding true) (fun _ => stable_deciding _)
    fun s hI hP _ => ⟨?_, rfl, rfl, hP.destroyed⟩
  have harmed : s.dormant → s.rosConsumersActive = true → s.checkConsumers.1.armed :=
    fun hd hc => hI.consumers hd hc
  cases hc : s.rosConsumersActive with
  | true =>
    exact hI.keep rfl rfl le_rfl (fun hd _ _ => .inr (harmed hd hc)) (fun _ => .inl)
      fun hd _ => .inr (.inr (harmed hd hc))
  | false =>
    have hst : s.checkConsumers.1.starting = true := by simp [checkConsumers, hc]
    refine hI.keep rfl rfl le_rfl (fun _ _ h => ?_) (fun _ => .inl) fun _ _ => .inr (.inl hst)
    rw [hst] at h
    cases h

theorem armStart_triple :
    (contract .render).Triple (Deciding true) (write armStart) fun _ => Rest := by
  refine .atomic (stable_deciding true) (fun _ => stable_rest)
    fun s hI hP _ => ⟨?_, rfl, rfl, hP.destroyed⟩
  have harmed : s.armStart.armed := Nat.lt_succ_of_le hI.observed_le
  exact hI.keep rfl rfl (Nat.le_succ _) (fun _ _ _ => .inr harmed) (fun _ _ => .inr harmed)
    fun _ _ => .inr (.inr harmed)

theorem Deciding.rest (h : Deciding false s) : Rest s := ⟨h.starting, h.destroyed⟩

/-- a start decides about the gate before the sensor is enabled -/
theorem applyCommand_triple (input : PassInput) (command : NativeControlCommand) :
    (contract .render).Triple Rest (applyCommand input command) fun _ => Rest := by
  refine .bind (exchange_triple command) fun oldActive => ?_
  have hlast : (contract .render).Triple Rest (finishCommand input command) fun _ => Rest :=
    quiet_rest (finishCommand_quietly input command)
  cases hstart : command.active && !oldActive with
  | false => exact hlast.pre fun _ => Deciding.rest
  | true =>
    refine .bind checkConsumers_triple fun consumers => ?_
    cases consumers with
    | true => exact hlast.pre fun _ => Deciding.rest
    | false => exact .bind armStart_triple fun _ => hlast

theorem applyNativeControl_triple (input : PassInput) :
    (contract .render).Triple Rest (applyNativeControl input) fun _ => Rest := by
  have hskip : (contract .render).Triple Rest (pure ()) fun _ => Rest :=
    .ret stable_rest fun _ _ h => h
  refine .ite (fun _ => .bind (quiet_rest quietly_read) fun command => ?_) fun _ => hskip
  cases command with
  | none => exact hskip
  | some command => exact .ite (fun _ => applyCommand_triple input command) fun _ => hskip

/-- at the end of a disabling pass the sensor is dormant, and nobody relies on an old decision -/
theorem endPass_triple :
    (contract .render).Triple Rest (Prog.atomic .endPass fun s => (s.endPass, ()))
      fun _ => Rest := by
  refine .atomic stable_rest (fun _ => stable_rest) fun s hI hP hC => ?_
  by_cases hdown : s.lowered = true ∧ s.desiredActive = false
  · have hlog : s.endPass.log = .deactivated :: s.log := by simp [endPass, hdown.1, hdown.2]
    have hphase : phase s.endPass.log = .dormant := by rw [hlog]; rfl
    have harmed : s.rosConsumersActive = true ∨ s.activating = true → s.armed :=
      hC hdown.1 hdown.2
    refine ⟨⟨?_, hI.observed_le, ?_, fun _ hd _ => ?_, fun _ hc => harmed (.inl hc),
      fun _ ha => .inr (harmed (.inr ha))⟩, rfl, hP.starting, ?_⟩
    · rw [hlog]
      exact .cons (GatePhase.allows_deactivated _) hI.lawful
    · rw [hphase]
      rintro time (h | h) <;> cases h
    · have hd' : s.desiredActive = true := hd
      rw [hdown.2] at hd'
      cases hd'
    · rw [hphase]
      intro time h
      cases h
  · have hq : Quiet s s.endPass := by
      refine ⟨rfl, rfl, rfl, rfl, rfl, rfl, ?_⟩
      have : (s.lowered && !s.desiredActive) = false := by
        cases hl : s.lowered <;> cases hd : s.desiredActive <;> simp_all
      simp [endPass, this]
    exact ⟨hq.inv hI, rfl, hP.starting, by rw [hq.log]; exact hP.destroyed⟩

theorem onPostRender_triple (input : PassInput) :
    (contract .render).Triple Rest (onPostRender input) fun _ => Rest := by
  refine .bind (applyNativeControl_triple input) fun _ => ?_
  refine .bind (quiet_rest (completeNativeStopIfDrained_quietly input)) fun _ => ?_
  refine .bind (quiet_rest wantsEncode_quietly) fun shouldEncode => ?_
  exact .bind (quiet_rest (driveDemand_quietly input shouldEncode)) fun _ => endPass_triple

/-! ## the render thread: frames -/

/-- between two accesses of a callback whose frame may be encoded -/
structure Awake (s : Activation) : Prop where
  starting : s.starting = false
  awake : phase s.log = .awake

theorem Awake.rest (h : Awake s) : Rest s :=
  ⟨h.starting, fun _ hr => by rw [h.awake] at hr; cases hr⟩

theorem stable_awake : (contract .render).Stable Awake := by
  intro s s' hr _ hP
  refine ⟨hr.starting.trans hP.starting, ?_⟩
  rw [hr.log]
  exact hP.awake

/-- a callback with demand: a dormant sensor has an armed gate -/
structure Demanded (s : Activation) : Prop where
  rest : Rest s
  armed : s.dormant → s.armed

theorem stable_demanded : (contract .render).Stable Demanded := by
  intro s s' hr hI hP
  refine ⟨stable_rest s s' hr hI hP.rest, fun hd => ?_⟩
  unfold dormant at hd
  rw [hr.log] at hd
  exact (hP.armed hd).mono hr.gate hr.generation

structure Asking (generation : Nat) (s : Activation) : Prop where
  rest : Rest s
  loaded : generation ≤ s.rosFreshRenderGeneration
  armed : s.dormant → s.rosFreshRenderGate.observedGeneration < generation

theorem stable_asking (generation : Nat) : (contract .render).Stable (Asking generation) := by
  intro s s' hr hI hP
  refine ⟨stable_rest s s' hr hI hP.rest, hP.loaded.trans hr.generation, ?_⟩
  unfold dormant
  rw [hr.log, hr.gate]
  exact hP.armed

def Answered (decision : FreshRenderDecision) (s : Activation) : Prop :=
  s.starting = false ∧
    match decision with
    | .accept => phase s.log = .awake
    | .discardAndReset => True
    | .waitForSourceTimeChange => ∀ time, phase s.log ≠ .rejected time

theorem stable_answered (decision : FreshRenderDecision) :
    (contract .render).Stable (Answered decision) := by
  intro s s' hr _ hP
  unfold Answered at *
  rw [hr.starting, hr.log]
  exact hP

theorem wantsEncode_triple :
    (contract .render).Triple Rest wantsEncode fun shouldEncode s =>
      Rest s ∧ (shouldEncode = true → s.dormant → s.armed) := by
  have hstable : ∀ b : Bool, (contract .render).Stable fun s : Activation =>
      Rest s ∧ (b = true → s.dormant → s.armed) := by
    intro b s s' hr hI hP
    refine ⟨stable_rest s s' hr hI hP.1, fun hb => ?_⟩
    exact (stable_demanded s s' hr hI ⟨hP.1, hP.2 hb⟩).armed
  have hread : ∀ f : Activation → Bool, (∀ s, Inv s → Rest s → f s = true → s.dormant → s.armed) →
      (contract .render).Triple Rest (read f) fun b s =>
        Rest s ∧ (b = true → s.dormant → s.armed) :=
    fun f hf => .atomic stable_rest hstable fun s hI hP _ => ⟨hI, rfl, hP, hf s hI hP⟩
  refine .bind (hread (·.desiredActive) fun s hI hP hd hdorm => hI.desired hdorm hd hP.starting)
    fun desired => ?_
  cases desired with
  | true => exact .ret (hstable true) fun _ _ h => h
  | false =>
    exact (hread (·.rosConsumersActive) fun s hI _ hc hdorm => hI.consumers hdorm hc).pre
      fun _ h => h.1

theorem destroyed_phase (log : List GateEvent) :
    (∀ time, phase (.destroyed :: log) ≠ .rejected time) ∧
      (phase (.destroyed :: log) = .dormant → phase log = .dormant) ∧
      (∀ time, phase (.destroyed :: log) = .stale time →
        phase log = .rejected time ∨ phase log = .stale time) ∧
      (phase log = .awake → phase (.destroyed :: log) = .awake) := by
  show (∀ time, (phase log).next .destroyed ≠ _) ∧ ((phase log).next .destroyed = _ → _) ∧
    (∀ time, (phase log).next .destroyed = _ → _) ∧ (_ → (phase log).next .destroyed = _)
  cases phase log <;> simp [GatePhase.next]

theorem destroyEncoder_step (hI : Inv s) :
    Inv { s with encoderResourcesActive := false, log := .destroyed :: s.log } := by
  obtain ⟨hrejected, hdormant, hstale, -⟩ := destroyed_phase s.log
  refine ⟨.cons (GatePhase.allows_destroyed _) hI.lawful, hI.observed_le, ?_,
    fun hd => hI.desired (hdormant hd), fun hd => hI.consumers (hdormant hd),
    fun hd => hI.activating (hdormant hd)⟩
  rintro time (h | h)
  · exact absurd h (hrejected time)
  · exact hI.floor time (hstale time h)

theorem destroyEncoder_triple {P : Activation → Prop} (hP : (contract .render).Stable P)
    (hstarting : ∀ s, P s → s.starting = false) :
    (contract .render).Triple P destroyEncoder fun _ => Rest :=
  .atomic hP (fun _ => stable_rest) fun s hI hs _ =>
    ⟨destroyEncoder_step hI, rfl, hstarting s hs, (destroyed_phase s.log).1⟩

theorem destroyEncoder_awake :
    (contract .render).Triple Awake destroyEncoder fun _ => Awake :=
  .atomic stable_awake (fun _ => stable_awake) fun s hI hs _ =>
    ⟨destroyEncoder_step hI, rfl, hs.starting, (destroyed_phase s.log).2.2.2 hs.awake⟩

theorem observe_cases (gate : FreshRenderGate) (generation : Nat) (time : Int) :
    (generation ≠ gate.observedGeneration ∧
      gate.observe generation time = (⟨generation, some time⟩, .discardAndReset)) ∨
    (generation = gate.observedGeneration ∧ gate.sourceTimeFloorNanoseconds = some time ∧
      gate.observe generation time = (gate, .waitForSourceTimeChange)) ∨
    (generation = gate.observedGeneration ∧ gate.sourceTimeFloorNanoseconds ≠ some time ∧
      (gate.observe generation time).1.observedGeneration = gate.observedGeneration ∧
      (gate.observe generation time).2 = .accept) := by
  unfold FreshRenderGate.observe
  by_cases hg : generation = gate.observedGeneration
  · rw [if_neg (not_not.mpr hg)]
    cases hf : gate.sourceTimeFloorNanoseconds with
    | none => exact .inr (.inr ⟨hg, nofun, rfl, rfl⟩)
    | some floor =>
      by_cases ht : time = floor
      · subst ht
        exact .inr (.inl ⟨hg, rfl, if_pos rfl⟩)
      · refine .inr (.inr ⟨hg, fun h => ht (Option.some.inj h).symm, ?_⟩)
        simp only [if_neg ht, and_self]
  · rw [if_pos hg]
    exact .inl ⟨hg, rfl⟩

/-- the gate's answer is lawful, and leaves the rest of the invariant as it was -/
theorem observe_step {generation : Nat} {time : Int} (hI : Inv s) (hP : Asking generation s) :
    Inv (s.observe generation time).1 ∧
      Answered (s.observe generation time).2 (s.observe generation time).1 := by
  have hawake : s.dormant → generation ≠ s.rosFreshRenderGate.observedGeneration :=
    fun hd => (hP.armed hd).ne'
  unfold Activation.observe
  rcases observe_cases s.rosFreshRenderGate generation time with
    ⟨-, e⟩ | ⟨hg, hfloor, e⟩ | ⟨hg, hfloor, hgate, hdecision⟩
  · simp only [e]
    refine ⟨⟨.cons ?_ hI.lawful, hP.loaded, ?_, nofun, nofun, nofun⟩, hP.rest.starting, trivial⟩
    · cases hphase : phase s.log with
      | rejected old => exact absurd hphase (hP.rest.destroyed old)
      | dormant => exact rfl
      | stale old => exact nofun
      | awake => trivial
    · rintro old (h | h) <;> cases h
      rfl
  · simp only [e]
    refine ⟨⟨.cons ?_ hI.lawful, hI.observed_le, hI.floor, hI.desired, hI.consumers, hI.activating⟩,
      hP.rest.starting, hP.rest.destroyed⟩
    cases hphase : phase s.log with
    | rejected old => exact absurd hphase (hP.rest.destroyed old)
    | dormant => exact absurd hg (hawake hphase)
    | stale old => exact nofun
    | awake => trivial
  · simp only [hdecision]
    refine ⟨⟨.cons ?_ hI.lawful, hgate.le.trans hI.observed_le, ?_, nofun, nofun, nofun⟩,
      hP.rest.starting, rfl⟩
    · cases hphase : phase s.log with
      | rejected old => exact absurd hphase (hP.rest.destroyed old)
      | dormant => exact absurd hg (hawake hphase)
      | stale old =>
        rintro - rfl
        exact hfloor (hI.floor time (.inr hphase))
      | awake => trivial
    · rintro old (h | h) <;> cases h

/-- a fresh frame has passed the gate; a rejected one has destroyed the encoder -/
theorem rosRenderIsFresh_triple (time : Int) :
    (contract .render).Triple Demanded (rosRenderIsFreshForCurrentActivation time)
      fun fresh s => if fresh then Awake s else Rest s := by
  have hpost : ∀ fresh : Bool, (contract .render).Stable fun s =>
      if fresh then Awake s else Rest s := by
    intro fresh
    cases fresh
    · exact stable_rest
    · exact stable_awake
  have hload : (contract .render).Triple Demanded (read (·.rosFreshRenderGeneration)) Asking :=
    .atomic stable_demanded stable_asking
      fun s hI hP _ => ⟨hI, rfl, hP.rest, le_rfl, fun hd => hP.armed hd⟩
  have hobserve : ∀ generation, (contract .render).Triple (Asking generation)
      (access (observe generation time)) Answered := fun generation =>
    .atomic (stable_asking generation) stable_answered fun s hI hP _ =>
      ⟨(observe_step hI hP).1, rfl, (observe_step hI hP).2⟩
  refine .bind hload fun generation => .bind (hobserve generation) fun decision => ?_
  cases decision with
  | accept => exact .ret (stable_answered _) fun _ _ h => ⟨h.1, h.2⟩
  | waitForSourceTimeChange => exact .ret (stable_answered _) fun _ _ h => ⟨h.1, h.2⟩
  | discardAndReset =>
    exact .bind (destroyEncoder_triple (stable_answered _) fun _ h => h.1)
      fun _ => .ret stable_rest fun _ _ h => h

theorem return_awake {α : Type} (a : α) :
    (contract .render).Triple Awake (pure a) fun _ => Awake :=
  .ret stable_awake fun _ _ h => h

theorem submitFrame_triple (input : FrameInput) :
    (contract .render).Triple Awake (submitFrame input) fun _ => Awake := by
  have hsubmit : (contract .render).Triple Awake (write fun s => { s with
      log := .submitted input.sourceTimeNanoseconds :: s.log }) fun _ => Awake := by
    refine .atomic stable_awake (fun _ => stable_awake) fun s hI hP _ => ⟨?_, rfl, hP.starting, ?_⟩
    · have hphase : phase (.submitted input.sourceTimeNanoseconds :: s.log) = .awake := by
        show (phase s.log).next _ = _
        rw [hP.awake]
        rfl
      refine ⟨.cons (by rw [hP.awake]; rfl) hI.lawful, hI.observed_le, ?_, ?_, ?_, ?_⟩
      · rintro time (h | h) <;> rw [hphase] at h <;> cases h
      all_goals
        intro h
        exact absurd (hphase.symm.trans h) nofun
    · show (phase s.log).next _ = _
      rw [hP.awake]
      rfl
  refine .ite (fun _ => .bind hsubmit fun _ => ?_) fun _ => return_awake false
  exact .ite (fun _ => .bind destroyEncoder_awake fun _ => return_awake false)
    fun _ => return_awake _

theorem ensureEncoder_triple (session : SessionSetup) :
    (contract .render).Triple Awake (ensureEncoder session) fun _ => Awake := by
  cases session with
  | fits => exact return_awake true
  | created =>
    have hcreate : (contract .render).Triple Awake
        (write fun s => { s with encoderResourcesActive := true }) fun _ => Awake :=
      .atomic stable_awake (fun _ => stable_awake) fun s hI hP _ =>
        ⟨Quiet.inv (s := s) ⟨rfl, rfl, rfl, rfl, rfl, rfl, rfl⟩ hI, rfl, hP.starting, hP.awake⟩
    exact .bind destroyEncoder_awake fun _ => .bind hcreate fun _ => return_awake true
  | failed destroys =>
    refine .bind destroyEncoder_awake fun _ => .ite (fun _ => ?_) fun _ => return_awake false
    exact .bind destroyEncoder_awake fun _ => return_awake false

theorem encodeRenderedFrame_triple (input : FrameInput) :
    (contract .render).Triple Awake (encodeRenderedFrame input) fun _ => Rest := by
  have hobserved : (contract .render).Triple Awake (encodeObserved input) fun _ => Awake :=
    .bind (ensureEncoder_triple input.session) fun _ =>
      .ite (fun _ => submitFrame_triple input) fun _ => return_awake false
  refine .post (Q := fun _ => Awake) (.ite (fun _ => ?_) fun _ => return_awake false)
    fun _ _ h => h.rest
  exact .ite (fun _ => .bind destroyEncoder_awake fun _ => hobserved) fun _ => hobserved

theorem failNativeEncoderTransition_triple :
    (contract .render).Triple Rest failNativeEncoderTransition fun _ => Rest := by
  have hskip : (contract .render).Triple Rest (pure ()) fun _ => Rest :=
    .ret stable_rest fun _ _ h => h
  have hwithdraw : (contract .render).Triple Rest
      (write fun s => { s with awaitingNativeControl := none, desiredActive := false })
      fun _ => Rest := by
    refine .atomic stable_rest (fun _ => stable_rest)
      fun s hI hP _ => ⟨?_, rfl, hP.starting, hP.destroyed⟩
    exact hI.keep rfl rfl le_rfl (fun _ => nofun) (fun _ => .inl) fun _ ha => .inl ⟨ha, id⟩
  refine .bind (quiet_rest quietly_read) fun awaiting => ?_
  cases awaiting with
  | none => exact hskip
  | some command =>
    refine .ite (fun _ => .bind hwithdraw fun _ => ?_) fun _ => hskip
    exact destroyEncoder_triple stable_rest fun _ h => h.starting

theorem encodeForDemand_triple (input : FrameInput) :
    (contract .render).Triple Demanded (encodeForDemand input) fun _ => Rest := by
  have hskip : (contract .render).Triple Rest (pure ()) fun _ => Rest :=
    .ret stable_rest fun _ _ h => h
  refine .bind (rosRenderIsFresh_triple input.sourceTimeNanoseconds) fun fresh => ?_
  cases fresh with
  | false => exact hskip
  | true =>
    refine .bind (encodeRenderedFrame_triple input) fun encoded => ?_
    refine .ite (fun _ => failNativeEncoderTransition_triple) fun _ => ?_
    refine .bind (quiet_rest quietly_read) fun awaiting => ?_
    cases awaiting with
    | none => exact hskip
    | some command => exact .ite (fun _ => quiet_rest (quietly_await none)) fun _ => hskip

theorem postRenderTargetUpdate_triple (input : FrameInput) :
    (contract .render).Triple Rest (postRenderTargetUpdate input) fun _ => Rest := by
  refine .bind wantsEncode_triple fun shouldEncode => ?_
  have hstable : (contract .render).Stable fun s =>
      Rest s ∧ (shouldEncode = true → s.dormant → s.armed) := fun s s' hr hI hP =>
    ⟨stable_rest s s' hr hI hP.1,
      fun hb => (stable_demanded s s' hr hI ⟨hP.1, hP.2 hb⟩).armed⟩
  have hcleanup : (contract .render).Triple
      (fun s => Rest s ∧ (shouldEncode = true → s.dormant → s.armed))
      (access fun s => ({ s with cleanupEncoderRequested := false }, s.cleanupEncoderRequested))
      fun _ s => Rest s ∧ (shouldEncode = true → s.dormant → s.armed) :=
    .atomic hstable (fun _ => hstable) fun s hI hP _ =>
      ⟨Quiet.inv (s := s) ⟨rfl, rfl, rfl, rfl, rfl, rfl, rfl⟩ hI, rfl,
        ⟨hP.1.starting, hP.1.destroyed⟩, hP.2⟩
  refine .bind hcleanup fun cleanup => .ite (fun _ => ?_) fun _ => .ite (fun hshould => ?_)
    fun _ => ?_
  · exact (destroyEncoder_triple stable_rest fun _ h => h.starting).pre fun _ h => h.1
  · exact (encodeForDemand_triple input).pre fun _ h => ⟨h.1, h.2 hshould⟩
  · exact .ret hstable fun _ _ h => h.1

end

/-! ## all threads -/

/-- where a thread stands between two calls -/
def idle : ActivationThread → Activation → Prop
  | .render => Rest
  | .executor | .callback | .registration => fun _ => True

theorem body_triple : ∀ t c, (contract t).Triple (idle t) (body t c) fun _ => idle t
  | .executor, _ => executor_triple fun _ => ⟨⟨rfl, rfl, rfl, rfl, rfl, le_rfl⟩, rfl, id⟩
  | .render, .postRender input => onPostRender_triple input
  | .render, .renderTarget input => postRenderTargetUpdate_triple input
  | .callback, .connect => onROSSubscriberConnected_triple
  | .callback, .disconnect => onROSSubscriberDisconnected_triple
  | .registration, .open =>
    registration_triple fun _ => ⟨⟨rfl, rfl, rfl, rfl, rfl, le_rfl⟩, rfl, id⟩
  | .registration, .close =>
    registration_triple fun _ => ⟨⟨rfl, rfl, rfl, rfl, rfl, le_rfl⟩, rfl, nofun⟩

def verified : activationPool.Verified Inv Undisturbed where
  contract := contract
  idle := idle
  init := by
    rintro s rfl
    refine ⟨⟨trivial, le_rfl, ?_, nofun, nofun, nofun⟩, ?_⟩
    · rintro time (h | h) <;> cases h
    · rintro (_ | _ | _ | _)
      · trivial
      · exact ⟨rfl, nofun⟩
      · trivial
      · trivial
  stable
    | .render => stable_rest
    | .executor | .callback | .registration => .true
  body := body_triple
  rely := by
    intro t t' hne l s s' hG
    cases t <;> cases t' <;>
      first
        | exact absurd rfl hne
        | trivial
        | exact hG
        | exact hG.1
        | exact hG.2

end Activation

/-- **No dormant frame after a reactivation.**  In every run that keeps out of the two windows, the
first callback with demand after a disabling pass is rejected, with the old encoder destroyed, and
no frame is submitted before a callback with another source time. -/
theorem reactivation_lawful {s : PoolState Activation ActivationLabel ActivationThread}
    (h : activationPool.machine.ReachableUnder (Pool.Obeys Activation.Undisturbed) s) :
    Lawful s.shared.log :=
  (Activation.verified.safe h).1.lawful

namespace Activation

abbrev Action := PoolAction ActivationThread Call

def runCall (t : ActivationThread) (c : Call t) (n : Nat) : List Action :=
  .start t c :: List.replicate n (.step t)

def command (kind : ControlKind) (active : Bool) : NativeControlCommand :=
  ⟨1, active, 90, false, none, kind⟩

/-- nothing holds the pass up, and no snapshot waits -/
def pass : RenderCall := .postRender ⟨true, true, false, true, true, false, false, false⟩

/-- a frame that is encoded, in a new session, if the gate lets it pass -/
def frame (time : Int) : RenderCall :=
  .renderTarget ⟨time, false, true, false, .created, true, false, true⟩

def initial : PoolState Activation ActivationLabel ActivationThread := ⟨load, fun _ => .ret ()⟩

theorem initial_reachable
    (C : PoolState Activation ActivationLabel ActivationThread → Action → Prop) :
    activationPool.machine.ReachableUnder C initial := .start ⟨rfl, rfl⟩

/-- a stream runs and is stopped; the sensor keeps the frame of time 2 -/
def stopped : List Action :=
  runCall .registration .open 1 ++ runCall .executor (some (command .start true)) 1 ++
    runCall .render pass 12 ++ runCall .render (frame 1) 5 ++ runCall .render (frame 2) 12 ++
    runCall .executor (some (command .stop false)) 1 ++ runCall .render pass 20 ++
    runCall .render (frame 2) 6 ++ runCall .render pass 20

/-- a subscriber comes, and the sensor is enabled again -/
def resumed : List Action :=
  stopped ++ runCall .callback .connect 4 ++ runCall .render pass 20 ++
    runCall .render (frame 2) 12 ++ runCall .render (frame 2) 12 ++ runCall .render (frame 3) 12

theorem resumed_undisturbed :
    activationPool.machine.Along (Pool.Obeys Undisturbed) initial resumed := by
  decide +kernel

end Activation

/-- the subscriber's first frame is rejected, its second one waits, and its third one is encoded -/
theorem reactivation_lawful_resumed :
    let s := activationPool.machine.run Activation.initial Activation.resumed
    s.shared.log.take 7 = [.submitted 3, .destroyed, .observed .accept 3,
      .observed .waitForSourceTimeChange 2, .destroyed, .observed .discardAndReset 2,
      .deactivated] ∧ Lawful s.shared.log := by
  have hreach : activationPool.machine.ReachableUnder (Pool.Obeys Activation.Undisturbed)
      (activationPool.machine.run Activation.initial Activation.resumed) :=
    (Activation.initial_reachable _).run _ Activation.resumed_undisturbed
  have hlog : (activationPool.machine.run Activation.initial Activation.resumed).shared.log.take 7 =
      [.submitted 3, .destroyed, .observed .accept 3, .observed .waitForSourceTimeChange 2,
        .destroyed, .observed .discardAndReset 2, .deactivated] := by decide +kernel
  generalize activationPool.machine.run Activation.initial Activation.resumed = s at hreach hlog
  exact ⟨hlog, reactivation_lawful hreach⟩

namespace Activation

/-- a start is consumed; the first subscriber comes before the start decides about the gate, and
each leaves the gate to the other -/
def crossed : List Action :=
  stopped ++ runCall .executor (some (command .start true)) 1 ++ runCall .render pass 2 ++
    runCall .callback .connect 4 ++ List.replicate 20 (.step .render) ++ runCall .render (frame 2) 12

end Activation

/-- the frame that the sensor kept is encoded again -/
theorem dormant_encoded : ¬ ∀ s, activationPool.machine.Reachable s → Lawful s.shared.log := by
  intro h
  have hreach : activationPool.machine.Reachable
      (activationPool.machine.run Activation.initial Activation.crossed) :=
    Machine.Reachable.run (Activation.initial_reachable _) _
  have hnot : ¬ Lawful (activationPool.machine.run Activation.initial
      Activation.crossed).shared.log := by decide +kernel
  generalize activationPool.machine.run Activation.initial Activation.crossed = s at hreach hnot
  exact hnot (h s hreach)

end MediaCamera
