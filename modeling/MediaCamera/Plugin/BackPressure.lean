import MediaCamera.Plugin.Outcome

/-!
# Back-pressure and encoder failures

A start, a keyframe request and a capture's keyframe should fail, and the lifecycle and the encoder
go with them, only where the texture, GL or NVENC path failed after their demand.
`SendH264AccessUnit` returns false as well when the pacer's queue refuses an access unit, and
`FailNativeEncoderTransition` cannot tell the difference (`back_pressure_fails`).

`PressureKept` is the condition on a step under which no refusal meets a demand, and
`failures_encoder_caused` proves every failure caused by the encoder in the runs whose steps satisfy
it.  The invariant follows the latest mark of the render callback (`State.mark`) and what the
present callback has recorded (`presentEvents`).
-/

namespace MediaCamera

/-! ## the property -/

/-- after a demand, the encoder failed -/
def FailedSince (log : List Event) (demand : Event → Prop) : Prop :=
  ∃ after e before, log = after ++ e :: before ∧ demand e ∧ .encoderFailed ∈ after

/-- the present callback has refused no access unit -/
def Unrefused (log : List Event) : Prop := .refused ∉ presentEvents log

/-- `ApplyNativeControl` consumed the mutation -/
def Event.Consumes (revision : Nat) (e : Event) : Prop :=
  ∃ command demand, e = .consumed command demand ∧ command.revision = revision

/-- a demand fails, the lifecycle is faulted and a session is destroyed in callbacks that refused
nothing; the failure follows one of the encoder after the demand, and faults in its own callback -/
def Event.EncoderCaused : Event → List Event → Prop
  | .nativeFailed revision, older =>
    FailedSince older (Event.Consumes revision) ∧ Unrefused older
  | .keyframeFailed generation, older =>
    FailedSince older (· = .keyframeDemanded generation) ∧ Unrefused older
  | .faulted revision, older => .nativeFailed revision ∈ presentEvents older ∧ Unrefused older
  | .destroyed _, older => Unrefused older
  | _, _ => True

/-- the event stores a lifecycle state that it names -/
def Event.drivesLifecycle : Event → Bool
  | .admitted _ kind _ => kind == .start || kind == .stop
  | .faulted _ => true
  | _ => false

structure EncoderCaused (s : State) : Prop where
  causes : ∀ newer e older, s.log = newer ++ e :: older → e.EncoderCaused older
  /-- a faulted lifecycle was faulted after the latest start and stop were admitted -/
  faulted : s.nat.nativeLifecycleState = .faulted →
    ∃ revision, s.log.find? (·.drivesLifecycle) = some (.faulted revision)
  /-- a session that is gone was destroyed -/
  destroyed : ∀ index, 0 < index → index ≤ s.enc.sessions →
    s.enc.session.map (·.index) = some index ∨ .destroyed index ∈ s.log

/-! ## the condition -/

/-- the command fails with the encoder -/
def NativeControlCommand.encodes (command : NativeControlCommand) : Bool :=
  command.kind == .start || command.kind == .requestKeyframe

/-- no access unit is refused while a start or a keyframe is awaited, and no capture demands a
keyframe between a failure and `FailNativeEncoderTransition` -/
def PressureKept (cfg : PluginConfig) : Label → State → Prop
  | .enqueueRTP packets keyframe, s =>
    (RtpQueue.refusal cfg.pacingBitrate s.rtp packets keyframe).isSome = true →
      (∀ command ∈ s.nat.awaitingNativeControl, command.encodes = false) ∧ s.cap.pending = 0
  | .demandKeyframe, s => s.failureOpen = false
  | _, _ => True

instance PressureKept.decidable (cfg : PluginConfig) (l : Label) (s : State) :
    Decidable (PressureKept cfg l s) := by
  apply Label.casesOn (motive := fun l => Decidable (PressureKept cfg l s)) l
  all_goals
    intros
    dsimp only [PressureKept]
    infer_instance

/-! ## the invariant -/

theorem FailedSince.cons {log : List Event} {demand : Event → Prop} (h : FailedSince log demand)
    (e : Event) : FailedSince (e :: log) demand := by
  obtain ⟨after, d, before, rfl, hd, hfailed⟩ := h
  exact ⟨e :: after, d, before, rfl, hd, List.mem_cons_of_mem _ hfailed⟩

theorem FailedSince.append {log : List Event} {demand : Event → Prop} (h : FailedSince log demand)
    (new : List Event) : FailedSince (new ++ log) demand := by
  induction new with
  | nil => exact h
  | cons e new ih => exact ih.cons e

theorem FailedSince.now {log : List Event} {demand : Event → Prop} {e : Event} (he : e ∈ log)
    (hd : demand e) : FailedSince (.encoderFailed :: log) demand := by
  obtain ⟨after, before, rfl⟩ := List.append_of_mem he
  exact ⟨.encoderFailed :: after, e, before, rfl, hd, List.mem_cons_self⟩

/-- the events of which the property asks nothing and that change nothing it speaks of -/
def Event.plain : Event → Bool
  | .nativeFailed _ | .keyframeFailed _ | .faulted _ | .destroyed _ | .refused | .rendering => false
  | _ => true

theorem Event.EncoderCaused.of_plain {e : Event} (he : e.plain = true) (older : List Event) :
    e.EncoderCaused older := by
  cases e <;> first | exact trivial | cases he

theorem mem_presentEvents {new log : List Event} (hnew : ∀ e ∈ new, e.plain = true) {e : Event}
    (he : e.plain = false) : e ∈ presentEvents (new ++ log) ↔ e ∈ presentEvents log := by
  have hbegins : ∀ e ∈ new, (!e.begins) = true := by
    intro e hmem
    have hplain := hnew e hmem
    cases e <;> first | rfl | cases hplain
  have hnot : e ∉ new := fun hmem => by
    rw [hnew e hmem] at he
    cases he
  rw [presentEvents, List.takeWhile_append_of_pos hbegins, List.mem_append]
  exact or_iff_right hnot

/-- the awaiting command and the capture generation fail with cause -/
structure State.Due (s : State) (generation : Nat) : Prop where
  command : ∀ command, s.nat.awaitingNativeControl = some command → command.encodes = true →
    FailedSince s.log (Event.Consumes command.revision)
  keyframe : generation ≠ 0 → FailedSince s.log (· = .keyframeDemanded generation)

/-- no command that fails with the encoder is awaited, and no capture's keyframe -/
structure State.Undemanded (s : State) (generation : Nat) : Prop where
  command : ∀ command ∈ s.nat.awaitingNativeControl, command.encodes = false
  keyframe : generation = 0

/-- a callback that refused an access unit fails nothing: the frame is refused,
`FailNativeEncoderTransition` has seen it, or the next command is consumed already -/
structure State.Spared (s : State) : Prop where
  unfailed : ∀ revision, .nativeFailed revision ∉ presentEvents s.log
  frame : (s.mark = some .refused ∧ s.Undemanded s.cap.pending) ∨
    (∃ generation, s.mark = some (.transitionFailed generation) ∧ s.Undemanded generation) ∨
    ∃ command demand, s.mark = some (.consumed command demand)

structure PressureInv (s : State) : Prop where
  handoff : HandoffInv s.handoff
  caused : Justified Event.EncoderCaused s.log
  demanded : s.cap.pending ≠ 0 → .keyframeDemanded s.cap.pending ∈ s.log
  opened : s.failureOpen = true → s.Due s.cap.pending
  taken : ∀ generation, s.mark = some (.transitionFailed generation) → s.Due generation
  begun : s.mark = some .rendering → ∀ revision, .nativeFailed revision ∉ presentEvents s.log
  refused : .refused ∈ presentEvents s.log → s.Spared

section
variable {cfg : PluginConfig} {l : Label} {s s' : State}

theorem HandoffInv.consumes (h : HandoffInv s.handoff) {command : NativeControlCommand}
    (hawaiting : s.nat.awaitingNativeControl = some command) :
    ∃ e ∈ s.log, Event.Consumes command.revision e := by
  obtain ⟨pending, _, _, hmatch, _, _, hconsumed, _⟩ := h.awaits hawaiting
  obtain ⟨command', demand, hmem, hrevision⟩ := hconsumed
  exact ⟨_, List.mem_of_mem_filter hmem, command', demand, rfl,
    hrevision.trans hmatch.revision.symm⟩

theorem State.Due.mono {generation : Nat} (h : s.Due generation)
    (hlog : ∃ new, s'.log = new ++ s.log)
    (hawaiting : s'.nat.awaitingNativeControl = s.nat.awaitingNativeControl ∨
      s'.nat.awaitingNativeControl = none) : s'.Due generation := by
  obtain ⟨new, hlog⟩ := hlog
  constructor
  · intro command hsome hencodes
    rw [hlog]
    rcases hawaiting with e | e
    · exact (h.command command (e ▸ hsome) hencodes).append new
    · rw [e] at hsome
      cases hsome
  · intro hne
    rw [hlog]
    exact (h.keyframe hne).append new

theorem State.Undemanded.mono {generation : Nat} (h : s.Undemanded generation)
    (hawaiting : s'.nat.awaitingNativeControl = s.nat.awaitingNativeControl ∨
      s'.nat.awaitingNativeControl = none) : s'.Undemanded generation := by
  refine ⟨fun command hmem => ?_, h.keyframe⟩
  rcases hawaiting with e | e
  · exact h.command command (e ▸ hmem)
  · rw [e] at hmem
    cases hmem

theorem State.Spared.not_destroys (h : s.Spared) : ¬ s.Destroys := by
  rintro (hmark | hmark | ⟨revision, hmark⟩) <;>
    rcases h.frame with ⟨e, _⟩ | ⟨_, e, _⟩ | ⟨_, _, e⟩ <;> cases hmark.symm.trans e

theorem State.Spared.undemanded (h : s.Spared) {generation : Nat}
    (hmark : s.mark = some (.transitionFailed generation)) : s.Undemanded generation := by
  rcases h.frame with ⟨e, _⟩ | ⟨_, e, hnone⟩ | ⟨_, _, e⟩ <;> cases hmark.symm.trans e
  exact hnone

theorem PressureInv.keep (h : PressureInv s) (hhandoff : HandoffInv s'.handoff)
    (hlog : ∃ new, s'.log = new ++ s.log ∧ ∀ e ∈ new, e.plain = true)
    (hpending : s'.cap.pending = s.cap.pending ∨ s'.cap.pending = 0)
    (hmark : s'.mark = s.mark)
    (hawaiting : s'.nat.awaitingNativeControl = s.nat.awaitingNativeControl ∨
      s'.nat.awaitingNativeControl = none) : PressureInv s' := by
  obtain ⟨new, hlog, hnew⟩ := hlog
  refine ⟨hhandoff, ?_, fun hne => ?_, fun hopen => ?_, fun generation hgeneration => ?_,
    fun hbegun revision hmem => ?_, fun hmem => ?_⟩
  · rw [hlog]
    exact h.caused.append fun e he => .of_plain (hnew e he)
  · rcases hpending with e | e
    · rw [e] at hne ⊢
      exact hlog ▸ List.mem_append_right _ (h.demanded hne)
    · exact absurd e hne
  · have hopen : s.failureOpen = true := by
      simp only [State.failureOpen, hmark] at hopen
      exact hopen
    have hdue := (h.opened hopen).mono ⟨new, hlog⟩ hawaiting
    rcases hpending with e | e
    · rw [e]
      exact hdue
    · rw [e]
      exact ⟨hdue.command, fun hne => absurd rfl hne⟩
  · exact (h.taken generation (hmark ▸ hgeneration)).mono ⟨new, hlog⟩ hawaiting
  · rw [hlog, mem_presentEvents hnew rfl] at hmem
    exact h.begun (hmark ▸ hbegun) revision hmem
  · rw [hlog, mem_presentEvents hnew rfl] at hmem
    have hspared := h.refused hmem
    refine ⟨fun revision hfailed => ?_, ?_⟩
    · rw [hlog, mem_presentEvents hnew rfl] at hfailed
      exact hspared.unfailed revision hfailed
    · rw [hmark]
      rcases hspared.frame with ⟨e, hnone⟩ | ⟨generation, e, hnone⟩ | hconsumed
      · refine .inl ⟨e, (hnone.mono hawaiting).command, ?_⟩
        exact hpending.elim (·.trans hnone.keyframe) id
      · exact .inr (.inl ⟨generation, e, hnone.mono hawaiting⟩)
      · exact .inr (.inr hconsumed)

theorem RenderRely.pressure (hrely : RenderRely s s') (h : PressureInv s)
    (hhandoff : HandoffInv s'.handoff)
    (hlog : ∃ new, s'.log = new ++ s.log ∧ ∀ e ∈ new, e.plain = true)
    (hpending : s'.cap.pending = s.cap.pending) : PressureInv s' :=
  h.keep hhandoff hlog (.inl hpending) hrely.mark (.inl hrely.awaiting)

/-- a capture demands a keyframe while no failed frame waits for `FailNativeEncoderTransition` -/
theorem PressureInv.demandKeyframe (h : PressureInv s) (hopen : s.failureOpen = false)
    (hhandoff : HandoffInv s'.handoff) (hrely : RenderRely s s')
    (hlog : s'.log = .keyframeDemanded s'.cap.pending :: s.log) : PressureInv s' := by
  have hnew : ∀ e ∈ [Event.keyframeDemanded s'.cap.pending], e.plain = true := by
    simp [Event.plain]
  have hpresent : ∀ e : Event, e.plain = false →
      (e ∈ presentEvents s'.log ↔ e ∈ presentEvents s.log) := fun e he => by
    rw [hlog]
    exact mem_presentEvents hnew he
  refine ⟨hhandoff, ?_, fun _ => ?_, fun hopened => ?_, fun generation hmark => ?_,
    fun hbegun revision hmem => ?_, fun hmem => ?_⟩
  · rw [hlog]
    exact ⟨trivial, h.caused⟩
  · rw [hlog]
    exact List.mem_cons_self
  · rw [hrely.failureOpen, hopen] at hopened
    cases hopened
  · exact (h.taken generation (hrely.mark ▸ hmark)).mono ⟨[_], hlog⟩ (.inl hrely.awaiting)
  · exact h.begun (hrely.mark ▸ hbegun) revision ((hpresent _ rfl).mp hmem)
  · have hspared := h.refused ((hpresent _ rfl).mp hmem)
    refine ⟨fun revision hfailed => hspared.unfailed revision ((hpresent _ rfl).mp hfailed), ?_⟩
    rw [hrely.mark]
    rcases hspared.frame with ⟨e, _⟩ | ⟨generation, e, hnone⟩ | hconsumed
    · rw [State.failureOpen, e] at hopen
      cases hopen
    · exact .inr (.inl ⟨generation, e, hnone.mono (.inl hrely.awaiting)⟩)
    · exact .inr (.inr hconsumed)

theorem PressureInv.executorStep (h : PressureInv s) (hD : PressureKept cfg l s)
    (hhandoff : HandoffInv s'.handoff) (hs : ExecutorStep cfg l s s') : PressureInv s' := by
  have hrely := hs.renderRely
  cases hs with
  | demandKeyframe => exact h.demandKeyframe hD hhandoff hrely rfl
  | look | spare | request | watch | reserve | openSnapshot | forceKeyframe | openCapture
  | applyConfiguration | flushCapture | release | freeSlot =>
    exact hrely.pressure h hhandoff ⟨[], rfl, fun _ he => by cases he⟩ rfl
  | reply | completePending | admission =>
    exact hrely.pressure h hhandoff ⟨[_], rfl, by simp [Event.plain]⟩ rfl
  | failPending | expirePending | answerCapture =>
    exact hrely.pressure h hhandoff ⟨[_, _], rfl, by simp [Event.plain]⟩ rfl
  | @endWatcher _ _ _ answer _ hanswer =>
    refine hrely.pressure h hhandoff ⟨answer, rfl, ?_⟩ rfl
    rcases hanswer with rfl | ⟨response, rfl, _⟩
    · exact fun _ he => by cases he
    · simp [Event.plain]

theorem PressureInv.otherStep (h : PressureInv s) (hhandoff : HandoffInv s'.handoff)
    (hs : OtherStep cfg l s s') : PressureInv s' := by
  have hrely := hs.renderRely
  have hsilent : ∀ {s' : State}, RenderRely s s' → HandoffInv s'.handoff → s'.log = s.log →
      s'.cap = s.cap → PressureInv s' := fun hrely hhandoff hlog hcap =>
    hrely.pressure h hhandoff ⟨[], hlog, fun _ he => by cases he⟩ (by rw [hcap])
  cases hs with
  | pacer hs => cases hs <;> exact hsilent hrely hhandoff rfl rfl
  | worker hs => cases hs <;> exact hsilent hrely hhandoff rfl rfl
  | rosSide => exact hsilent hrely hhandoff rfl rfl
  | hostSide side =>
    obtain ⟨reserved, elsewhere, e⟩ := hostSide_eq side s
    exact hsilent hrely hhandoff (by rw [e]) (by rw [e])

theorem PressureInv.consumed (h : PressureInv s) (hhandoff : HandoffInv s'.handoff)
    (hlog : ∃ new, s'.log = new ++ s.log ∧ ∀ e ∈ new, e.plain = true)
    (hpending : s'.cap.pending = s.cap.pending) {command : NativeControlCommand}
    {demand : DemandChange} (hmark : s'.mark = some (.consumed command demand)) :
    PressureInv s' := by
  obtain ⟨new, hlog, hnew⟩ := hlog
  refine ⟨hhandoff, ?_, fun hne => ?_, fun hopened => ?_, fun _ hg => (by cases hmark.symm.trans hg),
    fun hbegun => (by cases hmark.symm.trans hbegun), fun hmem => ?_⟩
  · rw [hlog]
    exact h.caused.append fun e he => .of_plain (hnew e he)
  · rw [hpending] at hne ⊢
    exact hlog ▸ List.mem_append_right _ (h.demanded hne)
  · rw [State.failureOpen, hmark] at hopened
    cases hopened
  · rw [hlog, mem_presentEvents hnew rfl] at hmem
    refine ⟨fun revision hfailed => ?_, .inr (.inr ⟨_, _, hmark⟩)⟩
    rw [hlog, mem_presentEvents hnew rfl] at hfailed
    exact (h.refused hmem).unfailed revision hfailed

theorem PressureInv.beginRender (h : PressureInv s) (view : RenderedView)
    (hhandoff : HandoffInv (s.beginRender view).handoff) : PressureInv (s.beginRender view) where
  handoff := hhandoff
  caused := ⟨trivial, h.caused⟩
  demanded hne := List.mem_cons_of_mem _ (h.demanded hne)
  opened hopened := by cases hopened
  taken _ hmark := by cases hmark
  begun _ _ hmem := by cases hmem
  refused hmem := by cases hmem

theorem PressureInv.encoderFailed (h : PressureInv s) (hmark : s.mark = some .rendering)
    (hhandoff : HandoffInv s.encoderFailed.handoff) : PressureInv s.encoderFailed where
  handoff := hhandoff
  caused := ⟨trivial, h.caused⟩
  demanded hne := List.mem_cons_of_mem _ (h.demanded hne)
  opened _ := by
    refine ⟨fun command hsome _ => ?_, fun hne => .now (h.demanded hne) rfl⟩
    obtain ⟨e, he, hconsumes⟩ := h.handoff.consumes hsome
    exact .now he hconsumes
  taken _ hmark := by cases hmark
  begun hbegun := by cases hbegun
  refused hmem := by
    have hmem : .refused ∈ .encoderFailed :: presentEvents s.log := hmem
    have hold : .refused ∈ presentEvents s.log := by simpa using hmem
    exact absurd (.inl hmark) (h.refused hold).not_destroys

theorem PressureInv.enqueueRTP (h : PressureInv s) {packets : List QueuedRTPPacket}
    {keyframe : Bool} (hD : PressureKept cfg (.enqueueRTP packets keyframe) s)
    (hstage : s.mark = some .rendering)
    (hhandoff : HandoffInv (s.enqueueRTP cfg packets keyframe).handoff) :
    PressureInv (s.enqueueRTP cfg packets keyframe) := by
  cases hrefused : (RtpQueue.refusal cfg.pacingBitrate s.rtp packets keyframe).isSome with
  | false =>
    have hlog : (s.enqueueRTP cfg packets keyframe).log = s.log := by
      simp [State.enqueueRTP, hrefused]
    refine h.keep hhandoff ⟨[], hlog, fun _ he => by cases he⟩ (.inl rfl) ?_ (.inl rfl)
    simp only [State.mark, State.renderLog, hlog]
  | true =>
    obtain ⟨hawaiting, hpending⟩ := hD hrefused
    have hlog : (s.enqueueRTP cfg packets keyframe).log = .refused :: s.log := by
      simp [State.enqueueRTP, hrefused]
    have hmark : (s.enqueueRTP cfg packets keyframe).mark = some .refused := by
      simp only [State.mark, State.renderLog, hlog]
      rfl
    refine ⟨hhandoff, ?_, fun hne => absurd hpending hne,
      fun _ => ⟨fun command hsome hencodes => ?_, fun hne => absurd hpending hne⟩,
      fun _ hg => (by cases hmark.symm.trans hg), fun hbegun => (by cases hmark.symm.trans hbegun),
      fun _ => ⟨fun revision hfailed => ?_, .inl ⟨hmark, hawaiting, hpending⟩⟩⟩
    · rw [hlog]
      exact ⟨trivial, h.caused⟩
    · rw [hawaiting command hsome] at hencodes
      cases hencodes
    · rw [hlog] at hfailed
      exact h.begun hstage revision (by simpa [presentEvents, Event.begins] using hfailed)

theorem PressureInv.transitionFailed (h : PressureInv s) (hopen : s.failureOpen = true)
    (hhandoff : HandoffInv s.transitionFailed.handoff) : PressureInv s.transitionFailed where
  handoff := hhandoff
  caused := ⟨trivial, h.caused⟩
  demanded hne := absurd rfl hne
  opened hopened := by cases hopened
  taken generation hmark := by
    have hmark : some (Event.transitionFailed s.cap.pending) =
        some (Event.transitionFailed generation) := hmark
    cases hmark
    exact (h.opened hopen).mono ⟨[_], rfl⟩ (.inl rfl)
  begun hbegun := by cases hbegun
  refused hmem := by
    have hnew : ∀ e ∈ [Event.transitionFailed s.cap.pending], e.plain = true := by
      simp [Event.plain]
    have hspared := h.refused ((mem_presentEvents hnew rfl).mp hmem)
    refine ⟨fun revision hfailed =>
      hspared.unfailed revision ((mem_presentEvents hnew rfl).mp hfailed), ?_⟩
    rcases hspared.frame with ⟨_, hnone⟩ | ⟨_, e, _⟩ | ⟨_, _, e⟩
    · exact .inr (.inl ⟨_, rfl, hnone.mono (.inl rfl)⟩)
    · rw [State.failureOpen, e] at hopen
      cases hopen
    · rw [State.failureOpen, e] at hopen
      cases hopen

theorem PressureInv.cause (h : PressureInv s) (hhandoff : HandoffInv s'.handoff) {e : Event}
    (hlog : s'.log = e :: s.log) (hcaused : e.EncoderCaused s.log) (hunrefused : Unrefused s.log)
    (he : e ≠ .refused) (hpending : s'.cap.pending = s.cap.pending)
    (hawaiting : s'.nat.awaitingNativeControl = s.nat.awaitingNativeControl ∨
      s'.nat.awaitingNativeControl = none)
    (hmark : s'.mark = s.mark ∨ ∃ revision, s'.mark = some (.faulted revision))
    (hbegun : s'.mark = some .rendering →
      ∀ revision, .nativeFailed revision ∉ presentEvents s'.log) : PressureInv s' := by
  refine ⟨hhandoff, ?_, fun hne => ?_, fun hopen => ?_, fun generation hgeneration => ?_, hbegun,
    fun hmem => absurd ?_ hunrefused⟩
  · rw [hlog]
    exact ⟨hcaused, h.caused⟩
  · rw [hpending] at hne ⊢
    exact hlog ▸ List.mem_cons_of_mem _ (h.demanded hne)
  · rcases hmark with hmark | ⟨revision, hmark⟩
    · rw [State.failureOpen, hmark] at hopen
      rw [hpending]
      exact (h.opened hopen).mono ⟨[e], hlog⟩ hawaiting
    · rw [State.failureOpen, hmark] at hopen
      cases hopen
  · rcases hmark with hmark | ⟨revision, hmark⟩
    · exact (h.taken generation (hmark ▸ hgeneration)).mono ⟨[e], hlog⟩ hawaiting
    · cases hmark.symm.trans hgeneration
  · rw [hlog, presentEvents, List.takeWhile_cons] at hmem
    split at hmem
    · exact (List.mem_cons.mp hmem).resolve_left he.symm
    · cases hmem

theorem PressureInv.failKeyframe (h : PressureInv s) {generation : Nat} (hne : generation ≠ 0)
    (hmark : s.mark = some (.transitionFailed generation))
    (hhandoff : HandoffInv (s.failKeyframe generation).handoff) :
    PressureInv (s.failKeyframe generation) := by
  have hunrefused : Unrefused s.log := fun hmem =>
    hne ((h.refused hmem).undemanded hmark).keyframe
  refine h.cause hhandoff rfl ⟨(h.taken generation hmark).keyframe hne, hunrefused⟩ hunrefused
    (by simp) rfl (.inl rfl) (.inl rfl) fun hbegun => ?_
  cases hmark.symm.trans hbegun

theorem PressureInv.failNative (h : PressureInv s) {command : NativeControlCommand}
    {generation : Nat} (hawaiting : s.nat.awaitingNativeControl = some command)
    (hkind : command.kind = .start ∨ command.kind = .requestKeyframe)
    (hmark : s.mark = some (.transitionFailed generation))
    (hhandoff : HandoffInv (s.failNative command.revision).handoff) :
    PressureInv (s.failNative command.revision) := by
  have hencodes : command.encodes = true := by simpa [NativeControlCommand.encodes] using hkind
  have hunrefused : Unrefused s.log := fun hmem => by
    have hnone := ((h.refused hmem).undemanded hmark).command command hawaiting
    rw [hencodes] at hnone
    cases hnone
  have hdue := (h.taken generation hmark).command command hawaiting hencodes
  refine h.cause hhandoff rfl ⟨hdue, hunrefused⟩ hunrefused (by simp) rfl (.inr rfl) (.inl rfl)
    fun hbegun => ?_
  cases hmark.symm.trans hbegun

theorem PressureInv.fault (h : PressureInv s) {revision : Nat}
    (hfailed : .nativeFailed revision ∈ presentEvents s.log)
    (hhandoff : HandoffInv (s.fault revision).handoff) : PressureInv (s.fault revision) := by
  have hunrefused : Unrefused s.log := fun hmem => (h.refused hmem).unfailed revision hfailed
  refine h.cause hhandoff rfl ⟨hfailed, hunrefused⟩ hunrefused (by simp) rfl (.inl rfl)
    (.inr ⟨revision, rfl⟩) fun hbegun => ?_
  cases hbegun

theorem PressureInv.destroyEncoder (h : PressureInv s) (hdestroys : s.Destroys)
    (hhandoff : HandoffInv s.destroyEncoder.handoff) : PressureInv s.destroyEncoder := by
  have hunrefused : Unrefused s.log := fun hmem => (h.refused hmem).not_destroys hdestroys
  have hmark : s.destroyEncoder.mark = s.mark := destroyEncoder_mark s
  cases hsession : s.enc.session with
  | none =>
    have hlog : s.destroyEncoder.log = s.log := by simp [destroyEncoder_log, hsession]
    exact h.keep hhandoff ⟨[], hlog, fun _ he => by cases he⟩ (.inl rfl) hmark (.inl rfl)
  | some session =>
    have hlog : s.destroyEncoder.log = .destroyed session.index :: s.log := by
      simp [destroyEncoder_log, hsession]
    refine h.cause hhandoff hlog hunrefused hunrefused (by simp) rfl (.inl rfl) (.inl hmark)
      fun hbegun revision hmem => h.begun (hmark ▸ hbegun) revision ?_
    simpa [hlog, presentEvents, Event.begins] using hmem

theorem PressureInv.renderStep (h : PressureInv s) (hD : PressureKept cfg l s)
    (hhandoff : HandoffInv s'.handoff) (hs : RenderStep cfg l s s') : PressureInv s' := by
  cases hs with
  | rest hs =>
    have hsame : s'.log = s.log → s'.cap.pending = s.cap.pending ∨ s'.cap.pending = 0 →
        s'.nat.awaitingNativeControl = s.nat.awaitingNativeControl → PressureInv s' :=
      fun hlog hcap hawaiting => h.keep hhandoff ⟨[], hlog, fun _ he => by cases he⟩ hcap
        (by simp only [State.mark, State.renderLog, hlog]) (.inl hawaiting)
    cases hs with
    | keyframeServed => exact hsame rfl (.inr rfl) rfl
    | _ => exact hsame rfl (.inl rfl) rfl
  | applyConfiguration =>
    exact h.consumed hhandoff ⟨[_, _], rfl, by simp [Event.plain]⟩ rfl rfl
  | applyCommand => exact h.consumed hhandoff ⟨[_], rfl, by simp [Event.plain]⟩ rfl rfl
  | acknowledge =>
    exact h.keep hhandoff ⟨[_], rfl, by simp [Event.plain]⟩ (.inl rfl) rfl (.inr rfl)
  | transitionFailed hopen => exact h.transitionFailed hopen hhandoff
  | failKeyframe hne hmark => exact h.failKeyframe hne hmark hhandoff
  | failNative hawaiting hkind hmark => exact h.failNative hawaiting hkind hmark hhandoff
  | faultState _ _ hfailed => exact h.fault hfailed hhandoff
  | beginRender view => exact h.beginRender view hhandoff
  | encoderFailed hmark => exact h.encoderFailed hmark hhandoff
  | destroyEncoder hdestroys => exact h.destroyEncoder hdestroys hhandoff
  | enqueueRTP packets keyframe _ hstage => exact h.enqueueRTP hD hstage hhandoff
  | @enqueueROS _ unit =>
    have hmark : (s.enqueueROS cfg unit).mark = s.mark := by
      simp only [State.mark, State.renderLog, State.enqueueROS]
      split <;> rfl
    refine h.keep hhandoff ?_ (.inl rfl) hmark (.inl rfl)
    unfold State.enqueueROS
    dsimp only
    split
    · exact ⟨[_], rfl, by simp [Event.plain]⟩
    · exact ⟨[], rfl, fun _ he => by cases he⟩
  | _ => exact h.keep hhandoff ⟨[], rfl, fun _ he => by cases he⟩ (.inl rfl) rfl (.inl rfl)

theorem PressureInv.step (h : PressureInv s) (hD : PressureKept cfg l s) {t : ThreadName}
    (hs : ThreadStep cfg t l s s') : PressureInv s' := by
  have hhandoff : HandoffInv s'.handoff := h.handoff.refines hs.handoff
  rcases hs.kinds with hs | hs | hs
  · exact h.executorStep hD hhandoff hs
  · exact h.renderStep hD hhandoff hs
  · exact h.otherStep hhandoff hs

theorem PressureInv.load (cfg : PluginConfig) (input : LoadInput) :
    PressureInv (.load cfg input) where
  handoff := .load cfg input
  caused := trivial
  demanded hne := absurd rfl hne
  opened hopened := by cases hopened
  taken _ hmark := by cases hmark
  begun hmark := by cases hmark
  refused hmem := by cases hmem

/-! ## the lifecycle and the sessions -/

/-- a faulted lifecycle was faulted after the latest start and stop -/
def State.FaultTold (s : State) : Prop := s.nat.nativeLifecycleState = .faulted →
  ∃ revision, s.log.find? (·.drivesLifecycle) = some (.faulted revision)

theorem State.FaultTold.keep (h : s.FaultTold)
    (hlog : ∃ new, s'.log = new ++ s.log ∧ ∀ e ∈ new, e.drivesLifecycle = false)
    (hstate : s'.nat.nativeLifecycleState = .faulted → s.nat.nativeLifecycleState = .faulted) :
    s'.FaultTold := by
  intro hfaulted
  obtain ⟨new, hlog, hnew⟩ := hlog
  obtain ⟨revision, hfind⟩ := h (hstate hfaulted)
  refine ⟨revision, ?_⟩
  have hnone : new.find? (·.drivesLifecycle) = none :=
    List.find?_eq_none.mpr fun e he => by simp [hnew e he]
  rw [hlog, List.find?_append, hnone]
  exact hfind

theorem State.FaultTold.executorStep (h : s.FaultTold) (hs : ExecutorStep cfg l s s') :
    s'.FaultTold := by
  cases hs with
  | look | spare | request | watch | reserve | openSnapshot | forceKeyframe | openCapture
  | applyConfiguration | flushCapture | release | freeSlot =>
    exact h.keep ⟨[], rfl, fun _ he => by cases he⟩ id
  | reply | completePending | demandKeyframe =>
    exact h.keep ⟨[_], rfl, by simp [Event.drivesLifecycle]⟩ id
  | failPending | expirePending | answerCapture =>
    exact h.keep ⟨[_, _], rfl, by simp [Event.drivesLifecycle]⟩ id
  | @admission _ _ kind =>
    cases kind with
    | start => intro hfaulted; cases hfaulted
    | stop => intro hfaulted; cases hfaulted
    | config => exact h.keep ⟨[_], rfl, by simp [Event.drivesLifecycle]⟩ id
    | requestKeyframe => exact h.keep ⟨[_], rfl, by simp [Event.drivesLifecycle]⟩ id
  | @endWatcher _ _ _ answer _ hanswer =>
    refine h.keep ⟨answer, rfl, ?_⟩ id
    rcases hanswer with rfl | ⟨response, rfl, _⟩
    · exact fun _ he => by cases he
    · simp [Event.drivesLifecycle]

theorem State.FaultTold.renderStep (h : s.FaultTold) (hs : RenderStep cfg l s s') :
    s'.FaultTold := by
  cases hs with
  | rest hs =>
    cases hs with
    | storeState state _ hkind =>
      intro hfaulted
      obtain rfl : state = .faulted := hfaulted
      rcases hkind with ⟨_, hstate, _⟩ | ⟨_, hstate, _⟩ <;> cases hstate
    | _ => exact h.keep ⟨[], rfl, fun _ he => by cases he⟩ id
  | faultState => exact fun _ => ⟨_, rfl⟩
  | applyConfiguration => exact h.keep ⟨[_, _], rfl, by simp [Event.drivesLifecycle]⟩ id
  | applyCommand | acknowledge | transitionFailed | failKeyframe | failNative | encoderFailed
  | beginRender =>
    exact h.keep ⟨[_], rfl, by simp [Event.drivesLifecycle]⟩ id
  | destroyEncoder =>
    refine h.keep ⟨_, destroyEncoder_log s, fun e he => ?_⟩ id
    obtain ⟨session, -, rfl⟩ := Option.map_eq_some_iff.mp (Option.mem_toList.mp he)
    rfl
  | @enqueueROS _ unit =>
    refine h.keep ?_ id
    unfold State.enqueueROS
    dsimp only
    split
    · exact ⟨[_], rfl, by simp [Event.drivesLifecycle]⟩
    · exact ⟨[], rfl, fun _ he => by cases he⟩
  | enqueueRTP =>
    refine h.keep ?_ id
    unfold State.enqueueRTP
    dsimp only
    split
    · exact ⟨[_], rfl, by simp [Event.drivesLifecycle]⟩
    · exact ⟨[], rfl, fun _ he => by cases he⟩
  | _ => exact h.keep ⟨[], rfl, fun _ he => by cases he⟩ id

theorem State.FaultTold.step (h : s.FaultTold) {t : ThreadName} (hs : ThreadStep cfg t l s s') :
    s'.FaultTold := by
  rcases hs.kinds with hs | hs | hs
  · exact h.executorStep hs
  · exact h.renderStep hs
  · have hsilent : s'.log = s.log → s'.nat = s.nat → s'.FaultTold := fun hlog hnat =>
      h.keep ⟨[], hlog, fun _ he => by cases he⟩ (by rw [hnat]; exact id)
    cases hs with
    | pacer hs => cases hs <;> exact hsilent rfl rfl
    | worker hs => cases hs <;> exact hsilent rfl rfl
    | rosSide => exact hsilent rfl rfl
    | hostSide side =>
      obtain ⟨reserved, elsewhere, e⟩ := hostSide_eq side s
      exact hsilent (by rw [e]) (by rw [e])

/-- every session is live or was destroyed -/
def State.SessionsTold (s : State) : Prop := ∀ index, 0 < index → index ≤ s.enc.sessions →
  s.enc.session.map (·.index) = some index ∨ .destroyed index ∈ s.log

theorem State.SessionsTold.keep (h : s.SessionsTold) (hlog : ∃ new, s'.log = new ++ s.log)
    (hsession : s'.enc.session = s.enc.session) (hsessions : s'.enc.sessions = s.enc.sessions) :
    s'.SessionsTold := by
  intro index hpos hle
  obtain ⟨new, hlog⟩ := hlog
  rw [hsession, hlog]
  exact (h index hpos (hsessions ▸ hle)).imp_right (List.mem_append_right _)

theorem State.SessionsTold.renderStep (h : s.SessionsTold) (hs : RenderStep cfg l s s') :
    s'.SessionsTold := by
  obtain ⟨new, hlog, _⟩ := hs.executorRely.log
  cases hs with
  | rest hs => cases hs <;> exact h.keep ⟨new, hlog⟩ rfl rfl
  | destroyEncoder =>
    intro index hpos hle
    rw [destroyEncoder_log]
    right
    refine List.mem_append.mpr ((h index hpos hle).imp_left fun hlive => ?_)
    obtain ⟨session, hsession, rfl⟩ := Option.map_eq_some_iff.mp hlive
    simp [hsession]
  | createEncoder width height time hnone =>
    intro index hpos hle
    rcases Nat.eq_or_lt_of_le hle with rfl | hlt
    · exact .inl rfl
    · refine .inr ((h index hpos (Nat.le_of_lt_succ hlt)).resolve_left fun hlive => ?_)
      rw [hnone] at hlive
      cases hlive
  | observeSourceTime time =>
    refine h.keep ⟨new, hlog⟩ ?_ ?_ <;>
    · show _ = _
      simp only [Encoder.observe]
      split <;> rfl
  | _ => exact h.keep ⟨new, hlog⟩ rfl rfl

theorem State.SessionsTold.step (h : s.SessionsTold) {t : ThreadName}
    (hs : ThreadStep cfg t l s s') : s'.SessionsTold := by
  by_cases ht : t = .render
  · subst ht
    exact h.renderStep hs
  · have hrely := hs.renderRely ht
    obtain ⟨new, hlog, _⟩ := hrely.log
    exact h.keep ⟨new, hlog⟩ (by rw [hrely.enc]) (by rw [hrely.enc])

end

/-- **Failures are caused by the encoder** in the runs in which no refusal meets a demand. -/
theorem failures_encoder_caused {cfg : PluginConfig} {s : PluginState}
    (h : (pluginMachine cfg).ReachableUnder (Pool.Obeys (PressureKept cfg)) s) :
    EncoderCaused s.shared := by
  have hI : PressureInv s.shared :=
    plugin_invariant (PressureInv.load cfg) (fun _ _ _ _ _ hD hs hI => hI.step hD hs) h
  have hfault : s.shared.FaultTold :=
    plugin_invariant (fun _ hf => by cases hf) (fun _ _ _ _ _ _ hs hJ => hJ.step hs) h
  have hsessions : s.shared.SessionsTold :=
    plugin_invariant (fun _ index hpos hle => absurd hle (Nat.not_le_of_lt hpos))
      (fun _ _ _ _ _ _ hs hJ => hJ.step hs) h
  exact ⟨fun newer e older hlog => hI.caused.split hlog, hfault, hsessions⟩

/-! ## runs -/

/-- the running stream is started once more, and the next frame has the outcome -/
def restartRun (outcome : EncodeOutcome) : List PluginAction :=
  startRun ++ runCall .executor (mutationCall "start" "b") 8 ++
    runCall .render (postRenderCall 3) 20 ++ runCall .render (frameCall 3 outcome) 60

theorem failures_encoder_caused_restartRun :
    let s := ((pluginMachine .sample).run .sample (restartRun .error)).shared
    EncoderCaused s ∧ .nativeFailed 3 ∈ s.log ∧ .faulted 3 ∈ s.log ∧ .destroyed 1 ∈ s.log :=
  ⟨failures_encoder_caused
    ((PluginState.sample_reachable _).run (restartRun .error) (by decide +kernel)),
    by decide +kernel⟩

/-- the pacer still holds the IDR of the first start, and the next delta frame is refused -/
theorem back_pressure_fails :
    (pluginMachine .sample).Reachable
      ((pluginMachine .sample).run .sample (restartRun (.output 3000 deltaUnit))) ∧
    ¬ EncoderCaused
      ((pluginMachine .sample).run .sample (restartRun (.output 3000 deltaUnit))).shared := by
  refine ⟨Machine.Reachable.run (PluginState.sample_reachable _) _, fun h => ?_⟩
  have hmem : .nativeFailed 3 ∈ ((pluginMachine .sample).run .sample
    (restartRun (.output 3000 deltaUnit))).shared.log := by decide +kernel
  have hnone : .encoderFailed ∉ ((pluginMachine .sample).run .sample
    (restartRun (.output 3000 deltaUnit))).shared.log := by decide +kernel
  obtain ⟨newer, older, hlog⟩ := List.append_of_mem hmem
  obtain ⟨⟨after, e, before, holder, _, hfailed⟩, _⟩ :
      Event.EncoderCaused (.nativeFailed 3) older := h.causes _ _ _ hlog
  refine hnone ?_
  rw [hlog, holder]
  simp [hfailed]

end MediaCamera
