import MediaCamera.Plugin.ExecutorVerified
import MediaCamera.Plugin.RenderVerified

/-!
# The plugin is a verified pool

The remaining threads, and the parallel composition of all of them:

* `pacer_body`, `worker_body`   the pacer takes `PacerStep`s and the JPEG worker `WorkerStep`s;
* `pluginVerified`     the contracts of the threads fit together;
* `plugin_invariant`   what every effect keeps, under a condition on labelled steps, holds in every
                       state of the runs whose steps satisfy the condition;
* `handoff_invariant`  the same for the moves of the handoff.
-/

namespace MediaCamera

open Contract

/-! ## the pacer -/

def pacerContract (cfg : PluginConfig) : Contract (Books cfg) fun (_ : Label) _ => True where
  rely := PacerRely
  guar := PacerStep
  rely_refl _ := rfl
  rely_trans h h' := h'.trans h

section
variable {cfg : PluginConfig} {α : Type}

theorem stable_flight (flight : Bool) :
    (pacerContract cfg).Stable (·.flags.rtpInFlight = flight) :=
  .of_eq (fun _ _ h => h) (· = flight)

theorem pacer_atomic {flight : Bool} {Q : α → Bool} {l : Label} {f : State → State × α}
    (h : ∀ s, s.flags.rtpInFlight = flight →
      PacerStep l s (f s).1 ∧ (f s).1.flags.rtpInFlight = Q (f s).2) :
    (pacerContract cfg).Triple (·.flags.rtpInFlight = flight) (.atomic l f)
      fun a s => s.flags.rtpInFlight = Q a :=
  .atomic (stable_flight flight) (fun a => stable_flight (Q a)) fun s hI hs _ =>
    ⟨hI.otherStep (.pacer (h s hs).1), (h s hs).1, (h s hs).2⟩

theorem pacer_look {f : State → α} :
    (pacerContract cfg).Triple (·.flags.rtpInFlight = true) (read f)
      fun _ s => s.flags.rtpInFlight = true :=
  pacer_atomic (Q := fun _ => true) fun _ hs => ⟨.look hs, hs⟩

theorem sendBatch_triple (packets : List QueuedRTPPacket) :
    (pacerContract cfg).Triple (·.flags.rtpInFlight = true) (sendBatch packets)
      fun _ s => s.flags.rtpInFlight = true := by
  induction packets with
  | nil => exact .ret (stable_flight true) fun _ _ h => h
  | cons packet packets ih =>
    exact .bind (pacer_atomic (Q := fun _ => true) fun _ hs => ⟨.send packet hs, hs⟩) fun _ => ih

theorem sendPacedRTPAccessUnit_triple (unit : QueuedRTPAccessUnit)
    (batches : List (List QueuedRTPPacket)) :
    (pacerContract cfg).Triple (·.flags.rtpInFlight = true)
      (sendPacedRTPAccessUnit unit batches) fun _ s => s.flags.rtpInFlight = true := by
  induction batches with
  | nil => exact .ret (stable_flight true) fun _ _ h => h
  | cons batch batches ih =>
    exact .bind pacer_look fun _ => .ite
      (fun _ => .bind (sendBatch_triple batch) fun _ => ih)
      fun _ => .ret (stable_flight true) fun _ _ h => h

theorem pacer_body (c : Unit) :
    (pacerContract cfg).Triple (·.flags.rtpInFlight = false) (threadBody cfg .pacer c)
      fun _ s => s.flags.rtpInFlight = false := by
  refine .bind (Q := fun popped s => s.flags.rtpInFlight = popped.isSome) (pacer_atomic
    (Q := Option.isSome) fun s hs => ?_) fun popped => ?_
  · dsimp only
    split
    · rename_i hpop
      exact ⟨.pop hpop, rfl⟩
    · exact ⟨.wait, hs⟩
  cases popped with
  | none => exact .ret (stable_flight false) fun _ _ h => h
  | some unit =>
    have hend : (pacerContract cfg).Triple (·.flags.rtpInFlight = true)
        (write fun s => { s with flags.rtpInFlight := false })
        fun _ s => s.flags.rtpInFlight = false :=
      pacer_atomic (Q := fun _ => false) fun _ hs => ⟨.finish hs, rfl⟩
    exact .bind pacer_look fun _ => .ite
      (fun _ => .bind (sendPacedRTPAccessUnit_triple unit _) fun _ => hend) fun _ => hend

end

/-! ## the JPEG worker -/

def workerContract (cfg : PluginConfig) : Contract (Books cfg) fun (_ : Label) _ => True where
  rely := WorkerRely
  guar := WorkerStep cfg
  rely_refl _ := rfl
  rely_trans h h' := h'.trans h

section
variable {cfg : PluginConfig} {α : Type}

theorem stable_encoding (job : Option SnapshotResult) :
    (workerContract cfg).Stable (·.snap.encoding = job) :=
  .of_eq (fun _ _ h => h) (· = job)

theorem worker_atomic {job : Option SnapshotResult} {Q : α → Option SnapshotResult} {l : Label}
    {f : State → State × α}
    (h : ∀ s, Books cfg s → s.snap.encoding = job →
      WorkerStep cfg l s (f s).1 ∧ (f s).1.snap.encoding = Q (f s).2) :
    (workerContract cfg).Triple (·.snap.encoding = job) (.atomic l f)
      fun a s => s.snap.encoding = Q a :=
  .atomic (stable_encoding job) (fun a => stable_encoding (Q a)) fun s hI hs _ =>
    ⟨hI.otherStep (.worker (h s hI hs).1), (h s hI hs).1, (h s hI hs).2⟩

theorem deliverSnapshot_triple {job : SnapshotResult} (reason : String) (jpeg : JpegResult) :
    (workerContract cfg).Triple (·.snap.encoding = some job)
      (deliverSnapshot (job.encoded cfg reason jpeg)) fun _ s => s.snap.encoding = none := by
  refine worker_atomic (Q := fun _ => none) fun s _ hs => ⟨.capture (.deliver reason jpeg hs), ?_⟩
  show (s.snap.deliver _).encoding = none
  unfold Snapshot.deliver
  split <;> rfl

theorem worker_body (input : JpegInput) :
    (workerContract cfg).Triple (·.snap.encoding = none) (threadBody cfg .jpegWorker input)
      fun _ s => s.snap.encoding = none := by
  refine .bind (Q := fun job s => s.snap.encoding = job) (worker_atomic (Q := id)
    fun s hI hs => ⟨.capture (.take hs), ?_⟩) fun job => ?_
  · show s.snap.takeEncode.1.encoding = s.snap.takeEncode.2
    rw [Snapshot.takeEncode, if_neg (by simp [hI.captures.running])]
  cases job with
  | none => exact .ret (stable_encoding none) fun _ _ h => h
  | some job =>
    have hlook : ∀ {β : Type} (f : State → β), (workerContract cfg).Triple
        (·.snap.encoding = some job) (read f) fun _ s => s.snap.encoding = some job :=
      fun _ => worker_atomic (Q := fun _ => some job) fun _ _ hs => ⟨.look, hs⟩
    have hencode : ∀ tryHardware : Bool, (workerContract cfg).Triple
        (·.snap.encoding = some job) (if tryHardware &&
        (input.hardware.error == "" || !cfg.allowCPUFallback) then
          deliverSnapshot (job.encoded cfg job.jpegFallbackReason input.hardware)
        else if tryHardware then do
          write (fun s => { s with snap.snapshotJpegHardwareFusedOff := true })
          deliverSnapshot (job.encoded cfg
            ("hardware JPEG backend failed and was fused off: " ++ input.hardware.error) input.cpu)
        else deliverSnapshot (job.encoded cfg job.jpegFallbackReason input.cpu))
        fun _ s => s.snap.encoding = none := fun _ =>
      .ite (fun _ => deliverSnapshot_triple _ _) fun _ => .ite (fun _ => .bind (worker_atomic
        (Q := fun _ => some job) fun _ _ hs => ⟨.capture .fuse, hs⟩) fun _ =>
          deliverSnapshot_triple _ _) fun _ => deliverSnapshot_triple _ _
    exact .ite (fun _ => .bind (hlook _) hencode)
      fun _ => .bind (.ret (stable_encoding (some job)) fun _ _ h => h) hencode

end

/-! ## the pool -/

/-- a thread that relies on nothing -/
def sideContract (cfg : PluginConfig) (guar : Label → State → State → Prop) :
    Contract (Books cfg) fun (_ : Label) _ => True where
  rely _ _ := True
  guar := guar
  rely_refl _ := trivial
  rely_trans _ _ := trivial

theorem side_triple {cfg : PluginConfig} {guar : Label → State → State → Prop}
    (hbooks : ∀ l s s', guar l s s' → OtherStep cfg l s s') {p : Thread Unit}
    (h : p.Within guar) : (sideContract cfg guar).Triple (fun _ => True) p fun _ _ => True :=
  h.triple (fun l s s' hs hI => hI.otherStep (hbooks l s s' hs)) (fun _ _ _ hs => hs) .true
    fun _ _ _ _ _ => trivial

def threadContract (cfg : PluginConfig) : ThreadName → Contract (Books cfg) fun (_ : Label) _ => True
  | .executor => executorContract cfg
  | .render => renderContract cfg
  | .pacer => pacerContract cfg
  | .jpegWorker => workerContract cfg
  | .rosSide => sideContract cfg (ThreadStep cfg .rosSide)
  | .hostSide => sideContract cfg (ThreadStep cfg .hostSide)

/-- what a thread leaves behind between two calls -/
def threadIdle : ThreadName → State → Prop
  | .executor => (·.ctl.Settled)
  | .render => Idle .quiet
  | .pacer => (·.flags.rtpInFlight = false)
  | .jpegWorker => (·.snap.encoding = none)
  | _ => fun _ => True

theorem threadContract_guar (cfg : PluginConfig) (t : ThreadName) {l : Label} {s s' : State}
    (h : (threadContract cfg t).guar l s s') : ThreadStep cfg t l s s' := by
  cases t <;> exact h

theorem threadContract_rely (cfg : PluginConfig) {t t' : ThreadName} (hne : t ≠ t') {l : Label}
    {s s' : State} (h : (threadContract cfg t).guar l s s') : (threadContract cfg t').rely s s' := by
  have hstep : ThreadStep cfg t l s s' := threadContract_guar cfg t h
  cases t' with
  | executor => exact hstep.executorRely hne
  | render => exact hstep.renderRely hne
  | pacer => exact hstep.pacerRely hne
  | jpegWorker => exact hstep.workerRely hne
  | rosSide | hostSide => exact trivial

theorem idle_load (cfg : PluginConfig) (input : LoadInput) (t : ThreadName) :
    threadIdle t (.load cfg input) := by
  cases t with
  | executor => exact ⟨rfl, rfl⟩
  | render =>
    exact ⟨rfl, rfl, rfl, rfl, fun _ h => (by cases h), fun h => absurd rfl h⟩
  | pacer | jpegWorker => exact rfl
  | rosSide | hostSide => exact trivial

/-- the contracts of the threads fit together -/
def pluginVerified (cfg : PluginConfig) : (plugin cfg).Verified (Books cfg) fun _ _ => True where
  contract := threadContract cfg
  idle := threadIdle
  init := by
    rintro _ ⟨input, rfl⟩
    exact ⟨.load cfg input, idle_load cfg input⟩
  stable t := by
    cases t with
    | executor => exact stable_ctl Executor.Settled
    | render => exact (local_idle .quiet).stable
    | pacer => exact stable_flight false
    | jpegWorker => exact stable_encoding none
    | rosSide | hostSide => exact .true
  body t c := by
    cases t with
    | executor => exact executor_body c
    | render => exact render_body c
    | pacer => exact pacer_body c
    | jpegWorker => exact worker_body c
    | rosSide =>
      refine side_triple ?_ (.atomic fun s => ⟨rfl, c, rfl⟩)
      rintro _ s _ ⟨rfl, side, rfl⟩
      exact .rosSide side
    | hostSide =>
      refine side_triple ?_ (.atomic fun s => ⟨rfl, c, rfl⟩)
      rintro _ s _ ⟨rfl, side, rfl⟩
      exact .hostSide side
  rely _ _ hne _ _ _ h := threadContract_rely cfg hne h

theorem plugin_next {cfg : PluginConfig} {s : PluginState} (h : (pluginMachine cfg).Reachable s)
    {t : ThreadName} {l : Label} (hl : (s.thread t).next = some l) :
    ThreadStep cfg t l s.shared ((pluginMachine cfg).step s (.step t)).shared :=
  threadContract_guar cfg t ((pluginVerified cfg).next
    (h.mono fun s a _ => Pool.Obeys.trivial s a) hl trivial)

theorem plugin_books {cfg : PluginConfig} {C : PluginState → PluginAction → Prop} {s : PluginState}
    (h : (pluginMachine cfg).ReachableUnder C s) : Books cfg s.shared :=
  ((pluginVerified cfg).safe (h.mono fun s a _ => Pool.Obeys.trivial s a)).1

/-- every action of the plugin leaves the members alone or is an effect of its thread -/
theorem plugin_step {cfg : PluginConfig} {s : PluginState} (h : (pluginMachine cfg).Reachable s)
    (a : PluginAction) :
    ((pluginMachine cfg).step s a).shared = s.shared ∨
      ∃ t l, a = .step t ∧ (s.thread t).next = some l ∧
        ThreadStep cfg t l s.shared ((pluginMachine cfg).step s a).shared := by
  have hfree : (pluginMachine cfg).ReachableUnder (Pool.Obeys fun _ _ => True) s :=
    h.mono fun s a _ => Pool.Obeys.trivial s a
  rcases (pluginVerified cfg).step hfree a (Pool.Obeys.trivial s a) with
    e | ⟨t, l, rfl, hl, hguar⟩
  · exact .inl e
  · exact .inr ⟨t, l, rfl, hl, threadContract_guar cfg t hguar⟩

theorem log_run {cfg : PluginConfig} {s : PluginState} (h : (pluginMachine cfg).Reachable s)
    (as : List PluginAction) :
    ∃ new, ((pluginMachine cfg).run s as).shared.log = new ++ s.shared.log := by
  induction as generalizing s with
  | nil => exact ⟨[], rfl⟩
  | cons a as ih =>
    obtain ⟨later, hlater⟩ := ih (h.next a)
    rcases plugin_step h a with hsame | ⟨t, l, rfl, _, hs⟩
    · exact ⟨later, by rw [Machine.run_cons, hlater, hsame]⟩
    · obtain ⟨new, hlog⟩ := hs.log
      exact ⟨later ++ new, by rw [Machine.run_cons, hlater, hlog, List.append_assoc]⟩

/-- **Invariants from effects.** -/
theorem plugin_invariant {cfg : PluginConfig} {J : State → Prop} {D : Label → State → Prop}
    (hinit : ∀ input, J (.load cfg input))
    (hstep : ∀ t l s s', Books cfg s → D l s → ThreadStep cfg t l s s' → J s → J s')
    {s : PluginState} (h : (pluginMachine cfg).ReachableUnder (Pool.Obeys D) s) : J s.shared := by
  refine (pluginVerified cfg).invariant ?_ ?_ h
  · rintro _ ⟨input, rfl⟩
    exact hinit input
  · exact fun t l s s' hI hD hG hJ => hstep t l s s' hI hD (threadContract_guar cfg t hG) hJ

theorem plugin_invariant_under {cfg : PluginConfig} {J : State → Prop}
    {C : PluginState → PluginAction → Prop} (hinit : ∀ input, J (.load cfg input))
    (hstep : ∀ s a t l, Books cfg s.shared → C s a →
      ThreadStep cfg t l s.shared ((pluginMachine cfg).step s a).shared → J s.shared →
      J ((pluginMachine cfg).step s a).shared)
    {s : PluginState} (h : (pluginMachine cfg).ReachableUnder C s) : J s.shared := by
  refine Machine.ReachableUnder.invariant (P := fun s => J s.shared) ?_ ?_ h
  · rintro s ⟨⟨input, hload⟩, _⟩
    rw [hload]
    exact hinit input
  · intro s a hreach hC hJ
    rcases plugin_step hreach.reachable a with hsame | ⟨t, l, _, _, hs⟩
    · rw [hsame]
      exact hJ
    · exact hstep s a t l (plugin_books hreach) hC hs hJ

/-- **Invariants of the protocol.**  What its moves keep, under a condition on labelled steps, holds
in every state of the runs whose steps satisfy the condition. -/
theorem handoff_invariant {cfg : PluginConfig} {J : Handoff → Prop} {D : Label → State → Prop}
    (hinit : ∀ input, J (State.load cfg input).handoff)
    (hstep : ∀ l s h', D l s → HandoffStep cfg.ros.rosPublishingEnabled l s.handoff h' →
      J s.handoff → J h') {s : PluginState}
    (h : (pluginMachine cfg).ReachableUnder (Pool.Obeys D) s) : J s.shared.handoff := by
  refine plugin_invariant (J := fun s => J s.handoff) hinit ?_ h
  intro t l s s' _ hD hT hJ
  rcases hT.handoff with e | hmove
  · show J s'.handoff
    rw [e]
    exact hJ
  · exact hstep l s s'.handoff hD hmove hJ

end MediaCamera
