import MediaCamera.Plugin.Books

/-!
# The executor takes no other steps

Each thread is verified against its contract: it relies on `ExecutorRely` or `RenderRely`, and
guarantees its effects.  The triples below follow the programs of the executor, one for each
function; an assertion speaks of the executor's own members, or of events that stay in the log.
Between two calls what the executor reserved is recorded (`Executor.Settled`).

* `handleControlRequest_triple`, `flushControl_triple`   the two calls;
* `executor_body`   the program of the thread.
-/

namespace MediaCamera

open Contract

/-! ## the contract -/

def executorContract (cfg : PluginConfig) : Contract (Books cfg) fun (_ : Label) _ => True where
  rely := ExecutorRely
  guar := ExecutorStep cfg
  rely_refl := ExecutorRely.refl
  rely_trans := ExecutorRely.trans

/-! ## the rules -/

section
variable {cfg : PluginConfig} {α : Type}

theorem executor_atomic {P : State → Prop} {Q : α → State → Prop} {l : Label}
    {f : State → State × α} (hP : (executorContract cfg).Stable P)
    (hQ : ∀ a, (executorContract cfg).Stable (Q a))
    (h : ∀ s, Books cfg s → P s → ExecutorStep cfg l s (f s).1 ∧ Q (f s).2 (f s).1) :
    (executorContract cfg).Triple P (.atomic l f) Q :=
  .atomic hP hQ fun s hI hPs _ =>
    ⟨hI.executorStep (h s hI hPs).1, (h s hI hPs).1, (h s hI hPs).2⟩

theorem executor_read {P : State → Prop} {Q : α → State → Prop} {f : State → α}
    (hP : (executorContract cfg).Stable P) (hQ : ∀ a, (executorContract cfg).Stable (Q a))
    (h : ∀ s, Books cfg s → P s → Q (f s) s) : (executorContract cfg).Triple P (read f) Q :=
  executor_atomic hP hQ fun s hI hPs => ⟨.look, h s hI hPs⟩

theorem executor_look {P : State → Prop} {f : State → α} (hP : (executorContract cfg).Stable P) :
    (executorContract cfg).Triple P (read f) fun _ => P :=
  executor_read hP (fun _ => hP) fun _ _ hPs => hPs

theorem stable_ctl (P : Executor → Prop) : (executorContract cfg).Stable fun s => P s.ctl :=
  .of_eq (fun _ _ h => ExecutorRely.ctl h) P

theorem executor_last {P : State → Prop} {l : Label} {f : State → State × α}
    (hP : (executorContract cfg).Stable P)
    (h : ∀ s, P s → ExecutorStep cfg l s (f s).1 ∧ (f s).1.ctl.Settled) :
    (executorContract cfg).Triple P (.atomic l f) fun _ s => s.ctl.Settled :=
  executor_atomic hP (fun _ => stable_ctl Executor.Settled) fun s _ hPs => h s hPs

theorem executor_ret {a : α} :
    (executorContract cfg).Triple (·.ctl.Settled) (pure a) fun _ s => s.ctl.Settled :=
  .ret (stable_ctl Executor.Settled) fun _ _ h => h

theorem stable_fresh (handle : Nat) : (executorContract cfg).Stable (·.Fresh handle) := by
  intro s s' h _ hs
  have hctl : s'.ctl = s.ctl := ExecutorRely.ctl h
  have hreplied : s'.replied = s.replied := ExecutorRely.replied h
  simpa only [State.Fresh, State.uses, State.openReplies, hctl, hreplied] using hs

/-- a request whose reply is not given yet -/
def Serving (handle : Nat) (s : State) : Prop := s.Fresh handle ∧ s.ctl.Settled

theorem stable_serving (handle : Nat) : (executorContract cfg).Stable (Serving handle) :=
  (stable_fresh handle).and (stable_ctl Executor.Settled)

theorem reply_triple (handle : Nat) {response : ControlResponse}
    (hplain : response.isCapture = false) :
    (executorContract cfg).Triple (Serving handle) (reply handle response)
      fun _ s => s.ctl.Settled :=
  executor_last (stable_serving handle) fun _ h => ⟨.reply response h.1 hplain, h.2⟩

/-! ## requests -/

theorem handleRead_triple (handle : Nat) (input : Json) {response : State → ControlResponse}
    (hplain : ∀ s, (response s).isCapture = false) :
    (executorContract cfg).Triple (Serving handle) (handleRead handle input response)
      fun _ s => s.ctl.Settled := by
  unfold handleRead
  split
  · exact reply_triple handle rfl
  · exact .bind (Q := fun r s => Serving handle s ∧ r.isCapture = false)
      (executor_read (stable_serving handle) (fun _ => (stable_serving handle).and (.const _))
        fun s _ h => ⟨h, hplain s⟩) fun _ s h => reply_triple handle h.2 s h.1

theorem handleReceipts_triple (handle : Nat) (input : Json) (id : String) :
    (executorContract cfg).Triple (Serving handle) (handleReceipts handle input id)
      fun _ s => s.ctl.Settled := by
  unfold handleReceipts
  split
  · exact reply_triple handle rfl
  · refine .bind (executor_look (stable_serving handle)) fun slot => ?_
    split <;> exact reply_triple handle rfl

theorem handleObserve_triple (handle : Nat) (request : ControlRequest) (input : Json)
    (sequence : List Char) :
    (executorContract cfg).Triple (Serving handle) (handleObserve handle request input sequence)
      fun _ s => s.ctl.Settled := by
  unfold handleObserve
  split
  · exact reply_triple handle rfl
  split
  · exact reply_triple handle rfl
  have hstable : ∀ event, (executorContract cfg).Stable fun s =>
      Serving handle s ∧ s.ctl.controlEventRevision = event := fun event =>
    (stable_serving handle).and (stable_ctl (·.controlEventRevision = event))
  refine .bind (Q := fun event s => Serving handle s ∧ s.ctl.controlEventRevision = event)
    (executor_read (stable_serving handle) hstable fun _ _ h => ⟨h, rfl⟩) fun event => ?_
  refine .ite (fun _ => (reply_triple handle rfl).pre fun _ h => h.1) fun hahead => ?_
  refine .ite (fun _ => ?_) fun hbehind => ?_
  · exact .bind (executor_look (hstable event)) fun _ =>
      (reply_triple handle rfl).pre fun _ h => h.1
  -- the observer is kept in a free slot, or refused
  refine .bind (Q := fun watching s => s.ctl.Settled ∧ (watching = false → s.Fresh handle))
    (executor_atomic (hstable event) (fun watching => ?_) fun s _ h => ?_)
    fun watching => .ite (fun hw => ?_) fun _ => executor_ret.pre fun _ h => h.1
  · exact (stable_ctl Executor.Settled).and
      fun s s' hr hI h hw => stable_fresh handle s s' hr hI (h hw)
  · obtain ⟨h, hevent⟩ := h
    split
    · rename_i hslot
      exact ⟨.watch hslot h.1 (by simp only; omega), ⟨h.2.recorded, h.2.held⟩, fun hno => by cases hno⟩
    · exact ⟨.look, h.2, fun _ => h.1⟩
  · exact (reply_triple handle rfl).pre fun s h => ⟨h.2 (by simpa using hw), h.1⟩

/-! ## captures -/

/-- a capture whose reservation is not recorded yet -/
structure Reserved (handle : Nat) (id : String) (s : State) : Prop where
  fresh : s.Fresh handle
  recording : s.ctl.captureRecording = true
  held : s.ctl.captureSlotHeld = false
  none : s.ctl.captureReply = none
  new : s.ctl.remembers id = false

theorem stable_reserved (handle : Nat) (id : String) :
    (executorContract cfg).Stable (Reserved handle id) := by
  intro s s' h hI hs
  have hctl : s'.ctl = s.ctl := ExecutorRely.ctl h
  refine ⟨stable_fresh handle s s' h hI hs.fresh, ?_, ?_, ?_, ?_⟩
  · rw [hctl]; exact hs.recording
  · rw [hctl]; exact hs.held
  · rw [hctl]; exact hs.none
  · rw [hctl]; exact hs.new

/-- the latest admission of a capture is that of the reply -/
def State.OpenedFor (handle : Nat) (s : State) : Prop :=
  ∃ capture, lastOpened s.snap.trail = some (handle, capture)

theorem stable_openedFor (handle : Nat) : (executorContract cfg).Stable (State.OpenedFor handle) :=
  fun _ _ h _ ⟨capture, hlast⟩ => ⟨capture, (ExecutorRely.snap h).opened.trans hlast⟩

theorem stable_free : (executorContract cfg).Stable (·.snap.Free) :=
  fun _ _ h _ hs => (ExecutorRely.snap h).free hs

/-- a request for a capture whose identity is new -/
abbrev Requesting (handle : Nat) (id : String) (s : State) : Prop :=
  Serving handle s ∧ s.ctl.remembers id = false

theorem stable_requesting (handle : Nat) (id : String) :
    (executorContract cfg).Stable (Requesting handle id) :=
  (stable_serving handle).and (stable_ctl (·.remembers id = false))

/-- a source that records what it reserved holds nothing while the reservation is free -/
theorem SlotBook.unreserved {s : State} (h : SlotBook s) (hsettled : s.ctl.Settled)
    (hfree : s.flags.captureReserved = false) :
    s.ctl.captureSlotHeld = false ∧ s.ctl.captureReply = none ∧ s.snap.Free := by
  have howned : s.flags.owned = false := by simp [Flags.owned, hfree]
  have hheld : s.ctl.captureSlotHeld = false := by
    have hbook := h.owned
    rw [howned, hsettled.recorded] at hbook
    simpa using hbook.symm
  refine ⟨hheld, ?_, h.free howned⟩
  have hreply := hsettled.held
  rw [hheld] at hreply
  simpa using hreply.symm

theorem reserveCapture_triple (handle : Nat) (id : String) :
    (executorContract cfg).Triple (Requesting handle id) reserveCapture fun reserved s =>
      if reserved then Reserved handle id s ∧ s.snap.Free else Serving handle s := by
  refine executor_atomic (stable_requesting handle id) (fun reserved => ?_) fun s hI h => ?_
  · cases reserved with
    | true => exact (stable_reserved handle id).and stable_free
    | false => exact stable_serving handle
  · obtain ⟨hserving, hnew⟩ := h
    cases hreserved : s.flags.captureReserved with
    | true => exact ⟨.look, hserving⟩
    | false =>
      obtain ⟨hheld, hnone, hfree⟩ := hI.slot.unreserved hserving.2 hreserved
      exact ⟨.reserve hreserved hserving.2, ⟨hserving.1, rfl, hheld, hnone, hnew⟩, hfree⟩

theorem admitCapture_triple (handle : Nat) (request : ControlRequest)
    (options : Executor.CaptureOptions) (now : Int) :
    (executorContract cfg).Triple (Requesting handle request.request_id)
      (admitCapture handle request options now) fun _ s => s.ctl.Settled := by
  refine .bind (reserveCapture_triple handle request.request_id) fun reserved => ?_
  cases reserved with
  | false => exact reply_triple handle rfl
  | true =>
    have hreserved : (executorContract cfg).Stable (Reserved handle request.request_id) :=
      stable_reserved handle request.request_id
    have hopened : (executorContract cfg).Stable fun s =>
        Reserved handle request.request_id s ∧ s.OpenedFor handle :=
      hreserved.and (stable_openedFor handle)
    have hopen : (executorContract cfg).Triple
        (fun s => Reserved handle request.request_id s ∧ s.OpenedFor handle)
        (.atomic (.openCapture request.request_id) fun s => ({ s with
          ctl.captureSlotHeld := true
          ctl.captureRecording := false
          ctl.captureReply := some handle
          ctl.captureRequestID := request.request_id
          ctl.captureDeadline := min request.deadline (now + kCaptureBudget) }, ()))
        fun _ s => s.ctl.Settled :=
      executor_last hopened fun s h =>
        ⟨.openCapture _ _ h.1.fresh h.1.recording h.1.held h.1.none h.1.new h.2, ⟨rfl, rfl⟩⟩
    refine .bind (Q := fun _ s => Reserved handle request.request_id s ∧ s.OpenedFor handle)
      (executor_atomic (hreserved.and stable_free) (fun _ => hopened) fun s _ h => ?_)
      fun generation => ?_
    · exact ⟨.openSnapshot handle _ _ _ h.1.recording h.1.held h.1.none h.2, ⟨h.1.fresh,
        h.1.recording, h.1.held, h.1.none, h.1.new⟩, _, rfl⟩
    refine .ite (fun hne => ?_) fun _ => hopen
    refine .bind (Q := fun _ s => Reserved handle request.request_id s ∧ s.OpenedFor handle)
      (executor_atomic hopened (fun _ => hopened) fun s _ h => ⟨.demandKeyframe hne,
        ⟨h.1.fresh, h.1.recording, h.1.held, h.1.none, h.1.new⟩, h.2⟩) fun _ => ?_
    exact .bind (Q := fun _ s => Reserved handle request.request_id s ∧ s.OpenedFor handle)
      (executor_atomic hopened (fun _ => hopened) fun s _ h => ⟨.forceKeyframe,
        ⟨h.1.fresh, h.1.recording, h.1.held, h.1.none, h.1.new⟩, h.2⟩) fun _ => hopen

theorem handleCapture_triple (handle : Nat) (request : ControlRequest) (input : Json) (now : Int) :
    (executorContract cfg).Triple (Serving handle) (handleCapture handle request input now)
      fun _ s => s.ctl.Settled := by
  refine .bind (Q := fun r s => Serving handle s ∧
      (∀ options, r = .ok options → s.ctl.remembers request.request_id = false))
    (executor_read (stable_serving handle) (fun r => ?_) fun s _ h => ⟨h, fun options hok => ?_⟩)
    fun r => ?_
  · exact (stable_serving handle).and (stable_ctl fun e =>
      ∀ options, r = .ok options → e.remembers request.request_id = false)
  · exact Executor.captureOptions_ok hok
  split
  · exact (reply_triple handle rfl).pre fun _ h => h.1
  rename_i options
  refine Triple.pre (P := Requesting handle request.request_id) ?_ fun s h => ⟨h.1, h.2 _ rfl⟩
  have hrest : ∀ active : Bool, (executorContract cfg).Triple
      (Requesting handle request.request_id)
      (if (!active) = true then reply handle (.error noActiveEncoder)
        else admitCapture handle request options now) fun _ s => s.ctl.Settled := fun _ =>
    .ite (fun _ => (reply_triple handle rfl).pre fun _ h => h.1)
      fun _ => admitCapture_triple handle request options now
  exact .ite (fun _ => .bind (executor_look (stable_requesting handle _)) fun active =>
    hrest active) fun _ => .bind (.ret (stable_requesting handle _) fun _ _ h => h) fun active =>
      hrest active

/-! ## mutations -/

/-- a request for a mutation while no other one is pending -/
abbrev Mutating (handle : Nat) (s : State) : Prop :=
  Serving handle s ∧ s.ctl.pendingControl = none

theorem stable_mutating (handle : Nat) : (executorContract cfg).Stable (Mutating handle) :=
  (stable_serving handle).and (stable_ctl (·.pendingControl = none))

theorem Books.awaiting_none {s : State} (h : Books cfg s) (hnone : s.ctl.pendingControl = none) :
    s.nat.awaitingNativeControl = none :=
  (h.handoff.free hnone).2

theorem Books.not_halted {s : State} (h : Books cfg s) (hnone : s.ctl.pendingControl = none)
    (hactive : s.nat.nativeAppliedActive = true) : ¬ s.Halted := by
  intro hhalted
  rcases h.halt.applied hhalted with hfalse | ⟨command, hcommand, _⟩
  · rw [hactive] at hfalse
    cases hfalse
  · rw [h.awaiting_none hnone] at hcommand
    cases hcommand

theorem stable_running {handle : Nat} {p : Prop} : (executorContract cfg).Stable fun s =>
    Mutating handle s ∧ (p → ¬ s.Halted) := by
  intro s s' h hI hs
  refine ⟨stable_mutating handle s s' h hI hs.1, fun hp => ?_⟩
  rw [State.Halted, ExecutorRely.drive h hs.1.2]
  exact hs.2 hp

theorem handleMutation_triple (handle : Nat) (kind : ControlKind) (request : ControlRequest)
    (input : Json) :
    (executorContract cfg).Triple (Serving handle) (handleMutation cfg handle kind request input)
      fun _ s => s.ctl.Settled := by
  refine .bind (Q := fun r s => Serving handle s ∧ (r = .ok () → s.ctl.pendingControl = none))
    (executor_read (stable_serving handle) (fun r => ?_) fun s _ h => ?_) fun r => ?_
  · exact (stable_serving handle).and (stable_ctl fun e => r = .ok () → e.pendingControl = none)
  · exact ⟨h, Executor.checkMutation_ok⟩
  split
  · exact (reply_triple handle rfl).pre fun _ h => h.1
  refine Triple.pre (P := Mutating handle) ?_ fun s h => ⟨h.1, h.2 rfl⟩
  -- a keyframe is asked of an encoder that was seen to run, so its drive is not halted
  refine (fun hrest => .ite (fun _ => .bind (Q := fun active s => Mutating handle s ∧
    (kind = .requestKeyframe ∧ active = true → ¬ s.Halted)) (executor_read (stable_mutating handle)
    (fun _ => stable_running) fun s hI h => ⟨h, fun hactive => hI.not_halted h.2 hactive.2⟩) hrest)
    fun hkind => .bind (Q := fun active s => Mutating handle s ∧
    (kind = .requestKeyframe ∧ active = true → ¬ s.Halted)) (.ret (stable_mutating handle)
    fun _ _ h => ⟨h, fun hactive => absurd hactive.1 hkind⟩) hrest) ?_
  intro active
  refine .ite (fun _ => (reply_triple handle rfl).pre fun _ h => h.1.1) fun hactive => ?_
  have hactive : active = true := by simpa using hactive
  refine .bind (Q := fun r s => (Mutating handle s ∧
    (kind = .requestKeyframe ∧ active = true → ¬ s.Halted)) ∧
    ∃ width height, r = s.ctl.desiredMutation cfg.ros.rosPublishingEnabled width height kind
      request input) (executor_read stable_running (fun r => ?_) fun s _ h => ⟨h, _, _, rfl⟩)
    fun r => ?_
  · exact stable_running.and (stable_ctl fun e => ∃ width height,
      r = e.desiredMutation cfg.ros.rosPublishingEnabled width height kind request input)
  split
  · exact (reply_triple handle rfl).pre fun _ h => h.1.1.1
  · rename_i desired
    refine executor_atomic (stable_running.and (stable_ctl fun e => ∃ width height,
      .ok desired = e.desiredMutation cfg.ros.rosPublishingEnabled width height kind request
        input)) (fun _ => stable_ctl Executor.Settled) fun s hI h => ?_
    obtain ⟨⟨⟨hserving, hnone⟩, hrunning⟩, width, height, hdesired⟩ := h
    exact ⟨.admission hserving.1 hnone (hI.awaiting_none hnone)
      (fun hkind => hrunning ⟨hkind, hactive⟩) ⟨width, height, input, hdesired.symm⟩,
      ⟨hserving.2.recorded, hserving.2.held⟩⟩

theorem handleControlRequest_triple (operation : String) (request : ControlRequest) (input : Json)
    (now : Int) :
    (executorContract cfg).Triple (·.ctl.Settled)
      (handleControlRequest cfg operation request input now) fun _ s => s.ctl.Settled := by
  refine .bind (Q := Serving) (executor_atomic (stable_ctl Executor.Settled) stable_serving
    fun s hI h => ⟨.request operation request input, hI.reply.fresh, h.recorded, h.held⟩)
    fun handle => ?_
  split
  · exact handleRead_triple handle input fun _ => rfl
  · exact handleRead_triple handle input fun _ => rfl
  · exact handleRead_triple handle input fun _ => rfl
  · exact handleReceipts_triple handle input _
  · exact handleObserve_triple handle request input _
  · exact handleCapture_triple handle request input now
  · exact handleMutation_triple handle _ request input
  · exact reply_triple handle rfl

/-! ## the pending mutation -/

theorem stable_mem (e : Event) : (executorContract cfg).Stable (e ∈ ·.log) :=
  fun _ _ h _ he => ExecutorRely.mem h he

theorem stable_pending (pending : PendingControl) :
    (executorContract cfg).Stable (·.ctl.pendingControl = some pending) :=
  stable_ctl fun e => e.pendingControl = some pending

theorem stable_published (revision : Nat) : (executorContract cfg).Stable fun s =>
    ∃ calibration ∈ s.ros.cameraInfos, calibration.revision = revision := by
  rintro s s' h _ ⟨calibration, hmem, hrevision⟩
  obtain ⟨new, hout⟩ := ExecutorRely.out h
  refine ⟨calibration, ?_, hrevision⟩
  rw [RosState.cameraInfos, hout, List.filterMap_append]
  exact List.mem_append_right _ hmem

theorem stable_acknowledged (pending : PendingControl) :
    (executorContract cfg).Stable (·.Acknowledged pending) := by
  intro s s' h hI hs
  exact ⟨stable_mem _ s s' h hI hs.acknowledged,
    fun hc => stable_published _ s s' h hI (hs.published hc)⟩

theorem ReplyBook.freed {s s' : State} (h : ReplyBook s) {handle : Nat}
    (huses : s.uses handle = s'.uses handle + 1) (hnext : s'.ctl.nextReply = s.ctl.nextReply) :
    s'.Fresh handle := by
  have honce := h.once handle
  refine ⟨?_, by omega⟩
  rw [hnext]
  by_contra hle
  have := h.below handle (by omega)
  omega

/-- a pending mutation between two accesses -/
abbrev Pending (pending : PendingControl) (s : State) : Prop :=
  s.ctl.pendingControl = some pending ∧ s.ctl.Settled

theorem stable_pends (pending : PendingControl) : (executorContract cfg).Stable (Pending pending) :=
  (stable_pending pending).and (stable_ctl Executor.Settled)

theorem completePending_triple (pending : PendingControl) :
    (executorContract cfg).Triple (fun s => Pending pending s ∧ s.Acknowledged pending)
      (completePending pending) fun _ s => s.ctl.Settled := by
  have hstable : (executorContract cfg).Stable fun s =>
      Pending pending s ∧ s.Acknowledged pending :=
    (stable_pends pending).and (stable_acknowledged pending)
  have happlied : (executorContract cfg).Stable fun s =>
      (Pending pending s ∧ s.Acknowledged pending) ∧ s.ctl.appliedRevision = pending.revision :=
    hstable.and (stable_ctl fun e => e.appliedRevision = pending.revision)
  refine .bind (executor_look hstable) fun active => ?_
  refine .bind (Q := fun _ s => (Pending pending s ∧ s.Acknowledged pending) ∧
    s.ctl.appliedRevision = pending.revision) (executor_atomic hstable (fun _ => happlied)
    fun s _ h => ⟨.applyConfiguration active h.1.1 h.2, ⟨⟨h.1.1, h.1.2.recorded, h.1.2.held⟩,
      ⟨h.2.acknowledged, h.2.published⟩⟩, rfl⟩) fun _ => ?_
  refine .bind (executor_look happlied) fun time => ?_
  have hserving : (executorContract cfg).Stable (Serving pending.reply) := stable_serving _
  refine .bind (Q := fun _ => Serving pending.reply) (executor_atomic happlied
    (fun _ => hserving) fun s hI h => ⟨.completePending time h.1.1.1 h.1.2 h.2, ?_,
      h.1.1.2.recorded, h.1.1.2.held⟩) fun receipt => ?_
  · refine hI.reply.freed ?_ rfl
    simp [State.uses, State.replied, State.openReplies, State.completePending, Executor.remember,
      Event.reply?, h.1.1.1]
    omega
  refine .bind (executor_look hserving) fun status => ?_
  refine .ite (fun _ => .bind (.map (executor_look hserving) fun _ => hserving)
    fun _ => reply_triple _ rfl) fun _ => ?_
  exact .bind (.ret hserving fun _ _ h => h) fun _ => reply_triple _ rfl

theorem expirePending_triple (pending : PendingControl) (input : FlushInput) :
    (executorContract cfg).Triple (Pending pending) (expirePending pending input)
      fun _ s => s.ctl.Settled := by
  refine .ite (fun _ => executor_last (stable_pends pending) fun s h => ?_)
    fun _ => executor_ret.pre fun _ h => h.2
  show ExecutorStep cfg (.expirePending pending) s (s.expirePending pending input.lockTaken) ∧
    (s.expirePending pending input.lockTaken).ctl.Settled
  unfold State.expirePending
  split
  · rename_i hslot
    exact ⟨.expirePending h.1 hslot.2, h.2.recorded, h.2.held⟩
  · exact ⟨.spare pending, h.2⟩

theorem flushPending_triple (pending : PendingControl) (input : FlushInput) :
    (executorContract cfg).Triple (Pending pending) (flushPending pending input)
      fun _ s => s.ctl.Settled := by
  have hpending : (executorContract cfg).Stable (Pending pending) := stable_pends pending
  refine .bind (Q := fun r s => Pending pending s ∧
      (r = pending.revision → .nativeFailed pending.revision ∈ s.log))
    (executor_read hpending (fun r => ?_) fun s hI h => ⟨h, fun e => ?_⟩) fun failed => ?_
  · exact hpending.and fun s s' hr hI h e => stable_mem _ s s' hr hI (h e)
  · have htwo := hI.native.pending pending h.1
    rcases hI.native.failed with hzero | hmem
    · omega
    · rwa [e] at hmem
  refine .ite (fun e => ?_) fun _ => Triple.pre ?_ fun _ h => h.1
  · refine (executor_last (hpending.and (stable_mem (.nativeFailed pending.revision)))
      fun s h => ⟨.failPending h.1.1 h.2, h.1.2.recorded, h.1.2.held⟩).pre fun s h => ⟨h.1, h.2 e⟩
  refine .bind (Q := fun r s => Pending pending s ∧
      (r = pending.revision → .acknowledged pending.revision ∈ s.log))
    (executor_read hpending (fun r => ?_) fun s hI h => ⟨h, fun e => ?_⟩) fun applied => ?_
  · exact hpending.and fun s s' hr hI h e => stable_mem _ s s' hr hI (h e)
  · have htwo := hI.native.pending pending h.1
    rcases hI.native.applied with hone | hmem
    · omega
    · rwa [e] at hmem
  refine .ite (fun e => ?_) fun _ => (expirePending_triple pending input).pre fun _ h => h.1
  have hack : (executorContract cfg).Stable fun s =>
      Pending pending s ∧ .acknowledged pending.revision ∈ s.log :=
    hpending.and (stable_mem _)
  refine Triple.pre (P := fun s => Pending pending s ∧ .acknowledged pending.revision ∈ s.log) ?_
    fun s h => ⟨h.1, h.2 e⟩
  have hrest : ∀ published : Nat, (executorContract cfg).Triple
      (fun s => (Pending pending s ∧ .acknowledged pending.revision ∈ s.log) ∧
        (published = pending.revision → pending.calibration = true →
          ∃ calibration ∈ s.ros.cameraInfos, calibration.revision = pending.revision))
      (if published = pending.revision then completePending pending
        else expirePending pending input) fun _ s => s.ctl.Settled := by
    refine fun published => .ite (fun e => ?_) fun _ => ?_
    · exact (completePending_triple pending).pre fun s h => ⟨h.1.1, h.1.2, h.2 e⟩
    · exact (expirePending_triple pending input).pre fun s h => h.1.1
  have hstable : ∀ published : Nat, (executorContract cfg).Stable fun s =>
      (Pending pending s ∧ .acknowledged pending.revision ∈ s.log) ∧
        (published = pending.revision → pending.calibration = true →
          ∃ calibration ∈ s.ros.cameraInfos, calibration.revision = pending.revision) :=
    fun published => hack.and fun s s' hr hI h e hc => stable_published _ s s' hr hI (h e hc)
  refine .ite (fun _ => .bind (executor_read hack hstable fun s hI h => ⟨h, fun e _ => ?_⟩) hrest)
    fun hplain => .bind (.ret hack fun s _ h => ⟨h, fun _ hc => absurd hc hplain⟩) hrest
  have htwo := hI.native.pending pending h.1.1
  rcases hI.ros.published with hzero | hinfo
  · omega
  · rwa [e] at hinfo

/-! ## the capture -/

/-- a capture whose reply is kept -/
abbrev Capturing (handle : Nat) (s : State) : Prop :=
  s.ctl.captureReply = some handle ∧ s.ctl.Settled

theorem stable_capturing (handle : Nat) : (executorContract cfg).Stable (Capturing handle) :=
  (stable_ctl (·.captureReply = some handle)).and (stable_ctl Executor.Settled)

/-- an answered capture whose slot is not free yet -/
structure Answered (recording : Bool) (s : State) : Prop where
  recording : s.ctl.captureRecording = recording
  held : s.ctl.captureSlotHeld = true
  none : s.ctl.captureReply = none

theorem stable_answered (recording : Bool) : (executorContract cfg).Stable (Answered recording) :=
  fun s s' h _ hs => by
    have hctl : s'.ctl = s.ctl := ExecutorRely.ctl h
    exact ⟨by rw [hctl]; exact hs.recording, by rw [hctl]; exact hs.held,
      by rw [hctl]; exact hs.none⟩

/-- a finished capture leaves the snapshot free; a successful one was delivered, and it is the one
that was admitted for the reply -/
structure Finished (handle : Nat) (response : SnapshotResult) (s : State) : Prop where
  free : s.snap.Free
  delivered : response.failed = false → response.DeliveredIn s.snap.trail ∧
    lastOpened s.snap.trail = some (handle, response.generation, response.id)

theorem stable_finished (handle : Nat) (response : SnapshotResult) :
    (executorContract cfg).Stable (Finished handle response) := by
  intro s s' h _ hs
  have hsnap : s.snap.ExecutorSame s'.snap := ExecutorRely.snap h
  obtain ⟨new, htrail⟩ := hsnap.trail
  refine ⟨hsnap.free hs.free, fun hok => ⟨?_, hsnap.opened.trans (hs.delivered hok).2⟩⟩
  rw [htrail]
  exact (hs.delivered hok).1.mono new

theorem CaptureInv.finished {index : Nat} {s : Snapshot} (h : CaptureInv index s) {handle : Nat}
    (hopened : ∃ capture, lastOpened s.trail = some (handle, capture))
    {keyframeGeneration applied failed : Nat} {late : Bool} {response : SnapshotResult}
    (hfinished : (s.finish keyframeGeneration applied failed late).2 = .finished response) :
    (s.finish keyframeGeneration applied failed late).1.Free ∧ (response.failed = false →
      response.DeliveredIn (s.finish keyframeGeneration applied failed late).1.trail ∧
      lastOpened (s.finish keyframeGeneration applied failed late).1.trail =
        some (handle, response.generation, response.id)) := by
  rcases h.finish_cases keyframeGeneration applied failed late with e | ⟨hresting, r, e, hdelivered⟩
  · rw [e] at hfinished
    cases hfinished
  · rw [e] at hfinished ⊢
    cases hfinished
    refine ⟨⟨rfl, hresting.pending, hresting.result, hresting.carried, hresting.job,
      hresting.encoding⟩, fun hok => ?_⟩
    obtain ⟨hdelivered, handle', hlast⟩ := hdelivered hok
    obtain ⟨capture, hcapture⟩ := hopened
    obtain rfl : handle = handle' :=
      congrArg Prod.fst (Option.some.inj (hcapture.symm.trans hlast))
    exact ⟨hdelivered, hlast⟩

theorem flushCapture_triple (handle : Nat) (late : Bool) :
    (executorContract cfg).Triple (Capturing handle) (flushCapture handle late)
      fun _ s => s.ctl.Settled := by
  have hcapturing : (executorContract cfg).Stable (Capturing handle) := stable_capturing handle
  have hfinished : ∀ verdict : Snapshot.Verdict, (executorContract cfg).Stable fun s =>
      ∀ response, verdict = .finished response → Finished handle response s :=
    fun _ s s' hr hI h response e => stable_finished handle response s s' hr hI (h response e)
  refine .bind (Q := fun verdict s => Capturing handle s ∧
      ∀ response, verdict = .finished response → Finished handle response s)
    (executor_atomic hcapturing (fun verdict => hcapturing.and (hfinished verdict))
      fun s hI h => ⟨.flushCapture late h.1, ⟨h.1, h.2.recorded, h.2.held⟩, fun response e =>
        have hfinished := hI.captures.finished (hI.slot.opened handle h.1) e
        ⟨hfinished.1, hfinished.2⟩⟩)
    fun verdict => ?_
  split
  · exact executor_ret.pre fun _ h => h.1.2
  rename_i response
  refine Triple.pre (P := fun s => Capturing handle s ∧ Finished handle response s) ?_ fun s h =>
    ⟨h.1, h.2 response rfl⟩
  refine .bind (Q := fun _ s => Answered false s ∧ s.snap.Free) (executor_atomic
    (hcapturing.and (stable_finished handle response)) (fun _ => (stable_answered false).and stable_free)
    fun s _ h => ⟨.answerCapture response h.1.1 h.2.free h.2.delivered,
      ⟨h.1.2.recorded, ?_, rfl⟩, h.2.free⟩) fun _ => ?_
  · have hheld := h.1.2.held
    rw [h.1.1] at hheld
    exact hheld
  refine .bind (Q := fun _ => Answered true) (executor_atomic
    ((stable_answered false).and stable_free) (fun _ => stable_answered true)
    fun s _ h => ⟨.release h.1.recording h.1.held h.1.none h.2, rfl, h.1.held, h.1.none⟩)
    fun _ => ?_
  refine executor_last (stable_answered true) fun s h =>
    ⟨.freeSlot h.recording h.held h.none, rfl, ?_⟩
  show false = s.ctl.captureReply.isSome
  rw [h.none]
  rfl

/-! ## observers -/

theorem flushWatcher_triple (input : FlushInput) (i : Nat) :
    (executorContract cfg).Triple (·.ctl.Settled) (flushWatcher input i)
      fun _ s => s.ctl.Settled := by
  have hslot : ∀ slot, (executorContract cfg).Stable fun s =>
      s.ctl.controlWatchers.getD i none = slot ∧ s.ctl.Settled :=
    fun slot => stable_ctl fun e => e.controlWatchers.getD i none = slot ∧ e.Settled
  refine .bind (executor_read (stable_ctl Executor.Settled) hslot fun _ _ h => ⟨rfl, h⟩)
    fun slot => ?_
  split
  · exact executor_ret.pre fun _ h => h.2
  rename_i watcher
  have hend : ∀ answer : List Event,
      answer = [] ∨ (∃ response, answer = [.replied watcher.reply response] ∧
        response.isCapture = false) →
      (executorContract cfg).Triple (fun s =>
          s.ctl.controlWatchers.getD i none = some watcher ∧ s.ctl.Settled)
        (write (·.endWatcher i answer)) fun _ s => s.ctl.Settled := fun answer hanswer =>
    executor_last (hslot _) fun s h => ⟨.endWatcher h.1 hanswer, h.2.recorded, h.2.held⟩
  refine .ite (fun _ => hend _ (.inl rfl)) fun _ => ?_
  refine .bind (executor_look (hslot _)) fun event => .ite (fun _ => ?_) fun _ => ?_
  · exact .bind (executor_look (hslot _)) fun status => hend _ (.inr ⟨_, rfl, rfl⟩)
  · exact .ite (fun _ => hend _ (.inr ⟨_, rfl, rfl⟩)) fun _ => executor_ret.pre fun _ h => h.2

theorem flushWatchers_triple (input : FlushInput) :
    (executorContract cfg).Triple (·.ctl.Settled) (flushWatchers input)
      fun _ s => s.ctl.Settled :=
  .bind (flushWatcher_triple input 0) fun _ => .bind (flushWatcher_triple input 1) fun _ =>
    .bind (flushWatcher_triple input 2) fun _ => flushWatcher_triple input 3

theorem flushControl_triple (input : FlushInput) :
    (executorContract cfg).Triple (·.ctl.Settled) (flushControl input)
      fun _ s => s.ctl.Settled := by
  have hsettled : (executorContract cfg).Stable (·.ctl.Settled) := stable_ctl Executor.Settled
  refine .bind (Q := fun r s => s.ctl.pendingControl = r ∧ s.ctl.Settled) (executor_read hsettled
    (fun r => (stable_ctl (·.pendingControl = r)).and hsettled) fun _ _ h => ⟨rfl, h⟩) fun r => ?_
  cases r
  case' none => refine Triple.pre (P := (·.ctl.Settled)) ?_ fun _ h => h.2
  case' some pending => refine .bind (flushPending_triple pending input) fun _ => ?_
  -- with the mutation settled, the capture and then the observers
  all_goals
    refine .bind (Q := fun r s => s.ctl.captureReply = r.1 ∧ s.ctl.Settled) (executor_read hsettled
      (fun r => (stable_ctl (·.captureReply = r.1)).and hsettled) fun _ _ h => ⟨rfl, h⟩)
      fun r => ?_
    split
    · exact (flushWatchers_triple input).pre fun _ h => h.2
    · exact .bind (flushCapture_triple _ _) fun _ => flushWatchers_triple input

theorem executor_body (c : ExecutorCall) :
    (executorContract cfg).Triple (·.ctl.Settled) (threadBody cfg .executor c)
      fun _ s => s.ctl.Settled := by
  cases c with
  | request operation request input now =>
    exact handleControlRequest_triple operation request input now
  | flush input => exact flushControl_triple input

end

end MediaCamera
