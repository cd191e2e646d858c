import MediaCamera.Machine.Account
import MediaCamera.Plugin.ExecutorCalls

/-!
# The budget of a capture

`FlushCapture` ends a late capture when no submitted work is left, unless the capture is complete
and still waits for its keyframe.

* `State.NoSubmittedWork`, `State.KeyframeOutstanding`   how a capture stands before `FlushCapture`;
* `CaptureEnded`          the reply is completed, one receipt recorded, the reservation released;
* `CallRun.flushes`       the states in which `FlushCapture` runs in a call of the executor;
* `capture_budget`        what each of them leads to;
* `stopped_capture_held`  a stop overtakes a capture with a keyframe, and its slot stays reserved.
-/

namespace MediaCamera

open Contract

/-- the deadline of the capture has passed, or its reply is cancelled -/
def FlushInput.Late (input : FlushInput) (s : State) : Prop :=
  input.captureCancelled = true ∨ s.ctl.captureDeadline ≤ input.now

instance (input : FlushInput) (s : State) : Decidable (input.Late s) :=
  inferInstanceAs (Decidable (_ ∨ _))

namespace State

/-- neither a readback nor a submitted capture is on its way -/
def NoSubmittedWork (s : State) : Prop :=
  s.snap.snapshotReadbackPending = false ∧
    ¬ (s.snap.snapshot.captureSubmitted = true ∧ s.snap.snapshot.completed = false)

/-- the capture is complete, and its keyframe has neither been produced nor failed -/
def KeyframeOutstanding (s : State) : Prop :=
  s.snap.snapshot.completed = true ∧ s.ctl.captureKeyframeGeneration ≠ 0 ∧
    s.cap.applied ≠ s.ctl.captureKeyframeGeneration ∧
    s.cap.failed ≠ s.ctl.captureKeyframeGeneration

instance (s : State) : Decidable s.NoSubmittedWork := inferInstanceAs (Decidable (_ ∧ _))

instance (s : State) : Decidable s.KeyframeOutstanding :=
  inferInstanceAs (Decidable (_ ∧ _ ∧ _ ∧ _))

end State

def Event.isReceipt : Event → Bool
  | .recorded _ _ => true
  | _ => false

/-- since `before`, the reply is completed, one receipt is recorded, and the capture holds neither
its slot nor the reservation -/
structure CaptureEnded (before after : State) (handle : Nat) : Prop where
  reply : after.ctl.captureReply = none
  events : ∃ new response, after.log = new ++ before.log ∧ .replied handle response ∈ new ∧
    new.countP (·.isReceipt) = 1
  slot : after.ctl.captureSlotHeld = false
  released : after.flags.owned = false

theorem finish_waits {s : State} (hwork : s.NoSubmittedWork) :
    (s.snap.finish s.ctl.captureKeyframeGeneration s.cap.applied s.cap.failed true).2 = .waiting ↔
      s.KeyframeOutstanding := by
  obtain ⟨hreadback, hsubmitted⟩ := hwork
  unfold Snapshot.finish State.KeyframeOutstanding
  cases hcompleted : s.snap.snapshot.completed with
  | true =>
    simp only [if_true, true_and]
    unfold Snapshot.judgeKeyframe
    by_cases hkeyframe : s.ctl.captureKeyframeGeneration ≠ 0 ∧
        s.cap.applied ≠ s.ctl.captureKeyframeGeneration
    · rw [if_pos hkeyframe]
      by_cases hfailed : s.cap.failed ≠ s.ctl.captureKeyframeGeneration
      · rw [if_pos hfailed]
        exact ⟨fun _ => ⟨hkeyframe.1, hkeyframe.2, hfailed⟩, fun _ => rfl⟩
      · rw [if_neg hfailed]
        exact ⟨fun h => (by cases h), fun h => absurd h.2.2 hfailed⟩
    · rw [if_neg hkeyframe]
      exact ⟨fun h => (by cases h), fun h => absurd ⟨h.1, h.2.1⟩ hkeyframe⟩
  | false =>
    have hfree : s.snap.snapshot.captureSubmitted = false := by
      by_contra h
      exact hsubmitted ⟨by simpa using h, hcompleted⟩
    simp [hfree, hreadback]

/-! ## what the capture sees of the other steps -/

/-- the capture's reply, its slot and the reservation stay, and no receipt is recorded -/
structure Trails (s s' : State) : Prop where
  reply : s'.ctl.captureReply = s.ctl.captureReply
  slot : s'.ctl.captureSlotHeld = s.ctl.captureSlotHeld
  owned : s'.flags.owned = s.flags.owned
  log : ∃ new, s'.log = new ++ s.log ∧ new.countP (·.isReceipt) = 0

theorem Trails.refl (s : State) : Trails s s := ⟨rfl, rfl, rfl, [], rfl, rfl⟩

theorem ExecutorRely.trails {s s' : State} (h : ExecutorRely s s') : Trails s s' := by
  obtain ⟨new, hlog, hnew⟩ := h.log
  refine ⟨by rw [h.ctl], by rw [h.ctl], h.owned, new, hlog, List.countP_eq_zero.mpr ?_⟩
  intro e he hreceipt
  have hby := hnew e he
  cases e with
  | recorded mutation receipt => cases hby
  | _ => cases hreceipt

def CaptureAnswered (handle : Nat) (b s : State) : Prop :=
  s.ctl.captureReply = none ∧ ∃ new response, s.log = new ++ b.log ∧
    .replied handle response ∈ new ∧ new.countP (·.isReceipt) = 1

theorem CaptureAnswered.trails {b s s' : State} {handle : Nat} (h : CaptureAnswered handle b s)
    (hs : Trails s s') : CaptureAnswered handle b s' := by
  obtain ⟨hreply, new, response, hlog, hmem, hcount⟩ := h
  obtain ⟨later, hlater, hnone⟩ := hs.log
  refine ⟨hs.reply.trans hreply, later ++ new, response, ?_, List.mem_append_right _ hmem, ?_⟩
  · rw [hlater, hlog, List.append_assoc]
  · rw [List.countP_append, hnone, hcount]

theorem CaptureEnded.trails {b s s' : State} {handle : Nat} (h : CaptureEnded b s handle)
    (hs : Trails s s') : CaptureEnded b s' handle := by
  obtain ⟨hreply, hevents⟩ := CaptureAnswered.trails ⟨h.reply, h.events⟩ hs
  exact ⟨hreply, hevents, hs.slot.trans h.slot, hs.owned.trans h.released⟩

/-- what `FlushCapture` does to a late capture -/
def BudgetOutcome (b s : State) : Prop :=
  ∃ handle, b.ctl.captureReply = some handle ∧
    (b.KeyframeOutstanding ∧ s.ctl.captureReply = some handle ∨
      ¬ b.KeyframeOutstanding ∧ CaptureEnded b s handle)

theorem BudgetOutcome.trails {b s s' : State} (h : BudgetOutcome b s) (hs : Trails s s') :
    BudgetOutcome b s' := by
  obtain ⟨handle, hhandle, ⟨hkeyframe, hreply⟩ | ⟨hkeyframe, hended⟩⟩ := h
  · exact ⟨handle, hhandle, .inl ⟨hkeyframe, hs.reply.trans hreply⟩⟩
  · exact ⟨handle, hhandle, .inr ⟨hkeyframe, hended.trails hs⟩⟩

/-! ## the account of a flush -/

def Label.flushesCapture : Label → Bool
  | .flushCapture _ => true
  | _ => false

/-- the states in which the section of `FlushCapture` ran, newest first -/
def noteFlush (flushes : List State) (x : Taken State Label) : List State :=
  if x.label.flushesCapture then x.before :: flushes else flushes

def flushContract : Contract (fun _ : State × List State => True) (fun (_ : Label) _ => True) where
  rely s s' := ExecutorRely s.1 s'.1 ∧ s'.2 = s.2
  guar _ _ _ := True
  rely_refl _ := ⟨.refl _, rfl⟩
  rely_trans h h' := ⟨h.1.trans h'.1, h'.2.trans h.2⟩

section
variable {α : Type}

abbrev Flushes (P : State × List State → Prop) (p : Thread α)
    (Q : α → State × List State → Prop) : Prop :=
  flushContract.Account noteFlush P p Q

def Since (P : State → State → Prop) (s : State × List State) : Prop :=
  ∃ b, s.2 = [b] ∧ P b s.1

theorem stable_since {P : State → State → Prop} (hP : ∀ b s s', Trails s s' → P b s → P b s') :
    flushContract.Stable (Since P) := by
  intro s s' hr _ h
  obtain ⟨b, hb, hs⟩ := h
  exact ⟨b, hr.2.trans hb, hP b _ _ hr.1.trails hs⟩

/-- each late flush without submitted work has had its outcome -/
def Flushed (input : FlushInput) (s : State × List State) : Prop :=
  ∀ b ∈ s.2, input.Late b → b.NoSubmittedWork → BudgetOutcome b s.1

variable {input : FlushInput}

theorem stable_flushed : flushContract.Stable (Flushed input) := by
  intro _ _ hr _ h b hb hlate hwork
  rw [hr.2] at hb
  exact (h b hb hlate hwork).trails hr.1.trails

/-- no flush yet, and the capture's slot is as it was read -/
def Unflushed (P : Executor → Prop) (s : State × List State) : Prop := s.2 = [] ∧ P s.1.ctl

theorem stable_unflushed (P : Executor → Prop) : flushContract.Stable (Unflushed P) := by
  intro s s' hr _ h
  refine ⟨hr.2.trans h.1, ?_⟩
  rw [hr.1.ctl]
  exact h.2

theorem Unflushed.flushed {P : Executor → Prop} {s : State × List State} (h : Unflushed P s) :
    Flushed input s := by
  intro b hb
  rw [h.1] at hb
  cases hb

theorem flush_atomic {P : State × List State → Prop} {Q : α → State × List State → Prop}
    {l : Label} {f : State → State × α} (hl : l.flushesCapture = false)
    (hP : flushContract.Stable P) (hQ : ∀ a, flushContract.Stable (Q a))
    (h : ∀ s g, P (s, g) → Q (f s).2 ((f s).1, g)) : Flushes P (.atomic l f) Q := by
  refine .atomic hP hQ fun s g _ hs _ => ⟨trivial, trivial, ?_⟩
  have hnote : noteFlush g ⟨l, s, (f s).1⟩ = g := by simp [noteFlush, hl]
  rw [hnote]
  exact h s g hs

/-! ## the pending mutation -/

def Unflushing (l : Label) (_ _ : State) : Prop := l.flushesCapture = false

theorem unflushing_access {f : State → State × α} : (access f).Within Unflushing :=
  .atomic fun _ => rfl

theorem expirePending_unflushing (pending : PendingControl) :
    (expirePending pending input).Within Unflushing :=
  .ite (.atomic fun _ => rfl) (.ret _)

theorem completePending_unflushing (pending : PendingControl) :
    (completePending pending).Within Unflushing := by
  refine .bind unflushing_access fun active => .bind (.atomic fun _ => rfl) fun _ => ?_
  refine .bind unflushing_access fun time => .bind unflushing_access fun receipt => ?_
  refine .bind unflushing_access fun status => ?_
  exact .ite (.bind (.map unflushing_access) fun _ => unflushing_access)
    (.bind (.ret _) fun _ => unflushing_access)

theorem flushPending_unflushing (pending : PendingControl) :
    (flushPending pending input).Within Unflushing := by
  have hpublished : ∀ published, Prog.Within Unflushing
      (if published = pending.revision then completePending pending
        else expirePending pending input) := fun _ =>
    .ite (completePending_unflushing pending) (expirePending_unflushing pending)
  refine .bind unflushing_access fun failed => .ite unflushing_access ?_
  refine .bind unflushing_access fun applied => .ite ?_ (expirePending_unflushing pending)
  exact .ite (.bind unflushing_access hpublished) (.bind (.ret _) hpublished)

theorem flushPending_account (pending : PendingControl) :
    Flushes (Unflushed fun _ => True) (flushPending pending input)
      fun _ => Unflushed fun _ => True := by
  refine .frame (flushPending_unflushing pending) ?_ (fun _ _ _ _ _ _ => trivial)
    (fun _ _ _ _ _ => trivial) (stable_unflushed _) fun _ _ _ _ _ h => h
  intro l s s' g hl
  have hl : l.flushesCapture = false := hl
  simp [noteFlush, hl]

/-! ## the observers -/

/-- a step that is no `FlushCapture` and leaves the capture alone -/
def Observing (l : Label) (s s' : State) : Prop := l.flushesCapture = false ∧ Trails s s'

theorem observing_read (f : State → α) : (read f).Within Observing :=
  .atomic fun s => ⟨rfl, .refl s⟩

theorem observing_end (i : Nat) (answer : List Event) (hnone : answer.countP (·.isReceipt) = 0) :
    (write (·.endWatcher i answer)).Within Observing :=
  .atomic fun _ => ⟨rfl, rfl, rfl, rfl, answer, rfl, hnone⟩

theorem flushWatcher_observing (i : Nat) : (flushWatcher input i).Within Observing := by
  refine .bind (observing_read _) fun slot => ?_
  cases slot with
  | none => exact .ret _
  | some watcher =>
    refine .ite (observing_end i [] rfl) (.bind (observing_read _) fun event => .ite ?_ ?_)
    · exact .bind (observing_read _) fun status => observing_end i _ rfl
    · exact .ite (observing_end i _ rfl) (.ret _)

theorem flushWatchers_account :
    Flushes (Flushed input) (flushWatchers input) fun _ => Flushed input := by
  have hwatchers : (flushWatchers input).Within Observing :=
    .bind (flushWatcher_observing 0) fun _ => .bind (flushWatcher_observing 1) fun _ =>
      .bind (flushWatcher_observing 2) fun _ => flushWatcher_observing 3
  refine .frame hwatchers ?_ (fun _ _ _ _ _ _ => trivial) (fun _ _ _ _ _ => trivial)
    stable_flushed ?_
  · intro l s s' g hs
    simp [noteFlush, hs.1]
  · intro l s s' g hs h b hb hlate hwork
    exact (h b hb hlate hwork).trails hs.2

/-! ## the capture -/

def Looked (input : FlushInput) (handle : Nat) (verdict : Snapshot.Verdict) (b s : State) : Prop :=
  b.ctl.captureReply = some handle ∧ s.ctl.captureReply = some handle ∧
    (∃ new, s.log = new ++ b.log ∧ new.countP (·.isReceipt) = 0) ∧
    (input.Late b → b.NoSubmittedWork → (verdict = .waiting ↔ b.KeyframeOutstanding))

theorem stable_looked (handle : Nat) (verdict : Snapshot.Verdict) :
    flushContract.Stable (Since (Looked input handle verdict)) := by
  refine stable_since fun b s s' hs h => ?_
  obtain ⟨hb, hreply, ⟨new, hlog, hnone⟩, hverdict⟩ := h
  obtain ⟨later, hlater, hlaternone⟩ := hs.log
  refine ⟨hb, hs.reply.trans hreply, ⟨later ++ new, ?_, ?_⟩, hverdict⟩
  · rw [hlater, hlog, List.append_assoc]
  · rw [List.countP_append, hlaternone, hnone]

/-- an answer to the capture of a late flush settles how it stood -/
def Ending (input : FlushInput) (handle : Nat) (R : State → State → Prop) (b s : State) : Prop :=
  b.ctl.captureReply = some handle ∧
    (input.Late b → b.NoSubmittedWork → ¬ b.KeyframeOutstanding) ∧ R b s

theorem stable_ending {handle : Nat} {R : State → State → Prop}
    (hR : ∀ b s s', Trails s s' → R b s → R b s') :
    flushContract.Stable (Since (Ending input handle R)) :=
  stable_since fun b s s' hs h => ⟨h.1, h.2.1, hR b s s' hs h.2.2⟩

theorem State.answerCapture_answers {b s : State} {handle : Nat} (response : SnapshotResult)
    (hlog : ∃ new, s.log = new ++ b.log ∧ new.countP (·.isReceipt) = 0) :
    CaptureAnswered handle b (s.answerCapture handle response) := by
  obtain ⟨new, hnew, hnone⟩ := hlog
  have hanswer : ∃ answer receipt, (s.answerCapture handle response).log =
      .replied handle answer :: .recorded none receipt :: s.log := ⟨_, _, rfl⟩
  obtain ⟨answer, receipt, hanswer⟩ := hanswer
  refine ⟨rfl, .replied handle answer :: .recorded none receipt :: new, answer, ?_,
    List.mem_cons_self, ?_⟩
  · rw [hanswer, hnew]
    rfl
  · rw [List.countP_cons, List.countP_cons, hnone]
    rfl

theorem answer_account (handle : Nat) (response : SnapshotResult) :
    Flushes (Since (Looked input handle (.finished response)))
      (do
        write (State.answerCapture · handle response)
        releaseCapture
        write (fun s => { s with ctl.captureSlotHeld := false, ctl.captureRecording := false }))
      fun _ => Flushed input := by
  have hanswered : flushContract.Stable (Since (Ending input handle (CaptureAnswered handle))) :=
    stable_ending fun b s s' hs h => h.trails hs
  have hreleased : flushContract.Stable (Since (Ending input handle fun b s =>
      CaptureAnswered handle b s ∧ s.flags.owned = false)) :=
    stable_ending fun b s s' hs h => ⟨h.1.trails hs, hs.owned.trans h.2⟩
  refine .bind (flush_atomic rfl (stable_looked handle _) (fun _ => hanswered) ?_) fun _ =>
    .bind (flush_atomic rfl hanswered (fun _ => hreleased) ?_) fun _ =>
      flush_atomic rfl hreleased (fun _ => stable_flushed) ?_
  · intro s g h
    obtain ⟨b, hb, hhandle, hreply, hlog, hverdict⟩ := h
    refine ⟨b, hb, hhandle, fun hlate hwork hkeyframe => ?_, State.answerCapture_answers _ hlog⟩
    cases (hverdict hlate hwork).mpr hkeyframe
  · intro s g h
    obtain ⟨b, hb, hhandle, hkeyframe, hanswer⟩ := h
    exact ⟨b, hb, hhandle, hkeyframe, hanswer, rfl⟩
  · intro s g h b' hb' hlate hwork
    obtain ⟨b, hb, hhandle, hkeyframe, ⟨hreply, hevents⟩, howned⟩ := h
    rw [show g = [b] from hb] at hb'
    obtain rfl := List.mem_singleton.mp hb'
    exact ⟨handle, hhandle, .inr ⟨hkeyframe hlate hwork, hreply, hevents, rfl, howned⟩⟩

theorem flushCapture_account (handle : Nat) (deadline : Int) :
    Flushes (Unflushed fun e => e.captureReply = some handle ∧ e.captureDeadline = deadline)
      (flushCapture handle (input.captureCancelled || decide (deadline ≤ input.now)))
      fun _ => Flushed input := by
  refine .bind (Q := fun verdict => Since (Looked input handle verdict))
    (.atomic (stable_unflushed _) (fun verdict => stable_looked handle verdict) ?_)
    fun verdict => ?_
  · intro s g _ h _
    obtain ⟨hnone, hreply, hdeadline⟩ := h
    refine ⟨trivial, trivial, s, ?_, hreply, hreply, ⟨[], rfl, rfl⟩, fun hlate hwork => ?_⟩
    · show s :: g = [s]
      rw [show g = [] from hnone]
    · have hflag : (input.captureCancelled || decide (deadline ≤ input.now)) = true := by
        rw [← hdeadline]
        simpa [FlushInput.Late] using hlate
      rw [hflag]
      exact finish_waits hwork
  · cases verdict with
    | waiting =>
      refine .ret (stable_looked handle _) fun s _ h b' hb' hlate hwork => ?_
      obtain ⟨b, hb, hhandle, hreply, _, hverdict⟩ := h
      rw [hb] at hb'
      obtain rfl := List.mem_singleton.mp hb'
      exact ⟨handle, hhandle, .inl ⟨(hverdict hlate hwork).mp rfl, hreply⟩⟩
    | finished response => exact answer_account handle response

theorem flushControl_account (input : FlushInput) :
    Flushes (Unflushed fun _ => True) (flushControl input) fun _ => Flushed input := by
  unfold flushControl
  have hnone : flushContract.Stable (Unflushed fun _ => True) := stable_unflushed _
  refine .bind (Q := fun _ => Unflushed fun _ => True)
    (flush_atomic rfl hnone (fun _ => hnone) fun _ _ h => h) fun pending => ?_
  cases pending
  case' some pending => refine .bind (flushPending_account pending) fun _ => ?_
  -- the mutation is no matter of the capture
  all_goals
    refine .bind (Q := fun r => Unflushed fun e => e.captureReply = r.1 ∧ e.captureDeadline = r.2)
      (flush_atomic rfl hnone (fun _ => stable_unflushed _) fun s g h => ⟨h.1, rfl, rfl⟩)
      fun r => ?_
    obtain ⟨reply, deadline⟩ := r
    cases reply with
    | none => exact flushWatchers_account.pre fun s h => h.flushed
    | some handle =>
      exact .bind (flushCapture_account handle deadline) fun _ => flushWatchers_account

end

/-! ## the theorem -/

/-- the states in which `FlushCapture` ran in a flush -/
def CallRun.flushes {cfg : PluginConfig} {input : FlushInput} (r : CallRun cfg (.flush input)) :
    List State :=
  (Pool.stepsOf (plugin cfg) .executor r.taken r.actions).foldl noteFlush []

theorem CallRun.budgeted {cfg : PluginConfig} {input : FlushInput} (r : CallRun cfg (.flush input))
    (hfinished : r.Finished) : Flushed input (r.after.shared, r.flushes) := by
  have hsafe : flushContract.Safe (fun _ => Flushed input)
      ((r.after.thread .executor).noted noteFlush) (r.after.shared, r.flushes) := by
    refine Pool.account_run (P := plugin cfg) (K := flushContract) (X := (pluginMachine cfg).Reachable)
      (fun s a hs => hs.next a) (fun _ _ _ => trivial) (fun _ _ _ _ => trivial)
      (fun s a g hs ha => ⟨executorRely_of_others hs ha, rfl⟩) r.uncalled r.taken_reachable ?_
    rw [r.taken_eq.1, r.taken_eq.2]
    exact flushControl_account input _ ⟨rfl, trivial⟩
  rw [Prog.eq_ret hfinished] at hsafe
  exact hsafe _ (flushContract.rely_refl _) trivial

/-- **The budget of a capture.**  Past its deadline, or cancelled, and with no submitted work left,
a capture is ended by `FlushCapture` if and only if it does not wait for a keyframe. -/
theorem capture_budget {cfg : PluginConfig} {input : FlushInput} (r : CallRun cfg (.flush input))
    (hfinished : r.Finished) {before : State} (hflush : before ∈ r.flushes)
    (hlate : input.Late before) (hwork : before.NoSubmittedWork) :
    ∃ handle, before.ctl.captureReply = some handle ∧
      (CaptureEnded before r.after.shared handle ↔ ¬ before.KeyframeOutstanding) := by
  obtain ⟨handle, hhandle, houtcome⟩ := r.budgeted hfinished before hflush hlate hwork
  refine ⟨handle, hhandle, ?_⟩
  rcases houtcome with ⟨hkeyframe, hreply⟩ | ⟨hkeyframe, hended⟩
  · refine ⟨fun hended => ?_, fun hnot => absurd hkeyframe hnot⟩
    have hnone := hended.reply
    rw [hreply] at hnone
    cases hnone
  · exact ⟨fun _ => hkeyframe, fun _ => hended⟩

/-! ## runs -/

def FlushInput.at (now : Int) : FlushInput := ⟨now, false, true, false, []⟩

/-- a capture is admitted and never rendered; it is flushed at its deadline -/
def lateCapture : CallRun .sample (.flush (.at 10)) where
  before := (pluginMachine .sample).run .sample (runCall .executor (captureCall "a") 6)
  reachable := Machine.Reachable.run (PluginState.sample_reachable _) _
  idle := rfl
  actions := List.replicate 12 (.step .executor)
  uncalled := by
    intro c hmem
    cases List.eq_of_mem_replicate hmem

theorem capture_budget_lateCapture :
    ∃ before ∈ lateCapture.flushes, ∃ handle, before.ctl.captureReply = some handle ∧
      CaptureEnded before lateCapture.after.shared handle := by
  have hflush : ∃ before ∈ lateCapture.flushes, (FlushInput.at 10).Late before ∧
      before.NoSubmittedWork ∧ ¬ before.KeyframeOutstanding := by decide +kernel
  obtain ⟨before, hmem, hlate, hwork, hkeyframe⟩ := hflush
  obtain ⟨handle, hhandle, hended⟩ :=
    capture_budget lateCapture (by decide +kernel) hmem hlate hwork
  exact ⟨before, hmem, handle, hhandle, hended.mpr hkeyframe⟩

def keyframeCaptureCall (request_id : String) : Call .executor :=
  .request "capture" ⟨"POST", request_id, 10⟩ (.object [("requestKeyframe", .bool true)]) 0

/-- a frame that is rendered for the capture, and the poll of its readback -/
def readbackCall (sourceTimeNanoseconds : Int) (poll : PboPoll) : Call .render :=
  .renderTarget ⟨sourceTimeNanoseconds, true, 640, 480, true, true, true, .needMoreInput,
    { idleCapture sourceTimeNanoseconds with texture := true, poll := poll }⟩

/-- a stream runs; a capture with a keyframe is admitted, and a stop is applied before the next
frame.  The capture is rendered and read back, the encoder is released, and the stop is
completed -/
def overtakenRun : List PluginAction :=
  startRun ++ runCall .executor (keyframeCaptureCall "k") 12 ++
    runCall .executor (mutationCall "stop" "b") 8 ++ runCall .render (postRenderCall 3) 20 ++
    runCall .render (readbackCall 3 .timeout) 30 ++ runCall .render (readbackCall 4 .timeout) 30 ++
    runCall .render (readbackCall 5 (.copied [1, 2, 3])) 30 ++
    runCall .jpegWorker ⟨⟨[1], "hardware", ""⟩, ⟨[2], "cpu", ""⟩⟩ 6 ++
    runCall .render (postRenderCall 6) 30 ++ runCall .render (frameCall 6 .needMoreInput) 30 ++
    runCall .render (postRenderCall 7) 30 ++ runCall .executor (flushCall 7) 24

def overtakenCapture : CallRun .sample (.flush (.at 10)) where
  before := (pluginMachine .sample).run .sample overtakenRun
  reachable := Machine.Reachable.run (PluginState.sample_reachable _) _
  idle := Prog.eq_ret (by decide +kernel)
  actions := List.replicate 12 (.step .executor)
  uncalled := by
    intro c hmem
    cases List.eq_of_mem_replicate hmem

/-- no work is left, and the capture still holds the reservation past its deadline -/
theorem stopped_capture_held :
    overtakenCapture.Finished ∧
      overtakenCapture.after.shared.ctl.pendingControl = none ∧
      (∃ before ∈ overtakenCapture.flushes, (FlushInput.at 10).Late before ∧
        before.NoSubmittedWork ∧ before.ctl.captureReply = some 1 ∧
        ¬ CaptureEnded before overtakenCapture.after.shared 1) ∧
      overtakenCapture.after.shared.ctl.captureReply = some 1 ∧
      overtakenCapture.after.shared.flags.captureReserved = true := by
  have hflush : ∃ before ∈ overtakenCapture.flushes, (FlushInput.at 10).Late before ∧
      before.NoSubmittedWork ∧ before.ctl.captureReply = some 1 := by decide +kernel
  have hreply : overtakenCapture.after.shared.ctl.captureReply = some 1 := by decide +kernel
  obtain ⟨before, hmem, hlate, hwork, hheld⟩ := hflush
  refine ⟨by decide +kernel, by decide +kernel, ⟨before, hmem, hlate, hwork, hheld, ?_⟩, hreply,
    by decide +kernel⟩
  intro hended
  have hnone := hended.reply
  rw [hreply] at hnone
  cases hnone

end MediaCamera
