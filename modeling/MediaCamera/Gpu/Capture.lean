import MediaCamera.Gpu.Readback
import MediaCamera.Machine.Account
import MediaCamera.Machine.Solo
import MediaCamera.Plugin.Verified

/-!
# The readback under `CaptureSnapshot`

The model of the plugin knows of the asynchronous readback what `IssueSnapshotPBOReadback` and
`PollSnapshotPBOReadback` return; here the calls of OpenGL are put under it, while the other threads
of the plugin move.

* `Matches r s`           the reader `r` and the plugin `s` agree on the readback;
* `CaptureInput.over`     the input of `CaptureSnapshot` that the answers of OpenGL give;
* `CaptureAnswers.calls`  the account of the calls that `CaptureSnapshot` makes of the two functions;
* `captureSnapshot_refines`   `CaptureSnapshot` in both models: the reader after these calls matches
                              again.
-/

namespace MediaCamera

/-- the members of the readback; only the render thread writes them -/
def Snapshot.readback (s : Snapshot) : Bool × String × Bool × Option (Nat × Nat) :=
  (s.snapshotPBOAvailable, s.snapshotPBOFailureReason, s.snapshotReadbackPending,
    s.snapshotReadbackResult.map fun r => (r.width, r.height))

/-! ## what leaves the readback alone -/

namespace Snapshot

theorem finish_readback (s : Snapshot) (keyframeGeneration applied failed : Nat) (late : Bool) :
    (s.finish keyframeGeneration applied failed late).1.readback = s.readback := by
  unfold finish
  dsimp only
  split
  · split <;> rfl
  · split
    · split <;> rfl
    · rfl

theorem submit_readback (s : Snapshot) (r : SnapshotResult) : (s.submit r).1.readback = s.readback := by
  unfold submit
  split <;> rfl

theorem fail_readback (s : Snapshot) (work : Nat) (error : String) :
    (s.fail work error).readback = s.readback := by
  unfold fail
  split <;> rfl

theorem rearm_readback (s : Snapshot) (r : SnapshotResult) : (s.rearm r).readback = s.readback := by
  unfold rearm
  split <;> rfl

theorem queueEncode_readback (s : Snapshot) (r : SnapshotResult) :
    (s.queueEncode r).1.readback = s.readback := by
  unfold queueEncode
  split <;> rfl

theorem takeEncode_readback (s : Snapshot) : s.takeEncode.1.readback = s.readback := by
  unfold takeEncode
  split <;> rfl

theorem deliver_readback (s : Snapshot) (r : SnapshotResult) :
    (s.deliver r).readback = s.readback := by
  unfold deliver
  split <;> rfl

theorem frameToCapture_readback (s : Snapshot) (index : Nat) :
    (s.frameToCapture index).1.readback = s.readback := by
  unfold frameToCapture
  split
  · rfl
  · split <;> rfl

end Snapshot

section
variable {cfg : PluginConfig} {s s' : State} {l : Label}

theorem ExecutorStep.readback (h : ExecutorStep cfg l s s') : s'.snap.readback = s.snap.readback := by
  cases h
  case flushCapture late h => exact s.snap.finish_readback _ _ _ late
  all_goals rfl

theorem WorkerStep.readback (h : WorkerStep cfg l s s') : s'.snap.readback = s.snap.readback := by
  cases h with
  | look => rfl
  | capture h =>
    cases h with
    | take h => exact s.snap.takeEncode_readback
    | fuse => rfl
    | deliver reason jpeg h => exact s.snap.deliver_readback _

theorem ThreadStep.readback {t : ThreadName} (h : ThreadStep cfg t l s s') (ht : t ≠ .render) :
    s'.snap.readback = s.snap.readback := by
  cases t with
  | render => exact absurd rfl ht
  | executor => exact ExecutorStep.readback h
  | jpegWorker => exact WorkerStep.readback h
  | pacer =>
    have h : PacerStep l s s' := h
    cases h <;> rfl
  | rosSide =>
    obtain ⟨-, side, rfl⟩ := h
    rfl
  | hostSide =>
    obtain ⟨-, side, rfl⟩ := h
    cases side with
    | reserve =>
      rw [State.hostSide]
      split <;> rfl
    | release =>
      rw [State.hostSide]
      split <;> rfl

end

/-! ## the calls of the two functions -/

namespace Readback

/-- the plugin and the reader agree on the readback -/
def Matches (r : Reader) (s : State) : Prop := s.snap.readback = r.view

structure CaptureAnswers where
  issue : IssueAnswers
  poll : PollAnswers

/-- the readback of a frame of this size, which is the open capture's or not -/
def CaptureAnswers.issueOf (a : CaptureAnswers) (width height : Nat) (current : Bool) : Action :=
  .issue width height { a.issue with current := current }

/-- the account of the calls, in their order -/
def CaptureAnswers.calls (a : CaptureAnswers) (made : List Action) (x : Taken State Label) :
    List Action :=
  match x.label with
  | .pollReadback => made ++ [.poll a.poll]
  | .issueReadback result =>
    made ++ [a.issueOf result.width result.height (x.before.snap.isFor result)]
  | _ => made

def value {α : Type} (x : Render α) (r : Reader) : α :=
  match (x r).1 with
  | .ok a => a
  | .error e => e.elim

end Readback

def Label.readsBack : Label → Bool
  | .pollReadback | .issueReadback _ => true
  | _ => false

def ReadbackKept (l : Label) (s s' : State) : Prop :=
  l.readsBack = false ∧ s'.snap.readback = s.snap.readback

/-- what the functions return in `CaptureSnapshot` -/
def CaptureInput.over (input : CaptureInput) (a : Readback.CaptureAnswers) (r : Readback.Reader) :
    CaptureInput :=
  { input with
    issue := Readback.value
      (Readback.issueSnapshotPBOReadback input.view.width input.view.height a.issue) r
    poll := (Readback.value (Readback.pollSnapshotPBOReadback a.poll) r).getD .timeout }

/-! ## the programs that leave the readback alone -/

theorem readbackKept_read {α : Type} (f : State → α) : (read f).Within ReadbackKept :=
  .atomic fun _ => ⟨rfl, rfl⟩

theorem completeSnapshotFailure_keeps (work : Nat) (error : String) :
    (completeSnapshotFailure work error).Within ReadbackKept :=
  .atomic fun s => ⟨rfl, s.snap.fail_readback work error⟩

theorem queueSnapshotEncode_keeps (result : SnapshotResult) :
    (queueSnapshotEncode result).Within ReadbackKept :=
  .bind (.atomic fun s => ⟨rfl, s.snap.queueEncode_readback result⟩) fun _ =>
    .ite (completeSnapshotFailure_keeps _ _) (.ret ())

theorem captureSnapshotSynchronously_keeps (result : SnapshotResult)
    (readback : Except String (List UInt8)) :
    (captureSnapshotSynchronously result readback).Within ReadbackKept := by
  cases readback with
  | error message => exact completeSnapshotFailure_keeps _ _
  | ok rgb =>
    refine .bind (.atomic fun s => ⟨rfl, ?_⟩) fun _ => .ite (queueSnapshotEncode_keeps _) (.ret ())
    exact Snapshot.submit_readback _ _

/-! ## the contract -/

/-- the threads beside the render thread take any steps of theirs -/
def OthersMove (cfg : PluginConfig) : State → State → Prop :=
  Relation.ReflTransGen fun s s' => ∃ t l, t ≠ .render ∧ ThreadStep cfg t l s s'

theorem OthersMove.readback {cfg : PluginConfig} {s s' : State} (h : OthersMove cfg s s') :
    s'.snap.readback = s.snap.readback := by
  induction h with
  | refl => rfl
  | tail _ hstep ih =>
    obtain ⟨t, l, ht, hstep⟩ := hstep
    exact (hstep.readback ht).trans ih

def captureContract (cfg : PluginConfig) :
    Contract (fun _ : State × List Readback.Action => True) fun (_ : Label) _ => True where
  rely s s' := OthersMove cfg s.1 s'.1 ∧ s'.2 = s.2
  guar _ _ _ := True
  rely_refl _ := ⟨.refl, rfl⟩
  rely_trans h h' := ⟨Relation.ReflTransGen.trans h.1 h'.1, h'.2.trans h.2⟩

namespace Readback

section
variable {cfg : PluginConfig} {α : Type} {v w : Bool × String × Bool × Option (Nat × Nat)}
  {a : CaptureAnswers} {made : List Action}

def At (v : Bool × String × Bool × Option (Nat × Nat)) (made : List Action)
    (x : State × List Action) : Prop :=
  (x.1.snap.readback, x.2) = (v, made)

theorem captureContract_rely {x x' : State × List Action} (h : (captureContract cfg).rely x x') :
    (x'.1.snap.readback, x'.2) = (x.1.snap.readback, x.2) :=
  Prod.ext h.1.readback h.2

theorem stable_of_at (P : (Bool × String × Bool × Option (Nat × Nat)) × List Action → Prop) :
    (captureContract cfg).Stable fun x => P (x.1.snap.readback, x.2) :=
  .of_eq (fun _ _ h => captureContract_rely h) P

theorem stable_at : (captureContract cfg).Stable (At v made) := stable_of_at (· = (v, made))

abbrev Calls (cfg : PluginConfig) (a : CaptureAnswers) (P : State × List Action → Prop)
    (p : Thread α) (Q : α → State × List Action → Prop) : Prop :=
  (captureContract cfg).Account a.calls P p Q

theorem calls_step {l : Label} {f : State → State × α} {Q : α → State × List Action → Prop}
    (hQ : ∀ b, (captureContract cfg).Stable (Q b))
    (h : ∀ s, s.snap.readback = v → Q (f s).2 ((f s).1, a.calls made ⟨l, s, (f s).1⟩)) :
    Calls cfg a (At v made) (Prog.atomic l f) Q := by
  refine .atomic stable_at hQ fun s g _ hat _ => ⟨trivial, trivial, ?_⟩
  obtain ⟨hv, rfl⟩ := Prod.mk.inj hat
  exact h s hv

theorem calls_write {f : State → State} (h : ∀ s, s.snap.readback = v → (f s).snap.readback = w) :
    Calls cfg a (At v made) (write f) fun _ => At w made :=
  calls_step (fun _ => stable_at) fun s hs => Prod.ext (h s hs) rfl

theorem calls_kept {p : Thread α} (h : p.Within ReadbackKept) :
    Calls cfg a (At v made) p fun _ => At v made := by
  have hnone : ∀ l s s' g, ReadbackKept l s s' → a.calls g ⟨l, s, s'⟩ = g := by
    intro l s s' g hkept
    obtain ⟨hl, _⟩ := hkept
    cases l with
    | pollReadback | issueReadback => cases hl
    | _ => rfl
  refine .frame h hnone (fun _ _ _ _ _ _ => trivial) (fun _ _ _ _ _ => trivial) stable_at ?_
  intro l s s' g hkept hat
  obtain ⟨hv, rfl⟩ := Prod.mk.inj hat
  exact Prod.ext (hkept.2.trans hv) rfl

theorem calls_ret {Q : State × List Action → Prop} (h : ∀ x, At v made x → Q x) :
    Calls cfg a (At v made) (pure ()) fun _ => Q := .ret stable_at fun x _ => h x

/-! ## the readbacks -/

def polledView (v : Bool × String × Bool × Option (Nat × Nat)) :
    PboPoll → Bool × String × Bool × Option (Nat × Nat)
  | .timeout => v
  | .failed reason => (false, reason, false, none)
  | .copied _ => (v.1, v.2.1, false, none)

theorem pollSnapshotPBOReadback_calls (poll : PboPoll) (hv : v.2.2.2.isSome = true) :
    Calls cfg a (At v []) (MediaCamera.pollSnapshotPBOReadback poll)
      fun _ => At (polledView v poll) [.poll a.poll] := by
  refine .bind (Q := fun result x => At v [.poll a.poll] x ∧ result.isSome = true)
    (calls_step (fun _ => stable_at.and (.const _)) fun s hs => ⟨Prod.ext hs rfl, ?_⟩)
    fun result => Contract.Account.assume fun hresult => ?_
  · rw [← hs] at hv
    simpa [Snapshot.readback] using hv
  cases result with
  | none => cases hresult
  | some result =>
    cases poll with
    | timeout => exact calls_ret fun _ hat => hat
    | failed reason =>
      refine .bind (calls_write (w := (v.1, v.2.1, false, none)) fun s hs => ?_) fun _ => ?_
      · rw [← hs]
        rfl
      refine .bind (calls_write (w := (false, reason, false, none)) fun s hs => ?_) fun _ => ?_
      · obtain ⟨-, hrest⟩ := Prod.mk.inj hs
        obtain ⟨-, hrest⟩ := Prod.mk.inj hrest
        exact congrArg (fun rest => (false, reason, rest)) hrest
      · exact calls_kept (.atomic fun s => ⟨rfl, s.snap.rearm_readback result⟩)
    | copied rgb =>
      refine .bind (calls_write (w := (v.1, v.2.1, false, none)) fun s hs => ?_) fun _ =>
        calls_kept (queueSnapshotEncode_keeps _)
      rw [← hs]
      rfl

/-- what the issue of a readback makes of it, if the open capture is its own or not -/
def issuedView (v : Bool × String × Bool × Option (Nat × Nat)) (width height : Nat)
    (current : Bool) : PboIssue → Bool × String × Bool × Option (Nat × Nat)
  | .unavailable reason => (false, reason, false, none)
  | .issued => (v.1, v.2.1, current, if current then some (width, height) else none)

/-- no readback was issued; or the asynchronous one is available, and the frame's was -/
def ReadBack (v : Bool × String × Bool × Option (Nat × Nat)) (a : CaptureAnswers)
    (width height : Nat) (issue : PboIssue) (x : State × List Action) : Prop :=
  At v [] x ∨ v.1 = true ∧
    ∃ current, At (issuedView v width height current issue) [a.issueOf width height current] x

theorem issueSnapshotPBOReadback_calls (result : SnapshotResult) (havailable : v.1 = true)
    (hv : v.2.2 = (false, none)) :
    Calls cfg a (At v []) (MediaCamera.issueSnapshotPBOReadback result)
      fun _ => ReadBack v a result.width result.height .issued := by
  refine .bind (Q := fun submitted => At v [a.issueOf result.width result.height submitted])
    (calls_step (fun _ => stable_at) fun s hs => Prod.ext ?_ ?_) fun submitted => ?_
  · exact (Snapshot.submit_readback _ _).trans hs
  · show [a.issueOf result.width result.height (s.snap.isFor result)] = _
    unfold Snapshot.submit
    split
    · rename_i hfor
      rw [show s.snap.isFor result = true from hfor]
    · rename_i hfor
      rw [show s.snap.isFor result = false from Bool.eq_false_of_not_eq_true hfor]
  refine .ite (fun hsubmitted => ?_) fun hsubmitted => calls_ret fun x hat => .inr ⟨havailable, ?_⟩
  · obtain rfl : submitted = true := hsubmitted
    refine (calls_write (w := issuedView v result.width result.height true .issued)
      fun s hs => ?_).post fun _ x hat => .inr ⟨havailable, true, hat⟩
    rw [← hs]
    rfl
  · obtain rfl : submitted = false := Bool.eq_false_of_not_eq_true hsubmitted
    have hsame : issuedView v result.width result.height false .issued = v :=
      congrArg (fun rest => (v.1, v.2.1, rest)) hv.symm
    exact ⟨false, hsame ▸ hat⟩

theorem readBackSnapshot_calls (result : SnapshotResult) (input : CaptureInput)
    (hv : v.2.2 = (false, none)) :
    Calls cfg a (At v []) (readBackSnapshot result input)
      fun _ => ReadBack v a result.width result.height input.issue := by
  refine .bind (Q := fun available x => At v [] x ∧ available = v.1)
    (calls_step (fun _ => stable_at.and (.const _)) fun s hs => ⟨Prod.ext hs rfl, ?_⟩)
    fun available => Contract.Account.assume fun havailable => ?_
  · exact congrArg Prod.fst hs
  split
  · rename_i hissue
    rw [hissue]
    exact issueSnapshotPBOReadback_calls result havailable.symm hv
  · rename_i reason hissue
    rw [hissue]
    refine .bind (Q := fun _ x => ∃ current,
        At (false, reason, false, none) [a.issueOf result.width result.height current] x)
      (calls_step (fun _ => stable_of_at fun x => ∃ current,
        x = ((false, reason, false, none), [a.issueOf result.width result.height current]))
        fun s hs => ⟨s.snap.isFor result, Prod.ext ?_ rfl⟩) fun _ => ?_
    · have hrest : s.snap.readback.2.2 = (false, none) := by rw [hs, hv]
      exact congrArg (fun rest => (false, reason, rest)) hrest
    · intro x hx
      obtain ⟨current, hat⟩ := hx
      exact ((calls_kept (captureSnapshotSynchronously_keeps _ _)).post
        fun _ _ hat => .inr ⟨havailable.symm, current, hat⟩) x hat
  · refine .bind (calls_kept (readbackKept_read _)) fun _ =>
      (calls_kept (captureSnapshotSynchronously_keeps _ _)).post fun _ _ hat => .inl hat

/-! ## CaptureSnapshot -/

theorem issueReadback_answer (width height : Nat) (a : IssueAnswers) (current : Bool) (r : Reader) :
    (issueReadback width height { a with current := current } r).1 =
      (issueReadback width height a r).1 := by
  obtain ⟨_, _, _, _, _, _, glTexture, framebufferComplete, fenceSync, noError, current'⟩ := a
  cases glTexture
  · rfl
  cases framebufferComplete
  · rfl
  cases noError
  · rfl
  cases fenceSync
  · rfl
  cases current <;> cases current' <;> rfl

theorem issue_answer (width height : Nat) (a : IssueAnswers) (current : Bool) (r : Reader) :
    (issueSnapshotPBOReadback width height { a with current := current } r).1 =
      (issueSnapshotPBOReadback width height a r).1 := by
  show (Script.bind (ensureSnapshotPBO (width * height * 3) a) _ r).1 =
    (Script.bind (ensureSnapshotPBO (width * height * 3) a) _ r).1
  unfold Script.bind
  rcases ensureSnapshotPBO (width * height * 3) a r with ⟨e | refused, r'⟩
  · cases e
  · cases refused with
    | some refused => rfl
    | none => exact issueReadback_answer width height a current r'

theorem value_of_ok {α : Type} {x : Render α} {b : α} (h : (x r).1 = .ok b) : value x r = b := by
  unfold value
  rw [h]

/-- what `CaptureSnapshot` leaves: the reader after the calls that were made matches; these are the
poll of a pending readback, or else none, or the issue of the frame's readback, which was
available -/
structure Refined (r : Reader) (view : RenderedView) (a : CaptureAnswers)
    (x : State × List Action) : Prop where
  agree : Matches (x.2.foldl step r) x.1
  polls : r.snapshotReadbackPending = true → x.2 = [.poll a.poll]
  issues : r.snapshotReadbackPending = false → x.2 = [] ∨ r.snapshotPBOAvailable = true ∧
    ∃ current, x.2 = [a.issueOf view.width view.height current]

theorem poll_view {width height : Nat} (h : r.Pending width height) (input : CaptureInput)
    (a : CaptureAnswers) :
    (step r (.poll a.poll)).view = polledView r.view (input.over a r).poll := by
  rw [step, if_pos h.pending]
  rcases (pollSnapshotPBOReadback_returns (a := a.poll) h).cases with
    ⟨poll, r', hrun, found, rfl, hpolled⟩ | ⟨e, -⟩
  · have hvalue : (input.over a r).poll = found := by
      show (value (pollSnapshotPBOReadback a.poll) r).getD .timeout = found
      rw [value_of_ok (congrArg Prod.fst hrun)]
      rfl
    rw [hvalue, hrun]
    rcases hpolled with hsettled | ⟨rfl, -, -, hview⟩
    · cases found with
      | timeout => exact absurd hsettled id
      | failed reason => exact hsettled.2.2
      | copied rgb =>
        have hview : r'.view = _ := hsettled.2.2
        rw [hview, ← h.available]
        rfl
    · exact hview
  · cases e

theorem issue_view (h : r.Free) (havailable : r.snapshotPBOAvailable = true) (input : CaptureInput)
    (a : CaptureAnswers) (current : Bool) :
    (step r (a.issueOf input.view.width input.view.height current)).view =
      issuedView r.view input.view.width input.view.height current (input.over a r).issue := by
  have hgate : (!r.snapshotReadbackPending && r.snapshotPBOAvailable) = true := by
    rw [h.pending, havailable]
    rfl
  rw [CaptureAnswers.issueOf, step, if_pos hgate]
  have hanswer := issue_answer input.view.width input.view.height a.issue current r
  rcases (issueSnapshotPBOReadback_returns h havailable input.view.width input.view.height
    { a.issue with current := current }).cases with ⟨issue, r', hrun, hissued⟩ | ⟨e, -⟩
  · rw [hrun] at hanswer ⊢
    have hvalue : (input.over a r).issue = issue := value_of_ok hanswer.symm
    rw [hvalue]
    cases issue with
    | unavailable reason => exact hissued.2.2
    | issued =>
      refine hissued.2.1.trans ?_
      exact congrArg (·, r.snapshotPBOFailureReason, current,
        if current then some (input.view.width, input.view.height) else none) havailable.symm
  · cases e

theorem Refined.silent {view : RenderedView} {x : State × List Action} (h : r.Free)
    (hat : At r.view [] x) : Refined r view a x := by
  obtain ⟨hv, hmade⟩ := Prod.mk.inj hat
  refine ⟨?_, fun hyes => ?_, fun _ => .inl hmade⟩
  · rw [hmade]
    exact hv
  · rw [h.pending] at hyes
    cases hyes

theorem Refined.issued {x : State × List Action} (h : r.Free)
    (havailable : r.snapshotPBOAvailable = true) (input : CaptureInput) {current : Bool}
    (hat : At (issuedView r.view input.view.width input.view.height current (input.over a r).issue)
      [a.issueOf input.view.width input.view.height current] x) : Refined r input.view a x := by
  obtain ⟨hv, hmade⟩ := Prod.mk.inj hat
  refine ⟨?_, fun hyes => ?_, fun _ => .inr ⟨havailable, current, hmade⟩⟩
  · rw [hmade]
    exact hv.trans (issue_view h havailable input a current).symm
  · rw [h.pending] at hyes
    cases hyes

theorem Refined.polled {width height : Nat} {x : State × List Action} (h : r.Pending width height)
    (input : CaptureInput) (hat : At (polledView r.view (input.over a r).poll) [.poll a.poll] x) :
    Refined r input.view a x := by
  obtain ⟨hv, hmade⟩ := Prod.mk.inj hat
  refine ⟨?_, fun _ => hmade, fun hno => ?_⟩
  · rw [hmade]
    exact hv.trans (poll_view h input a).symm
  · rw [h.pending] at hno
    cases hno

/-- **The calls under `CaptureSnapshot`.**  From a match, whatever the other threads do meanwhile,
`CaptureSnapshot` with what the two functions return ends in a match with the reader after the calls
that it made of them. -/
theorem captureSnapshot_refines (hr : r.Between) {s : State} (hm : Matches r s)
    (input : CaptureInput) (a : CaptureAnswers) :
    (captureContract cfg).Safe (fun _ => Refined r input.view a)
      ((captureSnapshot (input.over a r)).noted a.calls) (s, []) := by
  suffices hcalls : Calls cfg a (At r.view []) (captureSnapshot (input.over a r))
      fun _ => Refined r input.view a from hcalls (s, []) (Prod.ext hm rfl)
  refine .bind (Q := fun pending x => At r.view [] x ∧ pending = r.snapshotReadbackPending)
    (calls_step (fun _ => stable_at.and (.const _)) fun s hs => ⟨Prod.ext hs rfl, ?_⟩) fun pending =>
      Contract.Account.assume fun hpending => ?_
  · exact congrArg (fun v => v.2.2.1) hs
  rcases hr with hfree | ⟨width, height, h⟩
  · rw [hpending, hfree.pending]
    have hview : r.view.2.2 = (false, none) := by
      rw [Reader.view, hfree.pending, hfree.result]
    have hfail : ∀ work error, Calls cfg a (At r.view []) (completeSnapshotFailure work error)
        fun _ => Refined r input.view a := fun work error =>
      (calls_kept (completeSnapshotFailure_keeps _ _)).post fun _ _ hat => .silent hfree hat
    refine .bind (Q := fun _ => At r.view []) (calls_step (fun _ => stable_at)
      fun s hs => Prod.ext ?_ rfl) fun frame => ?_
    · exact (Snapshot.frameToCapture_readback _ _).trans hs
    cases frame with
    | none => exact calls_ret fun _ hat => .silent hfree hat
    | some result =>
      refine .ite (fun _ => hfail _ _) fun _ => .ite (fun _ => hfail _ _) fun _ => ?_
      refine .bind (calls_kept (readbackKept_read _)) fun sequence =>
        .bind (calls_kept (readbackKept_read _)) fun quality =>
          (readBackSnapshot_calls _ _ hview).post fun _ x hx => ?_
      rcases hx with hat | ⟨havailable, current, hat⟩
      · exact .silent hfree hat
      · exact .issued hfree havailable input hat
  · rw [hpending, h.pending]
    have hresult : r.view.2.2.2.isSome = true := by
      rw [Reader.view, h.result]
      rfl
    exact (pollSnapshotPBOReadback_calls _ hresult).post fun _ _ hat => .polled h input hat

end

/-- a readback of 640 times 480 pixels is pending -/
def reading : Reader := machine.run (.initial .sample) [(.sample, .issue 640 480 .sample)]

def readingPlugin : State :=
  { PluginState.sample.shared with
    snap.snapshotReadbackPending := true
    snap.snapshotReadbackResult := some { SnapshotResult.empty with width := 640, height := 480 } }

def waitingPlugin : State :=
  { PluginState.sample.shared with
    snap := { (PluginState.sample.shared.snap.admission 0 "a" true) with
      snapshotRenderPassesToSkip := 0 } }

/-- `CaptureSnapshot` in a callback with a texture, where no other thread moves -/
def captureAlone (r : Reader) (s : State) : State × List Action :=
  (((captureSnapshot (CaptureInput.over { idleCapture 1 with texture := true } ⟨.sample, .sample⟩
    r)).noted (CaptureAnswers.calls ⟨.sample, .sample⟩)).solo (s, [])).1

/-- the pending readback is polled; without one, the frame's is issued -/
theorem captureSnapshot_refines_reading :
    (Refined reading (idleCapture 1).view ⟨.sample, .sample⟩ (captureAlone reading readingPlugin) ∧
      (captureAlone reading readingPlugin).1.snap.snapshotReadbackPending = false) ∧
    Refined (.initial .sample) (idleCapture 1).view ⟨.sample, .sample⟩
        (captureAlone (.initial .sample) waitingPlugin) ∧
      (captureAlone (.initial .sample) waitingPlugin).1.snap.snapshotReadbackPending = true := by
  have hstart : machine.Reachable (.initial .sample) := .start ⟨.sample, rfl⟩
  have hview : reading.view = (true, "", true, some (640, 480)) := by decide +kernel
  have hreading : (captureContract .sample).Safe _ _ _ :=
    captureSnapshot_refines (machine_between (hstart.run _))
      (show Matches reading readingPlugin from hview.symm)
      { idleCapture 1 with texture := true } ⟨.sample, .sample⟩
  have hwaiting : (captureContract .sample).Safe _ _ _ :=
    captureSnapshot_refines (machine_between hstart)
      (show Matches (.initial .sample) waitingPlugin from rfl)
      { idleCapture 1 with texture := true } ⟨.sample, .sample⟩
  exact ⟨⟨hreading.runs trivial fun _ _ => trivial, by decide +kernel⟩,
    hwaiting.runs trivial fun _ _ => trivial, by decide +kernel⟩

end Readback

end MediaCamera
