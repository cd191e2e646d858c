import MediaCamera.Machine.Ends
import MediaCamera.Plugin.SharedCapture

/-!
# No reply is lost

Every request is answered, at the latest when its sensor is removed.

* `Owing owed`       every handle but `owed` is open or answered;
* `handleControlRequest_owes`, `flushControl_owes`   between two calls of the executor nothing is
                     owed;
* `CameraSource.Replying`   what the calls and the removal of a source keep;
* `replies_exactly_once`    no handle is answered twice, and none is left when the sensor is gone.
-/

namespace MediaCamera

open Contract

/-! ## what is owed -/

/-- only `owed` is neither open nor answered -/
def Owing (owed : Option Nat) (s : State) : Prop :=
  ∀ handle, handle < s.ctl.nextReply → s.uses handle = 0 → owed = some handle

section
variable {s s' : State} {owed : Option Nat} {handle : Nat}

theorem Owing.keep (h : Owing owed s) (hnext : s'.ctl.nextReply = s.ctl.nextReply)
    (huses : ∀ handle, s.uses handle ≤ s'.uses handle) : Owing owed s' := by
  intro handle hlt hzero
  have hle := huses handle
  exact h handle (hnext ▸ hlt) (by omega)

/-- the owed handle is answered, or open -/
theorem Owing.pay (h : Owing (some handle) s) (hnext : s'.ctl.nextReply = s.ctl.nextReply)
    (huses : ∀ handle', s.uses handle' + [handle].count handle' ≤ s'.uses handle') :
    Owing none s' := by
  intro handle' hlt hzero
  have hle := huses handle'
  have howed := h handle' (hnext ▸ hlt) (by omega)
  obtain rfl := Option.some.inj howed
  simp at hle
  omega

/-- an open handle becomes the running call's -/
theorem Owing.owe (h : Owing none s) (hnext : s'.ctl.nextReply = s.ctl.nextReply)
    (huses : ∀ handle', s.uses handle' ≤ s'.uses handle' + [handle].count handle') :
    Owing (some handle) s' := by
  intro handle' hlt hzero
  by_cases e : handle = handle'
  · rw [e]
  · have hle := huses handle'
    simp [e] at hle
    cases h handle' (hnext ▸ hlt) (by omega)

theorem Owing.request (h : Owing none s) :
    Owing (some s.ctl.nextReply) { s with ctl.nextReply := s.ctl.nextReply + 1 } := by
  intro handle hlt hzero
  have hlt : handle < s.ctl.nextReply + 1 := hlt
  by_cases e : s.ctl.nextReply = handle
  · rw [e]
  · cases h handle (by omega) hzero

theorem Owing.replied (h : Owing (some handle) s) (response : ControlResponse) :
    Owing none { s with log := .replied handle response :: s.log } := by
  refine h.pay rfl fun handle' => ?_
  simp [State.uses, State.replied, State.openReplies, Event.reply?, List.count_cons]
  omega

theorem Owing.failPending (h : Owing none s) {pending : PendingControl}
    (hpending : s.ctl.pendingControl = some pending) (error : ControlError) :
    Owing none (s.failPending pending error) := by
  refine h.keep rfl fun handle => ?_
  simp [State.uses, State.replied, State.openReplies, State.failPending, Executor.remember,
    Event.reply?, hpending, List.count_cons]
  omega

theorem Owing.completePending (h : Owing none s) {pending : PendingControl}
    (hpending : s.ctl.pendingControl = some pending) (time : Int) :
    Owing (some pending.reply) (s.completePending pending time) := by
  refine h.owe rfl fun handle => ?_
  simp [State.uses, State.replied, State.openReplies, State.completePending, Executor.remember,
    Event.reply?, hpending, List.count_cons]
  omega

theorem Owing.answerCapture (h : Owing none s) (hcapture : s.ctl.captureReply = some handle)
    (response : SnapshotResult) : Owing none (s.answerCapture handle response) := by
  refine h.keep rfl fun handle' => ?_
  simp [State.uses, State.replied, State.openReplies, State.answerCapture, Executor.remember,
    Event.reply?, hcapture, List.count_cons]
  omega

theorem Owing.endWatcher (h : Owing none s) {i : Nat} {watcher : ControlWatcher}
    (hwatcher : s.ctl.controlWatchers.getD i none = some watcher) (response : ControlResponse) :
    Owing none (s.endWatcher i [.replied watcher.reply response]) := by
  refine h.keep rfl fun handle => ?_
  have hcount := (watchers_end hwatcher).count_eq handle
  simp [State.uses, State.replied, State.openReplies, State.endWatcher, Event.reply?,
    List.count_cons] at hcount ⊢
  omega

theorem Owing.watch (h : Owing (some handle) s) {watcher : ControlWatcher}
    {watchers : List (Option ControlWatcher)} (hreply : watcher.reply = handle)
    (hwatch : Executor.watch watcher s.ctl.controlWatchers = some watchers) :
    Owing none { s with ctl.controlWatchers := watchers } := by
  refine h.pay rfl fun handle' => ?_
  have hcount := (Executor.watch_replies hwatch).count_eq handle'
  simp [State.uses, State.replied, State.openReplies, List.count_cons, hreply] at hcount ⊢
  omega

theorem Owing.admission (h : Owing (some handle) s) (hnone : s.ctl.pendingControl = none)
    (kind : ControlKind) (request : ControlRequest) (desired : Executor.Desired) :
    Owing none (s.admitMutation handle kind request desired) := by
  refine h.pay rfl fun handle' => ?_
  simp [State.uses, State.replied, State.openReplies, State.admitMutation, Event.reply?, hnone,
    List.count_cons]
  omega

end

/-! ## requests -/

section
variable {cfg : PluginConfig} {s s' : State}

theorem openCapture_free {requestID : String}
    (h : ExecutorStep cfg (.openCapture requestID) s s') : s.ctl.captureReply = none := by
  cases h with
  | openCapture _ _ _ _ _ hnone => exact hnone

theorem admission_free {requestID : String} {kind : ControlKind} {desired : Configuration}
    (h : ExecutorStep cfg (.admission requestID kind desired) s s') :
    s.ctl.pendingControl = none := by
  generalize hl : Label.admission requestID kind desired = l at h
  cases h with
  | admission _ hnone => exact hnone
  | _ => cases hl

end

section
variable {cfg : PluginConfig} {owed : Option Nat} {α : Type}

theorem stable_owing (owed : Option Nat) : (executorContract cfg).Stable (Owing owed) := by
  intro s s' h _ hs
  have hctl : s'.ctl = s.ctl := ExecutorRely.ctl h
  have hreplied : s'.replied = s.replied := ExecutorRely.replied h
  simpa only [Owing, State.uses, State.openReplies, hctl, hreplied] using hs

theorem owing_apart {l : Label} {f : State → State × α}
    (h : ∀ s, (f s).1.ctl.nextReply = s.ctl.nextReply ∧
      (f s).1.openReplies = s.openReplies ∧ (f s).1.replied = s.replied) :
    (executorContract cfg).Ends (Owing owed) (.atomic l f) fun _ => Owing owed :=
  .atomic (stable_owing owed) (fun _ => stable_owing owed) fun s _ hs _ =>
    hs.keep (h s).1 fun handle => by rw [State.uses, State.uses, (h s).2.1, (h s).2.2]

theorem owing_look {f : State → α} :
    (executorContract cfg).Ends (Owing owed) (read f) fun _ => Owing owed :=
  owing_apart fun _ => ⟨rfl, rfl, rfl⟩

theorem owing_ret {a : α} :
    (executorContract cfg).Ends (Owing owed) (pure a) fun _ => Owing owed := .ret (stable_owing owed)

theorem reply_owes (handle : Nat) (response : ControlResponse) :
    (executorContract cfg).Ends (Owing (some handle)) (reply handle response) fun _ => Owing none :=
  .atomic (stable_owing _) (fun _ => stable_owing none) fun _ _ h _ => h.replied response

theorem handleRead_owes (handle : Nat) (input : Json) (response : State → ControlResponse) :
    (executorContract cfg).Ends (Owing (some handle)) (handleRead handle input response)
      fun _ => Owing none := by
  unfold handleRead
  split
  · exact reply_owes handle _
  · exact .bind owing_look fun _ => reply_owes handle _

theorem handleReceipts_owes (handle : Nat) (input : Json) (id : String) :
    (executorContract cfg).Ends (Owing (some handle)) (handleReceipts handle input id)
      fun _ => Owing none := by
  unfold handleReceipts
  split
  · exact reply_owes handle _
  · refine .bind owing_look fun slot => ?_
    split <;> exact reply_owes handle _

theorem handleObserve_owes (handle : Nat) (request : ControlRequest) (input : Json)
    (sequence : List Char) :
    (executorContract cfg).Ends (Owing (some handle)) (handleObserve handle request input sequence)
      fun _ => Owing none := by
  unfold handleObserve
  split
  · exact reply_owes handle _
  split
  · exact reply_owes handle _
  refine .bind owing_look fun event => ?_
  refine .ite (fun _ => reply_owes handle _) fun _ => .ite (fun _ => ?_) fun _ => ?_
  · exact .bind owing_look fun _ => reply_owes handle _
  -- the observer is kept, or its handle is still owed
  refine .bind (Q := fun watching => Owing (if watching then none else some handle)) (.atomic
    (stable_owing _) (fun _ => stable_owing _) fun s _ h _ => ?_) fun watching => ?_
  · dsimp only
    split
    · rename_i hwatch
      exact h.watch rfl hwatch
    · exact h
  · cases watching with
    | true => exact owing_ret
    | false => exact reply_owes handle _

theorem admitCapture_owes (handle : Nat) (request : ControlRequest)
    (options : Executor.CaptureOptions) (now : Int) :
    (executorContract cfg).Ends (Owing (some handle)) (admitCapture handle request options now)
      fun _ => Owing none := by
  have hreserve : (executorContract cfg).Ends (Owing (some handle)) reserveCapture
      fun _ => Owing (some handle) := by
    refine owing_apart fun s => ?_
    dsimp only
    split <;> exact ⟨rfl, rfl, rfl⟩
  refine .bind hreserve fun reserved => .ite (fun _ => reply_owes handle _) fun _ => ?_
  refine .bind (owing_apart fun _ => ⟨rfl, rfl, rfl⟩) fun generation => ?_
  have hopen : (executorContract cfg).Ends (Owing (some handle))
      (.atomic (.openCapture request.request_id) fun s => ({ s with
        ctl.captureSlotHeld := true
        ctl.captureRecording := false
        ctl.captureReply := some handle
        ctl.captureRequestID := request.request_id
        ctl.captureDeadline := min request.deadline (now + kCaptureBudget) }, ()))
      fun _ => Owing none := by
    refine .atomic (stable_owing _) (fun _ => stable_owing none) fun s _ h hguar => ?_
    have hnone : s.ctl.captureReply = none := openCapture_free hguar
    refine h.pay rfl fun handle' => ?_
    simp [State.uses, State.replied, State.openReplies, List.count_cons, hnone]
    omega
  refine .ite (fun _ => ?_) fun _ => hopen
  refine .bind (owing_apart fun _ => ⟨rfl, rfl, rfl⟩) fun _ => ?_
  exact .bind (owing_apart fun _ => ⟨rfl, rfl, rfl⟩) fun _ => hopen

theorem handleCapture_owes (handle : Nat) (request : ControlRequest) (input : Json) (now : Int) :
    (executorContract cfg).Ends (Owing (some handle)) (handleCapture handle request input now)
      fun _ => Owing none := by
  refine .bind owing_look fun options => ?_
  cases options with
  | error e => exact reply_owes handle _
  | ok options =>
    refine .ite (fun _ => .bind owing_look ?_) fun _ => .bind owing_ret ?_
    all_goals
      exact fun _ => .ite (fun _ => reply_owes handle _)
        fun _ => admitCapture_owes handle request options now

theorem handleMutation_owes (handle : Nat) (kind : ControlKind) (request : ControlRequest)
    (input : Json) :
    (executorContract cfg).Ends (Owing (some handle))
      (handleMutation cfg handle kind request input) fun _ => Owing none := by
  refine .bind owing_look fun checked => ?_
  cases checked with
  | error e => exact reply_owes handle _
  | ok u =>
    have hadmit : ∀ desired, (executorContract cfg).Ends (Owing (some handle))
        (admitMutation handle kind request desired) fun _ => Owing none := by
      intro desired
      refine .atomic (stable_owing _) (fun _ => stable_owing none) fun s _ h hguar => ?_
      exact h.admission (admission_free hguar) kind request desired
    refine .ite (fun _ => .bind owing_look ?_) fun _ => .bind owing_ret ?_
    all_goals
      refine fun active => .ite (fun _ => reply_owes handle _) fun _ => .bind owing_look fun r => ?_
      cases r with
      | error e => exact reply_owes handle _
      | ok desired => exact hadmit desired

theorem handleControlRequest_owes (operation : String) (request : ControlRequest) (input : Json)
    (now : Int) :
    (executorContract cfg).Ends (Owing none)
      (handleControlRequest cfg operation request input now) fun _ => Owing none := by
  refine .bind (Q := fun handle => Owing (some handle)) (.atomic (stable_owing none)
    (fun _ => stable_owing _) fun s _ h _ => h.request) fun handle => ?_
  split
  · exact handleRead_owes handle input _
  · exact handleRead_owes handle input _
  · exact handleRead_owes handle input _
  · exact handleReceipts_owes handle input _
  · exact handleObserve_owes handle request input _
  · exact handleCapture_owes handle request input now
  · exact handleMutation_owes handle _ request input
  · exact reply_owes handle _

/-! ## FlushControl -/

abbrev Holding (pending : PendingControl) (s : State) : Prop :=
  Owing none s ∧ s.ctl.pendingControl = some pending

theorem stable_holding (pending : PendingControl) :
    (executorContract cfg).Stable (Holding pending) :=
  (stable_owing none).and (stable_pending pending)

theorem holding_look {pending : PendingControl} {f : State → α} :
    (executorContract cfg).Ends (Holding pending) (read f) fun _ => Holding pending :=
  .atomic (stable_holding pending) (fun _ => stable_holding pending) fun _ _ h _ => h

theorem completePending_owes (pending : PendingControl) :
    (executorContract cfg).Ends (Holding pending) (completePending pending)
      fun _ => Owing none := by
  refine .bind holding_look fun active => ?_
  refine .bind (Q := fun _ => Holding pending) (.atomic (stable_holding pending)
    (fun _ => stable_holding pending) fun s _ h _ => ⟨?_, h.2⟩) fun _ => ?_
  · exact h.1.keep rfl fun _ => le_rfl
  refine .bind holding_look fun time => ?_
  refine .bind (Q := fun _ => Owing (some pending.reply)) (.atomic (stable_holding pending)
    (fun _ => stable_owing _) fun s _ h _ => h.1.completePending h.2 time) fun _ => ?_
  refine .bind owing_look fun status => ?_
  refine .ite (fun _ => .bind (.bind owing_look fun _ => owing_ret) ?_) fun _ => .bind owing_ret ?_
  all_goals exact fun _ => reply_owes _ _

theorem expirePending_owes (pending : PendingControl) (input : FlushInput) :
    (executorContract cfg).Ends (Holding pending) (expirePending pending input)
      fun _ => Owing none := by
  refine .ite (fun _ => .atomic (stable_holding pending) (fun _ => stable_owing none)
    fun s _ h _ => ?_) fun _ => owing_ret.pre fun _ h => h.1
  show Owing none (s.expirePending pending input.lockTaken)
  unfold State.expirePending
  split
  · exact (h.1.failPending h.2 deadlineExceeded).keep rfl fun _ => le_rfl
  · exact h.1

theorem flushPending_owes (pending : PendingControl) (input : FlushInput) :
    (executorContract cfg).Ends (Holding pending) (flushPending pending input)
      fun _ => Owing none := by
  refine .bind holding_look fun failed => .ite (fun _ => ?_) fun _ => ?_
  · exact .atomic (stable_holding pending) (fun _ => stable_owing none)
      fun s _ h _ => h.1.failPending h.2 notAccepted
  refine .bind holding_look fun applied => .ite (fun _ => ?_) fun _ => expirePending_owes pending input
  refine .ite (fun _ => .bind holding_look ?_) fun _ => .bind (.ret (stable_holding pending)) ?_
  all_goals
    exact fun _ => .ite (fun _ => completePending_owes pending)
      fun _ => expirePending_owes pending input

abbrev OpenCapture (handle : Nat) (s : State) : Prop :=
  Owing none s ∧ s.ctl.captureReply = some handle

theorem stable_openCapture (handle : Nat) : (executorContract cfg).Stable (OpenCapture handle) :=
  (stable_owing none).and (stable_ctl fun e => e.captureReply = some handle)

theorem flushCapture_owes (handle : Nat) (late : Bool) :
    (executorContract cfg).Ends (OpenCapture handle) (flushCapture handle late)
      fun _ => Owing none := by
  refine .bind (Q := fun _ => OpenCapture handle) (.atomic (stable_openCapture handle)
    (fun _ => stable_openCapture handle) fun s _ h _ => ⟨h.1.keep rfl fun _ => le_rfl, h.2⟩)
    fun verdict => ?_
  cases verdict with
  | waiting => exact owing_ret.pre fun _ h => h.1
  | finished response =>
    refine .bind (Q := fun _ => Owing none) (.atomic (stable_openCapture handle)
      (fun _ => stable_owing none) fun s _ h _ => h.1.answerCapture h.2 response) fun _ => ?_
    exact .bind (owing_apart fun _ => ⟨rfl, rfl, rfl⟩) fun _ => owing_apart fun _ => ⟨rfl, rfl, rfl⟩

abbrev Watching (i : Nat) (watcher : ControlWatcher) (s : State) : Prop :=
  Owing none s ∧ s.ctl.controlWatchers.getD i none = some watcher

theorem stable_watching (i : Nat) (watcher : ControlWatcher) :
    (executorContract cfg).Stable (Watching i watcher) :=
  (stable_owing none).and (stable_ctl fun e => e.controlWatchers.getD i none = some watcher)

theorem watching_look {i : Nat} {watcher : ControlWatcher} {f : State → α} :
    (executorContract cfg).Ends (Watching i watcher) (read f) fun _ => Watching i watcher :=
  .atomic (stable_watching i watcher) (fun _ => stable_watching i watcher) fun _ _ h _ => h

theorem endWatcher_owes (i : Nat) (watcher : ControlWatcher) (response : ControlResponse) :
    (executorContract cfg).Ends (Watching i watcher)
      (write (·.endWatcher i [.replied watcher.reply response])) fun _ => Owing none :=
  .atomic (stable_watching i watcher) (fun _ => stable_owing none)
    fun _ _ h _ => h.1.endWatcher h.2 response

/-- no observer is cancelled when the flush looks at it -/
def FlushInput.Heard (input : FlushInput) : Prop := ∀ b ∈ input.watcherCancelled, b = false

instance (input : FlushInput) : Decidable input.Heard :=
  inferInstanceAs (Decidable (∀ b ∈ input.watcherCancelled, b = false))

theorem FlushInput.Heard.getD {input : FlushInput} (h : input.Heard) (i : Nat) :
    input.watcherCancelled.getD i false = false := by
  rw [List.getD_eq_getElem?_getD]
  cases hi : input.watcherCancelled[i]? with
  | none => rfl
  | some b => exact h b (List.mem_of_getElem? hi)

theorem flushWatcher_owes {input : FlushInput} (hheard : input.Heard) (i : Nat) :
    (executorContract cfg).Ends (Owing none) (flushWatcher input i) fun _ => Owing none := by
  refine .bind (Q := fun slot s => Owing none s ∧ s.ctl.controlWatchers.getD i none = slot)
    (.atomic (stable_owing none) (fun slot => (stable_owing none).and
      (stable_ctl fun e => e.controlWatchers.getD i none = slot)) fun _ _ h _ => ⟨h, rfl⟩)
    fun slot => ?_
  cases slot with
  | none => exact owing_ret.pre fun _ h => h.1
  | some watcher =>
    refine .ite (fun hcancelled => ?_) fun _ => ?_
    · rw [hheard.getD i] at hcancelled
      cases hcancelled
    refine .bind watching_look fun event => .ite (fun _ => ?_) fun _ => .ite (fun _ => ?_) fun _ => ?_
    · exact .bind watching_look fun status => endWatcher_owes i watcher _
    · exact endWatcher_owes i watcher _
    · exact owing_ret.pre fun _ h => h.1

theorem flushControl_owes {input : FlushInput} (hheard : input.Heard) :
    (executorContract cfg).Ends (Owing none) (flushControl input) fun _ => Owing none := by
  have hwatchers : (executorContract cfg).Ends (Owing none) (flushWatchers input)
      fun _ => Owing none :=
    .bind (flushWatcher_owes hheard 0) fun _ => .bind (flushWatcher_owes hheard 1) fun _ =>
      .bind (flushWatcher_owes hheard 2) fun _ => flushWatcher_owes hheard 3
  refine .bind (Q := fun r s => Owing none s ∧ s.ctl.pendingControl = r) (.atomic
    (stable_owing none) (fun r => (stable_owing none).and (stable_ctl (·.pendingControl = r)))
    fun _ _ h _ => ⟨h, rfl⟩) fun r => ?_
  cases r
  case' none => refine Ends.pre (P := Owing none) ?_ fun _ h => h.1
  case' some pending => refine .bind (flushPending_owes pending input) fun _ => ?_
  -- with the mutation settled, the capture and then the observers
  all_goals
    refine .bind (Q := fun r s => Owing none s ∧ s.ctl.captureReply = r.1) (.atomic
      (stable_owing none) (fun r => (stable_owing none).and (stable_ctl (·.captureReply = r.1)))
      fun _ _ h _ => ⟨h, rfl⟩) fun r => ?_
    split
    · exact hwatchers.pre fun _ h => h.1
    · exact .bind (flushCapture_owes _ _) fun _ => hwatchers

end

/-! ## the replies of a source -/

def ExecutorCall.Heard : ExecutorCall → Prop
  | .request _ _ _ _ => True
  | .flush input => input.Heard

instance : DecidablePred ExecutorCall.Heard
  | .request _ _ _ _ => .isTrue trivial
  | .flush input => inferInstanceAs (Decidable input.Heard)

theorem executor_owes {cfg : PluginConfig} {c : ExecutorCall} (hheard : c.Heard) :
    (executorContract cfg).Ends (Owing none) (threadBody cfg .executor c) fun _ => Owing none := by
  cases c with
  | request operation request input now =>
    exact handleControlRequest_owes operation request input now
  | flush input => exact flushControl_owes hheard

/-- the replies that `StopControlServer` completes are the open ones -/
theorem removedReplies_perm (s : State) : s.removedReplies.Perm s.openReplies := by
  unfold State.removedReplies State.openReplies
  rw [List.append_assoc, List.append_assoc]
  exact (List.perm_append_comm).append_left _

theorem stopControlServer_replied (s : State) (handle : Nat) :
    s.stopControlServer.replied.count handle = s.uses handle := by
  have hnew : ((s.removedReplies.map fun handle =>
      Event.replied handle (.error sensorRemoved)).reverse).filterMap (·.reply?) =
        s.removedReplies.reverse := by
    rw [List.filterMap_reverse, List.filterMap_map]
    congr 1
    exact List.filterMap_some
  rw [State.replied, State.stopControlServer, List.filterMap_append, hnew, List.count_append,
    List.count_reverse, (removedReplies_perm s).count_eq]
  rfl

def Removal.answered : Removal → Bool
  | .registered | .unregistering | .answering => false
  | _ => true

namespace CameraSource

def Hears : SourceAction → Prop
  | .thread (.start .executor c) => ExecutorCall.Heard c
  | _ => True

instance : DecidablePred Hears
  | .thread (.start .executor c) => inferInstanceAs (Decidable (ExecutorCall.Heard c))
  | .thread (.start .render _) | .thread (.start .pacer _) | .thread (.start .jpegWorker _)
  | .thread (.start .rosSide _) | .thread (.start .hostSide _) | .thread (.step _) | .remove =>
    .isTrue trivial

structure Replying (cfg : PluginConfig) (source : CameraSource) : Prop where
  serving : source.removal.serves = true →
    (executorContract cfg).Leaves (fun _ => Owing none) (source.state.thread .executor)
      source.state.shared
  unregistered : source.removal = .answering →
    Owing none source.state.shared ∧ ReplyBook source.state.shared
  answered : source.removal.answered = true →
    (∀ handle, handle < source.state.shared.ctl.nextReply →
      source.state.shared.replied.count handle = 1) ∧
    ∀ handle, source.state.shared.replied.count handle ≤ 1

variable {cfg : PluginConfig} {source : CameraSource}

theorem Replying.keep {source' : CameraSource} (h : source.Replying cfg)
    (hserves : source.removal.serves = false) (hremoval : source'.removal = source.removal)
    (hctl : source'.state.shared.ctl = source.state.shared.ctl)
    (hlog : source'.state.shared.log = source.state.shared.log) : source'.Replying cfg := by
  have hreplied : source'.state.shared.replied = source.state.shared.replied := by
    rw [State.replied, hlog]
    rfl
  refine ⟨fun he => ?_, fun he => ?_, fun he => ?_⟩
  · rw [hremoval, hserves] at he
    cases he
  · obtain ⟨howing, hbook⟩ := h.unregistered (hremoval ▸ he)
    have hopen : source'.state.shared.openReplies = source.state.shared.openReplies := by
      rw [State.openReplies, hctl]
      rfl
    have hnext : source'.state.shared.ctl.nextReply = source.state.shared.ctl.nextReply := by
      rw [hctl]
    refine ⟨howing.keep hnext fun handle => ?_, hbook.congr hopen hreplied hnext⟩
    rw [State.uses, State.uses, hopen, hreplied]
  · rw [hreplied, hctl]
    exact h.answered (hremoval ▸ he)

theorem Replying.seeing (h : source.Replying cfg) (hsound : source.Sound cfg) {reserved : Bool}
    (hholds : source.state.shared.holdsCapture = true → reserved = true) :
    (source.seeing reserved).Replying cfg := by
  cases hserves : source.removal.serves with
  | false => exact h.keep hserves rfl rfl rfl
  | true =>
    refine ⟨fun _ => (h.serving hserves).rely ?_, fun he => ?_, fun he => ?_⟩
    · show ExecutorRely source.state.shared (source.state.shared.seeing reserved)
      rcases seeing_cases (hsound.books hserves).slot hholds with hsame | ⟨side, hside⟩
      · rw [hsame]
        exact .refl _
      · rw [hside]
        have hstep : OtherStep cfg .step source.state.shared
            (source.state.shared.hostSide side) := .hostSide side
        exact hstep.executorRely
    · rw [show source.removal = .answering from he] at hserves
      cases hserves
    · cases hremoval : source.removal with
      | registered | unregistering =>
        rw [show (source.seeing reserved).removal = source.removal from rfl, hremoval] at he
        cases he
      | _ =>
        rw [hremoval] at hserves
        cases hserves

theorem Replying.of_answered (hremoval : source.removal.answered = true)
    (h : (∀ handle, handle < source.state.shared.ctl.nextReply →
        source.state.shared.replied.count handle = 1) ∧
      ∀ handle, source.state.shared.replied.count handle ≤ 1) : source.Replying cfg := by
  refine ⟨fun he => ?_, fun he => ?_, fun _ => h⟩
  · cases hr : source.removal with
    | registered | unregistering =>
      rw [hr] at hremoval
      cases hremoval
    | _ =>
      rw [hr] at he
      cases he
  · rw [he] at hremoval
    cases hremoval

theorem Replying.of_serving (hserves : source.removal.serves = true)
    (h : (executorContract cfg).Leaves (fun _ => Owing none) (source.state.thread .executor)
      source.state.shared) : source.Replying cfg := by
  refine ⟨fun _ => h, fun he => ?_, fun he => ?_⟩
  · rw [he] at hserves
    cases hserves
  · cases hr : source.removal with
    | registered | unregistering =>
      rw [hr] at he
      cases he
    | _ =>
      rw [hr] at hserves
      cases hserves

/-- `StopControlServer` answers whatever is open -/
theorem Replying.stopControlServer (h : source.Replying cfg) (hremoval : source.removal = .answering) :
    (∀ handle, handle < source.state.shared.stopControlServer.ctl.nextReply →
      source.state.shared.stopControlServer.replied.count handle = 1) ∧
    ∀ handle, source.state.shared.stopControlServer.replied.count handle ≤ 1 := by
  obtain ⟨howing, hbook⟩ := h.unregistered hremoval
  refine ⟨fun handle hlt => ?_, fun handle => ?_⟩
  · rw [stopControlServer_replied]
    have honce := hbook.once handle
    by_contra hne
    cases howing handle hlt (by omega)
  · rw [stopControlServer_replied]
    exact hbook.once handle

theorem Replying.remove (h : source.Replying cfg) (hsound : source.Sound cfg) :
    source.remove.Replying cfg := by
  unfold CameraSource.remove
  cases hremoval : source.removal with
  | registered =>
    have hserves := h.serving (by rw [hremoval]; rfl)
    dsimp only
    split
    · exact .of_serving rfl hserves
    · exact h
  | unregistering =>
    have hserves : source.removal.serves = true := by rw [hremoval]; rfl
    dsimp only
    split
    · rename_i hidle
      have hbooks := hsound.books hserves
      have hleaves := h.serving hserves
      rw [ret_of_idle hidle] at hleaves
      exact ⟨fun he => (by cases he), fun _ => ⟨hleaves _ (.refl _) hbooks, hbooks.reply⟩,
        fun he => (by cases he)⟩
    · exact h
  | answering => exact .of_answered rfl (h.stopControlServer hremoval)
  | removed => exact h
  | _ =>
    have hanswered := h.answered (by rw [hremoval]; rfl)
    dsimp only
    repeat' split
    all_goals first
      | exact h
      | exact .of_answered rfl hanswered

theorem Replying.next (h : source.Replying cfg) (hsound : source.Sound cfg) {a : SourceAction}
    (ha : Hears a) : (source.next cfg a).Replying cfg := by
  cases a with
  | remove => exact h.remove hsound
  | thread a =>
    show Replying cfg (if source.takes a then _ else source)
    split
    · cases hserves : source.removal.serves with
      | true =>
        refine .of_serving hserves ?_
        have hbody : ∀ c, a = .start .executor c → ((pluginVerified cfg).contract .executor).Ends
            (Owing none) ((plugin cfg).body .executor c) fun _ => Owing none := by
          rintro c rfl
          exact executor_owes ha
        exact (pluginVerified cfg).leaves_next (hsound.serving hserves) a hbody (h.serving hserves)
      | false =>
        have hstep := (hsound.retired hserves).step hsound.hostSide a
        exact h.keep hserves rfl hstep.ctl hstep.log
    · exact h

end CameraSource

/-! ## the replies of a host -/

section
variable {ι : Type} [DecidableEq ι] {cfg : ι → PluginConfig} {host : CameraHost ι}

theorem host_replying
    (h : (hostMachine cfg).ReachableUnder (fun _ a => CameraSource.Hears a.2) host) :
    ∀ i, (host.source i).Replying (cfg i) := by
  refine Machine.ReachableUnder.invariant
    (P := fun host => ∀ i, (host.source i).Replying (cfg i)) ?_ ?_ h
  · intro host hinit i
    obtain ⟨hremoval, ⟨input, hload⟩, hthread⟩ := hinit.2 i
    refine .of_serving (by rw [hremoval]; rfl) ?_
    rw [hload, hthread]
    have hstable : (executorContract (cfg i)).Stable (Owing none) := stable_owing none
    exact fun s' hr hI => hstable _ s' hr hI fun handle hlt =>
      absurd hlt (Nat.not_lt_zero handle)
  · intro host a hreach ha hreplying i
    obtain ⟨holder, _, hsound⟩ := host_lock hreach.reachable
    by_cases hi : i = a.1
    · subst hi
      show CameraSource.Replying (cfg a.1) ((host.next cfg a).source a.1)
      rw [CameraHost.next_source_self]
      exact ((hreplying a.1).seeing (hsound.source a.1) (hsound.holds_reserved a.1)).next
        (hsound.turn a.1) ha
    · show CameraSource.Replying (cfg i) ((host.next cfg a).source i)
      rw [CameraHost.next_source_other hi]
      exact hreplying i

/-- **No reply is lost.**  Between two calls of the executor, every request of a source is either
answered or kept for an answer, and once the replies of a removed source are given, every request is
answered.  No request is ever answered twice. -/
theorem replies_exactly_once
    (h : (hostMachine cfg).ReachableUnder (fun _ a => CameraSource.Hears a.2) host) (i : ι) :
    let source := host.source i
    (source.removal.serves = true → source.idle .executor = true →
      ∀ handle, handle < source.state.shared.ctl.nextReply →
        source.state.shared.uses handle = 1) ∧
    (source.removal.answered = true → ∀ handle, handle < source.state.shared.ctl.nextReply →
      source.state.shared.replied.count handle = 1) ∧
    ∀ handle, source.state.shared.replied.count handle ≤ 1 := by
  have hreplying := host_replying h i
  obtain ⟨holder, _, hsound⟩ := host_lock h.reachable
  have hsource := hsound.source i
  have hbounded : ∀ {s : State}, ReplyBook s → ∀ handle, s.replied.count handle ≤ 1 := by
    intro s hbook handle
    exact (Nat.le_add_left _ _).trans (hbook.once handle)
  refine ⟨fun hserves hidle handle hlt => ?_, fun hanswered => (hreplying.answered hanswered).1, ?_⟩
  · have hbooks := hsource.books hserves
    have hleaves := hreplying.serving hserves
    rw [CameraSource.ret_of_idle hidle] at hleaves
    have howing : Owing none (host.source i).state.shared := hleaves _ (.refl _) hbooks
    have honce := hbooks.reply.once handle
    by_contra hne
    cases howing handle hlt (by omega)
  · cases hserves : (host.source i).removal.serves with
    | true => exact hbounded (hsource.books hserves).reply
    | false =>
      by_cases hremoval : (host.source i).removal = .answering
      · exact hbounded (hreplying.unregistered hremoval).2
      · refine (hreplying.answered ?_).2
        cases hr : (host.source i).removal with
        | registered | unregistering =>
          rw [hr] at hserves
          cases hserves
        | answering => exact absurd hr hremoval
        | _ => rfl

end

/-- the capture that is open when its camera is removed is answered, and the one that was refused is
not answered again -/
theorem replies_exactly_once_removalRun :
    let host := (hostMachine fun _ : Bool => .sample).run .sample removalRun
    (host.source true).removal.answered = true ∧
      (∀ handle, handle < 1 → (host.source true).state.shared.replied.count handle = 1) ∧
      (host.source false).idle .executor = true ∧
      ∀ handle, handle < 1 → (host.source false).state.shared.uses handle = 1 := by
  have hreach : (hostMachine fun _ : Bool => .sample).ReachableUnder
      (fun _ a => CameraSource.Hears a.2)
      ((hostMachine fun _ : Bool => .sample).run .sample removalRun) :=
    (CameraHost.sample_reachable _).run removalRun (by decide +kernel)
  have hnext : ∀ i : Bool, (((hostMachine fun _ : Bool => .sample).run .sample
      removalRun).source i).state.shared.ctl.nextReply = 1 := by decide +kernel
  have hanswered : (((hostMachine fun _ : Bool => .sample).run .sample
      removalRun).source true).removal.answered = true := by decide +kernel
  have hserves : (((hostMachine fun _ : Bool => .sample).run .sample
      removalRun).source false).removal.serves = true := by decide +kernel
  have hidle : (((hostMachine fun _ : Bool => .sample).run .sample
      removalRun).source false).idle .executor = true := by decide +kernel
  refine ⟨hanswered, fun handle hlt => ?_, hidle, fun handle hlt => ?_⟩
  · exact (replies_exactly_once hreach true).2.1 hanswered handle (by rw [hnext]; exact hlt)
  · exact (replies_exactly_once hreach false).1 hserves hidle handle (by rw [hnext]; exact hlt)

end MediaCamera
