import MediaCamera.Client.Reconcile
import MediaCamera.Machine.Beside
import MediaCamera.Plugin.Acknowledgment

/-!
# What the executor says, and what it is asked

A second contract of the executor, beside its effects.  It holds under a condition on the requests.

* `State.Told`        a status tells the state in which it is sent, and with an acknowledgment in it
                      a calibration is published;
* `State.Asked`       a mutation is admitted for a request that came before, past its checks;
* `dialog`            the executor only says and does such things;
* `status_acknowledges`   so an acknowledgment in any status ever sent is the publication of the
                      calibration that this status calls applied.
-/

namespace MediaCamera

open Contract Prog

/-! ## statuses -/

def ControlResponse.status? : ControlResponse → Option CameraStatus
  | .status sent | .configuration sent | .applied sent _ _ => some sent
  | _ => none

def ControlResponse.isApplied : ControlResponse → Bool
  | .applied _ _ _ => true
  | _ => false

/-- the calibration that the status calls applied is published under the applied revision -/
def State.PublishesApplied (cfg : PluginConfig) (s : State) (status : CameraStatus) : Prop :=
  ∃ calibration ∈ s.ros.cameraInfos, calibration.revision = status.applied_revision ∧
    (cfg.ros.rosPublishingEnabled = true → status.applied.Calibrated calibration)

structure State.Told (cfg : PluginConfig) (s : State) (status : CameraStatus) : Prop where
  desired : status.desired_revision = s.ctl.desiredRevision
  pending : status.pending = s.ctl.pendingControl.isSome
  applied : status.applied = s.ctl.appliedConfig
  revision : status.applied_revision = s.ctl.appliedRevision
  acknowledged : status.acknowledged = true → s.PublishesApplied cfg status

/-- a mutation is admitted, for a request that satisfied `D` when it came -/
def State.Asked (cfg : PluginConfig) (D : Label → State → Prop) (s s' : State) : Prop :=
  ∃ operation request input kind handle desired older,
    D (.request operation request input) older ∧ older.log ⊆ s.log ∧
      Route.parse request.method operation = .mutation kind ∧
      s.ctl.checkMutation kind input = .ok () ∧
      (∃ width height, s.ctl.desiredMutation cfg.ros.rosPublishingEnabled width height kind request
        input = .ok desired) ∧
      s' = s.admitMutation handle kind request desired

/-- a step of the executor -/
structure State.Speaks (cfg : PluginConfig) (D : Label → State → Prop) (s s' : State) : Prop where
  told : ∀ handle response status, .replied handle response ∈ s'.log →
    response.status? = some status → .replied handle response ∉ s.log →
      s'.Told cfg status ∧ (response.isApplied = true → 1 < status.applied_revision)
  asked : s.ctl.pendingControl = none → s'.ctl.pendingControl ≠ none → s.Asked cfg D s'

/-- a step that sends no status and admits nothing -/
structure State.Plain (s s' : State) : Prop where
  told : ∀ handle response, .replied handle response ∈ s'.log → .replied handle response ∉ s.log →
    response.status? = none
  asked : s.ctl.pendingControl = none → s'.ctl.pendingControl = none

abbrev Plainly {α : Type} (p : Thread α) : Prop := p.Within fun _ => State.Plain

section
variable {cfg : PluginConfig} {D : Label → State → Prop} {s s' : State} {α : Type}

theorem State.Plain.speaks (h : s.Plain s') : s.Speaks cfg D s' where
  told handle response status hmem hstatus hold := by
    rw [h.told handle response hmem hold] at hstatus
    cases hstatus
  asked hnone hsome := absurd (h.asked hnone) hsome

theorem State.Plain.of_log (new : List Event) (hlog : s'.log = new ++ s.log)
    (hnew : ∀ handle response, .replied handle response ∈ new → response.status? = none)
    (hpending : s.ctl.pendingControl = none → s'.ctl.pendingControl = none) : s.Plain s' := by
  refine ⟨fun handle response hmem hold => ?_, hpending⟩
  rw [hlog] at hmem
  rcases List.mem_append.mp hmem with hmem | hmem
  · exact hnew handle response hmem
  · exact absurd hmem hold

theorem State.Plain.silent (hlog : s'.log = s.log)
    (hpending : s'.ctl.pendingControl = s.ctl.pendingControl) : s.Plain s' :=
  .of_log [] hlog (fun _ _ h => by cases h) fun hnone => hpending.trans hnone

theorem plainly_read {f : State → α} : Plainly (read f) := .atomic fun _ => .silent rfl rfl

theorem plainly_reply (handle : Nat) {response : ControlResponse}
    (hstatus : response.status? = none) : Plainly (reply handle response) := by
  refine .atomic fun s => .of_log [.replied handle response] rfl ?_ fun h => h
  intro handle' response' hmem
  cases List.mem_singleton.mp hmem
  exact hstatus

/-! ## the plain part of the executor -/

theorem handleReceipts_plainly (handle : Nat) (input : Json) (id : String) :
    Plainly (handleReceipts handle input id) := by
  unfold handleReceipts
  split
  · exact plainly_reply handle rfl
  · refine .bind plainly_read fun slot => ?_
    split <;> exact plainly_reply handle rfl

theorem admitCapture_plainly (handle : Nat) (request : ControlRequest)
    (options : Executor.CaptureOptions) (now : Int) :
    Plainly (admitCapture handle request options now) := by
  have hopen : Plainly (.atomic (.openCapture request.request_id) fun s => ({ s with
      ctl.captureSlotHeld := true
      ctl.captureRecording := false
      ctl.captureReply := some handle
      ctl.captureRequestID := request.request_id
      ctl.captureDeadline := min request.deadline (now + kCaptureBudget) }, ())) :=
    .atomic fun _ => .silent rfl rfl
  have hreserve : Plainly reserveCapture := by
    refine .atomic fun s => ?_
    dsimp only
    split <;> exact .silent rfl rfl
  unfold admitCapture
  refine .bind hreserve fun reserved => .ite (plainly_reply handle rfl) ?_
  refine .bind (.atomic fun _ => .silent rfl rfl) fun generation => .ite ?_ hopen
  exact .bind (.atomic fun _ => .of_log [_] rfl (by simp) fun h => h) fun _ =>
    .bind (.atomic fun _ => .silent rfl rfl) fun _ => hopen

theorem handleCapture_plainly (handle : Nat) (request : ControlRequest) (input : Json)
    (now : Int) : Plainly (handleCapture handle request input now) := by
  refine .bind plainly_read fun options => ?_
  split
  · exact plainly_reply handle rfl
  rename_i options
  have hrest : ∀ active : Bool, Plainly
      (if (!active) = true then reply handle (.error noActiveEncoder)
        else admitCapture handle request options now) := fun _ =>
    .ite (plainly_reply handle rfl) (admitCapture_plainly handle request options now)
  exact .ite (.bind plainly_read hrest) (.bind (.ret _) hrest)

theorem failPending_plain (pending : PendingControl) (error : ControlError) (s : State) :
    s.Plain (s.failPending pending error) := by
  refine .of_log [.replied pending.reply (.error error), _] rfl (fun handle response hmem => ?_)
    fun _ => rfl
  rcases List.mem_cons.mp hmem with he | hmem
  · cases he
    rfl
  · cases List.mem_singleton.mp hmem

theorem expirePending_plainly (pending : PendingControl) (input : FlushInput) :
    Plainly (expirePending pending input) := by
  refine .ite (.atomic fun s => ?_) (.ret _)
  show s.Plain (s.expirePending pending input.lockTaken)
  unfold State.expirePending
  split
  · obtain ⟨htold, hasked⟩ := failPending_plain pending deadlineExceeded s
    exact ⟨htold, hasked⟩
  · exact .silent rfl rfl

theorem flushCapture_plainly (handle : Nat) (late : Bool) : Plainly (flushCapture handle late) := by
  refine .bind (.atomic fun _ => .silent rfl rfl) fun verdict => ?_
  split
  · exact .ret _
  rename_i response
  refine .bind (.atomic fun s => ?_) fun _ =>
    .bind (.atomic fun _ => .silent rfl rfl) fun _ => .atomic fun _ => .silent rfl rfl
  refine .of_log [.replied handle _, .recorded none _] rfl (fun handle' response' hmem => ?_)
    fun h => h
  rcases List.mem_cons.mp hmem with he | hmem
  · cases he
    split
    · rfl
    · split <;> rfl
  · cases List.mem_singleton.mp hmem

end

/-! ## the contract -/

/-- the executor speaks; it relies on nothing new -/
def dialogContract (cfg : PluginConfig) (D : Label → State → Prop) :
    Contract (fun _ : State => True)
      fun l s => D l s ∧ AckInv cfg.ros.rosPublishingEnabled s.handoff where
  rely := ExecutorRely
  guar _ s s' := s.Speaks cfg D s'
  rely_refl := .refl
  rely_trans := .trans

section
variable {cfg : PluginConfig} {D : Label → State → Prop} {α : Type}

theorem dialog_ctl (P : Executor → Prop) : (dialogContract cfg D).Stable fun s => P s.ctl :=
  .of_eq (fun _ _ h => ExecutorRely.ctl h) P

theorem dialog_told (status : CameraStatus) :
    (dialogContract cfg D).Stable fun s => s.Told cfg status := by
  intro s s' h _ ht
  have hctl : s'.ctl = s.ctl := ExecutorRely.ctl h
  refine ⟨?_, ?_, ?_, ?_, fun hack => ?_⟩
  · rw [hctl]
    exact ht.desired
  · rw [hctl]
    exact ht.pending
  · rw [hctl]
    exact ht.applied
  · rw [hctl]
    exact ht.revision
  · obtain ⟨calibration, hmem, hcalibration⟩ := ht.acknowledged hack
    obtain ⟨new, hout⟩ := ExecutorRely.out h
    refine ⟨calibration, ?_, hcalibration⟩
    rw [RosState.cameraInfos, hout, List.filterMap_append]
    exact List.mem_append_right _ hmem

theorem dialog_atomic {P : State → Prop} {Q : α → State → Prop} {l : Label}
    {f : State → State × α} (hP : (dialogContract cfg D).Stable P)
    (hQ : ∀ a, (dialogContract cfg D).Stable (Q a))
    (h : ∀ s, D l s → AckInv cfg.ros.rosPublishingEnabled s.handoff → P s →
      s.Speaks cfg D (f s).1 ∧ Q (f s).2 (f s).1) :
    (dialogContract cfg D).Triple P (.atomic l f) Q :=
  .atomic hP hQ fun s _ hs hl => ⟨trivial, h s hl.1 hl.2 hs⟩

theorem dialog_read {P : State → Prop} {Q : α → State → Prop} {f : State → α}
    (hP : (dialogContract cfg D).Stable P) (hQ : ∀ a, (dialogContract cfg D).Stable (Q a))
    (h : ∀ s, AckInv cfg.ros.rosPublishingEnabled s.handoff → P s → Q (f s) s) :
    (dialogContract cfg D).Triple P (read f) Q :=
  dialog_atomic hP hQ fun s _ hack hs => ⟨State.Plain.speaks (.silent rfl rfl), h s hack hs⟩

theorem dialog_plainly {p : Thread α} (h : Plainly p) {P : State → Prop} :
    (dialogContract cfg D).Triple P p fun _ _ => True :=
  (h.triple (P := fun _ => True) (fun _ _ _ _ _ => trivial) (fun _ _ _ hs => hs.speaks) .true
    fun _ _ _ _ _ => trivial).pre fun _ _ => trivial

theorem AckInv.told {s : State} (h : AckInv cfg.ros.rosPublishingEnabled s.handoff) :
    s.Told cfg s.cameraStatus := by
  refine ⟨rfl, rfl, rfl, rfl, fun hack => ?_⟩
  have hack : s.ctl.pendingControl = none ∧
      s.ros.publishedCalibrationRevision = s.ctl.appliedRevision := by
    simpa [CameraStatus.acknowledged, State.cameraStatus] using hack
  obtain ⟨hnone, hrevision⟩ := hack
  obtain ⟨hagree, hmem⟩ := h.acknowledged hnone hrevision
  exact ⟨s.ros.branch.calibrationMetadata, hmem, hagree, fun hros => h.calibrated hros hagree⟩

theorem dialog_reply (handle : Nat) {response : ControlResponse} :
    (dialogContract cfg D).Triple
      (fun s => ∀ status, response.status? = some status →
        s.Told cfg status ∧ (response.isApplied = true → 1 < status.applied_revision))
      (reply handle response) fun _ _ => True := by
  have hstable : (dialogContract cfg D).Stable fun s => ∀ status, response.status? = some status →
      s.Told cfg status ∧ (response.isApplied = true → 1 < status.applied_revision) :=
    fun s s' hr hI h status hstatus =>
      ⟨dialog_told status s s' hr hI (h status hstatus).1, (h status hstatus).2⟩
  refine dialog_atomic hstable (fun _ => .true) fun s _ _ h => ⟨⟨?_, ?_⟩, trivial⟩
  · intro handle' response' status hmem hstatus hold
    rcases List.mem_cons.mp hmem with he | hmem
    · cases he
      obtain ⟨htold, hone⟩ := h status hstatus
      exact ⟨⟨htold.desired, htold.pending, htold.applied, htold.revision, htold.acknowledged⟩, hone⟩
    · exact absurd hmem hold
  · exact fun hnone hsome => absurd hnone hsome

theorem handleRead_dialog (handle : Nat) (input : Json) {response : State → ControlResponse}
    (hresponse : ∀ s status, (response s).status? = some status → status = s.cameraStatus)
    (hplain : ∀ s, (response s).isApplied = false) :
    (dialogContract cfg D).Triple (fun _ => True) (handleRead handle input response)
      fun _ _ => True := by
  unfold handleRead
  split
  · exact dialog_plainly (plainly_reply handle rfl)
  refine .bind (Q := fun r s => ∀ status, r.status? = some status →
      s.Told cfg status ∧ (r.isApplied = true → 1 < status.applied_revision))
    (dialog_read .true (fun r => ?_) fun s hack _ status hstatus => ?_) fun r => dialog_reply handle
  · exact fun s s' hr hI h status hstatus =>
      ⟨dialog_told status s s' hr hI (h status hstatus).1, (h status hstatus).2⟩
  · rw [hresponse s status hstatus]
    refine ⟨hack.told, fun happlied => ?_⟩
    rw [hplain s] at happlied
    cases happlied

theorem dialog_status (handle : Nat) (status : CameraStatus) :
    (dialogContract cfg D).Triple (fun s => s.Told cfg status) (reply handle (.status status))
      fun _ _ => True := by
  refine (dialog_reply handle).pre fun s h status' hstatus => ?_
  obtain rfl : status = status' := Option.some.inj hstatus
  exact ⟨h, fun happlied => by cases happlied⟩

theorem handleObserve_dialog (handle : Nat) (request : ControlRequest) (input : Json)
    (sequence : List Char) :
    (dialogContract cfg D).Triple (fun _ => True) (handleObserve handle request input sequence)
      fun _ _ => True := by
  unfold handleObserve
  split
  · exact dialog_plainly (plainly_reply handle rfl)
  split
  · exact dialog_plainly (plainly_reply handle rfl)
  refine .bind (dialog_plainly plainly_read) fun event =>
    .ite (fun _ => dialog_plainly (plainly_reply handle rfl)) fun _ => .ite (fun _ => ?_) fun _ => ?_
  · exact .bind (dialog_read .true (fun status => dialog_told status) fun s hack _ => hack.told)
      fun status => dialog_status handle status
  · refine .bind (dialog_plainly (.atomic fun s => ?_)) fun watching =>
      .ite (fun _ => dialog_plainly (plainly_reply handle rfl)) fun _ => dialog_plainly (.ret _)
    dsimp only
    split <;> exact .silent rfl rfl

def Requested (D : Label → State → Prop) (operation : String) (request : ControlRequest)
    (input : Json) (s : State) : Prop :=
  ∃ older, D (.request operation request input) older ∧ older.log ⊆ s.log

theorem dialog_requested (operation : String) (request : ControlRequest) (input : Json) :
    (dialogContract cfg D).Stable (Requested D operation request input) := by
  rintro s s' h _ ⟨older, hD, hlog⟩
  exact ⟨older, hD, fun e he => ExecutorRely.mem h (hlog he)⟩

theorem handleMutation_dialog (operation : String) (handle : Nat) {kind : ControlKind}
    (request : ControlRequest) (input : Json)
    (hroute : Route.parse request.method operation = .mutation kind) :
    (dialogContract cfg D).Triple (Requested D operation request input)
      (handleMutation cfg handle kind request input) fun _ _ => True := by
  have hrequested : (dialogContract cfg D).Stable (Requested D operation request input) :=
    dialog_requested operation request input
  have hchecked : ∀ r : Except ControlError Unit, (dialogContract cfg D).Stable fun s =>
      Requested D operation request input s ∧ s.ctl.checkMutation kind input = r := fun r =>
    hrequested.and (dialog_ctl fun e => e.checkMutation kind input = r)
  refine .bind (Q := fun r s => Requested D operation request input s ∧
      s.ctl.checkMutation kind input = r)
    (dialog_read hrequested hchecked fun s _ h => ⟨h, rfl⟩) fun r => ?_
  split
  · exact dialog_plainly (plainly_reply handle rfl)
  refine (fun hrest => .ite (fun _ => .bind (dialog_read (hchecked _) (fun _ => hchecked _)
    fun _ _ h => h) hrest) fun _ => .bind (.ret (hchecked _) fun _ _ h => h) hrest) ?_
  refine fun active => .ite (fun _ => dialog_plainly (plainly_reply handle rfl)) fun _ => ?_
  have hdesired : ∀ r : Except ControlError Executor.Desired, (dialogContract cfg D).Stable fun s =>
      (Requested D operation request input s ∧ s.ctl.checkMutation kind input = .ok ()) ∧
        ∃ width height, s.ctl.desiredMutation cfg.ros.rosPublishingEnabled width height kind request
          input = r := fun r =>
    (hchecked _).and (dialog_ctl fun e => ∃ width height,
      e.desiredMutation cfg.ros.rosPublishingEnabled width height kind request input = r)
  refine .bind (Q := fun r s => (Requested D operation request input s ∧
      s.ctl.checkMutation kind input = .ok ()) ∧ ∃ width height,
        s.ctl.desiredMutation cfg.ros.rosPublishingEnabled width height kind request input = r)
    (dialog_read (hchecked _) hdesired fun s _ h => ⟨h, _, _, rfl⟩) fun r => ?_
  split
  · exact dialog_plainly (plainly_reply handle rfl)
  rename_i desired
  refine dialog_atomic (hdesired _) (fun _ => .true) fun s _ _ h => ⟨⟨?_, fun _ _ => ?_⟩, trivial⟩
  · intro handle' response status hmem _ hold
    rcases List.mem_cons.mp hmem with he | hmem
    · cases he
    · exact absurd hmem hold
  · obtain ⟨⟨⟨older, hD, hlog⟩, hcheck⟩, hdesired⟩ := h
    exact ⟨operation, request, input, kind, handle, desired, older, hD, hlog, hroute, hcheck,
      hdesired, rfl⟩

theorem handleControlRequest_dialog (operation : String) (request : ControlRequest) (input : Json)
    (now : Int) :
    (dialogContract cfg D).Triple (fun _ => True)
      (handleControlRequest cfg operation request input now) fun _ _ => True := by
  refine .bind (Q := fun _ => Requested D operation request input)
    (dialog_atomic .true (fun _ => dialog_requested operation request input)
      fun s hD _ _ => ⟨State.Plain.speaks (.silent rfl rfl), s, hD, List.Subset.refl _⟩)
    fun handle => ?_
  split
  · exact (handleRead_dialog handle input (by simp [ControlResponse.status?])
      fun _ => rfl).pre fun _ _ => trivial
  · exact (handleRead_dialog handle input (by simp [ControlResponse.status?])
      fun _ => rfl).pre fun _ _ => trivial
  · exact (handleRead_dialog handle input (by simp [ControlResponse.status?])
      fun _ => rfl).pre fun _ _ => trivial
  · exact dialog_plainly (handleReceipts_plainly handle input _)
  · exact (handleObserve_dialog handle request input _).pre fun _ _ => trivial
  · exact dialog_plainly (handleCapture_plainly handle request input now)
  · rename_i hroute
    exact handleMutation_dialog operation handle request input hroute
  · exact dialog_plainly (plainly_reply handle rfl)

theorem flushWatcher_dialog (input : FlushInput) (i : Nat) :
    (dialogContract cfg D).Triple (fun _ => True) (flushWatcher input i) fun _ _ => True := by
  refine .bind (dialog_plainly plainly_read) fun slot => ?_
  split
  · exact dialog_plainly (.ret _)
  rename_i watcher
  refine .ite (fun _ => dialog_plainly (.atomic fun s => .of_log [] rfl (by simp) fun h => h))
    fun _ => .bind (dialog_plainly plainly_read) fun event => .ite (fun _ => ?_) fun _ => .ite
      (fun _ => dialog_plainly (.atomic fun s => .of_log [_] rfl (fun _ _ hmem => ?_) fun h => h))
      fun _ => dialog_plainly (.ret _)
  · refine .bind (dialog_read .true (fun status => dialog_told status) fun s hack _ => hack.told)
      fun status => dialog_atomic (dialog_told status) (fun _ => .true) fun s _ _ h =>
        ⟨⟨fun handle response status' hmem hstatus hold => ?_, fun hnone hsome => absurd hnone hsome⟩,
          trivial⟩
    rcases List.mem_cons.mp hmem with he | hmem
    · cases he
      obtain rfl : status = status' := Option.some.inj hstatus
      exact ⟨⟨h.desired, h.pending, h.applied, h.revision, h.acknowledged⟩, fun happlied => by
        cases happlied⟩
    · exact absurd hmem hold
  · cases List.mem_singleton.mp hmem
    rfl

theorem completePending_dialog (pending : PendingControl) :
    (dialogContract cfg D).Triple (fun s => s.ctl.pendingControl = some pending)
      (completePending pending) fun _ _ => True := by
  have hpending : (dialogContract cfg D).Stable fun s => s.ctl.pendingControl = some pending :=
    dialog_ctl fun e => e.pendingControl = some pending
  have hone : (dialogContract cfg D).Stable fun s => 1 < s.ctl.appliedRevision :=
    dialog_ctl fun e => 1 < e.appliedRevision
  refine .bind (dialog_read hpending (fun _ => hpending) fun _ _ h => h) fun active => ?_
  refine .bind (Q := fun _ s => 1 < s.ctl.appliedRevision) (dialog_atomic hpending (fun _ => hone)
    fun s _ hack h => ⟨State.Plain.speaks (.silent rfl rfl), ?_⟩) fun _ => ?_
  · have hopen : s.handoff.Open pending := hack.handoff.slot pending h
    exact (hack.handoff.known _ hopen.admitted pending.revision rfl).1
  refine .bind (dialog_read hone (fun _ => hone) fun _ _ h => h) fun time => ?_
  refine .bind (Q := fun _ s => 1 < s.ctl.appliedRevision) (dialog_atomic hone (fun _ => hone)
    fun s _ _ h => ⟨State.Plain.speaks ?_, h⟩) fun receipt => ?_
  · exact .of_log [.recorded _ _] rfl (fun _ _ hmem => by simp at hmem) fun _ => rfl
  have hstatus : ∀ status, (dialogContract cfg D).Stable fun s =>
      s.Told cfg status ∧ 1 < status.applied_revision := fun status => (dialog_told status).and (.const _)
  refine .bind (dialog_read hone hstatus fun s hack h => ⟨hack.told, h⟩) fun status => ?_
  have hreply : ∀ active, (dialogContract cfg D).Triple
      (fun s => s.Told cfg status ∧ 1 < status.applied_revision)
      (reply pending.reply (.applied status receipt active)) fun _ _ => True := by
    refine fun active => (dialog_reply pending.reply).pre fun s h status' hstatus' => ?_
    obtain rfl : status = status' := Option.some.inj hstatus'
    exact ⟨h.1, fun _ => h.2⟩
  refine .ite (fun _ => .bind (.map (dialog_read (hstatus _) (fun _ => hstatus _) fun _ _ h => h)
    fun _ => hstatus _) hreply) fun _ => .bind (.ret (hstatus _) fun _ _ h => h) hreply

theorem flushPending_dialog (pending : PendingControl) (input : FlushInput) :
    (dialogContract cfg D).Triple (fun s => s.ctl.pendingControl = some pending)
      (flushPending pending input) fun _ _ => True := by
  have hpending : (dialogContract cfg D).Stable fun s => s.ctl.pendingControl = some pending :=
    dialog_ctl fun e => e.pendingControl = some pending
  refine .bind (dialog_read hpending (fun _ => hpending) fun _ _ h => h) fun failed =>
    .ite (fun _ => dialog_plainly (.atomic fun s => failPending_plain pending notAccepted s))
      fun _ => .bind (dialog_read hpending (fun _ => hpending) fun _ _ h => h) fun applied =>
        .ite (fun _ => ?_) fun _ => dialog_plainly (expirePending_plainly pending input)
  have hrest : ∀ published : Nat, (dialogContract cfg D).Triple
      (fun s => s.ctl.pendingControl = some pending)
      (if published = pending.revision then completePending pending
        else expirePending pending input) fun _ _ => True := fun published =>
    .ite (fun _ => completePending_dialog pending)
      fun _ => dialog_plainly (expirePending_plainly pending input)
  exact .ite (fun _ => .bind (dialog_read hpending (fun _ => hpending) fun _ _ h => h) hrest)
    fun _ => .bind (.ret hpending fun _ _ h => h) hrest

theorem flushControl_dialog (input : FlushInput) :
    (dialogContract cfg D).Triple (fun _ => True) (flushControl input) fun _ _ => True := by
  have hwatchers : (dialogContract cfg D).Triple (fun _ => True) (flushWatchers input)
      fun _ _ => True :=
    .bind (flushWatcher_dialog input 0) fun _ => .bind (flushWatcher_dialog input 1) fun _ =>
      .bind (flushWatcher_dialog input 2) fun _ => flushWatcher_dialog input 3
  refine .bind (Q := fun r s => s.ctl.pendingControl = r) (dialog_read .true
    (fun r => dialog_ctl fun e => e.pendingControl = r) fun _ _ _ => rfl) fun r => ?_
  cases r
  case' none => refine Triple.pre (P := fun _ => True) ?_ fun _ _ => trivial
  case' some pending => refine .bind (flushPending_dialog pending input) fun _ => ?_
  -- with the mutation settled, the capture and then the observers
  all_goals
    refine .bind (dialog_plainly plainly_read) fun r => ?_
    split
    · exact hwatchers
    · exact .bind (dialog_plainly (flushCapture_plainly _ _)) fun _ => hwatchers

end

/-! ## every run -/

section
variable {cfg : PluginConfig} {D : Label → State → Prop}

theorem dialog (cfg : PluginConfig) (D : Label → State → Prop) :
    Pool.Beside (pluginVerified cfg) .executor (dialogContract cfg D) fun _ => True where
  holds _ h := ackInv h.reachable
  init _ _ := trivial
  stable := .true
  body c := by
    cases c with
    | request operation request input now =>
      exact handleControlRequest_dialog operation request input now
    | flush input => exact flushControl_dialog input
  others t hne _ _ _ _ hG := (threadContract_guar cfg t hG).executorRely hne

theorem dialog_invariant {X : State → Prop} (hinit : ∀ input, X (State.load cfg input))
    (hstep : ∀ t l s s', AckInv cfg.ros.rosPublishingEnabled s.handoff → D l s →
      ThreadStep cfg t l s s' → (t = .executor → s.Speaks cfg D s') → X s → X s')
    {s : PluginState} (h : (pluginMachine cfg).ReachableUnder (Pool.Obeys D) s) : X s.shared := by
  refine Pool.Verified.beside_invariant (dialog cfg D) ?_ ?_ h
  · rintro _ ⟨input, rfl⟩
    exact hinit input
  · exact fun t l s s' _ hack hD hG hspeaks =>
      hstep t l s s' hack hD (threadContract_guar cfg t hG) hspeaks

theorem dialog_step {s : PluginState} (h : (pluginMachine cfg).ReachableUnder (Pool.Obeys D) s)
    {a : PluginAction} (ha : Pool.Obeys D s a) :
    ((pluginMachine cfg).step s a).shared = s.shared ∨
      ∃ t l, ThreadStep cfg t l s.shared ((pluginMachine cfg).step s a).shared ∧
        (t = .executor → s.shared.Speaks cfg D ((pluginMachine cfg).step s a).shared) := by
  refine (Pool.Verified.beside_step (dialog cfg D) h ha).imp_right ?_
  rintro ⟨t, l, _, _, hG, hspeaks⟩
  exact ⟨t, l, threadContract_guar cfg t hG, hspeaks⟩

theorem ThreadStep.cameraInfos {t : ThreadName} {l : Label} {s s' : State}
    (h : ThreadStep cfg t l s s') : s.ros.cameraInfos ⊆ s'.ros.cameraInfos := by
  rcases h.handoff with e | hmove
  · have e : s'.ros.cameraInfos = s.ros.cameraInfos := congrArg (·.published) e
    rw [e]
    exact List.Subset.refl _
  · exact hmove.published_subset

theorem ThreadStep.replied_before {t : ThreadName} {l : Label} {s s' : State}
    (h : ThreadStep cfg t l s s') (ht : t ≠ .executor) {handle : Nat} {response : ControlResponse}
    (hmem : .replied handle response ∈ s'.log) : .replied handle response ∈ s.log := by
  obtain ⟨new, hlog, hnew⟩ := (h.executorRely ht).log
  rw [hlog] at hmem
  rcases List.mem_append.mp hmem with hmem | hmem
  · cases hnew _ hmem
  · exact hmem

/-- every acknowledged status that was sent has its applied calibration published -/
def State.Acknowledges (cfg : PluginConfig) (s : State) : Prop :=
  ∀ handle response status, .replied handle response ∈ s.log →
    response.status? = some status → status.acknowledged = true → s.PublishesApplied cfg status

theorem State.Acknowledges.step {t : ThreadName} {l : Label} {s s' : State}
    (hX : s.Acknowledges cfg) (h : ThreadStep cfg t l s s')
    (hspeaks : t = .executor → s.Speaks cfg D s') : s'.Acknowledges cfg := by
  intro handle response status hmem hstatus hacknowledged
  by_cases hold : .replied handle response ∈ s.log
  · obtain ⟨calibration, hpublished, hcalibration⟩ :=
      hX handle response status hold hstatus hacknowledged
    exact ⟨calibration, h.cameraInfos hpublished, hcalibration⟩
  · have ht : t = .executor := by
      by_contra ht
      exact hold (h.replied_before ht hmem)
    exact ((hspeaks ht).told handle response status hmem hstatus hold).1.acknowledged hacknowledged

/-- **An acknowledged status is a publication.**  If a status that was ever sent has no pending
mutation and the applied revision as the published one, then the calibration that it calls applied
has been published under this revision. -/
theorem status_acknowledges {s : PluginState} (h : (pluginMachine cfg).Reachable s) :
    ∀ handle response status, .replied handle response ∈ s.shared.log →
      response.status? = some status → status.acknowledged = true →
        s.shared.PublishesApplied cfg status := by
  refine dialog_invariant (D := fun _ _ => True) (X := fun s => s.Acknowledges cfg) ?_ ?_
    (h.mono fun s a _ => Pool.Obeys.trivial s a)
  · intro input handle response status hmem
    cases hmem
  · intro t l s s' _ _ hstep hspeaks hX
    exact hX.step hstep hspeaks

end

/-- the answer to a configured calibration -/
theorem status_acknowledges_calibratedRun :
    let s := ((pluginMachine .sample).run .sample calibratedRun).shared
    s.PublishesApplied .sample s.cameraStatus :=
  status_acknowledges (Machine.Reachable.run (PluginState.sample_reachable _) calibratedRun) 0
    (.applied _ ⟨"a", .mutation .config, .completed, 2, 2, 1, ""⟩ none) _ (by decide +kernel) rfl
    (by decide +kernel)

end MediaCamera
