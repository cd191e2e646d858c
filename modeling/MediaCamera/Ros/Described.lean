import MediaCamera.Ros.Changes

/-!
# Stream infos and their frames

A frame makes sense to a subscriber once the stream info of its epoch is out.  The worker takes a
pending stream info before any frame, and drops what was taken under an older generation.

* `RosState.Armed`      the stream info of the current epoch is out, pending, or held by the worker
                        under the current generation;
* `DescribedInv`        while the branch is not armed it has no frame, and none comes;
* `KeepsStreamInfo`     the last disconnection does not overtake the one stream info of an epoch
                        that still gets a frame;
* `stream_info_first`   in such a run every published frame comes after the stream info of its
                        epoch.

The second section of `OnROSSubscriberDisconnected` takes a new generation without asking for a new
stream info; `RosAction.overtaken` is a run in which a frame of the old epoch follows.
-/

namespace MediaCamera

/-- the stream info of this epoch is among the messages -/
def DescribedIn (epoch : UInt64) (out : List RosMessage) : Prop :=
  ∃ snapshot, .streamInfo snapshot ∈ out ∧ snapshot.epoch = epoch

/-- every frame comes after the stream info of its epoch; newest message first -/
def InfoFirst : List RosMessage → Prop
  | [] => True
  | .frame f :: older => DescribedIn f.epoch older ∧ InfoFirst older
  | .streamInfo _ :: older => InfoFirst older
  | .cameraInfo _ :: older => InfoFirst older

def RosMessage.describes (epoch : UInt64) : RosMessage → Bool
  | .streamInfo snapshot => snapshot.epoch == epoch
  | _ => false

theorem describedIn_iff {epoch : UInt64} {out : List RosMessage} :
    out.any (·.describes epoch) = true ↔ DescribedIn epoch out := by
  rw [List.any_eq_true]
  constructor
  · rintro ⟨m, hm, hd⟩
    cases m with
    | streamInfo snapshot => exact ⟨snapshot, hm, by simpa [RosMessage.describes] using hd⟩
    | cameraInfo calibration => cases hd
    | frame f => cases hd
  · rintro ⟨snapshot, hm, he⟩
    exact ⟨_, hm, by simpa [RosMessage.describes] using he⟩

instance (epoch : UInt64) (out : List RosMessage) : Decidable (DescribedIn epoch out) :=
  decidable_of_iff _ describedIn_iff

instance InfoFirst.decidable : ∀ out, Decidable (InfoFirst out)
  | [] => inferInstanceAs (Decidable True)
  | .frame f :: older =>
    have : Decidable (InfoFirst older) := InfoFirst.decidable older
    inferInstanceAs (Decidable (DescribedIn f.epoch older ∧ InfoFirst older))
  | .streamInfo _ :: older => InfoFirst.decidable older
  | .cameraInfo _ :: older => InfoFirst.decidable older

theorem DescribedIn.cons {epoch : UInt64} {out : List RosMessage} (h : DescribedIn epoch out)
    (m : RosMessage) : DescribedIn epoch (m :: out) := by
  obtain ⟨snapshot, hmem, he⟩ := h
  exact ⟨snapshot, List.mem_cons_of_mem m hmem, he⟩

def RosState.HoldsInfo (s : RosState) : Prop :=
  ∃ snapshot, s.worker = .streamInfo snapshot ∧ snapshot.epoch = s.branch.streamEpoch ∧
    snapshot.generation = s.branch.rosPublisherGeneration

def RosState.holdsInfo (s : RosState) : Bool :=
  match s.worker with
  | .streamInfo snapshot => snapshot.epoch == s.branch.streamEpoch &&
      snapshot.generation == s.branch.rosPublisherGeneration
  | _ => false

theorem RosState.holdsInfo_iff {s : RosState} : s.holdsInfo = true ↔ s.HoldsInfo := by
  unfold RosState.holdsInfo RosState.HoldsInfo
  cases s.worker <;> simp

instance (s : RosState) : Decidable s.HoldsInfo := decidable_of_iff _ RosState.holdsInfo_iff

/-- the stream info of the current epoch is out or on its way -/
def RosState.Armed (s : RosState) : Prop :=
  DescribedIn s.branch.streamEpoch s.out ∨ s.branch.rosStreamInfoPending = true ∨ s.HoldsInfo

/-- no frame can be published without its stream info -/
def RosState.Covered (cfg : RosConfig) (s : RosState) : Prop :=
  cfg.rosPublishingEnabled = false ∨ s.branch.rosPublisherStopping = true ∨ s.Armed

/-- between `BeginROSEpoch` and the end of `OnROSSubscriberConnected` -/
def CallbackPC.begun : CallbackPC → Bool
  | .forceKeyframe | .readDesired | .armFreshRender | .activate => true
  | .idle | .beginEpoch | .discard => false

structure DescribedInv (cfg : RosConfig) (s : RosState) : Prop where
  stopped : s.branch.rosPublisherStopping = true → s.registration = .closed
  out : InfoFirst s.out
  held : ∀ f, s.worker = .frame f → f.generation = s.branch.rosPublisherGeneration →
    DescribedIn f.epoch s.out
  queue : s.branch.rosFrameQueue ≠ [] → cfg.rosPublishingEnabled = true ∧ s.Armed
  enqueuing : ∀ unit, s.enqueuing = some unit → cfg.rosPublishingEnabled = true ∧
    (s.Covered cfg ∨ (s.branch.rosWaitingForIDR = true ∧ unit.keyframe = false))
  active : s.branch.rosConsumersActive = true → s.Covered cfg
  callback : s.callback.begun = true → s.Covered cfg
  discard : s.callback = .discard → s.branch.rosConsumersActive = false

/-- where the generation of the queue changes with the last disconnection, the stream info of the
epoch is not lost to a frame that is still to be queued -/
def KeepsStreamInfo (s : RosState) : RosAction → Prop
  | .callback _ => s.callback = .discard → s.branch.rosPublisherStopping = false → s.HoldsInfo →
    DescribedIn s.branch.streamEpoch s.out ∨ s.branch.rosStreamInfoPending = true ∨
    ∀ unit, s.enqueuing = some unit → s.branch.rosWaitingForIDR = true ∧ unit.keyframe = false
  | _ => True

instance (s : RosState) : ∀ a, Decidable (KeepsStreamInfo s a)
  | .callback _ => inferInstanceAs (Decidable (s.callback = .discard →
      s.branch.rosPublisherStopping = false → s.HoldsInfo →
      DescribedIn s.branch.streamEpoch s.out ∨ s.branch.rosStreamInfoPending = true ∨
      ∀ unit, s.enqueuing = some unit → s.branch.rosWaitingForIDR = true ∧ unit.keyframe = false))
  | .beginEpoch _ | .applyCalibration _ | .describeStream _ _ _ _ | .check _ | .enqueue
  | .connect | .disconnect | .worker | .register _ | .stopPublisher | .closeSubscribers =>
    inferInstanceAs (Decidable True)

section
variable {cfg : RosConfig} {s s' : RosState}

/-! ## what keeps the branch armed -/

theorem RosState.Armed.of_eq (h : s.Armed) (hout : s'.out = s.out) (hworker : s'.worker = s.worker)
    (hepoch : s'.branch.streamEpoch = s.branch.streamEpoch)
    (hgeneration : s'.branch.rosPublisherGeneration = s.branch.rosPublisherGeneration)
    (hpending : s.branch.rosStreamInfoPending = true → s'.branch.rosStreamInfoPending = true) :
    s'.Armed := by
  rcases h with h | h | ⟨snapshot, h⟩
  · exact .inl (by rwa [hout, hepoch])
  · exact .inr (.inl (hpending h))
  · exact .inr (.inr ⟨snapshot, by rwa [hworker, hepoch, hgeneration]⟩)

theorem DescribedInv.keep (h : DescribedInv cfg s)
    (armed : cfg.rosPublishingEnabled = true → s.Armed → s'.Armed)
    (hout : InfoFirst s'.out)
    (hheld : ∀ f, s'.worker = .frame f → f.generation = s'.branch.rosPublisherGeneration →
      DescribedIn f.epoch s'.out)
    (hqueue : s'.branch.rosFrameQueue ≠ [] → s.branch.rosFrameQueue ≠ [])
    (hwaiting : s'.branch.rosWaitingForIDR = s.branch.rosWaitingForIDR)
    (hstopping : s'.branch.rosPublisherStopping = s.branch.rosPublisherStopping)
    (hregistration : s.registration = .closed → s'.registration = .closed)
    (henqueuing : ∀ unit, s'.enqueuing = some unit → s.enqueuing = some unit ∨
      (cfg.rosPublishingEnabled = true ∧ s.branch.rosConsumersActive = true))
    (hactive : s'.branch.rosConsumersActive = true → s.Covered cfg)
    (hcallback : s'.callback.begun = true → s.Covered cfg)
    (hdiscard : s'.callback = .discard → s'.branch.rosConsumersActive = false) :
    DescribedInv cfg s' := by
  have covered : s.Covered cfg → s'.Covered cfg := by
    rintro (he | hstop | ha)
    · exact .inl he
    · exact .inr (.inl (hstopping.trans hstop))
    · by_cases he : cfg.rosPublishingEnabled = true
      · exact .inr (.inr (armed he ha))
      · exact .inl (by simpa using he)
  refine ⟨fun hstop => ?_, hout, hheld, fun hne => ?_, fun unit hunit => ?_, fun ha => ?_,
    fun hc => covered (hcallback hc), hdiscard⟩
  · exact hregistration (h.stopped (hstopping ▸ hstop))
  · obtain ⟨he, ha⟩ := h.queue (hqueue hne)
    exact ⟨he, armed he ha⟩
  · rcases henqueuing unit hunit with hu | ⟨he, ha⟩
    · obtain ⟨he, hc | hw⟩ := h.enqueuing unit hu
      · exact ⟨he, .inl (covered hc)⟩
      · exact ⟨he, .inr (by rwa [hwaiting])⟩
    · exact ⟨he, .inl (covered (h.active ha))⟩
  · exact covered (hactive ha)

theorem DescribedInv.other (h : DescribedInv cfg s) (hout : s'.out = s.out)
    (hworker : s'.worker = s.worker) (hepoch : s'.branch.streamEpoch = s.branch.streamEpoch)
    (hgeneration : s'.branch.rosPublisherGeneration = s.branch.rosPublisherGeneration)
    (hqueue : s'.branch.rosFrameQueue = s.branch.rosFrameQueue)
    (hwaiting : s'.branch.rosWaitingForIDR = s.branch.rosWaitingForIDR)
    (hpending : cfg.rosPublishingEnabled = true →
      s.branch.rosStreamInfoPending = true → s'.branch.rosStreamInfoPending = true)
    (hstopping : s'.branch.rosPublisherStopping = s.branch.rosPublisherStopping)
    (hregistration : s.registration = .closed → s'.registration = .closed)
    (henqueuing : ∀ unit, s'.enqueuing = some unit → s.enqueuing = some unit ∨
      (cfg.rosPublishingEnabled = true ∧ s.branch.rosConsumersActive = true))
    (hactive : s'.branch.rosConsumersActive = true → s.Covered cfg)
    (hcallback : s'.callback.begun = true → s.Covered cfg)
    (hdiscard : s'.callback = .discard → s'.branch.rosConsumersActive = false) :
    DescribedInv cfg s' := by
  refine h.keep (fun he ha => ha.of_eq hout hworker hepoch hgeneration (hpending he)) ?_ ?_
    (by rw [hqueue]; exact id) hwaiting hstopping hregistration henqueuing hactive hcallback hdiscard
  · rw [hout]
    exact h.out
  · rw [hworker, hgeneration, hout]
    exact h.held

theorem DescribedInv.ofArmed (h : DescribedInv cfg s) (armed : s'.Armed) (hout : s'.out = s.out)
    (hstopped : s'.branch.rosPublisherStopping = true → s'.registration = .closed)
    (hheld : ∀ f, s'.worker = .frame f → f.generation = s'.branch.rosPublisherGeneration →
      DescribedIn f.epoch s.out)
    (hqueue : s'.branch.rosFrameQueue ≠ [] → cfg.rosPublishingEnabled = true)
    (henqueuing : ∀ unit, s'.enqueuing = some unit → s.enqueuing = some unit)
    (hdiscard : s'.callback = .discard → s'.branch.rosConsumersActive = false) :
    DescribedInv cfg s' := by
  refine ⟨hstopped, ?_, ?_, fun hne => ⟨hqueue hne, armed⟩, fun unit hunit => ?_,
    fun _ => .inr (.inr armed), fun _ => .inr (.inr armed), hdiscard⟩
  · rw [hout]
    exact h.out
  · rw [hout]
    exact hheld
  · exact ⟨(h.enqueuing unit (henqueuing unit hunit)).1, .inl (.inr (.inr armed))⟩

/-! ## the sections -/

theorem RosInv.held_old (hros : RosInv cfg s) {f : QueuedROSFrame} (hf : s.worker = .frame f) :
    f.generation ≤ s.branch.rosPublisherGeneration :=
  hros.held_generation f (by rw [hf]; exact List.mem_singleton_self f)

theorem DescribedInv.beginEpoch (h : DescribedInv cfg s) (hros : RosInv cfg s) (cause : EpochCause)
    (hbranch : s'.branch = s.branch.beginROSEpoch cfg cause) (hout : s'.out = s.out)
    (hworker : s'.worker = s.worker) (hregistration : s'.registration = s.registration)
    (henqueuing : s'.enqueuing = s.enqueuing)
    (hdiscard : s'.callback = .discard → s.callback = .discard) : DescribedInv cfg s' := by
  by_cases hb : s.branch.beginsROSEpoch cfg = true
  · rw [RosBranch.beginROSEpoch, if_pos hb] at hbranch
    have hen : cfg.rosPublishingEnabled = true := by
      simp only [RosBranch.beginsROSEpoch, Bool.and_eq_true] at hb
      exact hb.1
    refine h.ofArmed (.inr (.inl (by rw [hbranch]; rfl))) hout ?_ ?_ (fun _ => hen)
      (fun unit hu => henqueuing ▸ hu) ?_
    · rw [hbranch, hregistration]
      exact h.stopped
    · rw [hbranch, hworker]
      intro f hf hg
      have := hros.held_old hf
      simp only [RosBranch.advanceROSEpochLocked] at hg
      omega
    · rw [hbranch]
      exact fun hc => h.discard (hdiscard hc)
  · rw [RosBranch.beginROSEpoch, if_neg hb] at hbranch
    have hcov : s.Covered cfg := by
      simp only [RosBranch.beginsROSEpoch, Bool.and_eq_true, not_and, Bool.not_eq_true'] at hb
      by_cases hen : cfg.rosPublishingEnabled = true
      · exact .inr (.inl (by simpa using hb hen))
      · exact .inl (by simpa using hen)
    refine h.other hout hworker ?_ ?_ ?_ ?_ ?_ ?_ ?_ ?_ (fun _ => hcov) (fun _ => hcov) ?_
    all_goals try rw [hbranch]
    · exact fun _ => id
    · exact fun hc => hregistration.trans hc
    · exact fun unit hu => .inl (henqueuing ▸ hu)
    · exact fun hc => h.discard (hdiscard hc)

/-- after an overflow the branch asks for the next stream info -/
theorem overflowed_eq (cfg : RosConfig) (r : RosBranch) (unit : AccessUnit) :
    (r.overflowed cfg unit = r) ∨ ((r.overflowed cfg unit).rosStreamInfoPending = true ∧
      (r.overflowed cfg unit).rosPublisherGeneration = r.rosPublisherGeneration + 1 ∧
      (r.overflowed cfg unit).rosPublisherStopping = r.rosPublisherStopping ∧
      (r.overflowed cfg unit).rosConsumersActive = r.rosConsumersActive) := by
  unfold RosBranch.overflowed
  split
  · exact .inr ⟨rfl, rfl, rfl, rfl⟩
  · exact .inl rfl

theorem DescribedInv.enqueue (h : DescribedInv cfg s) (hros : RosInv cfg s) :
    DescribedInv cfg (s.enqueue cfg) := by
  unfold RosState.enqueue
  split
  · exact h
  case h_2 unit hunit =>
  obtain ⟨hen, hflight⟩ := h.enqueuing unit hunit
  have hdiscard := h.discard
  -- the frames stay as they are, or the branch is armed
  have harmed : ∀ r : RosBranch, (s.branch.enqueueLocked cfg unit).1 = r →
      (r.rosStreamInfoPending = true ∧
        r.rosPublisherGeneration = s.branch.rosPublisherGeneration + 1 ∨
      s.Armed ∧ r.streamEpoch = s.branch.streamEpoch ∧
        r.rosPublisherGeneration = s.branch.rosPublisherGeneration ∧
        r.rosStreamInfoPending = s.branch.rosStreamInfoPending) →
      r.rosPublisherStopping = s.branch.rosPublisherStopping →
      r.rosConsumersActive = s.branch.rosConsumersActive →
      DescribedInv cfg { s with branch := (s.branch.enqueueLocked cfg unit).1, enqueuing := none } := by
    intro r e hr hstop hactive
    refine h.ofArmed ?_ rfl ?_ ?_ (fun _ => hen) (fun _ hu => by cases hu) ?_ <;> simp only [e]
    · rcases hr with ⟨hp, -⟩ | ⟨ha, hepoch, hgen, hp⟩
      · exact .inr (.inl hp)
      · exact ha.of_eq rfl rfl hepoch hgen hp.trans
    · rw [hstop]
      exact h.stopped
    · intro f hf hg
      rcases hr with ⟨-, hgen⟩ | ⟨-, -, hgen, -⟩
      · have := hros.held_old hf
        omega
      · exact h.held f hf (hg.trans hgen)
    · rw [hactive]
      exact hdiscard
  rcases enqueueLocked_cases cfg s.branch unit with
    ⟨hstop, e⟩ | ⟨_, hfull, _, e⟩ | ⟨_, _, _, _, e⟩ | ⟨hrun, hkey, e⟩
  · refine h.other rfl rfl ?_ ?_ ?_ ?_ ?_ ?_ id (fun _ hu => by cases hu) ?_ h.callback ?_
    all_goals simp only [e]
    · exact fun _ => id
    · exact fun _ => .inr (.inl hstop)
    · exact hdiscard
  · refine harmed _ e (.inl ?_) ?_ ?_ <;>
      rw [RosBranch.overflowed, if_pos (show _ ≤ s.branch.examined.rosFrameQueue.length from hfull)]
    · exact ⟨rfl, rfl⟩
    · rfl
    · rfl
  · refine h.other rfl rfl ?_ ?_ ?_ ?_ ?_ ?_ id (fun _ hu => by cases hu) ?_ h.callback ?_
    all_goals simp only [e]
    · rfl
    · rfl
    · rfl
    · rfl
    · exact fun _ => id
    · rfl
    · exact h.active
    · exact hdiscard
  · rcases overflowed_eq cfg s.branch.examined unit with heq | ⟨hp, hgen, hstop, hact⟩
    · refine harmed _ e (.inr ?_) ?_ ?_
      · rw [heq] at hkey ⊢
        refine ⟨?_, rfl, rfl, rfl⟩
        rcases hflight with (hdis | hstop | ha) | ⟨hw, hk⟩
        · rw [hen] at hdis
          cases hdis
        · rw [hrun] at hstop
          cases hstop
        · exact ha
        · rw [hkey hw] at hk
          cases hk
      · rw [heq]
        rfl
      · rw [heq]
        rfl
    · exact harmed _ e (.inl ⟨hp, hgen⟩) hstop hact

/-- the last disconnection: only a stream info that the worker holds is lost -/
theorem DescribedInv.discardQueue (h : DescribedInv cfg s) (hros : RosInv cfg s)
    (hc : s.callback = .discard)
    (hkeeps : s.branch.rosPublisherStopping = false → s.HoldsInfo →
      DescribedIn s.branch.streamEpoch s.out ∨ s.branch.rosStreamInfoPending = true ∨
      ∀ unit, s.enqueuing = some unit → s.branch.rosWaitingForIDR = true ∧ unit.keyframe = false) :
    DescribedInv cfg { s with branch := s.branch.discardQueue, callback := .idle } := by
  have hinactive := h.discard hc
  unfold RosBranch.discardQueue
  split
  next hstop =>
    exact h.other rfl rfl rfl rfl rfl rfl (fun _ => id) rfl id (fun _ => .inl) h.active nofun nofun
  next hstop =>
    refine ⟨fun hs => h.stopped hs, h.out, fun f hf hg => ?_, fun hne => absurd rfl hne,
      fun unit hunit => ?_, fun ha => ?_, nofun, nofun⟩
    · have := hros.held_old hf
      have hg' : f.generation = s.branch.rosPublisherGeneration + 1 := hg
      omega
    · obtain ⟨hen, (hdis | hs | ha) | hw⟩ := h.enqueuing unit hunit
      · exact ⟨hen, .inl (.inl hdis)⟩
      · exact absurd hs hstop
      · have hrest : DescribedIn s.branch.streamEpoch s.out ∨ s.branch.rosStreamInfoPending = true ∨
            (s.branch.rosWaitingForIDR = true ∧ unit.keyframe = false) := by
          rcases ha with hd | hp | hh
          · exact .inl hd
          · exact .inr (.inl hp)
          · rcases hkeeps (Bool.eq_false_of_not_eq_true hstop) hh with hd | hp | hw
            · exact .inl hd
            · exact .inr (.inl hp)
            · exact .inr (.inr (hw unit hunit))
        rcases hrest with hd | hp | hw
        · exact ⟨hen, .inl (.inr (.inr (.inl hd)))⟩
        · exact ⟨hen, .inl (.inr (.inr (.inr (.inl hp))))⟩
        · exact ⟨hen, .inr hw⟩
      · exact ⟨hen, .inr hw⟩
    · have ha' : s.branch.rosConsumersActive = true := ha
      rw [hinactive] at ha'
      cases ha'

/-! ## the worker -/

theorem RosState.Armed.of_not_held (h : s.Armed) (hw : ∀ snapshot, s.worker ≠ .streamInfo snapshot) :
    DescribedIn s.branch.streamEpoch s.out ∨ s.branch.rosStreamInfoPending = true := by
  rcases h with h | h | ⟨snapshot, hs, -⟩
  · exact .inl h
  · exact .inr h
  · exact absurd hs (hw snapshot)

theorem DescribedInv.work (h : DescribedInv cfg s) (armed : s.Armed → s'.Armed)
    (hout : InfoFirst s'.out)
    (hheld : ∀ f, s'.worker = .frame f → f.generation = s'.branch.rosPublisherGeneration →
      DescribedIn f.epoch s'.out)
    (hqueue : s'.branch.rosFrameQueue ≠ [] → s.branch.rosFrameQueue ≠ [])
    (hwaiting : s'.branch.rosWaitingForIDR = s.branch.rosWaitingForIDR)
    (hstopping : s'.branch.rosPublisherStopping = s.branch.rosPublisherStopping)
    (hactive : s'.branch.rosConsumersActive = s.branch.rosConsumersActive)
    (hregistration : s.registration = .closed → s'.registration = .closed)
    (henqueuing : s'.enqueuing = s.enqueuing) (hcallback : s'.callback = s.callback) : DescribedInv cfg s' := by
  refine h.keep (fun _ => armed) hout hheld hqueue hwaiting hstopping hregistration
    (fun unit hu => .inl (henqueuing ▸ hu)) ?_ ?_ ?_
  · rw [hactive]
    exact h.active
  · rw [hcallback]
    exact h.callback
  · rw [hcallback, hactive]
    exact h.discard

theorem DescribedInv.popWork (h : DescribedInv cfg s) (hros : RosInv cfg s)
    (hw : s.worker = .waiting) : DescribedInv cfg s.popWork := by
  have hrest : s.Armed → DescribedIn s.branch.streamEpoch s.out ∨
      s.branch.rosStreamInfoPending = true := fun ha => ha.of_not_held (by simp [hw])
  unfold RosState.popWork
  split
  · refine h.work (fun ha => ?_) h.out nofun id rfl rfl rfl id rfl rfl
    exact (hrest ha).imp id .inl
  split
  · refine h.work (fun ha => ?_) h.out nofun id rfl rfl rfl id rfl rfl
    exact (hrest ha).imp id .inl
  split
  · exact h.work (fun _ => .inr (.inr ⟨_, rfl, rfl, rfl⟩)) h.out nofun id rfl rfl rfl id rfl rfl
  next hpending =>
  split
  · exact h
  next frame rest hq =>
    have hne : s.branch.rosFrameQueue ≠ [] := by simp [hq]
    have hdesc : DescribedIn s.branch.streamEpoch s.out :=
      (hrest (h.queue hne).2).resolve_right hpending
    refine h.work (fun _ => .inl hdesc) h.out ?_ (fun _ => hne) rfl rfl rfl id rfl rfl
    rintro f hf -
    cases hf
    have hcur := (hros.branch.queue_current frame (by rw [hq]; exact List.mem_cons_self)).1
    rw [hcur]
    exact hdesc

theorem DescribedInv.stepWorker (h : DescribedInv cfg s) (hros : RosInv cfg s) :
    DescribedInv cfg s.stepWorker := by
  unfold RosState.stepWorker
  split
  · exact h
  · exact h.popWork hros ‹_›
  case h_3 calibration hw =>
    refine h.work (fun ha => ?_) h.out nofun id rfl rfl rfl id rfl rfl
    rcases ha.of_not_held (by simp [hw]) with hd | hp
    · exact .inl (hd.cons _)
    · exact .inr (.inl hp)
  case h_4 snapshot hw =>
    unfold RosState.publishStreamInfo
    split
    next hgen =>
      refine h.work (fun ha => ?_) h.out nofun id rfl rfl rfl id rfl rfl
      rcases ha with hd | hp | ⟨snapshot', hs, hepoch, -⟩
      · exact .inl (hd.cons _)
      · exact .inr (.inl hp)
      · rw [hw] at hs
        cases hs
        exact .inl ⟨snapshot, List.mem_cons_self, hepoch⟩
    next hgen =>
      refine h.work (fun ha => ?_) h.out nofun id rfl rfl rfl id rfl rfl
      rcases ha with hd | hp | ⟨snapshot', hs, -, hg⟩
      · exact .inl hd
      · exact .inr (.inl hp)
      · rw [hw] at hs
        cases hs
        exact absurd hg hgen
  case h_5 frame hw =>
    unfold RosState.publishROSFrame
    split
    next hgen =>
      refine h.work (fun ha => ?_) ⟨h.held frame hw hgen, h.out⟩ nofun id rfl rfl rfl id rfl rfl
      rcases ha.of_not_held (by simp [hw]) with hd | hp
      · exact .inl (hd.cons _)
      · exact .inr (.inl hp)
    next hgen =>
      refine h.work (fun ha => ?_) h.out nofun id rfl rfl rfl id rfl rfl
      rcases ha.of_not_held (by simp [hw]) with hd | hp
      · exact .inl hd
      · exact .inr (.inl hp)

/-! ## the other threads -/

theorem DescribedInv.stepCallback (h : DescribedInv cfg s) (hros : RosInv cfg s)
    (desiredActive : Bool) (hkeeps : KeepsStreamInfo s (.callback desiredActive)) :
    DescribedInv cfg (s.stepCallback cfg desiredActive) := by
  have hbegun : ∀ pc, s.callback = pc → pc.begun = true → s.Covered cfg :=
    fun pc hpc hb => h.callback (hpc ▸ hb)
  unfold RosState.stepCallback
  split
  · exact h
  case h_2 hc =>
    refine h.beginEpoch hros .streamStart rfl rfl rfl rfl rfl ?_
    split <;> nofun
  case h_3 hc =>
    have hcov := hbegun _ hc rfl
    exact h.other rfl rfl rfl rfl rfl rfl (fun _ => id) rfl id (fun _ => .inl) h.active
      (fun _ => hcov) nofun
  case h_4 hc =>
    have hcov := hbegun _ hc rfl
    refine h.other rfl rfl rfl rfl rfl rfl (fun _ => id) rfl id (fun _ => .inl) h.active
      (fun _ => hcov) ?_
    cases desiredActive <;> nofun
  case h_5 hc =>
    have hcov := hbegun _ hc rfl
    exact h.other rfl rfl rfl rfl rfl rfl (fun _ => id) rfl id (fun _ => .inl) h.active
      (fun _ => hcov) nofun
  case h_6 hc =>
    have hcov := hbegun _ hc rfl
    unfold RosBranch.activateConsumers
    split
    · exact h.other rfl rfl rfl rfl rfl rfl (fun _ => id) rfl id (fun _ => .inl) (fun _ => hcov)
        nofun nofun
    · exact h.other rfl rfl rfl rfl rfl rfl (fun _ => id) rfl id (fun _ => .inl) h.active
        nofun nofun
  case h_7 hc => exact h.discardQueue hros hc (hkeeps hc)

theorem DescribedInv.stepRegistration (h : DescribedInv cfg s) (succeeds : Bool)
    (hstarted : s.WorkerStarted) : DescribedInv cfg (s.stepRegistration succeeds) := by
  have hrun : s.registration ≠ .closed → s.branch.rosPublisherStopping = false := by
    intro hr
    by_contra hs
    exact hr (h.stopped (by simpa using hs))
  have failed : s.registration ≠ .closed → DescribedInv cfg s.registrationFailed := fun hr =>
    h.other rfl rfl rfl rfl rfl rfl (fun _ => id) rfl (fun hc => absurd hc hr) (fun _ => .inl)
      nofun h.callback (fun _ => rfl)
  unfold RosState.stepRegistration
  split
  case h_1 hr =>
    split
    · refine h.other rfl rfl rfl rfl rfl rfl (fun _ => id) ?_ (by simp [hr]) (fun _ => .inl)
        h.active h.callback h.discard
      exact (hrun (by simp [hr])).symm
    · exact failed (by simp [hr])
  case h_2 hr =>
    split
    · exact h.other rfl rfl rfl rfl rfl rfl (fun _ => id) rfl (by simp [hr]) (fun _ => .inl)
        h.active h.callback h.discard
    · exact failed (by simp [hr])
  case h_3 hr =>
    split
    · exact h.other rfl rfl rfl rfl rfl rfl (fun _ _ => rfl) rfl (by simp [hr]) (fun _ => .inl)
        h.active h.callback h.discard
    · exact failed (by simp [hr])
  case h_4 hr =>
    split
    · have hw : s.worker = .stopped := by
        rcases hstarted with h1 | h1 | h1
        · rw [hr] at h1
          cases h1
        · rw [hr] at h1
          cases h1
        · exact h1
      refine h.work (fun ha => ?_) h.out nofun id rfl rfl rfl (by simp [hr]) rfl rfl
      rcases ha.of_not_held (by simp [hw]) with hd | hp
      · exact .inl hd
      · exact .inr (.inl hp)
    · exact failed (by simp [hr])
  · exact h
  · exact h

theorem DescribedInv.step (h : DescribedInv cfg s) (hros : RosInv cfg s)
    (hstarted : s.WorkerStarted) {a : RosAction} (hkeeps : KeepsStreamInfo s a) :
    DescribedInv cfg (rosStep cfg s a) := by
  cases a with
  | beginEpoch cause => exact h.beginEpoch hros cause rfl rfl rfl rfl rfl id
  | applyCalibration calibration =>
    exact h.other rfl rfl rfl rfl rfl rfl (fun _ => id) rfl id (fun _ => .inl) h.active h.callback
      h.discard
  | describeStream width height fps gopLength =>
    exact h.other rfl rfl rfl rfl rfl rfl (fun hen _ => hen) rfl id (fun _ => .inl) h.active
      h.callback h.discard
  | check unit =>
    show DescribedInv cfg (s.check cfg unit)
    unfold RosState.check
    split
    next hc =>
      obtain ⟨⟨hen, hact⟩, -⟩ : (cfg.rosPublishingEnabled = true ∧ s.branch.rosConsumersActive = true) ∧
          _ := by simpa [RosBranch.accepts] using hc.2
      exact h.other rfl rfl rfl rfl rfl rfl (fun _ => id) rfl id (fun _ _ => .inr ⟨hen, hact⟩)
        h.active h.callback h.discard
    · exact h
  | enqueue => exact h.enqueue hros
  | connect =>
    show DescribedInv cfg s.connect
    unfold RosState.connect
    split
    · refine h.other rfl rfl rfl rfl rfl rfl (fun _ => id) rfl id (fun _ => .inl) h.active ?_ ?_
      all_goals
        split <;> nofun
    · exact h
  | disconnect =>
    show DescribedInv cfg s.disconnect
    unfold RosState.disconnect
    split
    · refine h.other rfl rfl rfl rfl rfl rfl (fun _ => id) rfl id (fun _ => .inl) ?_ ?_ ?_
      · intro ha
        simp only [RosBranch.disconnected] at ha
        split at ha
        · cases ha
        · exact h.active ha
      · split <;> nofun
      · simp only [RosBranch.disconnected]
        split
        · exact fun _ => rfl
        · nofun
    · exact h
  | callback desiredActive => exact h.stepCallback hros desiredActive hkeeps
  | worker => exact h.stepWorker hros
  | register succeeds =>
    show DescribedInv cfg (if cfg.rosPublishingEnabled then s.stepRegistration succeeds else s)
    split
    · exact h.stepRegistration succeeds hstarted
    · exact h
  | stopPublisher =>
    have hcov : ∀ s' : RosState, s'.branch.rosPublisherStopping = true → s'.Covered cfg :=
      fun _ hs => .inr (.inl hs)
    refine ⟨fun _ => rfl, h.out, fun f hf hg => ?_, fun hne => absurd rfl hne,
      fun unit hu => ⟨(h.enqueuing unit hu).1, .inl (hcov _ rfl)⟩, fun _ => hcov _ rfl,
      fun _ => hcov _ rfl, h.discard⟩
    have := hros.held_old hf
    have hg' : f.generation = s.branch.rosPublisherGeneration + 1 := hg
    omega
  | closeSubscribers =>
    exact h.other rfl rfl rfl rfl rfl rfl (fun _ => id) rfl id (fun _ => .inl) nofun h.callback
      (fun _ => rfl)

theorem DescribedInv.load (branch : RosBranch) (hqueue : branch.rosFrameQueue = [])
    (hrun : branch.rosPublisherStopping = false) (hactive : branch.rosConsumersActive = false) :
    DescribedInv cfg (.load branch) := by
  refine ⟨fun hs => ?_, trivial, nofun, fun hne => absurd hqueue hne, nofun, fun ha => ?_, nofun,
    nofun⟩
  · have hs' : branch.rosPublisherStopping = true := hs
    rw [hrun] at hs'
    cases hs'
  · have ha' : branch.rosConsumersActive = true := ha
    rw [hactive] at ha'
    cases ha'

end

/-- **The stream info of an epoch precedes its frames**, in every run that keeps it. -/
theorem stream_info_first {cfg : RosConfig} {s : RosState}
    (h : (rosMachine cfg).ReachableUnder KeepsStreamInfo s) : InfoFirst s.out := by
  have hinv : DescribedInv cfg s := h.invariant
    (fun _ ⟨_, _, _, _, _, _, _, _, hs⟩ => hs ▸ DescribedInv.load _ rfl rfl rfl)
    (fun _ _ hs hkeeps hinv => hinv.step (rosInv_reachable hs.reachable)
      (workerStarted_reachable hs.reachable) hkeeps)
  exact hinv.out

/-- a subscriber gets two frames and leaves -/
def RosAction.session : List RosAction :=
  RosAction.activation ++ List.replicate 4 .worker ++ RosAction.offer true 1 ++
    RosAction.offer false 2 ++ List.replicate 4 .worker ++ [.disconnect, .callback false]

theorem RosAction.session_keeps :
    (rosMachine (.load true 8)).Along KeepsStreamInfo .sample RosAction.session := by
  decide +kernel

theorem stream_info_first_sample :
    InfoFirst ((rosMachine (.load true 8)).run .sample RosAction.session).out :=
  stream_info_first ((RosState.sample_reachable _).run _ RosAction.session_keeps)

/-- the worker has the stream info of the first epoch in its hands, an IDR is on its way to the
queue, and the subscriber leaves -/
def RosAction.overtaken : List RosAction :=
  RosAction.activation ++ [.worker, .worker, .worker, .check (.sample true 1), .disconnect,
    .callback false, .worker, .enqueue, .worker, .worker]

/-- the IDR is published, and no stream info was -/
theorem stream_info_overtaken : ¬ ∀ (cfg : RosConfig) (s : RosState),
    (rosMachine cfg).Reachable s → InfoFirst s.out := by
  intro h
  have hout := h (.load true 8) _
    (Machine.Reachable.run (RosState.sample_reachable _) RosAction.overtaken)
  revert hout
  decide +kernel

end MediaCamera
