import MediaCamera.Plugin.Transport

/-!
# Frames and their metadata

The render thread's code keeps `Transport.Inv`, whatever the other threads do.

* `Aside`                 a step that changes nothing of what the transport clock is about;
* `transportContract`     the other threads leave the encoder alone;
* `..._account`           one lemma for each function that submits, takes, counts or resets;
* `frames_paired`         in every run in which NVENC echoes in order, the pending timestamps are
                          distinct and few, and the units that `SendH264AccessUnit` gets are paired
                          with their renders, under rising timestamps.
-/

namespace MediaCamera

open Contract

/-! ## steps aside -/

def Label.transports : Label → Bool
  | .observeSourceTime _ | .takeOutput _ | .sendUnit _ _ => true
  | _ => false

def Aside (l : Label) (s s' : State) : Prop := l.transports = false ∧ s'.enc.core = s.enc.core

theorem Aside.note {l : Label} {s s' : State} (hs : Aside l s s') (cfg : PluginConfig)
    (h : Transport) : h.note cfg ⟨l, s, s'⟩ = h := by
  obtain ⟨hplain, hcore⟩ := hs
  have hsession : s'.enc.core.session = s.enc.core.session := congrArg Encoder.session hcore
  have hsequence : s'.enc.core.sourceFrameSequence = s.enc.core.sourceFrameSequence :=
    congrArg Encoder.sourceFrameSequence hcore
  cases l with
  | observeSourceTime _ => cases hplain
  | takeOutput _ => cases hplain
  | sendUnit _ _ => cases hplain
  | _ => exact (if_neg (not_not.mpr hsession)).trans (if_neg (not_not.mpr hsequence))

abbrev Asides {α : Type} (p : Thread α) : Prop := p.Within Aside

theorem RenderRest.aside {l : Label} {s s' : State} (hs : RenderRest l s s') : Aside l s s' := by
  refine ⟨?_, by rw [hs.same.2.1]⟩
  cases hs with
  | capture h => cases h <;> rfl
  | _ => rfl

theorem Restful.asides {α : Type} {p : Thread α} (h : Restful p) : Asides p :=
  h.mono fun _ _ _ hs => hs.aside

theorem Reading.asides {α : Type} {p : Thread α} (h : Reading p) : Asides p := h.restful.asides

theorem aside_access {α : Type} {f : State → State × α}
    (h : ∀ s, (f s).1.enc.core = s.enc.core) : Asides (access f) := .atomic fun s => ⟨rfl, h s⟩

theorem aside_read {α : Type} (f : State → α) : Asides (read f) := aside_access fun _ => rfl

theorem aside_write {f : State → State} (h : ∀ s, (f s).enc.core = s.enc.core) :
    Asides (write f) := aside_access h

theorem completeNativeControl_aside (command : NativeControlCommand) (time : Int) :
    Asides (completeNativeControl command time) := by
  have hlast : Asides (do
      storeNativeAppliedTime time
      write (·.acknowledge command.revision)) :=
    .bind (aside_write fun _ => rfl) fun _ => aside_write fun _ => rfl
  have hstop : Asides (do
      if command.kind = .stop then
        storeNativeAppliedActive false
        storeNativeLifecycleState .idle
      storeNativeAppliedTime time
      write (·.acknowledge command.revision)) :=
    .ite (.bind (aside_write fun _ => rfl) fun _ => .bind (aside_write fun _ => rfl) fun _ => hlast)
      hlast
  exact .ite (.bind (aside_write fun _ => rfl) fun _ => .bind (aside_write fun _ => rfl)
    fun _ => hstop) hstop

theorem completeNativeStopIfDrained_aside (time : Int) :
    Asides (completeNativeStopIfDrained time) := by
  refine .bind (aside_read _) fun awaiting => ?_
  cases awaiting with
  | none => exact .ret _
  | some command =>
    have hdrained : Asides drained :=
      .bind (aside_read _) fun _ => .ite (.ret _) (.bind (aside_access fun _ => rfl)
        fun _ => .ite (.ret _) (aside_read _))
    refine .ite (.bind hdrained fun _ => .ite ?_ (.ret _)) (.ret _)
    exact .bind releaseSensor_restful.asides fun _ => .bind storeSensorActive_restful.asides
      fun _ => completeNativeControl_aside command time

theorem applyNativeControl_enc (cfg : PluginConfig) (input : PostRenderInput) (s : State) :
    (s.applyNativeControl cfg input).enc = s.enc := by
  unfold State.applyNativeControl
  split
  · rfl
  · split
    · rfl
    · split
      · rfl
      · split <;> rfl

theorem onPostRender_aside (cfg : PluginConfig) (input : PostRenderInput) :
    Asides (onPostRender cfg input) := by
  refine .bind (aside_write fun s => by rw [applyNativeControl_enc]) fun _ => ?_
  refine .bind (completeNativeStopIfDrained_aside _) fun _ => ?_
  refine .bind storeSensorActive_restful.asides fun _ => ?_
  refine .bind wantsEncode_reading.asides fun shouldEncode => ?_
  refine .bind (aside_access fun _ => rfl) fun camera => .ite ?_ ?_
  · exact .bind (wantsRender_reading _).asides fun _ =>
      .ite (setSensorActive_restful true).asides (.ret _)
  · exact .bind (aside_access fun _ => rfl) fun _ =>
      .ite (driveSensor_restful shouldEncode).asides (.ret _)

theorem beginROSEpoch_aside (cfg : PluginConfig) (cause : EpochCause) :
    Asides (beginROSEpoch cfg cause) :=
  .bind (.atomic fun _ => ⟨rfl, rfl⟩) fun _ => .ite storeForceKeyframe_restful.asides (.ret _)

theorem encoderFailure_aside : Asides encoderFailure :=
  .bind (aside_write fun _ => rfl) fun _ => .ret _

theorem completeSnapshotFailure_aside (work : Nat) (error : String) :
    Asides (completeSnapshotFailure work error) := .atomic fun _ => ⟨rfl, rfl⟩

theorem queueSnapshotEncode_aside (result : SnapshotResult) :
    Asides (queueSnapshotEncode result) :=
  .bind (aside_access fun _ => rfl) fun _ => .ite (completeSnapshotFailure_aside _ _) (.ret _)

theorem pollSnapshotPBOReadback_aside (poll : PboPoll) :
    Asides (pollSnapshotPBOReadback poll) := by
  refine .bind (.atomic fun _ => ⟨rfl, rfl⟩) fun running => ?_
  cases running with
  | none => exact aside_write fun _ => rfl
  | some result =>
    cases poll with
    | timeout => exact .ret _
    | failed reason =>
      exact .bind (aside_write fun _ => rfl) fun _ => .bind (aside_write fun _ => rfl)
        fun _ => aside_write fun _ => rfl
    | copied rgb => exact .bind (aside_write fun _ => rfl) fun _ => queueSnapshotEncode_aside _

theorem captureSnapshotSynchronously_aside (result : SnapshotResult)
    (readback : Except String (List UInt8)) :
    Asides (captureSnapshotSynchronously result readback) := by
  cases readback with
  | error message => exact completeSnapshotFailure_aside _ _
  | ok rgb =>
    exact .bind (aside_access fun _ => rfl) fun _ => .ite (queueSnapshotEncode_aside _) (.ret _)

theorem readBackSnapshot_aside (result : SnapshotResult) (input : CaptureInput) :
    Asides (readBackSnapshot result input) := by
  refine .bind (aside_read _) fun available => ?_
  have hfallback : Asides (do
      let reason ← read (·.snap.snapshotPBOFailureReason)
      captureSnapshotSynchronously { result with jpegFallbackReason := reason }
        input.synchronous) :=
    .bind (aside_read _) fun _ => captureSnapshotSynchronously_aside _ _
  cases available with
  | false => exact hfallback
  | true =>
    cases hissue : input.issue with
    | issued =>
      exact .bind (.atomic fun _ => ⟨rfl, rfl⟩) fun _ => .ite (aside_write fun _ => rfl) (.ret _)
    | unavailable reason =>
      exact .bind (.atomic fun _ => ⟨rfl, rfl⟩) fun _ => captureSnapshotSynchronously_aside _ _

theorem captureSnapshot_aside (input : CaptureInput) : Asides (captureSnapshot input) := by
  refine .bind (aside_read _) fun _ => .ite (pollSnapshotPBOReadback_aside _) ?_
  refine .bind (aside_access fun _ => rfl) fun frame => ?_
  cases frame with
  | none => exact .ret _
  | some result =>
    refine .ite (completeSnapshotFailure_aside _ _) (.ite (completeSnapshotFailure_aside _ _) ?_)
    exact .bind (aside_read _) fun _ => .bind (aside_read _) fun _ => readBackSnapshot_aside _ _

theorem acknowledgeKeyframe_aside (metadata : PendingEncodedFrame) (time : Int) :
    Asides (acknowledgeKeyframe metadata time) := by
  have hcapture : Asides (do
      if metadata.captureKeyframeGeneration ≠ 0 then
        if (← read (·.cap.pending)) = metadata.captureKeyframeGeneration then
          write (fun s => { s with cap.pending := 0 })
          write (fun s => { s with cap.applied := metadata.captureKeyframeGeneration })) :=
    .ite (.bind (aside_read _) fun _ => .ite (.bind (aside_write fun _ => rfl)
      fun _ => aside_write fun _ => rfl) (.ret _)) (.ret _)
  refine .bind (aside_read _) fun awaiting => ?_
  cases awaiting with
  | none => exact hcapture
  | some command =>
    exact .ite (.bind (completeNativeControl_aside command time) fun _ => hcapture) hcapture

theorem enqueueROSAccessUnit_aside (cfg : PluginConfig) (unit : AccessUnit) :
    Asides (enqueueROSAccessUnit cfg unit) :=
  .bind (.atomic fun _ => ⟨rfl, rfl⟩) fun _ => .ite (.atomic fun _ => ⟨rfl, rfl⟩) (.ret _)

/-! ## the render thread -/

/-- an assertion about the encoder and the account -/
def On (P : Encoder → Transport → Prop) (s : State × Transport) : Prop := P s.1.enc.core s.2

def transportContract : Contract (On Transport.Inv) EchoesNext where
  rely s s' := s'.1.enc.core = s.1.enc.core ∧ s'.2 = s.2
  guar _ _ _ := True
  rely_refl _ := ⟨rfl, rfl⟩
  rely_trans h h' := ⟨h'.1.trans h.1, h'.2.trans h.2⟩

namespace Transport

theorem stable_on (P : Encoder → Transport → Prop) : transportContract.Stable (On P) := by
  intro s s' hr _ hP
  unfold On
  rw [hr.1, hr.2]
  exact hP

section
variable {cfg : PluginConfig} {R : Int → Prop} {α : Type} {P : Encoder → Transport → Prop}

abbrev Accounts (cfg : PluginConfig) (P : Encoder → Transport → Prop) (p : Thread α)
    (Q : α → Encoder → Transport → Prop) : Prop :=
  transportContract.Account (note cfg) (On P) p fun a => On (Q a)

theorem aside_account {p : Thread α} (hp : Asides p) : Accounts cfg P p fun _ => P := by
  have hkeep : ∀ (Q : Encoder → Transport → Prop) l s s' h, Aside l s s' → On Q (s, h) →
      On Q (s', h) := by
    intro Q l s s' h hs hQ
    unfold On
    rw [hs.2]
    exact hQ
  exact .frame hp (fun l s s' h hs => hs.note cfg h) (hkeep Inv) (fun _ _ _ _ _ => trivial)
    (stable_on P) (hkeep P)

theorem step_account {Q : α → Encoder → Transport → Prop} {l : Label} {f : State → State × α}
    (h : ∀ s t, Inv s.enc.core t → P s.enc.core t → EchoesNext l (s, t) →
      Inv (f s).1.enc.core (t.note cfg ⟨l, s, (f s).1⟩) ∧
        Q (f s).2 (f s).1.enc.core (t.note cfg ⟨l, s, (f s).1⟩)) :
    Accounts cfg P (Prog.atomic l f) Q :=
  .atomic (stable_on P) (fun a => stable_on (Q a)) fun s t hI hP hC =>
    ⟨(h s t hI hP hC).1, trivial, (h s t hI hP hC).2⟩

theorem read_account {f : State → α} {v : Encoder → α} (hf : ∀ s, f s = v s.enc.core) :
    Accounts cfg P (read f) fun a e t => P e t ∧ v e = a := by
  refine step_account fun s t hI hP _ => ?_
  have hnote : t.note cfg ⟨.step, s, s⟩ = t := Aside.note ⟨rfl, rfl⟩ cfg t
  show Inv s.enc.core (t.note cfg ⟨.step, s, s⟩) ∧ _
  rw [hnote]
  exact ⟨hI, hP, (hf s).symm⟩

theorem ret_account {a : α} {Q : α → Encoder → Transport → Prop} (h : ∀ e t, P e t → Q a e t) :
    Accounts cfg P (pure a) Q := .ret (stable_on P) fun _ _ hP => h _ _ hP

/-! ## the encoder -/

theorem destroyEncoder_account :
    Accounts cfg (Behind cfg R) destroyEncoder fun _ e t => Between cfg R e t ∧ e.session = none := by
  refine step_account fun s t hI hP _ => ?_
  have hnote : t.note cfg ⟨.step, s, s.destroyEncoder⟩ = { t with nvenc := [] } := by
    unfold Transport.note
    by_cases hnone : s.enc.session = none
    · have hheld : t.nvenc = [] := hI.dead hnone
      simp [State.destroyEncoder, Encoder.destroy, hnone, ← hheld]
    · have hne : (none : Option EncoderSession) ≠ s.enc.session := fun h => hnone h.symm
      simp [State.destroyEncoder, Encoder.destroy, hne]
  obtain ⟨hdropped, hbetween⟩ := hI.drop hP
  show Inv s.destroyEncoder.enc.core _ ∧ Between cfg R s.destroyEncoder.enc.core _ ∧ _
  rw [hnote]
  exact ⟨hdropped, hbetween, rfl⟩

theorem observeSourceTime_account (time : Int) :
    Accounts cfg (Between cfg fun _ => True) (observeSourceTime cfg time)
      fun _ => Between cfg (· = time) := by
  have hobserve : Accounts cfg (Between cfg fun _ => True)
      (Prog.atomic (.observeSourceTime time) fun s =>
        ({ s with enc := s.enc.observe time }, s.enc.timeWentBack time))
      fun _ => Between cfg (· = time) := by
    refine step_account fun s t hI hP _ => ?_
    have hcore : (s.enc.observe time).core = s.enc.core := by
      unfold Encoder.observe
      split <;> rfl
    show Inv (s.enc.observe time).core _ ∧ Between cfg (· = time) (s.enc.observe time).core _
    rw [hcore]
    exact ⟨⟨hI.queue, hI.live, hI.dead, hI.own, hI.rising, hI.behind, hI.sorted, hI.paired, hI.once,
      hI.past⟩, hP.sent, hP.submitted, hP.few, rfl⟩
  refine .bind hobserve fun back => .ite (fun _ => ?_) fun _ => ret_account fun _ _ h => h
  refine .bind (aside_account clearRTPQueue_restful.asides) fun _ => ?_
  refine .bind (aside_account (beginROSEpoch_aside _ _)) fun _ => ?_
  refine .bind (aside_account storeForceKeyframe_restful.asides) fun _ => ?_
  refine .bind (destroyEncoder_account.pre fun s h => Between.behind h) fun _ => ?_
  exact (aside_account (P := fun e t => Between cfg (· = time) e t ∧ e.session = none)
    (aside_write fun _ => rfl)).post fun _ _ h => h.1

theorem create_account (width height : Nat) (time : Int) :
    Accounts cfg (fun e t => Between cfg R e t ∧ e.session = none)
      (write fun s => { s with
        enc.session := some ⟨width, height, s.enc.sessions + 1, time⟩
        enc.sessions := s.enc.sessions + 1
        enc.pendingEncodedFrames := [] })
      fun _ e t => Between cfg R e t ∧ e.session ≠ none := by
  refine step_account fun s t hI hP _ => ?_
  have hnone : s.enc.session = none := hP.2
  have hnote : t.note cfg ⟨.step, s, { s with
      enc.session := some ⟨width, height, s.enc.sessions + 1, time⟩
      enc.sessions := s.enc.sessions + 1
      enc.pendingEncodedFrames := [] }⟩ = { t with nvenc := [] } := by
    unfold Transport.note
    simp [hnone]
  have hindex : (EncoderSession.mk width height (s.enc.sessions + 1) time).index =
      s.enc.core.sessions + 1 := rfl
  obtain ⟨hcreated, hbetween⟩ := hI.create hP.1 hindex
  rw [hnote]
  exact ⟨hcreated, hbetween, nofun⟩

theorem ensureEncoder_account (width height : Nat) (time : Int) (available : Bool) :
    Accounts cfg (Between cfg R) (ensureEncoder cfg width height time available)
      fun ready e t => Between cfg R e t ∧ (ready = true → e.session ≠ none) := by
  have hlook : Accounts cfg (Between cfg R) (read (·.enc.ready width height))
      fun ready e t => Between cfg R e t ∧ e.ready width height = ready :=
    read_account (v := fun e => e.ready width height) fun _ => rfl
  refine .bind hlook fun ready => .ite (fun hready => ?_) fun _ => ?_
  · refine ret_account fun e t h => ⟨h.1, fun _ hnone => ?_⟩
    have hlive := h.2.trans hready
    simp [Encoder.ready, hnone] at hlive
  refine .bind (destroyEncoder_account.pre fun s h => Between.behind h.1) fun _ => .ite
    (fun _ => ?_) fun _ => ?_
  · exact .bind (aside_account (aside_write fun _ => rfl)) fun _ =>
      ret_account fun _ _ h => ⟨h.1, fun hfalse => by cases hfalse⟩
  refine .bind (create_account width height time) fun _ => ?_
  have hlast : Accounts cfg (fun e t => Between cfg R e t ∧ e.session ≠ none) (do
      write (fun s => { s with enc.encoderEverInitialized := true })
      let describe := RosAction.describeStream width height (updateRate cfg.updateRate)
        (gopLength cfg.updateRate)
      .atomic (.ros describe) (fun s => ({ s with ros := rosStep cfg.ros s.ros describe }, ()))
      storeForceKeyframe
      write (fun s => { s with flags.encoderResourcesActive := true })
      return true) fun ready e t => Between cfg R e t ∧ (ready = true → e.session ≠ none) := by
    refine .bind (aside_account (aside_write fun _ => rfl)) fun _ => ?_
    refine .bind (aside_account (.atomic fun _ => ⟨rfl, rfl⟩)) fun _ => ?_
    refine .bind (aside_account storeForceKeyframe_restful.asides) fun _ => ?_
    refine .bind (aside_account (aside_write fun _ => rfl)) fun _ => ?_
    exact ret_account fun _ _ h => ⟨h.1, fun _ => h.2⟩
  refine .bind (aside_account (aside_read _)) fun already => ?_
  refine .bind (aside_account (aside_read _)) fun before => .ite (fun _ => ?_) fun _ => hlast
  refine .bind (aside_account clearRTPQueue_restful.asides) fun _ => ?_
  exact .bind (aside_account (beginROSEpoch_aside _ _)) fun _ => hlast

/-! ## a frame -/

theorem resetEncoder_account :
    Accounts cfg (Behind cfg fun _ => True) (resetEncoder cfg)
      fun _ => Between cfg fun _ => True := by
  refine .bind (aside_account (aside_write fun _ => rfl)) fun _ => ?_
  refine .bind (aside_account clearRTPQueue_restful.asides) fun _ => ?_
  refine .bind (aside_account (beginROSEpoch_aside _ _)) fun _ => ?_
  refine .bind (aside_account storeForceKeyframe_restful.asides) fun _ => ?_
  exact .bind destroyEncoder_account fun _ => ret_account fun _ _ h => h.1

theorem submit_account (hrate : cfg.updateRate ≤ 240) (time : Int) (forced : Bool)
    (generation : Nat) :
    Accounts cfg (fun e t => Between cfg (· = time) e t ∧ e.session ≠ none)
      (write fun s => { s with
        enc.pendingEncodedFrames := s.enc.pendingEncodedFrames ++
          [s.newPending cfg time forced generation]
        enc.sourceFrameSequence := s.enc.sourceFrameSequence + 1 })
      fun _ => Submitted cfg := by
  refine step_account fun s t hI hP _ => ?_
  have hnote : t.note cfg ⟨.step, s, { s with
      enc.pendingEncodedFrames := s.enc.pendingEncodedFrames ++
        [s.newPending cfg time forced generation]
      enc.sourceFrameSequence := s.enc.sourceFrameSequence + 1 }⟩ = t.submit cfg s.enc := by
    unfold Transport.note
    simp
  rw [hnote]
  exact hI.submit hrate hP.1 hP.2 rfl

theorem takePending_account (timestamp : Nat) :
    Accounts cfg (Submitted cfg) (takePendingEncodedFrame timestamp)
      fun found e t => ∃ metadata, found = some metadata ∧ Taken cfg timestamp metadata e t := by
  refine step_account fun s t hI hP hechoes => ?_
  obtain ⟨frame, rest, hpending, hstamp⟩ := hI.oldest (hechoes timestamp rfl)
  have hpending : s.enc.pendingEncodedFrames = frame :: rest := hpending
  have hfind : s.enc.pendingEncodedFrames.find? (·.encoderTimestamp == timestamp) = some frame := by
    rw [hpending]
    exact List.find?_cons_of_pos (beq_iff_eq.mpr hstamp)
  have herase : s.enc.pendingEncodedFrames.eraseP (·.encoderTimestamp == timestamp) = rest := by
    rw [hpending]
    exact List.eraseP_cons_of_pos (beq_iff_eq.mpr hstamp)
  simp only [hfind, herase]
  subst hstamp
  obtain ⟨hkept, htaken⟩ := hI.take hP hpending
  exact ⟨hkept, frame, rfl, htaken⟩

theorem sendH264AccessUnit_account (data : List UInt8) (timestamp : Nat)
    (metadata : PendingEncodedFrame) (time : Int) :
    Accounts cfg (Taken cfg timestamp metadata)
      (sendH264AccessUnit cfg data (UInt32.ofNat timestamp) metadata time)
      fun _ => Answered cfg := by
  have hcall : Accounts cfg (Taken cfg timestamp metadata)
      (Prog.atomic (.sendUnit (UInt32.ofNat timestamp) metadata) fun s => (s, ()))
      fun _ => Answered cfg := step_account fun s t hI hP _ => hI.send hP
  refine .bind hcall fun _ => aside_account ?_
  refine .ite encoderFailure_aside ?_
  refine (fun hsend => .ite (.bind (acknowledgeKeyframe_aside metadata time) fun _ => hsend)
    hsend) ?_
  refine .bind (enqueueROSAccessUnit_aside cfg _) fun _ => .bind (aside_read _) fun _ =>
    .ite (.ret _) ?_
  cases packetize (UInt32.ofNat timestamp) (splitAnnexB data) [] with
  | none => exact .ret _
  | some packets => exact .atomic fun _ => ⟨rfl, rfl⟩

theorem countFrame_account {P : Encoder → Transport → Prop}
    (hP : ∀ e t, Inv e t → P e t →
      Between cfg (fun _ => True) { e with encodedFrameIndex := e.encodedFrameIndex + 1 } t) :
    Accounts cfg P countFrame fun _ => Between cfg fun _ => True := by
  refine step_account fun s t hI h _ => ?_
  have hnote : t.note cfg ⟨.step, s, { s with
      enc.encodedFrameIndex := s.enc.encodedFrameIndex + 1, enc.sending := none }⟩ = t := by
    unfold Transport.note
    simp
  rw [hnote]
  exact ⟨⟨hI.queue, hI.live, hI.dead, hI.own, hI.rising, hI.behind, hI.sorted, hI.paired, hI.once,
    hI.past⟩, hP _ t hI h⟩

theorem finishFrame_account (hrate : cfg.updateRate ≤ 240) (time : Int) (outcome : EncodeOutcome) :
    Accounts cfg (Submitted cfg) (finishFrame cfg time outcome)
      fun _ => Between cfg fun _ => True := by
  have hreset : Accounts cfg (Submitted cfg) (resetEncoder cfg)
      fun _ => Between cfg fun _ => True := resetEncoder_account.pre fun _ h => Submitted.behind h
  cases outcome with
  | error => exact hreset
  | lockFailed => exact hreset
  | output timestamp bitstream =>
    refine .bind (takePending_account timestamp) fun found => ?_
    cases found with
    | none =>
      refine resetEncoder_account.pre fun _ h => ?_
      obtain ⟨_, hnone, _⟩ := h
      cases hnone
    | some metadata =>
      refine Account.pre (P := On (Taken cfg timestamp metadata)) ?_ fun _ h => ?_
      · refine .bind (sendH264AccessUnit_account _ _ _ _) fun sent => ?_
        refine .bind (countFrame_account fun e t _ h => ?_) fun _ => ret_account fun _ _ h => h
        exact ⟨h.sent, h.submitted, h.few, trivial⟩
      · obtain ⟨_, hsome, htaken⟩ := h
        cases hsome
        exact htaken
  | needMoreInput =>
    have hcount : Accounts cfg (Submitted cfg) (read (·.enc.pendingEncodedFrames.length))
        fun n e t => Submitted cfg e t ∧ e.pendingEncodedFrames.length = n :=
      read_account (v := fun e => e.pendingEncodedFrames.length) fun _ => rfl
    refine .bind hcount fun n => .ite (fun _ => hreset.pre fun _ h => h.1) fun hfew => ?_
    refine .bind (countFrame_account fun e t _ h => ?_) fun _ => ret_account fun _ _ h => h
    refine ⟨fun u hu => (h.1.sent u hu).trans (inputTimestamp_strictMono hrate (Nat.lt_succ_self _)),
      h.1.submitted, ?_, trivial⟩
    have hlength : e.pendingEncodedFrames.length = n := h.2
    show e.pendingEncodedFrames.length ≤ _
    omega

theorem encodeRenderedFrame_account (hrate : cfg.updateRate ≤ 240) (input : RenderInput) :
    Accounts cfg (Between cfg fun _ => True) (encodeRenderedFrame cfg input)
      fun _ => Between cfg fun _ => True := by
  refine .ite (fun _ => aside_account encoderFailure_aside) fun _ => ?_
  refine .bind (observeSourceTime_account _) fun _ => ?_
  refine .bind (ensureEncoder_account _ _ _ _) fun ready => ?_
  cases ready with
  | false => exact ret_account fun _ _ h => h.1.any
  | true =>
    refine .ite (fun hnot => by cases hnot) fun _ => .ite (fun _ => ?_) fun _ => ?_
    · exact (aside_account encoderFailure_aside).post fun _ _ h => h.1.any
    refine Account.pre (P := On fun e t => Between cfg (· = input.sourceTimeNanoseconds) e t ∧
      e.session ≠ none) ?_ fun _ h => ⟨h.1, h.2 rfl⟩
    refine .bind (aside_account (aside_access fun _ => rfl)) fun forced => ?_
    have hsubmit : ∀ generation, Accounts cfg
        (fun e t => Between cfg (· = input.sourceTimeNanoseconds) e t ∧ e.session ≠ none) (do
          write (fun s => { s with
            enc.pendingEncodedFrames := s.enc.pendingEncodedFrames ++
              [s.newPending cfg input.sourceTimeNanoseconds forced generation]
            enc.sourceFrameSequence := s.enc.sourceFrameSequence + 1 })
          finishFrame cfg input.sourceTimeNanoseconds input.outcome)
        fun _ => Between cfg fun _ => True := fun generation =>
      .bind (submit_account hrate _ forced generation) fun _ => finishFrame_account hrate _ _
    exact .ite (fun _ => .bind (aside_account (aside_read _)) hsubmit)
      fun _ => .bind (ret_account fun _ _ h => h) hsubmit

/-! ## the callbacks -/

theorem failNativeEncoderTransition_account :
    Accounts cfg (Between cfg fun _ => True) failNativeEncoderTransition
      fun _ => Between cfg fun _ => True := by
  refine .bind (aside_account (aside_access fun _ => rfl)) fun capture => (fun hfail =>
    .ite (fun _ => .bind (aside_account (aside_write fun _ => rfl)) fun _ => hfail)
      fun _ => hfail) ?_
  refine .bind (aside_account (aside_read _)) fun awaiting => ?_
  cases awaiting with
  | none => exact ret_account fun _ _ h => h
  | some command =>
    refine .ite (fun _ => ?_) fun _ => ret_account fun _ _ h => h
    refine .bind (aside_account (.atomic fun _ => ⟨rfl, rfl⟩)) fun _ => ?_
    refine .bind (aside_account (aside_write fun _ => rfl)) fun _ => ?_
    refine .bind (aside_account (.atomic fun _ => ⟨rfl, rfl⟩)) fun _ => ?_
    refine .bind (aside_account (.atomic fun _ => ⟨rfl, rfl⟩)) fun _ => ?_
    refine .bind (aside_account clearRTPQueue_restful.asides) fun _ => ?_
    exact (destroyEncoder_account.pre fun _ h => Between.behind h).post fun _ _ h => h.1

theorem rosRenderIsFresh_account (time : Int) :
    Accounts cfg (Between cfg fun _ => True) (rosRenderIsFreshForCurrentActivation time)
      fun _ => Between cfg fun _ => True := by
  refine .bind (aside_account (aside_read _)) fun generation => ?_
  refine .bind (aside_account (aside_access fun _ => rfl)) fun decision => ?_
  cases decision with
  | accept => exact ret_account fun _ _ h => h
  | waitForSourceTimeChange => exact ret_account fun _ _ h => h
  | discardAndReset =>
    refine .bind (aside_account clearRTPQueue_restful.asides) fun _ => ?_
    refine .bind (destroyEncoder_account.pre fun _ h => Between.behind h) fun _ => ?_
    refine .bind (aside_account storeForceKeyframe_restful.asides) fun _ => ?_
    exact ret_account fun _ _ h => h.1

theorem encodeForDemand_account (hrate : cfg.updateRate ≤ 240) (input : RenderInput) :
    Accounts cfg (Between cfg fun _ => True) (encodeForDemand cfg input)
      fun _ => Between cfg fun _ => True := by
  refine .bind (rosRenderIsFresh_account _) fun fresh => .ite (fun _ => ?_)
    fun _ => ret_account fun _ _ h => h
  refine .bind (encodeRenderedFrame_account hrate input) fun sent => .ite
    (fun _ => failNativeEncoderTransition_account) fun _ => ?_
  refine .bind (aside_account (aside_read _)) fun awaiting => ?_
  cases awaiting with
  | none => exact ret_account fun _ _ h => h
  | some command =>
    exact .ite (fun _ => aside_account (completeNativeControl_aside command _))
      fun _ => ret_account fun _ _ h => h

theorem postRenderTargetUpdate_account (hrate : cfg.updateRate ≤ 240) (input : RenderInput) :
    Accounts cfg (Between cfg fun _ => True) (postRenderTargetUpdate cfg input)
      fun _ => Between cfg fun _ => True := by
  refine .bind (aside_account (aside_write fun _ => rfl)) fun _ => ?_
  refine .bind (aside_account wantsEncode_reading.asides) fun shouldEncode => ?_
  refine .bind (aside_account (aside_access fun _ => rfl)) fun cleanup => ?_
  have hencode : Accounts cfg (Between cfg fun _ => True)
      (if shouldEncode then encodeForDemand cfg input else pure ())
      fun _ => Between cfg fun _ => True :=
    .ite (fun _ => encodeForDemand_account hrate input) fun _ => ret_account fun _ _ h => h
  have hidle : ∀ idle : Bool, Accounts cfg (Between cfg fun _ => True) (do
      if idle then destroyEncoder
      else if ← wantsRender shouldEncode then
        if ← snapshotNeedsRender then captureSnapshot input.capture
        if shouldEncode then encodeForDemand cfg input) fun _ => Between cfg fun _ => True := by
    refine fun idle => .ite (fun _ => ?_) fun _ => ?_
    · exact (destroyEncoder_account.pre fun _ h => Between.behind h).post fun _ _ h => h.1
    refine .bind (aside_account (wantsRender_reading _).asides) fun _ => .ite (fun _ => ?_)
      fun _ => ret_account fun _ _ h => h
    refine .bind (aside_account snapshotNeedsRender_reading.asides) fun _ => .ite (fun _ => ?_)
      fun _ => hencode
    exact .bind (aside_account (captureSnapshot_aside _)) fun _ => hencode
  refine .ite (fun _ => .bind (aside_account ?_) hidle) fun _ =>
    .bind (ret_account fun _ _ h => h) hidle
  exact .map snapshotNeedsRender_reading.asides

theorem render_account (hrate : cfg.updateRate ≤ 240) (c : RenderCall) :
    Accounts cfg (Between cfg fun _ => True) (threadBody cfg .render c)
      fun _ => Between cfg fun _ => True := by
  cases c with
  | postRender input => exact aside_account (onPostRender_aside cfg input)
  | renderTarget input => exact postRenderTargetUpdate_account hrate input

end
end Transport

/-! ## runs -/

def transport (cfg : PluginConfig) (s : PluginState) (as : List PluginAction) : Transport :=
  ((plugin cfg).stepsOf .render s as).foldl (Transport.note cfg) .load

/-- in the run `as` from `s`, NVENC echoes the input timestamps of a session in submission order -/
def Echoes (cfg : PluginConfig) (s : PluginState) (as : List PluginAction) : Prop :=
  AccountedFor (Transport.note cfg) EchoesNext .load ((plugin cfg).stepsOf .render s as)

instance (cfg : PluginConfig) (s : PluginState) (as : List PluginAction) :
    Decidable (Echoes cfg s as) := inferInstanceAs (Decidable (AccountedFor _ _ _ _))

/-- what is pending and what was sent, newest first -/
structure FramesPaired (s : PluginState) (h : Transport) : Prop where
  distinct : (s.shared.enc.pendingEncodedFrames.map (·.encoderTimestamp)).Nodup
  bounded : s.thread .render = .ret () →
    s.shared.enc.pendingEncodedFrames.length ≤ kMaximumPendingEncodedFrames
  paired : ∀ u ∈ h.sent, ∃ r ∈ h.submitted, u.PairedWith r ∧
    ∀ r' ∈ h.submitted, r'.session = u.session → r'.inputTimeStamp = u.outputTimeStamp → r' = r
  rising : h.sent.Pairwise fun u u' => u'.outputTimeStamp < u.outputTimeStamp

theorem Transport.Inv.load : Transport.Inv Encoder.load.core .load :=
  ⟨rfl, nofun, fun _ => rfl, nofun, .nil, nofun, .nil, nofun, .nil, nofun⟩

theorem Transport.accounted {cfg : PluginConfig} (hrate : cfg.updateRate ≤ 240) {s : PluginState}
    (hs : (pluginMachine cfg).init s) {as : List PluginAction} (hechoes : Echoes cfg s as) :
    Pool.Accounted .render transportContract (Transport.note cfg)
      (On (Transport.Between cfg fun _ => True)) ((pluginMachine cfg).run s as)
      (transport cfg s as) := by
  refine (pluginVerified cfg).account ?_ (Transport.stable_on _) (Transport.render_account hrate) ?_
    hs as hechoes
  · rintro s ⟨input, rfl⟩
    exact ⟨.load, nofun, fun hlive => absurd rfl hlive, Nat.zero_le _, trivial⟩
  · intro t hne l s s' h hguar
    have henc : s'.enc = s.enc := ((threadContract_guar cfg t hguar).renderRely hne).enc
    refine ⟨⟨by rw [henc], rfl⟩, fun hI => ?_⟩
    unfold On
    rw [henc]
    exact hI

theorem Transport.Inv.unique {e : Encoder} {h : Transport} (hI : Transport.Inv e h)
    {r r' : Submission} (hr : r ∈ h.submitted) (hr' : r' ∈ h.submitted)
    (hsession : r'.session = r.session) (hstamp : r'.inputTimeStamp = r.inputTimeStamp) :
    r' = r := by
  by_contra hne
  have : Std.Symm fun r r' : Submission =>
      r.session = r'.session → r.inputTimeStamp ≠ r'.inputTimeStamp :=
    ⟨fun _ _ hrr he => (hrr he.symm).symm⟩
  exact hI.once.forall hr' hr hne hsession hstamp

/-- a delayed output, a failed submission, and an output of the next session -/
def delayedRun : List PluginAction :=
  startRun ++ runCall .render (frameCall 3 .needMoreInput) 60 ++
    runCall .render (frameCall 4 (.output 3000 deltaUnit)) 60 ++
    runCall .render (frameCall 5 .error) 60 ++
    runCall .render (frameCall 6 (.output 9000 idrUnit)) 60

end MediaCamera
