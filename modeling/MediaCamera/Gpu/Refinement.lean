import MediaCamera.Gpu.Resources
import MediaCamera.Machine.Solo
import MediaCamera.Plugin.System

/-!
# The encoder of the plugin and its driver

The model of the plugin knows of the encoder whether there is one and for which size; every call of
OpenGL and of NVENC is an input there.  Here the calls are put under it.

* `Matches g s`   the session `g` and the plugin `s` agree on the encoder;
* `FrameAnswers.Agrees`   the answers of the driver are those that the input of the plugin stands for;
* `SendsOutput`   `EncodeRenderedFrame` calls `SendH264AccessUnit` for an output of its own;
* `encodeRenderedFrame_refines`   `EncodeRenderedFrame` in both models: one result, and again a match.
-/

namespace MediaCamera

def State.encoderView (s : State) : Encoder × Bool := (s.enc, s.flags.encoderResourcesActive)

def EncoderKept (_ : Label) (s s' : State) : Prop := s'.encoderView = s.encoderView

section
variable {cfg : PluginConfig}

theorem kept_write {f : State → State} (h : ∀ s, (f s).encoderView = s.encoderView) :
    (write f).Within EncoderKept := .atomic h

theorem kept_read {α : Type} (f : State → α) : (read f).Within EncoderKept := .atomic fun _ => rfl

theorem beginROSEpoch_kept (cause : EpochCause) : (beginROSEpoch cfg cause).Within EncoderKept :=
  .bind (.atomic fun _ => rfl) fun _ => .ite (kept_write fun _ => rfl) (.ret _)

theorem completeNativeControl_kept (command : NativeControlCommand) (time : Int) :
    (completeNativeControl command time).Within EncoderKept := by
  refine .ite (.bind (kept_write fun _ => rfl) fun _ => .bind (kept_write fun _ => rfl) fun _ => ?_) ?_
  all_goals
    refine .ite (.bind (kept_write fun _ => rfl) fun _ =>
      .bind (kept_write fun _ => rfl) fun _ => ?_) ?_
  all_goals exact .bind (kept_write fun _ => rfl) fun _ => kept_write fun _ => rfl

theorem acknowledgeKeyframe_kept (metadata : PendingEncodedFrame) (time : Int) :
    (acknowledgeKeyframe metadata time).Within EncoderKept := by
  refine .bind (kept_read _) fun awaiting => ?_
  cases awaiting
  case' some command =>
    refine .ite (.bind (completeNativeControl_kept command time) fun _ => ?_) ?_
  all_goals
    refine .ite (.bind (kept_read _) fun _ => .ite ?_ (.ret ())) (.ret ())
    exact .bind (kept_write fun _ => rfl) fun _ => kept_write fun _ => rfl

theorem sendH264AccessUnit_kept (data : List UInt8) (timestamp : UInt32)
    (metadata : PendingEncodedFrame) (time : Int) :
    (sendH264AccessUnit cfg data timestamp metadata time).Within EncoderKept := by
  refine .bind (.atomic fun _ => rfl) fun _ =>
    .ite (.bind (kept_write fun _ => rfl) fun _ => .ret _)
      (.ite (.bind (acknowledgeKeyframe_kept metadata time) fun _ => ?_) ?_)
  all_goals
    refine .bind (.bind (.atomic fun _ => rfl) fun _ => .ite (.atomic fun _ => rfl) (.ret ()))
      fun _ => .bind (kept_read _) fun _ => .ite (.ret _) ?_
    split
    · exact .ret _
    · exact .atomic fun _ => rfl

/-! ## the functions without interference -/

def Encoder.observed (e : Encoder) (time : Int) : Encoder :=
  if e.timeWentBack time then { e.destroy with lastSourceTimeNanoseconds := some time }
  else e.observe time

section
variable {α β : Type} {s : State} {Q : β → State → Prop}

theorem write_runs {f : State → State} {g : Unit → Thread β} (h : (g ()).Runs (f s) Q) :
    (write f >>= g).Runs s Q :=
  .bind (Q := fun _ s' => s' = f s) rfl fun _ _ hs' => by
    rw [hs']
    exact h

theorem read_runs {f : State → α} {g : α → Thread β} (h : (g (f s)).Runs s Q) :
    (read f >>= g).Runs s Q :=
  .bind (Q := fun a s' => a = f s ∧ s' = s) ⟨rfl, rfl⟩ fun _ _ hs' => by
    rw [hs'.1, hs'.2]
    exact h

theorem kept_runs {p : Thread α} {g : α → Thread β} (hp : p.Within EncoderKept)
    (h : ∀ a s', s'.encoderView = s.encoderView → (g a).Runs s' Q) : (p >>= g).Runs s Q :=
  .bind (.keeps hp s) h

theorem kept_comes {p : Thread α} {g : α → Thread β} {R : Thread β → State → Prop}
    (hp : p.Within EncoderKept) (h : ∀ a s', s'.encoderView = s.encoderView → (g a).Comes s' R) :
    (p >>= g).Comes s R :=
  .bind (.keeps hp s) h

end

theorem observeSourceTime_runs (time : Int) (s : State) :
    (observeSourceTime cfg time).Runs s fun _ s' => s'.encoderView =
      (s.enc.observed time, !s.enc.timeWentBack time && s.flags.encoderResourcesActive) := by
  refine .bind (Q := fun b s' => b = s.enc.timeWentBack time ∧
    s'.encoderView = (s.enc.observe time, s.flags.encoderResourcesActive)) ⟨rfl, rfl⟩ ?_
  rintro b s' ⟨rfl, hview⟩
  rw [Encoder.observed]
  cases hback : s.enc.timeWentBack time with
  | false => exact .ret hview
  | true =>
    refine write_runs (kept_runs (beginROSEpoch_kept _) fun _ s'' hs'' =>
      write_runs (write_runs (.atomic ?_)))
    obtain ⟨he, -⟩ := Prod.mk.inj (hs''.trans hview)
    show ({ s''.enc.destroy with lastSourceTimeNanoseconds := some time }, false) = _
    rw [he, Encoder.observe, if_pos hback]
    rfl

def Encoder.opened (e : Encoder) (width height : Nat) (time : Int) : Encoder :=
  { e.destroy with
    session := some ⟨width, height, e.sessions + 1, time⟩
    sessions := e.sessions + 1
    encoderEverInitialized := true }

/-- `EnsureEncoder`: the present encoder, a new one, or none -/
theorem ensureEncoder_runs (width height : Nat) (time : Int) (available : Bool) (s : State) :
    (ensureEncoder cfg width height time available).Runs s fun b s' =>
      b = (s.enc.ready width height || (decide (width ≠ 0 ∧ height ≠ 0) && available)) ∧
      s'.encoderView =
        if s.enc.ready width height then s.encoderView
        else if b then (s.enc.opened width height time, true)
        else (s.enc.destroy, false) := by
  refine read_runs ?_
  cases hready : s.enc.ready width height with
  | true => exact .ret ⟨rfl, rfl⟩
  | false =>
    rw [if_neg Bool.false_ne_true]
    refine write_runs ?_
    split
    · rename_i hfails
      refine write_runs (.ret ⟨?_, rfl⟩)
      rcases hfails with rfl | rfl | rfl <;> simp
    · rename_i hfails
      have hb : true = (false || (decide (width ≠ 0 ∧ height ≠ 0) && available)) := by
        have ha : available = true := by
          rw [← Bool.not_eq_false]
          exact fun h => hfails (.inr (.inr h))
        rw [ha, decide_eq_true ⟨fun h => hfails (.inl h), fun h => hfails (.inr (.inl h))⟩]
        rfl
      refine write_runs (read_runs (read_runs ?_))
      split
      case isTrue =>
        refine write_runs (kept_runs (beginROSEpoch_kept _) fun _ s' hs' => ?_)
        obtain ⟨he, -⟩ := Prod.mk.inj hs'
        refine write_runs (kept_runs (.atomic fun _ => rfl) fun _ s'' hs'' =>
          write_runs (write_runs (.ret ⟨hb, ?_⟩)))
        obtain ⟨he', -⟩ := Prod.mk.inj hs''
        show (s''.enc, true) = _
        rw [he']
        show ({ s'.enc with encoderEverInitialized := true }, true) = _
        rw [he]
        rfl
      case isFalse =>
        refine write_runs (kept_runs (.atomic fun _ => rfl) fun _ s'' hs'' =>
          write_runs (write_runs (.ret ⟨hb, ?_⟩)))
        obtain ⟨he', -⟩ := Prod.mk.inj hs''
        show (s''.enc, true) = _
        rw [he']
        rfl

theorem resetEncoder_runs (s : State) :
    (resetEncoder cfg).Runs s fun b s' =>
      b = false ∧ s'.encoderView = (s.enc.destroy, false) := by
  refine write_runs (write_runs (kept_runs (beginROSEpoch_kept _) fun _ s' hs' =>
    write_runs (write_runs (.ret ⟨rfl, ?_⟩))))
  obtain ⟨he, -⟩ := Prod.mk.inj hs'
  show (s'.enc.destroy, false) = _
  rw [he]
  rfl

/-- is the output paired with the metadata of a frame? -/
def EncodeOutcome.paired (timestamps : List Nat) : EncodeOutcome → Bool
  | .output timestamp _ => timestamps.contains timestamp
  | _ => false

def EncodeOutcome.keeps (timestamps : List Nat) : EncodeOutcome → Bool
  | .error => false
  | .lockFailed => false
  | .needMoreInput => decide (timestamps.length ≤ kMaximumPendingEncodedFrames)
  | .output timestamp bitstream => (output timestamp bitstream).paired timestamps

/-- what the model of the plugin knows of the encoder -/
def State.session (s : State) : Option (Nat × Nat) × Bool :=
  (s.enc.session.map fun e => (e.width, e.height), s.flags.encoderResourcesActive)

theorem session_of_view {s s' : State} (h : s'.encoderView = s.encoderView) :
    s'.session = s.session := by
  obtain ⟨he, ha⟩ := Prod.mk.inj h
  rw [State.session, he, ha]
  rfl

theorem finishFrame_runs (time : Int) (outcome : EncodeOutcome) (s : State) :
    (finishFrame cfg time outcome).Runs s fun b s' =>
      ((outcome.keeps (s.enc.pendingEncodedFrames.map (·.encoderTimestamp)) = true →
        s'.session = s.session ∧ (outcome = .needMoreInput → b = true)) ∧
      (outcome.keeps (s.enc.pendingEncodedFrames.map (·.encoderTimestamp)) = false →
        s'.session = (none, false) ∧ b = false)) := by
  have hreset (s' : State) : (resetEncoder cfg).Runs s' fun b s'' =>
      s''.session = (none, false) ∧ b = false := by
    refine (resetEncoder_runs s').mono ?_
    rintro b s'' ⟨hb, hview⟩
    obtain ⟨he, ha⟩ := Prod.mk.inj hview
    refine ⟨?_, hb⟩
    rw [State.session, he, ha]
    rfl
  cases outcome with
  | error | lockFailed =>
    refine (hreset s).mono fun b s' h => ⟨fun hf => ?_, fun _ => h⟩
    cases hf
  | needMoreInput =>
    refine read_runs ?_
    rw [EncodeOutcome.keeps, List.length_map]
    split
    · rename_i hlt
      refine (hreset s).mono fun b s' h => ⟨fun hf => ?_, fun _ => h⟩
      have hle := of_decide_eq_true hf
      omega
    · rename_i hle
      refine write_runs (.ret ⟨fun _ => ⟨rfl, fun _ => rfl⟩, fun hf => ?_⟩)
      have hlt := of_decide_eq_false hf
      omega
  | output timestamp bitstream =>
    refine .bind (Q := fun found s' => found =
      s.enc.pendingEncodedFrames.find? (·.encoderTimestamp == timestamp) ∧
        s'.session = s.session) ⟨rfl, rfl⟩ ?_
    rintro found s' ⟨rfl, hsession⟩
    have hpaired : EncodeOutcome.keeps (s.enc.pendingEncodedFrames.map (·.encoderTimestamp))
        (.output timestamp bitstream) =
          (s.enc.pendingEncodedFrames.find? (·.encoderTimestamp == timestamp)).isSome := by
      rw [EncodeOutcome.keeps, EncodeOutcome.paired, Bool.eq_iff_iff, List.find?_isSome]
      simp
    rw [hpaired]
    cases s.enc.pendingEncodedFrames.find? (·.encoderTimestamp == timestamp) with
    | none =>
      refine (hreset s').mono fun b s'' h => ⟨fun hf => ?_, fun _ => h⟩
      cases hf
    | some metadata =>
      refine kept_runs (sendH264AccessUnit_kept _ _ _ _) fun sent s'' hs'' => write_runs (.ret ?_)
      refine ⟨fun _ => ⟨?_, fun he => ?_⟩, fun hf => ?_⟩
      · exact (session_of_view hs'').trans hsession
      · cases he
      · cases hf

/-- the encoder timestamps of the frames that wait for an output, once the frame is submitted -/
def State.queued (cfg : PluginConfig) (s : State) (input : RenderInput) : List Nat :=
  (if !s.enc.timeWentBack input.sourceTimeNanoseconds && s.enc.ready input.width input.height
    then s.enc.pendingEncodedFrames.map (·.encoderTimestamp) else []) ++
      [inputTimestamp cfg.updateRate s.enc.encodedFrameIndex]

def State.created (s : State) (input : RenderInput) : Bool :=
  (!s.enc.timeWentBack input.sourceTimeNanoseconds && s.enc.ready input.width input.height) ||
    (decide (input.width ≠ 0 ∧ input.height ≠ 0) && input.encoderAvailable)

theorem Encoder.ready_observed (e : Encoder) (time : Int) (width height : Nat) :
    (e.observed time).ready width height = (!e.timeWentBack time && e.ready width height) := by
  unfold Encoder.observed
  cases hback : e.timeWentBack time with
  | true => rfl
  | false =>
    rw [if_neg Bool.false_ne_true, Encoder.observe, hback, if_neg Bool.false_ne_true]
    rfl

theorem Encoder.observed_clock (e : Encoder) (time : Int) :
    (e.observed time).encodedFrameIndex = e.encodedFrameIndex := by
  unfold Encoder.observed Encoder.observe
  split <;> rfl

/-- `EncodeRenderedFrame` up to the encoder: is there one, for which size, and what it waits for -/
theorem encoderFor_runs (input : RenderInput) (s : State)
    (hactive : s.flags.encoderResourcesActive = s.enc.session.isSome) :
    (observeSourceTime cfg input.sourceTimeNanoseconds >>= fun _ =>
      ensureEncoder cfg input.width input.height input.sourceTimeNanoseconds
        input.encoderAvailable).Runs s fun b s' =>
      b = s.created input ∧ (b = false → s'.session = (none, false)) ∧
        (b = true → s'.session = (some (input.width, input.height), true) ∧
          s'.enc.pendingEncodedFrames.map (·.encoderTimestamp) ++
            [inputTimestamp cfg.updateRate s'.enc.encodedFrameIndex] = s.queued cfg input) := by
  refine .bind (observeSourceTime_runs _ s) fun _ s₁ hview₁ => ?_
  obtain ⟨he₁, ha₁⟩ := Prod.mk.inj hview₁
  refine (ensureEncoder_runs _ _ _ _ s₁).mono ?_
  rintro b s₂ ⟨hb, hview₂⟩
  rw [he₁, Encoder.ready_observed] at hb hview₂
  refine ⟨hb, ?_⟩
  rw [State.queued]
  cases hkept : !s.enc.timeWentBack input.sourceTimeNanoseconds &&
      s.enc.ready input.width input.height with
  | true =>
    -- the encoder fits, and the source time did not go back
    rw [hkept] at hb hview₂
    obtain ⟨hback, hready⟩ := (Bool.and_eq_true _ _).mp hkept
    have hback : s.enc.timeWentBack input.sourceTimeNanoseconds = false := by simpa using hback
    obtain ⟨he₂, ha₂⟩ := Prod.mk.inj (hview₂.trans hview₁)
    have hsame : s.enc.observed input.sourceTimeNanoseconds =
        { s.enc with lastSourceTimeNanoseconds := some input.sourceTimeNanoseconds } := by
      rw [Encoder.observed, hback, if_neg Bool.false_ne_true, Encoder.observe, hback,
        if_neg Bool.false_ne_true]
    rw [hsame] at he₂
    rw [hback, Bool.not_false, Bool.true_and, hactive] at ha₂
    refine ⟨fun hf => absurd (hb.symm.trans hf) (by simp), fun _ => ⟨?_, ?_⟩⟩
    · rw [State.session, he₂, ha₂]
      unfold Encoder.ready at hready
      cases hs : s.enc.session with
      | none =>
        rw [hs] at hready
        cases hready
      | some session =>
        rw [hs, Bool.and_eq_true, beq_iff_eq, beq_iff_eq] at hready
        rw [Option.map_some, hready.1, hready.2]
        rfl
    · rw [he₂, if_pos rfl]
  | false =>
    rw [hkept, if_neg Bool.false_ne_true] at hview₂
    rw [if_neg Bool.false_ne_true]
    cases b with
    | false =>
      obtain ⟨he₂, ha₂⟩ := Prod.mk.inj hview₂
      refine ⟨fun _ => ?_, fun hf => absurd hf Bool.false_ne_true⟩
      rw [State.session, he₂, ha₂]
      rfl
    | true =>
      obtain ⟨he₂, ha₂⟩ := Prod.mk.inj hview₂
      refine ⟨fun hf => absurd hf.symm Bool.false_ne_true, fun _ => ⟨?_, ?_⟩⟩
      · rw [State.session, he₂, ha₂]
        rfl
      · rw [he₂]
        show [] ++ [inputTimestamp _ (s.enc.observed input.sourceTimeNanoseconds).encodedFrameIndex]
          = _
        rw [Encoder.observed_clock]

/-- `EncodeRenderedFrame`: does the encoder survive? -/
def State.keeps (cfg : PluginConfig) (s : State) (input : RenderInput) : Bool :=
  s.created input && (!(input.textureCopied && input.inputMapped) ||
    input.outcome.keeps (s.queued cfg input))

/-- with an encoder, a copied texture and a mapped input, the frame is submitted -/
theorem encodeRenderedFrame_submits {input : RenderInput} {s : State}
    (hactive : s.flags.encoderResourcesActive = s.enc.session.isSome)
    (htexture : input.glTexture = true) (hcreated : s.created input = true)
    (hcopied : input.textureCopied = true) (hmapped : input.inputMapped = true) :
    (encodeRenderedFrame cfg input).Comes s fun p s' =>
      p = finishFrame cfg input.sourceTimeNanoseconds input.outcome ∧
      s'.enc.pendingEncodedFrames.map (·.encoderTimestamp) = s.queued cfg input ∧
      s'.session = (some (input.width, input.height), true) := by
  unfold encodeRenderedFrame
  rw [htexture, Bool.not_true, if_neg Bool.false_ne_true]
  refine .assoc (.bind (encoderFor_runs input s hactive) ?_)
  rintro b s₁ ⟨hb, -, hready⟩
  rw [hcreated] at hb
  obtain ⟨hsession, hqueued⟩ := hready hb
  rw [hb, hcopied, hmapped, Bool.not_true, if_neg Bool.false_ne_true, Bool.and_self, Bool.not_true,
    if_neg Bool.false_ne_true]
  refine kept_comes (.atomic fun _ => rfl) fun forced s₂ hs₂ => ?_
  have hsubmit (captureGeneration : Nat) (s₃ : State) (hs₃ : s₃.encoderView = s₂.encoderView) :
      (write (fun s => { s with
        enc.pendingEncodedFrames := s.enc.pendingEncodedFrames ++
          [s.newPending cfg input.sourceTimeNanoseconds forced captureGeneration]
        enc.sourceFrameSequence := s.enc.sourceFrameSequence + 1 }) >>= fun _ =>
          finishFrame cfg input.sourceTimeNanoseconds input.outcome).Comes s₃ fun p s' =>
            p = finishFrame cfg input.sourceTimeNanoseconds input.outcome ∧
            s'.enc.pendingEncodedFrames.map (·.encoderTimestamp) = s.queued cfg input ∧
            s'.session = (some (input.width, input.height), true) := by
    have hview := hs₃.trans hs₂
    obtain ⟨he, -⟩ := Prod.mk.inj hview
    refine .bind (Q := fun _ (s₄ : State) => s₄.enc.pendingEncodedFrames =
      s₃.enc.pendingEncodedFrames ++
        [s₃.newPending cfg input.sourceTimeNanoseconds forced captureGeneration] ∧
          s₄.session = s₃.session) (.atomic ⟨rfl, rfl⟩) fun _ s₄ hs₄ => .here ⟨rfl, ?_, ?_⟩
    · rw [hs₄.1, List.map_append, List.map_singleton, he, State.newPending, he]
      exact hqueued
    · exact hs₄.2.trans ((session_of_view hview).trans hsession)
  split
  · exact kept_comes (kept_read _) fun _ s₃ hs₃ => hsubmit _ s₃ hs₃
  · exact hsubmit _ s₂ rfl

theorem encodeRenderedFrame_runs (input : RenderInput) (s : State)
    (hactive : s.flags.encoderResourcesActive = s.enc.session.isSome)
    (htexture : input.glTexture = true) :
    (encodeRenderedFrame cfg input).Runs s fun b s' =>
      s'.session = (if s.keeps cfg input then (some (input.width, input.height), true)
        else (none, false)) ∧
      (b = true → s.keeps cfg input = true ∧ input.textureCopied = true ∧
        input.inputMapped = true) ∧
      (s.keeps cfg input = true → input.textureCopied = true → input.inputMapped = true →
        input.outcome = .needMoreInput → b = true) := by
  by_cases hsubmits : s.created input = true ∧ input.textureCopied = true ∧ input.inputMapped = true
  · -- `finishFrame` decides
    obtain ⟨hcreated, hcopied, hmapped⟩ := hsubmits
    rw [State.keeps, hcreated, hcopied, hmapped, Bool.and_self, Bool.not_true, Bool.false_or,
      Bool.true_and]
    apply (encodeRenderedFrame_submits hactive htexture hcreated hcopied hmapped).runs
    rintro _ s' ⟨rfl, hqueued, hsession⟩
    refine (finishFrame_runs _ _ s').mono fun b s'' hfinished => ?_
    rw [hqueued] at hfinished
    obtain ⟨hkeeps, hloses⟩ := hfinished
    cases hk : input.outcome.keeps (s.queued cfg input) with
    | true =>
      obtain ⟨hsame, hmore⟩ := hkeeps hk
      exact ⟨hsame.trans hsession, fun _ => ⟨rfl, rfl, rfl⟩, fun _ _ _ => hmore⟩
    | false =>
      obtain ⟨hnone, hb⟩ := hloses hk
      refine ⟨hnone, fun hf => ?_, fun hf => by cases hf⟩
      rw [hb] at hf
      cases hf
  · unfold encodeRenderedFrame
    rw [htexture, Bool.not_true, if_neg Bool.false_ne_true]
    refine .assoc (.bind (encoderFor_runs input s hactive) ?_)
    rintro b s' ⟨hb, hfailed, hready⟩
    rw [← hb] at hsubmits
    rw [State.keeps, ← hb]
    cases b with
    | false =>
      exact .ret ⟨hfailed rfl, fun hf => absurd hf Bool.false_ne_true, fun hf => by cases hf⟩
    | true =>
      have hfails : (input.textureCopied && input.inputMapped) = false := by
        rw [← Bool.not_eq_true, Bool.and_eq_true]
        exact fun hworks => hsubmits ⟨rfl, hworks⟩
      rw [hfails, Bool.true_and, Bool.not_true, if_neg Bool.false_ne_true, Bool.not_false,
        if_pos rfl]
      refine write_runs (.ret ⟨(hready rfl).1, fun hf => absurd hf Bool.false_ne_true, ?_⟩)
      intro _ hc hm
      rw [hc, hm] at hfails
      cases hfails

/-- `SendH264AccessUnit` is called for this output, with the metadata of the frame that it is of, and
its result is that of `EncodeRenderedFrame` -/
def SendsOutput (cfg : PluginConfig) (input : RenderInput) (timestamp : Nat)
    (bitstream : List UInt8) (sent : Bool) (p : Thread Bool) (s : State) : Prop :=
  ∃ metadata : PendingEncodedFrame, metadata.encoderTimestamp = timestamp ∧
    p = (do
      let sent ← sendH264AccessUnit cfg bitstream (UInt32.ofNat timestamp) metadata
        input.sourceTimeNanoseconds
      countFrame
      return sent) ∧
    ((sendH264AccessUnit cfg bitstream (UInt32.ofNat timestamp) metadata
      input.sourceTimeNanoseconds).solo s).2 = sent

section
variable {input : RenderInput} {timestamp : Nat} {bitstream : List UInt8}

theorem finishFrame_sends (houtcome : input.outcome = .output timestamp bitstream) (s : State)
    (hpaired : input.outcome.keeps (s.enc.pendingEncodedFrames.map (·.encoderTimestamp)) = true) :
    (finishFrame cfg input.sourceTimeNanoseconds input.outcome).Comes s fun p s' =>
      SendsOutput cfg input timestamp bitstream (p.solo s').2 p s' := by
  rw [houtcome, EncodeOutcome.keeps, EncodeOutcome.paired, List.contains_iff_mem,
    List.mem_map] at hpaired
  obtain ⟨frame, hframe, htimestamp⟩ := hpaired
  rw [houtcome]
  refine .bind (Q := fun found _ => found =
    s.enc.pendingEncodedFrames.find? (·.encoderTimestamp == timestamp)) rfl fun found s' hfound => ?_
  cases found with
  | none =>
    have hnone := List.find?_eq_none.mp hfound.symm frame hframe
    rw [htimestamp, beq_self_eq_true] at hnone
    exact absurd rfl hnone
  | some metadata =>
    have hmetadata := List.find?_some hfound.symm
    refine .here ⟨metadata, beq_iff_eq.mp hmetadata, rfl, ?_⟩
    show _ = ((sendH264AccessUnit _ _ _ _ _ >>= fun sent => countFrame >>= fun _ => pure sent).solo
      s').2
    rw [Prog.solo_bind]
    rfl

theorem encodeRenderedFrame_sends {s : State}
    (hactive : s.flags.encoderResourcesActive = s.enc.session.isSome)
    (htexture : input.glTexture = true) (houtcome : input.outcome = .output timestamp bitstream)
    (hkeeps : s.keeps cfg input = true) (hcopied : input.textureCopied = true)
    (hmapped : input.inputMapped = true) :
    (encodeRenderedFrame cfg input).Comes s fun p s' =>
      SendsOutput cfg input timestamp bitstream (p.solo s').2 p s' := by
  rw [State.keeps, hcopied, hmapped, Bool.and_self, Bool.not_true, Bool.false_or,
    Bool.and_eq_true] at hkeeps
  obtain ⟨hcreated, hpaired⟩ := hkeeps
  apply (encodeRenderedFrame_submits hactive htexture hcreated hcopied hmapped).trans
  rintro _ s' ⟨rfl, hqueued, -⟩
  apply finishFrame_sends houtcome
  rw [hqueued]
  exact hpaired

end

end

/-! ## the two models -/

def Nvenc.Session.view (g : Nvenc.Session) : Option (Nat × Nat) × Bool :=
  (if g.has .encoder then some (g.encoderWidth, g.encoderHeight) else none,
    g.encoderResourcesActive)

def Matches (g : Nvenc.Session) (s : State) : Prop := s.session = g.view

def Nvenc.FrameAnswers.Gives (a : Nvenc.FrameAnswers) : EncodeOutcome → Prop
  | .error => a.encodePicture = .error
  | .needMoreInput => a.encodePicture = .needMoreInput
  | .lockFailed => a.encodePicture = .success ∧ a.lockBitstream = false
  | .output _ _ => a.encodePicture = .success ∧ a.lockBitstream = true

/-- the answers of the driver are those that the input stands for, and `EncodeRenderedFrame` decides
in both models alike -/
structure Nvenc.FrameAnswers.Agrees (cfg : PluginConfig) (a : Nvenc.FrameAnswers)
    (g : Nvenc.Session) (s : State) (input : RenderInput) : Prop where
  texture : input.glTexture = true
  width : a.width = input.width
  height : a.height = input.height
  available : input.encoderAvailable = a.creation.works g.glewInitialized
  copied : input.textureCopied = (a.framebuffersComplete && a.copied)
  mapped : input.inputMapped = a.mapInputResource
  gives : a.Gives input.outcome
  timeWentBack : a.timeWentBack = s.enc.timeWentBack input.sourceTimeNanoseconds
  paired : a.paired = input.outcome.paired (s.queued cfg input)
  overdue : a.overdue = decide (kMaximumPendingEncodedFrames < (s.queued cfg input).length)

section
variable {cfg : PluginConfig} {g : Nvenc.Session} {s : State} {a : Nvenc.FrameAnswers}
  {input : RenderInput}

theorem Matches.active (hm : Matches g s) (hg : g.Resting) :
    s.flags.encoderResourcesActive = s.enc.session.isSome := by
  obtain ⟨hsession, hactive⟩ := Prod.mk.inj hm
  rw [hactive, ← hg.has_encoder]
  cases hs : s.enc.session <;> rw [hs] at hsession <;> cases he : g.has .encoder <;>
    rw [he] at hsession
  · rfl
  · cases hsession
  · cases hsession
  · rfl

theorem Matches.ready (hm : Matches g s) (width height : Nat) :
    s.enc.ready width height = g.fits width height := by
  obtain ⟨hsession, -⟩ := Prod.mk.inj hm
  unfold Encoder.ready Nvenc.Session.fits
  cases hs : s.enc.session with
  | none =>
    rw [hs] at hsession
    cases he : g.has .encoder with
    | false => rfl
    | true =>
      rw [he] at hsession
      cases hsession
  | some session =>
    rw [hs] at hsession
    cases he : g.has .encoder with
    | false =>
      rw [he] at hsession
      cases hsession
    | true =>
      rw [he] at hsession
      obtain ⟨hw, hh⟩ := Prod.mk.inj (Option.some.inj hsession)
      rw [← hw, ← hh]
      rfl

theorem Nvenc.FrameAnswers.Agrees.created (h : a.Agrees cfg g s input) (hg : g.Resting)
    (hm : Matches g s) : a.created g = s.created input := by
  have hglew : (g.observed a.timeWentBack).glewInitialized = g.glewInitialized := by
    unfold Nvenc.Session.observed
    split
    · exact Nvenc.destroyEncoder_glewInitialized g
    · rfl
  have hfits : (g.observed a.timeWentBack).fits a.width a.height =
      (!a.timeWentBack && g.fits a.width a.height) := by
    cases a.timeWentBack with
    | false => rfl
    | true =>
      obtain ⟨l, howns, hmapped, hlocked⟩ := hg.owns
      have hnone := (howns.destroyEncoder hmapped hlocked).holding.has_not (s := .encoder) (by simp)
      show (g.destroyEncoder.has .encoder && _ && _) = false
      rw [Nvenc.Session.has, hnone]
      rfl
  rw [Nvenc.FrameAnswers.created, State.created, hfits, hglew, ← hm.ready, h.width, h.height,
    h.timeWentBack, h.available]

theorem Nvenc.FrameAnswers.Agrees.keeps (h : a.Agrees cfg g s input) (hg : g.Resting)
    (hm : Matches g s) : (a.created g && (!(a.framebuffersComplete && a.copied) || a.keeps)) =
      s.keeps cfg input := by
  rw [State.keeps, h.created hg hm, h.copied, h.mapped, Nvenc.FrameAnswers.keeps]
  have hgives := h.gives
  have hpaired := h.paired
  have hoverdue := h.overdue
  congr 1
  cases ho : input.outcome with
  | error =>
    rw [ho] at hgives
    rw [show a.encodePicture = .error from hgives]
    cases a.framebuffersComplete && a.copied <;> cases a.mapInputResource <;> rfl
  | needMoreInput =>
    rw [ho] at hgives
    have hnot : (!decide (kMaximumPendingEncodedFrames < (s.queued cfg input).length)) =
        decide ((s.queued cfg input).length ≤ kMaximumPendingEncodedFrames) := by
      rw [← decide_not, decide_eq_decide]
      omega
    rw [show a.encodePicture = .needMoreInput from hgives, hoverdue, EncodeOutcome.keeps, ← hnot]
    cases a.framebuffersComplete && a.copied <;> cases a.mapInputResource <;> rfl
  | lockFailed =>
    rw [ho] at hgives
    rw [show a.encodePicture = .success from hgives.1, hgives.2]
    cases a.framebuffersComplete && a.copied <;> cases a.mapInputResource <;> rfl
  | output timestamp bitstream =>
    rw [ho] at hgives hpaired
    rw [show a.encodePicture = .success from hgives.1, hgives.2, hpaired]
    cases a.framebuffersComplete && a.copied <;> cases a.mapInputResource <;> rfl

theorem Nvenc.FrameAnswers.Agrees.result (h : a.Agrees cfg g s input) (hg : g.Resting)
    (hm : Matches g s) {sent : Bool} (hsent : sent = true → s.keeps cfg input = true ∧
      input.textureCopied = true ∧ input.inputMapped = true)
    (hmore : s.keeps cfg input = true → input.textureCopied = true → input.inputMapped = true →
      input.outcome = .needMoreInput → sent = true) :
    (a.created g && a.framebuffersComplete && a.copied &&
      Nvenc.FrameAnswers.submits { a with sent := sent }) = sent := by
  have hkeeps := h.keeps hg hm
  have hgives := h.gives
  have hcopied := h.copied
  have hmapped := h.mapped
  rw [← hkeeps, hcopied, hmapped] at hsent hmore
  rw [Bool.and_assoc (a.created g)]
  have hfalse {k : Bool} (hk : k = false) (himp : sent = true → k = true) : false = sent := by
    cases sent with
    | false => rfl
    | true => exact absurd (himp rfl) (by rw [hk]; exact Bool.false_ne_true)
  cases hc : a.created g with
  | false =>
    rw [hc] at hsent
    exact hfalse rfl fun hs => (hsent hs).1
  | true =>
  cases hcp : a.framebuffersComplete && a.copied with
  | false =>
    rw [hcp] at hsent
    exact hfalse rfl fun hs => (hsent hs).2.1
  | true =>
  cases hmp : a.mapInputResource with
  | false =>
    rw [hmp] at hsent
    exact hfalse rfl fun hs => (hsent hs).2.2
  | true =>
  rw [hc, hcp] at hsent hmore
  simp only [Nvenc.FrameAnswers.keeps, Nvenc.FrameAnswers.submits, hmp, Bool.true_and,
    Bool.not_true, Bool.false_or, true_implies] at hsent hmore ⊢
  cases ho : input.outcome with
  | error =>
    rw [ho] at hgives
    rw [show a.encodePicture = .error from hgives] at hsent ⊢
    exact hfalse rfl fun hs => (hsent hs).1
  | lockFailed =>
    rw [ho] at hgives
    rw [show a.encodePicture = .success from hgives.1] at hsent ⊢
    rw [hgives.2] at hsent ⊢
    exact hfalse rfl fun hs => (hsent hs).1
  | output timestamp bitstream =>
    rw [ho] at hgives
    rw [show a.encodePicture = .success from hgives.1] at hsent ⊢
    rw [hgives.2] at hsent ⊢
    cases hp : a.paired with
    | false =>
      rw [hp] at hsent
      exact hfalse rfl fun hs => (hsent hs).1
    | true => rfl
  | needMoreInput =>
    rw [ho] at hgives
    rw [show a.encodePicture = .needMoreInput from hgives] at hsent hmore ⊢
    cases hover : a.overdue with
    | true =>
      rw [hover] at hsent
      exact hfalse rfl fun hs => (hsent hs).1
    | false =>
      rw [hover] at hmore
      exact (hmore rfl ho).symm

/-- **The calls under the model.**  From matching states, `EncodeRenderedFrame` returns the same in
the model of the plugin and over the driver, whose answers the input of the former stands for, and
the states match again.  Where an output is paired with its frame, `sent` is what
`SendH264AccessUnit` returns for it. -/
theorem encodeRenderedFrame_refines (hg : g.Resting) (hm : Matches g s)
    (hdoc : a.creation.Documented) (h : a.Agrees cfg g s input) :
    ∃ sent g', Nvenc.encodeRenderedFrame { a with sent := sent } g =
        (.ok ((encodeRenderedFrame cfg input).solo s).2, g') ∧
      Matches g' ((encodeRenderedFrame cfg input).solo s).1 ∧
      ∀ timestamp bitstream, input.outcome = .output timestamp bitstream →
        s.keeps cfg input = true → input.textureCopied = true → input.inputMapped = true →
          (encodeRenderedFrame cfg input).Comes s
            (SendsOutput cfg input timestamp bitstream sent) := by
  obtain ⟨hsession, hsent, hmore⟩ := @encodeRenderedFrame_runs cfg input s (hm.active hg) h.texture
  have hleft := Nvenc.encodeRenderedFrame_left (a := { a with sent :=
    ((encodeRenderedFrame cfg input).solo s).2 }) hg hdoc
  refine ⟨((encodeRenderedFrame cfg input).solo s).2, ?_⟩
  rcases hleft.cases with ⟨b, g', hrun, hb⟩ | ⟨e, -⟩
  · have hresult := hb.result.trans (h.result hg hm hsent hmore)
    refine ⟨g', by rw [hrun, hresult], ?_, fun timestamp bitstream houtcome hk hc hmp =>
      .result (R := SendsOutput cfg input timestamp bitstream)
        (encodeRenderedFrame_sends (hm.active hg) h.texture houtcome hk hc hmp)⟩
    have hkeeps := h.keeps hg hm
    rw [Matches, hsession, ← hkeeps]
    cases hk : a.created g && (!(a.framebuffersComplete && a.copied) || a.keeps) with
    | true =>
      obtain ⟨hready, hw, hh⟩ := hb.ready hk
      rw [if_pos rfl, Nvenc.Session.view, Nvenc.Session.Resting.has_encoder (.inl hready),
        hready.active, if_pos rfl, hw, hh, h.width, h.height]
    | false =>
      have hidle := hb.idle hk
      rw [if_neg Bool.false_ne_true, Nvenc.Session.view,
        Nvenc.Session.Resting.has_encoder (.inr hidle), hidle.active, if_neg Bool.false_ne_true]
  · cases e

end

def RenderInput.sample : RenderInput :=
  ⟨1, true, 640, 480, true, true, true, .output 0 idrUnit, idleCapture 1⟩

theorem encodeRenderedFrame_refines_sample :
    ∃ sent g', Nvenc.encodeRenderedFrame { Nvenc.FrameAnswers.sample with sent := sent } .initial =
        (.ok true, g') ∧ g'.view = (some (640, 480), true) ∧
      (encodeRenderedFrame .sample .sample).Comes PluginState.sample.shared
        (SendsOutput .sample .sample 0 idrUnit sent) := by
  have hagrees : Nvenc.FrameAnswers.sample.Agrees .sample .initial PluginState.sample.shared .sample :=
    ⟨rfl, rfl, rfl, rfl, rfl, rfl, ⟨rfl, rfl⟩, rfl, by decide +kernel, by decide +kernel⟩
  have hmatches : Matches .initial PluginState.sample.shared := rfl
  obtain ⟨sent, g', hrun, hm, hsends⟩ := encodeRenderedFrame_refines
    (.inr Nvenc.Session.initial_idle) hmatches ⟨fun _ _ => rfl, fun _ => rfl⟩ hagrees
  refine ⟨sent, g', ?_, ?_, hsends 0 idrUnit rfl (by decide +kernel) rfl rfl⟩
  · rw [hrun]
    have hresult : ((encodeRenderedFrame .sample .sample).solo PluginState.sample.shared).2 = true := by
      decide +kernel
    rw [hresult]
  · rw [← show _ = g'.view from hm]
    decide +kernel

end MediaCamera
