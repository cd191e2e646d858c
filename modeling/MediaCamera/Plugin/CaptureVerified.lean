import MediaCamera.Plugin.RenderRules

/-!
# The captures on the render thread

`CaptureSnapshot` takes no other steps than the moves of `RenderCapture`.  Between its sections the
render thread knows what it read of its own callback (`Rendered`), and that nobody else works for
the capture (`Snapshot.Resting`).

* `queueSnapshotEncode_triple`   the queue of the JPEG worker is never full;
* `pollSnapshotPBOReadback_triple`, `readBackSnapshot_triple`   the two readbacks;
* `captureSnapshot_triple`       `CaptureSnapshot` in its callback.
-/

namespace MediaCamera

open Contract

/-! ## what the others leave -/

section
variable {s s' : Snapshot}

theorem Snapshot.RenderSame.mem (h : s.RenderSame s') {e : CaptureEvent} (he : e ∈ s.trail) :
    e ∈ s'.trail := by
  obtain ⟨new, htrail, _⟩ := h.trail
  rw [htrail]
  exact List.mem_append_right _ he

theorem Snapshot.RenderSame.back (h : s.RenderSame s') {e : CaptureEvent} (he : e ∈ s'.trail)
    (hby : e.byRender = true) : e ∈ s.trail := by
  obtain ⟨new, htrail, hnew⟩ := h.trail
  rw [htrail] at he
  rcases List.mem_append.mp he with he | he
  · exact absurd (hnew e he) (by simp [hby])
  · exact he

theorem lastIssued_append {new trail : List CaptureEvent} (hnew : ∀ e ∈ new, e.byRender = false) :
    lastIssued (new ++ trail) = lastIssued trail := by
  induction new with
  | nil => rfl
  | cons e new ih =>
    have ih := ih fun e' he' => hnew e' (List.mem_cons_of_mem _ he')
    have he := hnew e List.mem_cons_self
    cases e with
    | issued => cases he
    | _ => exact ih

theorem Snapshot.RenderSame.lastIssued (h : s.RenderSame s') :
    MediaCamera.lastIssued s'.trail = MediaCamera.lastIssued s.trail := by
  obtain ⟨new, htrail, hnew⟩ := h.trail
  rw [htrail]
  exact lastIssued_append hnew

theorem Snapshot.RenderSame.taken (h : s.RenderSame s') {r : SnapshotResult}
    (hr : r.TakenFrom s.trail) : r.TakenFrom s'.trail := by
  obtain ⟨new, htrail, _⟩ := h.trail
  rw [htrail]
  exact hr.mono new

theorem Snapshot.RenderSame.read (h : s.RenderSame s') {r : SnapshotResult}
    (hr : r.ReadFrom s.trail) : r.ReadFrom s'.trail := by
  obtain ⟨new, htrail, _⟩ := h.trail
  rw [htrail]
  exact hr.mono new

end

/-! ## the rules -/

section
variable {cfg : PluginConfig} {α : Type}

theorem stable_snap {P : Snapshot → Prop} (h : ∀ s s' : Snapshot, s.RenderSame s' → P s → P s') :
    (renderContract cfg).Stable fun s => P s.snap :=
  fun s s' hr _ hs => h s.snap s'.snap (RenderRely.snap hr) hs

theorem stable_carried (r : SnapshotResult) :
    (renderContract cfg).Stable fun s => s.snap.carried = some r :=
  stable_snap fun _ _ h hs => h.carried.trans hs

theorem stable_snapRead (r : SnapshotResult) :
    (renderContract cfg).Stable fun s => r.ReadFrom s.snap.trail :=
  stable_snap fun _ _ h => h.read

theorem render_capture {P : State → Prop} {Q : α → State → Prop} {l : Label}
    {f : State → State × α} (hP : (renderContract cfg).Stable P)
    (hQ : ∀ a, (renderContract cfg).Stable (Q a))
    (h : ∀ s, Books cfg s → P s → ∃ snap, (f s).1 = { s with snap := snap } ∧
      RenderCapture s.view.renderFrameSequence l s.snap snap ∧ Q (f s).2 (f s).1) :
    (renderContract cfg).Triple (fun s => Idle .rendering s ∧ P s) (.atomic l f)
      fun a s => Idle .rendering s ∧ Q a s := by
  have hidle : Local cfg (Idle .rendering) := local_idle .rendering
  refine render_step (hidle.stable.and hP) (fun a => hidle.stable.and (hQ a)) fun s hI hs => ?_
  obtain ⟨snap, e, hmove, hpost⟩ := h s hI hs.2
  rw [e] at hpost ⊢
  exact ⟨.rest (.capture hmove), hidle.rest l s _ (.capture hmove) hs.1, hpost⟩

theorem render_captured {P : State → Prop} {l : Label} {f : State → State × Unit}
    (hP : (renderContract cfg).Stable P)
    (h : ∀ s, Books cfg s → P s → ∃ snap, (f s).1 = { s with snap := snap } ∧
      RenderCapture s.view.renderFrameSequence l s.snap snap) :
    (renderContract cfg).Triple (fun s => Idle .rendering s ∧ P s) (.atomic l f)
      fun _ => Idle .rendering := by
  refine (render_capture (Q := fun _ _ => True) hP (fun _ => .true) fun s hI hs => ?_).post
    fun _ _ h => h.1
  obtain ⟨snap, e, hmove⟩ := h s hI hs
  exact ⟨snap, e, hmove, trivial⟩

theorem idle_ret {P : State → Prop} (hP : (renderContract cfg).Stable P) :
    (renderContract cfg).Triple (fun s => Idle .rendering s ∧ P s) (pure ()) fun _ => Idle .rendering :=
  .ret ((local_idle .rendering).stable.and hP) fun _ _ h => h.1

/-! ## the queue of the worker -/

theorem CaptureInv.queues {index : Nat} {s : Snapshot} (h : CaptureInv index s)
    {r : SnapshotResult} (hcarried : s.carried = some r) : (s.queueEncode r).2 = true := by
  obtain ⟨_, _, _, hjob, _⟩ := h.phase.carries hcarried
  rw [Snapshot.queueEncode, if_neg]
  simp [h.running, hjob]

theorem queueSnapshotEncode_triple (r : SnapshotResult) :
    (renderContract cfg).Triple
      (fun s => Idle .rendering s ∧ s.snap.carried = some r ∧ r.ReadFrom s.snap.trail)
      (queueSnapshotEncode r) fun _ => Idle .rendering := by
  refine .bind (Q := fun queued s => Idle .rendering s ∧ queued = true) (render_capture
    ((stable_carried r).and (stable_snapRead r)) (fun _ => .const _) fun s hI h =>
      ⟨_, rfl, .queueEncode h.1 h.2, hI.captures.queues h.1⟩) fun queued => ?_
  cases queued with
  | true => exact idle_ret (.const _)
  | false => exact fun s h => by cases h.2

/-! ## the asynchronous readback -/

theorem pollSnapshotPBOReadback_triple (poll : PboPoll) :
    (renderContract cfg).Triple (Idle .rendering) (pollSnapshotPBOReadback poll)
      fun _ => Idle .rendering := by
  have hresult : ∀ r, (renderContract cfg).Stable fun s => s.snap.snapshotReadbackResult = r :=
    fun r => stable_snap fun _ _ h hs => h.result.trans hs
  refine .bind (Q := fun r s => Idle .rendering s ∧ s.snap.snapshotReadbackResult = r)
    (render_step (local_idle .rendering).stable (fun r => (local_idle .rendering).stable.and (hresult r))
      fun _ _ h => ⟨.rest .poll, h, rfl⟩) fun r => ?_
  cases r with
  | none => exact render_captured (hresult none) fun s _ h => ⟨_, rfl, .dropReadback h⟩
  | some r =>
    cases poll with
    | timeout => exact idle_ret (hresult _)
    | failed reason =>
      refine .bind (Q := fun _ s => Idle .rendering s ∧ s.snap.carried = some r) (render_capture
        (hresult _) (fun _ => stable_carried r) fun s _ h => ⟨_, rfl, .readbackFailed h, rfl⟩) fun _ => ?_
      refine .bind (Q := fun _ s => Idle .rendering s ∧ s.snap.carried = some r) (render_capture
        (stable_carried r) (fun _ => stable_carried r) fun s _ h => ⟨_, rfl, .unavailable reason, h⟩)
        fun _ => ?_
      exact render_captured (stable_carried r) fun s _ h => ⟨_, rfl, .rearm h⟩
    | copied rgb =>
      refine .bind (Q := fun _ s => Idle .rendering s ∧ s.snap.carried = some { r with rgb := rgb } ∧
        SnapshotResult.ReadFrom { r with rgb := rgb } s.snap.trail) (render_capture (hresult _)
        (fun _ => (stable_carried _).and (stable_snapRead _)) fun s hI h => ⟨_, rfl, .mapped rgb h, rfl, ?_⟩)
        fun _ => queueSnapshotEncode_triple _
      obtain ⟨_, _, _, _, hissued⟩ := hI.captures.phase.readsBack h
      exact .inr ⟨[], s.snap.trail, rfl, hissued⟩

/-! ## the readback of a frame -/

/-- a result that was frozen in the present callback, while nobody works for the capture -/
structure Frozen (r : SnapshotResult) (s : State) : Prop where
  resting : s.snap.Resting
  taken : r.TakenFrom s.snap.trail
  index : r.frameSequence = s.view.renderFrameSequence

theorem stable_frozen (r : SnapshotResult) : (renderContract cfg).Stable (Frozen r) := by
  intro s s' h _ hs
  have hsnap : s.snap.RenderSame s'.snap := RenderRely.snap h
  refine ⟨hsnap.resting hs.resting, hsnap.taken hs.taken, ?_⟩
  rw [RenderRely.view h]
  exact hs.index

theorem completeSnapshotFailure_triple {P : State → Prop} (hP : (renderContract cfg).Stable P)
    (hresting : ∀ s, P s → s.snap.Resting) (work : Nat) (error : String) :
    (renderContract cfg).Triple (fun s => Idle .rendering s ∧ P s)
      (completeSnapshotFailure work error) fun _ => Idle .rendering :=
  render_captured hP fun s _ h => ⟨_, rfl, .fail work error (hresting s h)⟩

theorem captureSnapshotSynchronously_triple (r : SnapshotResult)
    (readback : Except String (List UInt8)) :
    (renderContract cfg).Triple (fun s => Idle .rendering s ∧ Frozen r s)
      (captureSnapshotSynchronously r readback) fun _ => Idle .rendering := by
  unfold captureSnapshotSynchronously
  split
  · exact completeSnapshotFailure_triple (stable_frozen r) (fun _ h => h.resting) _ _
  rename_i rgb
  have hpost : ∀ submitted : Bool, (renderContract cfg).Stable fun s => submitted = true →
      s.snap.carried = some { r with jpegReadback := "synchronous-cpu", rgb := rgb } ∧
        SnapshotResult.ReadFrom { r with jpegReadback := "synchronous-cpu", rgb := rgb }
          s.snap.trail :=
    fun submitted s s' hr hI h hs =>
      ((stable_carried _).and (stable_snapRead _)) s s' hr hI (h hs)
  refine .bind (Q := fun submitted s => Idle .rendering s ∧ (submitted = true →
      s.snap.carried = some { r with jpegReadback := "synchronous-cpu", rgb := rgb } ∧
        SnapshotResult.ReadFrom { r with jpegReadback := "synchronous-cpu", rgb := rgb }
          s.snap.trail)) (render_capture (stable_frozen r) hpost fun s _ h => ⟨_, rfl, ?_, ?_⟩)
    fun submitted => .ite (fun hsubmitted => (queueSnapshotEncode_triple _).pre fun s h =>
      ⟨h.1, h.2 hsubmitted⟩) fun _ => idle_ret (hpost submitted)
  · exact .synchronous h.resting (h.taken.congr rfl) h.index
  · unfold Snapshot.submit
    split
    · refine fun _ => ⟨rfl, .inl ?_⟩
      rw [show r.frameSequence = s.view.renderFrameSequence from h.index]
      exact List.mem_cons_self
    · exact fun hno => by cases hno

theorem issueSnapshotPBOReadback_triple (r : SnapshotResult) :
    (renderContract cfg).Triple (fun s => Idle .rendering s ∧ Frozen r s) (issueSnapshotPBOReadback r)
      fun _ => Idle .rendering := by
  have hpost : ∀ submitted : Bool, (renderContract cfg).Stable fun s => submitted = true →
      s.snap.carried = some r ∧ lastIssued s.snap.trail = some r.frameSequence :=
    fun submitted => stable_snap (P := fun snap => submitted = true →
      snap.carried = some r ∧ lastIssued snap.trail = some r.frameSequence) fun _ _ h hs hyes =>
        ⟨h.carried.trans (hs hyes).1, h.lastIssued.trans (hs hyes).2⟩
  refine .bind (Q := fun submitted s => Idle .rendering s ∧ (submitted = true →
      s.snap.carried = some r ∧ lastIssued s.snap.trail = some r.frameSequence))
    (render_capture (stable_frozen r) hpost fun s _ h => ⟨_, rfl, .issued h.resting h.taken h.index, ?_⟩)
    fun submitted => .ite (fun hsubmitted => render_captured (hpost submitted) fun s _ h =>
      ⟨_, rfl, .startReadback (h hsubmitted).1 (h hsubmitted).2⟩) fun _ => idle_ret (hpost submitted)
  unfold Snapshot.submit
  split
  · exact fun _ => ⟨rfl, congrArg some h.index.symm⟩
  · exact fun hno => by cases hno

theorem Frozen.withReason {r : SnapshotResult} {s : State} (h : Frozen r s) (reason : String) :
    Frozen { r with jpegFallbackReason := reason } s :=
  ⟨h.resting, h.taken.congr rfl, h.index⟩

theorem readBackSnapshot_triple (r : SnapshotResult) (input : CaptureInput) :
    (renderContract cfg).Triple (fun s => Idle .rendering s ∧ Frozen r s) (readBackSnapshot r input)
      fun _ => Idle .rendering := by
  have hfrozen : (renderContract cfg).Stable fun s => Idle .rendering s ∧ Frozen r s :=
    (local_idle .rendering).stable.and (stable_frozen r)
  refine .bind (render_look hfrozen) fun available => ?_
  split
  · exact issueSnapshotPBOReadback_triple r
  · refine .bind (render_capture (Q := fun _ => Frozen r) (stable_frozen r)
      (fun _ => stable_frozen r) fun s _ h => ⟨_, rfl, .notIssued r _, ?_⟩) fun _ => ?_
    · exact ⟨⟨h.resting.pending, h.resting.result, h.resting.carried, h.resting.job,
        h.resting.encoding⟩, h.taken, h.index⟩
    · exact (captureSnapshotSynchronously_triple _ _).pre fun s h => ⟨h.1, h.2.withReason _⟩
  · exact .bind (render_look hfrozen) fun reason =>
      (captureSnapshotSynchronously_triple _ _).pre fun s h => ⟨h.1, h.2.withReason _⟩

/-! ## CaptureSnapshot -/

/-- the callback has begun with its view, and no capture was passed in it or later -/
structure Rendered (view : RenderedView) (s : State) : Prop where
  callback : .callback s.view.renderFrameSequence view s.nat.jpegQuality ∈ s.snap.trail
  passed : ∀ generation index, .passed generation index ∈ s.snap.trail →
    index < s.view.renderFrameSequence

theorem stable_rendered (view : RenderedView) : (renderContract cfg).Stable (Rendered view) := by
  intro s s' h _ hs
  have hsnap : s.snap.RenderSame s'.snap := RenderRely.snap h
  constructor
  · rw [RenderRely.view h, RenderRely.jpegQuality h]
    exact hsnap.mem hs.callback
  · intro generation index hpassed
    rw [RenderRely.view h]
    exact hs.passed generation index (hsnap.back hpassed rfl)

/-- a picked capture: named, with an earlier callback that let it wait, and nobody works for it -/
structure Picked (view : RenderedView) (r : SnapshotResult) (s : State) : Prop where
  resting : s.snap.Resting
  rendered : Rendered view s
  id : r.id ≠ ""
  later : ∃ index, index < s.view.renderFrameSequence ∧ .passed r.generation index ∈ s.snap.trail
  plain : r = { SnapshotResult.empty with
    id := r.id, generation := r.generation, includeRGB := r.includeRGB }

theorem stable_picked (view : RenderedView) (r : SnapshotResult) :
    (renderContract cfg).Stable (Picked view r) := by
  intro s s' h hI hs
  have hsnap : s.snap.RenderSame s'.snap := RenderRely.snap h
  obtain ⟨index, hlt, hpassed⟩ := hs.later
  refine ⟨hsnap.resting hs.resting, stable_rendered view s s' h hI hs.rendered, hs.id,
    ⟨index, ?_, hsnap.mem hpassed⟩, hs.plain⟩
  rw [RenderRely.view h]
  exact hlt

theorem frameToCapture_picked {s : State} (hI : Books cfg s) {view : RenderedView}
    (h : Rendered view s) {r : SnapshotResult}
    (hr : (s.snap.frameToCapture s.view.renderFrameSequence).2 = some r) :
    Picked view r
      { s with snap := (s.snap.frameToCapture s.view.renderFrameSequence).1 } := by
  revert hr
  unfold Snapshot.frameToCapture
  split
  · exact fun hr => by cases hr
  rename_i hwants
  split
  · exact fun hr => by cases hr
  rename_i hskip
  intro hr
  obtain rfl := Option.some.inj hr
  have hwants : s.snap.wantsFrame = true := by simpa using hwants
  simp only [Snapshot.wantsFrame, Bool.and_eq_true, bne_iff_ne, Bool.not_eq_true'] at hwants
  obtain ⟨⟨hid, _⟩, hsubmitted⟩ := hwants
  obtain ⟨index, hpassed⟩ := hI.captures.passed hid (by omega)
  exact ⟨hI.captures.phase.rests (.inl hsubmitted), h, hid,
    ⟨index, h.passed _ index hpassed, hpassed⟩, rfl⟩

theorem freeze_shows (r : SnapshotResult) (view : RenderedView) (frameSequence : Nat)
    (jpegQuality : Int) (hmatrix : r.cameraMatrix = List.replicate 9 (.finite 0))
    (hvalid : r.calibrationValid = false)
    (hdistortion : r.distortion = List.replicate 5 (.finite 0)) :
    (r.freeze view frameSequence jpegQuality).Shows view jpegQuality := by
  refine ⟨rfl, rfl, rfl, rfl, rfl, rfl, rfl, ?_, ?_, ?_⟩
  · show view.projection.getD r.cameraMatrix = _
    rw [hmatrix]
  · show (view.projection.map projectionValid).getD r.calibrationValid = _
    rw [hvalid]
    cases view.projection <;> rfl
  · show (if view.projection.isSome then view.distortion.getD r.distortion else r.distortion) = _
    rw [hdistortion]
    cases view.projection <;> rfl

theorem Picked.freeze {view : RenderedView} {r : SnapshotResult} {s : State}
    (h : Picked view r s) :
    Frozen (r.freeze view s.view.renderFrameSequence s.nat.jpegQuality) s := by
  refine ⟨h.resting, ⟨h.id, ⟨view, s.nat.jpegQuality, h.rendered.callback, ?_⟩, h.later⟩, rfl⟩
  rw [h.plain]
  exact freeze_shows _ view s.view.renderFrameSequence s.nat.jpegQuality rfl rfl rfl

theorem captureSnapshot_triple (input : CaptureInput) :
    (renderContract cfg).Triple (fun s => Idle .rendering s ∧ Rendered input.view s)
      (captureSnapshot input) fun _ => Idle .rendering := by
  have hidle : (renderContract cfg).Stable (Idle .rendering) := (local_idle .rendering).stable
  have hrendered : (renderContract cfg).Stable (Rendered input.view) := stable_rendered _
  have hpending : ∀ pending, (renderContract cfg).Stable fun s =>
      s.snap.snapshotReadbackPending = pending :=
    fun pending => stable_snap fun _ _ h hs => h.pending.trans hs
  refine .bind (Q := fun pending s => Idle .rendering s ∧ Rendered input.view s ∧
    s.snap.snapshotReadbackPending = pending) (render_read (hidle.and hrendered)
      (fun pending => hidle.and (hrendered.and (hpending pending)))
      fun _ _ h => ⟨h.1, h.2, rfl⟩) fun pending => ?_
  cases pending with
  | true => exact (pollSnapshotPBOReadback_triple _).pre fun _ h => h.1
  | false =>
  have hpicked : ∀ r, (renderContract cfg).Stable (Picked input.view r) := stable_picked input.view
  have hpost : ∀ frame : Option SnapshotResult, (renderContract cfg).Stable fun s =>
      ∀ r, frame = some r → Picked input.view r s :=
    fun _ s s' hr hI h r e => hpicked r s s' hr hI (h r e)
  refine .bind (Q := fun frame s => Idle .rendering s ∧ ∀ r, frame = some r → Picked input.view r s)
    (render_capture (hrendered.and (hpending false)) hpost fun s hI h =>
      ⟨_, rfl, .frame h.2 h.1.passed, fun r hr => frameToCapture_picked hI h.1 hr⟩) fun frame => ?_
  split
  · exact idle_ret (hpost none)
  rename_i r
  refine Triple.pre (P := fun s => Idle .rendering s ∧ Picked input.view r s) ?_ fun s h =>
    ⟨h.1, h.2 r rfl⟩
  refine .ite (fun _ => ?_) fun _ => .ite (fun _ => ?_) fun _ => ?_
  · exact completeSnapshotFailure_triple (hpicked r) (fun _ h => h.resting) _ _
  · exact completeSnapshotFailure_triple (hpicked r) (fun _ h => h.resting) _ _
  refine .bind (Q := fun sequence s => Idle .rendering s ∧ Picked input.view r s ∧
    s.view.renderFrameSequence = sequence) (render_read (hidle.and (hpicked r)) (fun sequence =>
      hidle.and ((hpicked r).and (.of_eq (fun _ _ h => RenderRely.view h)
        (·.renderFrameSequence = sequence)))) fun _ _ h => ⟨h.1, h.2, rfl⟩) fun sequence => ?_
  have hsequence : (renderContract cfg).Stable fun s => Idle .rendering s ∧ Picked input.view r s ∧
      s.view.renderFrameSequence = sequence :=
    hidle.and ((hpicked r).and (.of_eq (fun _ _ h => RenderRely.view h)
      (·.renderFrameSequence = sequence)))
  refine .bind (Q := fun quality s => Idle .rendering s ∧
    Frozen (r.freeze input.view sequence quality) s) (render_read hsequence (fun quality =>
      hidle.and (stable_frozen _)) fun s _ h => ⟨h.1, ?_⟩) fun quality => readBackSnapshot_triple _ _
  rw [← h.2.2]
  exact h.2.1.freeze

end

end MediaCamera
