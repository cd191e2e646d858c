import MediaCamera.Plugin.Verified

/-!
# What a capture carries, and what makes it fail

* `CapturedIn`          everything that a result shows was taken in one callback, whose render began
                        after the admission that the result names;
* `capture_same_frame`  every successful capture is such a result, in the snapshot and in the reply;
* `OwnFailure`, `own_failures`   a capture fails only for its own reasons in the runs in which a
                        failure before the submission finds the capture that it is about.
-/

namespace MediaCamera

/-! ## one callback -/

namespace SnapshotResult

/-- the result is that of the capture admitted for the reply `handle` under its generation and id;
it shows one callback, whose readback gave `pixels`, and before that callback began another one had
let the capture wait, after its admission -/
def CapturedIn (r : SnapshotResult) (handle : Nat) (pixels : List UInt8)
    (trail : List CaptureEvent) : Prop :=
  ∃ view quality index,
    r.Shows view quality ∧
    Before trail (.opened handle r.generation r.id) (.passed r.generation index) ∧
    Before trail (.passed r.generation index) (.callback r.frameSequence view quality) ∧
    (Before trail (.callback r.frameSequence view quality)
        (.synchronous r.frameSequence pixels) ∨
      ∃ newer between older,
        trail = newer ++ .mapped pixels :: (between ++ .issued r.frameSequence :: older) ∧
        (∀ index', .issued index' ∉ between) ∧
        .callback r.frameSequence view quality ∈ older)

/-- a result that the JPEG worker delivered from the pixels of its callback -/
def SameFrame (r : SnapshotResult) (handle : Nat) (trail : List CaptureEvent) : Prop :=
  ∃ job newer older, trail = newer ++ .encoded job :: older ∧
    job.id = r.id ∧ job.generation = r.generation ∧
    r.rgb = (if r.includeRGB then job.rgb else []) ∧
    r.CapturedIn handle job.rgb older

end SnapshotResult

section
variable {trail : List CaptureEvent} {index : Nat} {view view' : RenderedView}
  {quality quality' : Int}

theorem callback_unique (h : Justified CaptureEvent.Warranted trail)
    (hmem : .callback index view quality ∈ trail)
    (hmem' : .callback index view' quality' ∈ trail) : view' = view ∧ quality' = quality := by
  induction trail with
  | nil => cases hmem
  | cons e trail ih =>
    rcases List.mem_cons.mp hmem with rfl | hold
    · rcases List.mem_cons.mp hmem' with e | hold'
      · cases e
        exact ⟨rfl, rfl⟩
      · exact absurd (h.1 (.callback index view' quality') hold' index rfl) (lt_irrefl index)
    · rcases List.mem_cons.mp hmem' with rfl | hold'
      · exact absurd (h.1 (.callback index view quality) hold index rfl) (lt_irrefl index)
      · exact ih h.2 hold hold'

/-- a generation is admitted once, for one reply and one id -/
theorem opened_unique (h : Justified CaptureEvent.Warranted trail) {handle handle' generation : Nat}
    {id id' : String} (hmem : .opened handle generation id ∈ trail)
    (hmem' : .opened handle' generation id' ∈ trail) : handle' = handle ∧ id' = id := by
  induction trail with
  | nil => cases hmem
  | cons e trail ih =>
    rcases List.mem_cons.mp hmem with rfl | hold
    · rcases List.mem_cons.mp hmem' with e | hold'
      · cases e
        exact ⟨rfl, rfl⟩
      · exact absurd (h.1 handle' generation id' hold') (lt_irrefl generation)
    · rcases List.mem_cons.mp hmem' with rfl | hold'
      · exact absurd (h.1 handle generation id hold) (lt_irrefl generation)
      · exact ih h.2 hold hold'

theorem passed_before (h : Justified CaptureEvent.Warranted trail) {generation index' : Nat}
    (hpassed : .passed generation index' ∈ trail) (hmem : .callback index view quality ∈ trail)
    (hlt : index' < index) :
    Before trail (.passed generation index') (.callback index view quality) := by
  refine h.before_of_not hpassed hmem (by simp) fun older hwarranted hlater => ?_
  have hle := hwarranted.2 _ hlater index rfl
  omega

theorem lastIssued_split (h : lastIssued trail = some index) :
    ∃ between older, trail = between ++ .issued index :: older ∧
      ∀ index', .issued index' ∉ between := by
  induction trail with
  | nil => cases h
  | cons e trail ih =>
    have hstep : lastIssued trail = some index → (∀ index', e ≠ .issued index') →
        ∃ between older, e :: trail = between ++ .issued index :: older ∧
          ∀ index', .issued index' ∉ between := by
      intro h hne
      obtain ⟨between, older, rfl, hnone⟩ := ih h
      refine ⟨e :: between, older, rfl, fun index' hmem => ?_⟩
      rcases List.mem_cons.mp hmem with e | hmem
      · exact hne index' e.symm
      · exact hnone index' hmem
    cases e with
    | issued index' =>
      obtain rfl : index' = index := Option.some.inj h
      exact ⟨[], trail, rfl, fun _ hmem => by cases hmem⟩
    | _ => exact hstep h fun _ => by simp

namespace SnapshotResult

theorem TakenFrom.captured {r : SnapshotResult} {handle : Nat} (h : r.TakenFrom trail)
    (hread : r.ReadFrom trail) (hw : Justified CaptureEvent.Warranted trail)
    (hname : ∀ handle' id', .opened handle' r.generation id' ∈ trail → handle' = handle ∧ id' = r.id) :
    r.CapturedIn handle r.rgb trail := by
  obtain ⟨view, quality, hmem, hshows⟩ := h.frame
  obtain ⟨index', hlt, hpassed⟩ := h.later
  have hopened : Before trail (.opened handle r.generation r.id) (.passed r.generation index') := by
    obtain ⟨newer, older, rfl⟩ := List.append_of_mem hpassed
    obtain ⟨⟨handle', id', hopened⟩, _⟩ :
        CaptureEvent.Warranted (.passed r.generation index') older := hw.split rfl
    obtain ⟨rfl, rfl⟩ :=
      hname handle' id' (List.mem_append_right _ (List.mem_cons_of_mem _ hopened))
    exact ⟨newer, older, rfl, hopened⟩
  refine ⟨view, quality, index', hshows, hopened, passed_before hw hpassed hmem hlt, ?_⟩
  rcases hread with hsync | ⟨newer, older, rfl, hissued⟩
  · obtain ⟨newer, older, rfl⟩ := List.append_of_mem hsync
    obtain ⟨⟨view', quality', hbegun⟩, _⟩ :
        CaptureEvent.Warranted (.synchronous r.frameSequence r.rgb) older := hw.split rfl
    have hall : .callback r.frameSequence view' quality' ∈
        newer ++ .synchronous r.frameSequence r.rgb :: older :=
      List.mem_append_right _ (List.mem_cons_of_mem _ hbegun)
    obtain ⟨rfl, rfl⟩ := callback_unique hw hmem hall
    exact .inl ⟨newer, older, rfl, hbegun⟩
  · obtain ⟨between, oldest, rfl, hnone⟩ := lastIssued_split hissued
    refine .inr ⟨newer, between, oldest, rfl, hnone, ?_⟩
    have htrail : newer ++ .mapped r.rgb :: (between ++ .issued r.frameSequence :: oldest) =
        (newer ++ .mapped r.rgb :: between) ++ .issued r.frameSequence :: oldest := by simp
    obtain ⟨⟨view', quality', hbegun⟩, _⟩ :
        CaptureEvent.Warranted (.issued r.frameSequence) oldest := hw.split htrail
    have hall : .callback r.frameSequence view' quality' ∈
        newer ++ .mapped r.rgb :: (between ++ .issued r.frameSequence :: oldest) := by
      simp [hbegun]
    obtain ⟨rfl, rfl⟩ := callback_unique hw hmem hall
    exact hbegun

theorem CapturedIn.congr {r r' : SnapshotResult} {handle : Nat} {pixels : List UInt8}
    (h : r.CapturedIn handle pixels trail) (hframe : r'.frame = r.frame) :
    r'.CapturedIn handle pixels trail := by
  obtain ⟨hid, hgeneration, _, hsequence⟩ := frame_capture hframe
  obtain ⟨view, quality, index, hshows, hopened, hpassed, hread⟩ := h
  refine ⟨view, quality, index, hshows.congr hframe, ?_, ?_, ?_⟩
  · rw [hgeneration, hid]
    exact hopened
  · rw [hgeneration, hsequence]
    exact hpassed
  · rw [hsequence]
    exact hread

theorem DeliveredIn.sameFrame {r : SnapshotResult} {handle : Nat} (h : r.DeliveredIn trail)
    (hw : Justified CaptureEvent.Warranted trail)
    (hopened : .opened handle r.generation r.id ∈ trail) : r.SameFrame handle trail := by
  obtain ⟨job, hmem, hframe, hrgb⟩ := h
  obtain ⟨newer, older, rfl⟩ := List.append_of_mem hmem
  obtain ⟨hid, hgeneration, hinclude, _⟩ := frame_capture hframe
  obtain ⟨htaken, hread⟩ : CaptureEvent.Warranted (.encoded job) older := hw.split rfl
  have hname : ∀ handle' id', .opened handle' job.generation id' ∈ older →
      handle' = handle ∧ id' = job.id := by
    intro handle' id' hmem'
    rw [← hid]
    refine opened_unique hw hopened (List.mem_append_right _ (List.mem_cons_of_mem _ ?_))
    rw [hgeneration]
    exact hmem'
  refine ⟨job, newer, older, rfl, hid.symm, hgeneration.symm, ?_, ?_⟩
  · rw [hinclude]
    exact hrgb
  · exact (htaken.captured hread hw.tail.2 hname).congr hframe

end SnapshotResult

end

/-! ## successful captures -/

section
variable {cfg : PluginConfig} {l : Label} {s s' : State}

/-- every successful reply answers with a delivered capture, which was admitted for it -/
def State.RepliesDelivered (s : State) : Prop :=
  ∀ handle response receipt, .replied handle (.capture response receipt) ∈ s.log →
    response.DeliveredIn s.snap.trail ∧
      .opened handle response.generation response.id ∈ s.snap.trail

theorem State.RepliesDelivered.keep (h : s.RepliesDelivered)
    (htrail : ∃ new, s'.snap.trail = new ++ s.snap.trail)
    (hlog : ∃ new, s'.log = new ++ s.log ∧
      ∀ e ∈ new, ∀ handle response receipt, e ≠ .replied handle (.capture response receipt)) :
    s'.RepliesDelivered := by
  obtain ⟨trail, htrail⟩ := htrail
  obtain ⟨new, hlog, hnew⟩ := hlog
  intro handle response receipt hmem
  rw [hlog] at hmem
  rw [htrail]
  rcases List.mem_append.mp hmem with hmem | hmem
  · exact absurd rfl (hnew _ hmem handle response receipt)
  · obtain ⟨hdelivered, hopened⟩ := h handle response receipt hmem
    exact ⟨hdelivered.mono trail, List.mem_append_right _ hopened⟩

theorem ExecutorStep.repliesDelivered (hs : ExecutorStep cfg l s s') (h : s.RepliesDelivered) :
    s'.RepliesDelivered := by
  have hplain : ∀ {reply : Nat} {answer : ControlResponse}, answer.isCapture = false →
      ∀ handle response receipt,
        Event.replied reply answer ≠ .replied handle (.capture response receipt) := by
    rintro reply answer hanswer handle response receipt e
    cases e
    cases hanswer
  cases hs with
  | look | spare | request | watch | reserve | forceKeyframe | openCapture | applyConfiguration
  | release | freeSlot => exact h
  | openSnapshot =>
    exact h.keep ⟨[_], rfl⟩ ⟨[], rfl, by simp⟩
  | flushCapture late =>
    refine h.keep ⟨[], ?_⟩ ⟨[], rfl, by simp⟩
    unfold Snapshot.finish
    dsimp only
    repeat' split
    all_goals rfl
  | reply response _ hresponse =>
    exact h.keep ⟨[], rfl⟩ ⟨[_], rfl, by simpa using hplain hresponse⟩
  | demandKeyframe | admission | completePending =>
    exact h.keep ⟨[], rfl⟩ ⟨[_], rfl, by simp⟩
  | failPending | expirePending => exact h.keep ⟨[], rfl⟩ ⟨[_, _], rfl, by simp⟩
  | @endWatcher _ _ _ answer _ hanswer =>
    refine h.keep ⟨[], rfl⟩ ⟨answer, rfl, ?_⟩
    rcases hanswer with rfl | ⟨response, rfl, hresponse⟩
    · simp
    · simpa using hplain hresponse
  | answerCapture response _ _ hdelivered =>
    intro handle r receipt hmem
    simp only [State.answerCapture, List.mem_cons, Event.replied.injEq, reduceCtorEq,
      false_or] at hmem
    rcases hmem with ⟨rfl, hanswer⟩ | hmem
    · split at hanswer
      · cases hanswer
      split at hanswer
      · cases hanswer
      rename_i hok _
      cases hanswer
      obtain ⟨hdelivered, hlast⟩ := hdelivered (by simpa using hok)
      exact ⟨hdelivered, lastOpened_mem hlast⟩
    · exact h handle r receipt hmem

theorem ExecutorRely.repliesDelivered (hs : ExecutorRely s s') (h : s.RepliesDelivered) :
    s'.RepliesDelivered := by
  obtain ⟨new, hlog, hnew⟩ := hs.log
  refine h.keep hs.snap.trail ⟨new, hlog, fun e he handle response receipt heq => ?_⟩
  have hby := hnew e he
  rw [heq] at hby
  cases hby

/-- **One callback.**  A successful capture shows one callback that began after its admission, with
the pixels of that callback; its generation was admitted once. -/
theorem capture_same_frame {s : PluginState} (h : (pluginMachine cfg).Reachable s) :
    (s.shared.snap.snapshot.completed = true → s.shared.snap.snapshot.failed = false →
      ∃ handle, s.shared.snap.snapshot.SameFrame handle s.shared.snap.trail) ∧
    (∀ handle response receipt, .replied handle (.capture response receipt) ∈ s.shared.log →
      response.SameFrame handle s.shared.snap.trail) ∧
    ∀ handle handle' generation id id', .opened handle generation id ∈ s.shared.snap.trail →
      .opened handle' generation id' ∈ s.shared.snap.trail → handle' = handle ∧ id' = id := by
  have hfree : (pluginMachine cfg).ReachableUnder (Pool.Obeys fun _ _ => True) s :=
    h.mono fun s a _ => Pool.Obeys.trivial s a
  have hbooks : Books cfg s.shared := ((pluginVerified cfg).safe hfree).1
  have hreplies : s.shared.RepliesDelivered := by
    refine plugin_invariant (J := State.RepliesDelivered) (fun _ _ _ _ hmem => by cases hmem)
      (fun t l s s' _ _ hs hJ => ?_) hfree
    by_cases ht : t = .executor
    · subst ht
      exact ExecutorStep.repliesDelivered hs hJ
    · exact (hs.executorRely ht).repliesDelivered hJ
  have hwarranted := hbooks.captures.warranted
  refine ⟨fun hcompleted hok => ?_, fun handle response receipt hmem => ?_,
    fun _ _ _ _ _ => opened_unique hwarranted⟩
  · obtain ⟨handle, hlast⟩ : s.shared.snap.Opened := by
      refine hbooks.captures.opened.resolve_left fun hempty => ?_
      rw [hempty] at hcompleted
      cases hcompleted
    exact ⟨handle, (hbooks.captures.completed hcompleted hok).sameFrame hwarranted
      (lastOpened_mem hlast)⟩
  · obtain ⟨hdelivered, hopened⟩ := hreplies handle response receipt hmem
    exact hdelivered.sameFrame hwarranted hopened

/-! ## failed captures -/

/-- the failure of work that was picked and not submitted finds its capture open, or no capture at
all; submitted work is `carried` by the render thread -/
def OwnFailure : Label → State → Prop
  | .failSnapshot work, s => s.snap.carried = none →
    s.snap.idle = true ∨ s.snap.snapshot.generation = work
  | _, _ => True

instance OwnFailure.decidable (l : Label) (s : State) : Decidable (OwnFailure l s) := by
  apply Label.casesOn (motive := fun l => Decidable (OwnFailure l s)) l
  all_goals
    intros
    dsimp only [OwnFailure]
    infer_instance

/-- captures fail for work that was started for them -/
def OwnFailures (trail : List CaptureEvent) : Prop :=
  ∀ work generation, .failed work generation ∈ trail → work = generation

theorem OwnFailures.cons {trail : List CaptureEvent} (h : OwnFailures trail) {e : CaptureEvent}
    (hne : ∀ work generation, e ≠ .failed work generation) : OwnFailures (e :: trail) := by
  intro work generation hmem
  rcases List.mem_cons.mp hmem with rfl | hmem
  · exact absurd rfl (hne work generation)
  · exact h work generation hmem

theorem ExecutorCapture.ownFailures {snap snap' : Snapshot} (hs : ExecutorCapture l snap snap')
    (h : OwnFailures snap.trail) : OwnFailures snap'.trail := by
  cases hs with
  | admission => exact h.cons (by simp)
  | finish =>
    unfold Snapshot.finish
    dsimp only
    repeat' split
    all_goals exact h

theorem RenderCapture.ownFailures {index : Nat} {snap : Snapshot}
    (hs : RenderCapture index l s.snap snap) (hD : OwnFailure l s)
    (h : OwnFailures s.snap.trail) : OwnFailures snap.trail := by
  cases hs with
  | frame =>
    unfold Snapshot.frameToCapture
    split
    · exact h
    split
    · exact h.cons (by simp)
    · exact h
  | fail work error hresting =>
    have hown := hD hresting.carried
    unfold Snapshot.fail
    split
    · exact h
    · rename_i hopen
      intro work' generation' hmem
      rcases List.mem_cons.mp hmem with e | hmem
      · obtain ⟨rfl, rfl⟩ := CaptureEvent.failed.inj e
        exact (hown.resolve_left hopen).symm
      · exact h work' generation' hmem
  | synchronous | issued =>
    unfold Snapshot.submit
    split <;> exact h.cons (by simp)
  | rearm =>
    unfold Snapshot.rearm
    split <;> exact h
  | queueEncode =>
    unfold Snapshot.queueEncode
    split <;> exact h
  | mapped => exact h.cons (by simp)
  | startReadback | dropReadback | readbackFailed | unavailable | notIssued => exact h

theorem WorkerCapture.ownFailures {snap snap' : Snapshot} (hs : WorkerCapture cfg l snap snap')
    (h : OwnFailures snap.trail) : OwnFailures snap'.trail := by
  cases hs with
  | take =>
    unfold Snapshot.takeEncode
    split <;> exact h
  | fuse => exact h
  | deliver =>
    unfold Snapshot.deliver
    split
    · rename_i hfor
      have hgeneration := (Snapshot.isFor_iff.mp hfor).2.1
      intro work generation hmem
      rcases List.mem_append.mp hmem with hmem | hmem
      · split at hmem
        · obtain ⟨rfl, rfl⟩ := CaptureEvent.failed.inj (List.mem_singleton.mp hmem)
          exact hgeneration.symm
        · simp at hmem
      · exact h work generation hmem
    · exact h

theorem ThreadStep.ownFailures {t : ThreadName} (hs : ThreadStep cfg t l s s')
    (hD : OwnFailure l s) (h : OwnFailures s.snap.trail) : OwnFailures s'.snap.trail := by
  rcases hs.kinds with he | hr | ho
  · cases he with
    | openSnapshot handle id includeRGB _ _ _ _ hfree =>
      exact (ExecutorCapture.admission handle id includeRGB hfree).ownFailures h
    | flushCapture late => exact (ExecutorCapture.finish _ _ _ late).ownFailures h
    | _ => exact h
  · cases hr with
    | rest hr =>
      cases hr with
      | capture hc => exact hc.ownFailures hD h
      | _ => exact h
    | beginRender view => exact h.cons (by simp)
    | _ => exact h
  · cases ho with
    | pacer hp => cases hp <;> exact h
    | worker hw =>
      cases hw with
      | look => exact h
      | capture hc => exact hc.ownFailures h
    | rosSide => exact h
    | hostSide side =>
      obtain ⟨reserved, elsewhere, e⟩ := hostSide_eq side s
      rw [e]
      exact h

/-- **Own failures** in the runs in which a failure before the submission finds the capture that it
is about. -/
theorem own_failures {s : PluginState}
    (h : (pluginMachine cfg).ReachableUnder (Pool.Obeys OwnFailure) s) :
    OwnFailures s.shared.snap.trail ∧
      (s.shared.snap.snapshot.completed = true → s.shared.snap.snapshot.failed = true →
        .failed s.shared.snap.snapshot.generation s.shared.snap.snapshot.generation ∈
          s.shared.snap.trail) := by
  have hbooks : Books cfg s.shared := ((pluginVerified cfg).safe
    (h.mono fun s a _ => Pool.Obeys.trivial s a)).1
  have hown : OwnFailures s.shared.snap.trail := by
    refine plugin_invariant (J := fun s => OwnFailures s.snap.trail)
      (fun _ _ _ hmem => by cases hmem) (fun t l s s' _ hD hs hJ => hs.ownFailures hD hJ) h
  refine ⟨hown, fun hc hf => ?_⟩
  obtain ⟨work, hmem⟩ := hbooks.captures.failed hc hf
  rwa [hown work _ hmem] at hmem

end

/-! ## runs -/

/-- a frame that is rendered while nothing is encoded, and the poll of a readback -/
def captureFrame (sourceTimeNanoseconds : Int) (texture : Bool) (poll : PboPoll) : Call .render :=
  .renderTarget ⟨sourceTimeNanoseconds, true, 640, 480, true, true, true, .needMoreInput,
    { idleCapture sourceTimeNanoseconds with texture := texture, poll := poll }⟩

def jpegCall : Call .jpegWorker := ⟨⟨[1], "hardware", ""⟩, ⟨[2], "cpu", ""⟩⟩

/-- a capture waits for a callback, is read back in the next one, mapped in the third, and
answered -/
def captureRun : List PluginAction :=
  runCall .executor (captureCall "a") 6 ++ runCall .render (captureFrame 1 true .timeout) 12 ++
    runCall .render (captureFrame 2 true .timeout) 20 ++
    runCall .render (captureFrame 3 true (.copied [1, 2, 3])) 20 ++
    runCall .jpegWorker jpegCall 6 ++ runCall .executor (flushCall 2) 12

def Event.answersCapture (handle frameSequence : Nat) : Event → Bool
  | .replied reply (.capture response _) =>
    reply == handle && response.frameSequence == frameSequence
  | _ => false

theorem Event.answersCapture_eq {handle frameSequence : Nat} {e : Event}
    (h : e.answersCapture handle frameSequence) : ∃ response receipt,
      e = .replied handle (.capture response receipt) ∧
        response.frameSequence = frameSequence := by
  unfold answersCapture at h
  split at h
  · rename_i reply response receipt
    rw [Bool.and_eq_true, beq_iff_eq, beq_iff_eq] at h
    exact ⟨response, receipt, by rw [h.1], h.2⟩
  · cases h

/-- the capture of `captureRun` is answered with the frame of the second callback -/
theorem capture_same_frame_captureRun :
    let s := ((pluginMachine .sample).run .sample captureRun).shared
    ∃ response receipt, .replied 0 (.capture response receipt) ∈ s.log ∧
      response.frameSequence = 2 ∧ response.SameFrame 0 s.snap.trail := by
  have hreply : ((pluginMachine .sample).run .sample captureRun).shared.log.any
      (·.answersCapture 0 2) := by decide +kernel
  have hsame := (capture_same_frame
    (Machine.Reachable.run (PluginState.sample_reachable _) captureRun)).2.1
  generalize (pluginMachine .sample).run .sample captureRun = s at hreply hsame
  obtain ⟨e, hmem, he⟩ := List.any_eq_true.mp hreply
  obtain ⟨response, receipt, rfl, hframe⟩ := Event.answersCapture_eq he
  exact ⟨response, receipt, hmem, hframe, hsame _ _ _ hmem⟩

/-- a capture is picked while its texture is missing; its deadline passes and another one is
admitted before the failure is reported -/
def lateFailureRun : List PluginAction :=
  runCall .executor (captureCall "a") 6 ++ runCall .render (captureFrame 1 true .timeout) 12 ++
    runCall .render (captureFrame 2 false .timeout) 10 ++ runCall .executor (flushCall 10) 12 ++
    runCall .executor (captureCall "b") 6 ++ [.step .render]

/-- the failure is reported before the deadline passes -/
def ownFailureRun : List PluginAction :=
  runCall .executor (captureCall "a") 6 ++ runCall .render (captureFrame 1 true .timeout) 12 ++
    runCall .render (captureFrame 2 false .timeout) 12

theorem own_failures_ownFailureRun :
    let s := ((pluginMachine .sample).run .sample ownFailureRun).shared
    OwnFailures s.snap.trail ∧ .failed 1 1 ∈ s.snap.trail :=
  ⟨(own_failures ((PluginState.sample_reachable _).run ownFailureRun (by decide +kernel))).1,
    by decide +kernel⟩

/-- work for the first capture fails the second one -/
theorem late_failure_fails :
    (pluginMachine .sample).Reachable ((pluginMachine .sample).run .sample lateFailureRun) ∧
      ¬ OwnFailures ((pluginMachine .sample).run .sample lateFailureRun).shared.snap.trail := by
  refine ⟨Machine.Reachable.run (PluginState.sample_reachable _) _, fun h => ?_⟩
  have hmem : .failed 1 2 ∈
      ((pluginMachine .sample).run .sample lateFailureRun).shared.snap.trail := by decide +kernel
  exact absurd (h 1 2 hmem) (by decide)

end MediaCamera
