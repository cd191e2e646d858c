import MediaCamera.Plugin.Verified

/-!
# Encoder sessions and epochs

* `one_session_per_epoch`   the frames that are enqueued in one epoch come from one NVENC session;
* `source_time_ordered`     their source times do not go back, in the runs in which no callback's
                            time lies before the creation of a session whose baseline
                            `DestroyEncoder` has cleared (`TimeKept`).

Both invariants are about the frames that were enqueued and the session that is live; every other
thread leaves both alone (`RenderRely`).
-/

namespace MediaCamera

/-! ## one session per epoch -/

/-- two frames of one epoch were output by one session -/
def OneSession (s : State) : Prop :=
  ∀ p ∈ s.enqueued, ∀ q ∈ s.enqueued, p.1.epochIndex = q.1.epochIndex → p.2 = q.2

structure SessionInv (s : State) : Prop where
  same : OneSession s
  below : ∀ p ∈ s.enqueued, p.2 ≤ s.enc.sessions
  live : ∀ session, s.enc.session = some session → session.index ≤ s.enc.sessions

section
variable {cfg : PluginConfig} {l : Label} {s s' : State}

theorem SessionInv.keep (h : SessionInv s) (henqueued : s'.enqueued = s.enqueued)
    (hsessions : s'.enc.sessions = s.enc.sessions)
    (hsession : s'.enc.session = s.enc.session ∨ s'.enc.session = none) : SessionInv s' where
  same := by
    unfold OneSession
    rw [henqueued]
    exact h.same
  below := by
    rw [henqueued, hsessions]
    exact h.below
  live session hlive := by
    rw [hsessions]
    rcases hsession with e | e
    · exact h.live session (e ▸ hlive)
    · rw [e] at hlive
      cases hlive

theorem enqueued_enqueueROS (cfg : PluginConfig) (unit : AccessUnit) {session : EncoderSession}
    (hlive : s.enc.session = some session) :
    (s.enqueueROS cfg unit).enqueued = s.enqueued ∨
      ∃ frame, (s.enqueueROS cfg unit).enqueued = (frame, session.index) :: s.enqueued ∧
        s.ros.branch.epochIndex ≤ frame.epochIndex ∧
        frame.sourceTimeNanoseconds = unit.metadata.sourceTimeNanoseconds := by
  cases hframe : s.ros.branch.enqueuedFrame cfg.ros unit with
  | none => exact .inl (by simp only [State.enqueueROS, State.enqueued, hframe])
  | some frame =>
    obtain ⟨rfl, _⟩ := enqueuedFrame_some hframe
    refine .inr ⟨(s.ros.branch.examined.overflowed cfg.ros unit).stampFrame s.ros.branch.offered unit,
      ?_, ?_, rfl⟩
    · simp [State.enqueueROS, State.enqueued, hframe, Event.enqueued?, hlive]
    · have hexamined : s.ros.branch.Moves s.ros.branch.examined := .of_eq rfl rfl rfl id
      have hmoves : s.ros.branch.Moves (s.ros.branch.examined.overflowed cfg.ros unit) :=
        hexamined.trans (.overflowed unit)
      rcases hmoves.forward with h | ⟨h, _⟩
      · exact h.le
      · exact h.le

theorem State.EncoderReady.session_of_epoch {session : EncoderSession}
    (h : s.EncoderReady session) {frame : QueuedROSFrame}
    (hepoch : s.ros.branch.epochIndex ≤ frame.epochIndex) :
    ∀ p ∈ s.enqueued, p.1.epochIndex = frame.epochIndex → p.2 = session.index := by
  intro p hp he
  rcases h.epoch p hp with hlt | hindex
  · omega
  · exact hindex

theorem SessionInv.enqueue (h : SessionInv s) {unit : AccessUnit} {session : EncoderSession}
    (hready : s.EncoderReady session) : SessionInv (s.enqueueROS cfg unit) := by
  rcases enqueued_enqueueROS cfg unit hready.live with
    e | ⟨frame, e, hepoch, _⟩
  · exact h.keep e rfl (.inl rfl)
  have hsession := hready.session_of_epoch hepoch
  refine ⟨?_, ?_, h.live⟩
  · unfold OneSession
    rw [e]
    intro p hp q hq he
    rcases List.mem_cons.mp hp with rfl | hp <;> rcases List.mem_cons.mp hq with rfl | hq
    · rfl
    · exact (hsession q hq he.symm).symm
    · exact hsession p hp he
    · exact h.same p hp q hq he
  · intro p hp
    rw [e] at hp
    rcases List.mem_cons.mp hp with rfl | hp
    · exact h.live session hready.live
    · exact h.below p hp

theorem SessionInv.renderStep (h : SessionInv s) (hs : RenderStep cfg l s s') : SessionInv s' := by
  cases hs with
  | rest hs => cases hs <;> exact h.keep rfl rfl (.inl rfl)
  | destroyEncoder => exact h.keep (destroyEncoder_enqueued s) rfl (.inr rfl)
  | createEncoder width height time hnone =>
    refine ⟨h.same, fun p hp => Nat.le_succ_of_le (h.below p hp), fun session hlive => ?_⟩
    cases hlive
    exact le_rfl
  | observeSourceTime time =>
    refine h.keep rfl ?_ (.inl (by unfold Encoder.observe; split <;> rfl))
    show (s.enc.observe time).sessions = _
    unfold Encoder.observe
    split <;> rfl
  | enqueueROS _ _ hready => exact h.enqueue hready
  | enqueueRTP => exact h.keep (enqueueRTP_enqueued _ _ _) rfl (.inl rfl)
  | _ => exact h.keep rfl rfl (.inl rfl)

theorem SessionInv.rely (h : SessionInv s) (hs : RenderRely s s') : SessionInv s' :=
  h.keep hs.enqueued (by rw [hs.enc]) (.inl (by rw [hs.enc]))

theorem SessionInv.step (h : SessionInv s) {t : ThreadName} (hs : ThreadStep cfg t l s s') :
    SessionInv s' := by
  by_cases ht : t = .render
  · subst ht
    exact h.renderStep hs
  · exact h.rely (hs.renderRely ht)

theorem SessionInv.load (cfg : PluginConfig) (input : LoadInput) : SessionInv (.load cfg input) :=
  ⟨fun _ h => (by cases h), fun _ h => (by cases h), fun _ h => by cases h⟩

end

/-- **One session per epoch.** -/
theorem one_session_per_epoch {cfg : PluginConfig} {s : PluginState}
    (h : (pluginMachine cfg).Reachable s) : OneSession s.shared := by
  have hfree : (pluginMachine cfg).ReachableUnder (Pool.Obeys fun _ _ => True) s :=
    h.mono fun s a _ => Pool.Obeys.trivial s a
  have hI : SessionInv s.shared :=
    plugin_invariant (SessionInv.load cfg) (fun _ _ _ _ _ _ hs hI => hI.step hs) hfree
  exact hI.same

/-! ## source times -/

/-- a frame that is enqueued after another one of its epoch has no earlier source time; frames are
listed newest first -/
def SourceTimeOrdered (s : State) : Prop :=
  s.enqueued.Pairwise fun p q => p.1.epochIndex = q.1.epochIndex →
    q.1.sourceTimeNanoseconds ≤ p.1.sourceTimeNanoseconds

/-- where the baseline of `ObserveSourceTime` is cleared under a live session, the time of the
callback does not lie before that of the session's creation; NVENC answers with the oldest frame it
holds -/
def TimeKept : Label → State → Prop
  | .observeSourceTime time, s => s.enc.lastSourceTimeNanoseconds = none →
      ∀ session ∈ s.enc.session, session.sourceTimeNanoseconds ≤ time
  | .takeOutput timestamp, s =>
      ∀ frame ∈ s.enc.pendingEncodedFrames.find? (·.encoderTimestamp == timestamp),
        s.enc.pendingEncodedFrames.head? = some frame
  | _, _ => True

instance TimeKept.decidable (l : Label) (s : State) : Decidable (TimeKept l s) := by
  apply Label.casesOn (motive := fun l => Decidable (TimeKept l s)) l
  all_goals
    intros
    dsimp only [TimeKept]
    infer_instance

/-- the latest source time that the session has seen -/
def Encoder.latest (e : Encoder) (session : EncoderSession) : Int :=
  e.lastSourceTimeNanoseconds.getD session.sourceTimeNanoseconds

/-- the frames that the session has not handed to the branches, oldest first -/
def Encoder.inFlight (e : Encoder) : List PendingEncodedFrame :=
  e.sending.toList ++ e.pendingEncodedFrames

/-- the frames of a session are in the order of their times: enqueued, in flight, latest -/
structure Encoder.Timeline (e : Encoder) (enqueued : List (QueuedROSFrame × Nat))
    (session : EncoderSession) : Prop where
  sorted : e.inFlight.Pairwise fun f g => f.sourceTimeNanoseconds ≤ g.sourceTimeNanoseconds
  late : ∀ f ∈ e.inFlight, f.sourceTimeNanoseconds ≤ e.latest session
  before : ∀ p ∈ enqueued, p.2 = session.index →
    p.1.sourceTimeNanoseconds ≤ e.latest session ∧
      ∀ f ∈ e.inFlight, p.1.sourceTimeNanoseconds ≤ f.sourceTimeNanoseconds

structure TimeInv (s : State) : Prop where
  sessions : SessionInv s
  ordered : SourceTimeOrdered s
  timeline : ∀ session, s.enc.session = some session → s.enc.Timeline s.enqueued session

section
variable {cfg : PluginConfig} {l : Label} {s s' : State}

theorem Encoder.Timeline.mono {e e' : Encoder} {enqueued : List (QueuedROSFrame × Nat)}
    {session : EncoderSession} (h : e.Timeline enqueued session)
    (hflight : e'.inFlight.Sublist e.inFlight) (hlatest : e.latest session ≤ e'.latest session) :
    e'.Timeline enqueued session where
  sorted := h.sorted.sublist hflight
  late f hf := (h.late f (hflight.subset hf)).trans hlatest
  before p hp hindex := ⟨(h.before p hp hindex).1.trans hlatest,
    fun f hf => (h.before p hp hindex).2 f (hflight.subset hf)⟩

theorem TimeInv.keep (h : TimeInv s) (hsessions : SessionInv s')
    (henqueued : s'.enqueued = s.enqueued)
    (hsession : s'.enc.session = s.enc.session ∨ s'.enc.session = none)
    (hflight : s'.enc.inFlight.Sublist s.enc.inFlight)
    (hlatest : ∀ session, s'.enc.session = some session →
      s.enc.latest session ≤ s'.enc.latest session) : TimeInv s' where
  sessions := hsessions
  ordered := by
    unfold SourceTimeOrdered
    rw [henqueued]
    exact h.ordered
  timeline session hlive := by
    rcases hsession with e | e
    · rw [henqueued]
      exact (h.timeline session (e ▸ hlive)).mono hflight (hlatest session hlive)
    · rw [e] at hlive
      cases hlive

theorem latest_observe {e : Encoder} {session : EncoderSession} (hlive : e.session = some session)
    {time : Int} (hkept : e.lastSourceTimeNanoseconds = none →
      ∀ session ∈ e.session, session.sourceTimeNanoseconds ≤ time) :
    e.latest session ≤ (e.observe time).latest session := by
  unfold Encoder.observe
  split
  · exact le_rfl
  rename_i hback
  show e.lastSourceTimeNanoseconds.getD session.sourceTimeNanoseconds ≤ time
  cases hlast : e.lastSourceTimeNanoseconds with
  | none => exact hkept hlast session hlive
  | some last =>
    simp only [Encoder.timeWentBack, hlast, decide_eq_true_eq, not_lt] at hback
    exact hback

theorem TimeInv.enqueue (h : TimeInv s) {unit : AccessUnit} {session : EncoderSession}
    (hsending : s.enc.sending = some unit.metadata) (hready : s.EncoderReady session) :
    TimeInv (s.enqueueROS cfg unit) := by
  have hsessions : SessionInv (s.enqueueROS cfg unit) := h.sessions.enqueue hready
  rcases enqueued_enqueueROS cfg unit hready.live with
    e | ⟨frame, e, hepoch, htime⟩
  · exact h.keep hsessions e (.inl rfl) (.refl _) fun _ _ => le_rfl
  have hline := h.timeline session hready.live
  have hmem : unit.metadata ∈ s.enc.inFlight := by simp [Encoder.inFlight, hsending]
  have hfirst : ∀ f ∈ s.enc.inFlight,
      unit.metadata.sourceTimeNanoseconds ≤ f.sourceTimeNanoseconds := by
    have hsorted := hline.sorted
    simp only [Encoder.inFlight, hsending, Option.toList_some, List.singleton_append,
      List.pairwise_cons] at hsorted
    intro f hf
    simp only [Encoder.inFlight, hsending, Option.toList_some, List.singleton_append,
      List.mem_cons] at hf
    rcases hf with rfl | hf
    · exact le_rfl
    · exact hsorted.1 f hf
  refine ⟨hsessions, ?_, fun session' hlive => ?_⟩
  · unfold SourceTimeOrdered
    rw [e]
    refine List.pairwise_cons.mpr ⟨fun p hp he => ?_, h.ordered⟩
    rw [htime]
    exact (hline.before p hp (hready.session_of_epoch hepoch p hp he.symm)).2 _ hmem
  · obtain rfl : session' = session := Option.some.inj (hlive.symm.trans hready.live)
    rw [e]
    refine ⟨hline.sorted, hline.late, fun p hp hindex => ?_⟩
    rcases List.mem_cons.mp hp with rfl | hp
    · rw [htime]
      exact ⟨hline.late _ hmem, hfirst⟩
    · exact hline.before p hp hindex

theorem TimeInv.submit (h : TimeInv s) {session : EncoderSession} {frame : PendingEncodedFrame}
    (hready : s.EncoderReady session) (htimed : s.Timed session frame.sourceTimeNanoseconds)
    (hsessions : SessionInv { s with
      enc.pendingEncodedFrames := s.enc.pendingEncodedFrames ++ [frame]
      enc.sourceFrameSequence := s.enc.sourceFrameSequence + 1 }) :
    TimeInv { s with
      enc.pendingEncodedFrames := s.enc.pendingEncodedFrames ++ [frame]
      enc.sourceFrameSequence := s.enc.sourceFrameSequence + 1 } := by
  refine ⟨hsessions, h.ordered, fun session' hlive => ?_⟩
  obtain rfl : session' = session := Option.some.inj (hlive.symm.trans hready.live)
  have hline := h.timeline session' hready.live
  have hframe : s.enc.latest session' = frame.sourceTimeNanoseconds := by
    unfold Encoder.latest
    rcases htimed with hlast | ⟨hlast, htime⟩
    · rw [hlast]
      rfl
    · rw [hlast]
      exact htime
  have hflight : Encoder.inFlight { s.enc with
      pendingEncodedFrames := s.enc.pendingEncodedFrames ++ [frame]
      sourceFrameSequence := s.enc.sourceFrameSequence + 1 } = s.enc.inFlight ++ [frame] := by
    simp [Encoder.inFlight]
  refine ⟨?_, fun f hf => ?_, fun p hp hindex => ⟨(hline.before p hp hindex).1, fun f hf => ?_⟩⟩
  · rw [hflight]
    refine List.pairwise_append.mpr ⟨hline.sorted, List.pairwise_singleton _ _, fun f hf g hg => ?_⟩
    obtain rfl := List.mem_singleton.mp hg
    rw [← hframe]
    exact hline.late f hf
  · rw [hflight] at hf
    rcases List.mem_append.mp hf with hf | hf
    · exact hline.late f hf
    · obtain rfl := List.mem_singleton.mp hf
      exact hframe.ge
  · rw [hflight] at hf
    rcases List.mem_append.mp hf with hf | hf
    · exact (hline.before p hp hindex).2 f hf
    · obtain rfl := List.mem_singleton.mp hf
      rw [← hframe]
      exact (hline.before p hp hindex).1

/-- with outputs in submission order, the frame that is taken leaves the rest in flight -/
theorem inFlight_takeOutput {e : Encoder} {timestamp : Nat}
    (horder : ∀ frame ∈ e.pendingEncodedFrames.find? (·.encoderTimestamp == timestamp),
      e.pendingEncodedFrames.head? = some frame) :
    (Encoder.inFlight { e with
      pendingEncodedFrames := e.pendingEncodedFrames.eraseP (·.encoderTimestamp == timestamp)
      sending := e.pendingEncodedFrames.find? (·.encoderTimestamp == timestamp) }).Sublist
        e.inFlight := by
  refine List.Sublist.trans ?_ (List.sublist_append_right _ _)
  show ((e.pendingEncodedFrames.find? (·.encoderTimestamp == timestamp)).toList ++
    e.pendingEncodedFrames.eraseP (·.encoderTimestamp == timestamp)).Sublist e.pendingEncodedFrames
  cases hfind : e.pendingEncodedFrames.find? (·.encoderTimestamp == timestamp) with
  | none => exact List.eraseP_sublist
  | some frame =>
    have hhead := horder frame hfind
    have hmatch := List.find?_some hfind
    cases hpending : e.pendingEncodedFrames with
    | nil => rw [hpending] at hhead; cases hhead
    | cons first rest =>
      rw [hpending] at hhead
      cases hhead
      have herase : (frame :: rest).eraseP (·.encoderTimestamp == timestamp) = rest :=
        List.eraseP_cons_of_pos hmatch
      rw [herase]
      exact .refl _

theorem TimeInv.renderStep (h : TimeInv s) (hD : TimeKept l s) (hs : RenderStep cfg l s s') :
    TimeInv s' := by
  have hsessions : SessionInv s' := h.sessions.renderStep hs
  cases hs with
  | rest hs => cases hs <;> exact h.keep hsessions rfl (.inl rfl) (.refl _) fun _ _ => le_rfl
  | destroyEncoder =>
    refine h.keep hsessions (destroyEncoder_enqueued s) (.inr rfl) ?_ fun _ hlive => by cases hlive
    simp [Encoder.inFlight, State.destroyEncoder, Encoder.destroy]
  | createEncoder width height time hnone hsending =>
    refine ⟨hsessions, h.ordered, fun session hlive => ?_⟩
    cases hlive
    have hflight : ∀ f ∈ Encoder.inFlight { s.enc with
        session := some ⟨width, height, s.enc.sessions + 1, time⟩
        sessions := s.enc.sessions + 1, pendingEncodedFrames := [] }, False := by
      simp [Encoder.inFlight, hsending]
    refine ⟨?_, fun f hf => (hflight f hf).elim, fun p hp hindex => ?_⟩
    · simp [Encoder.inFlight, hsending]
    · have hbelow := h.sessions.below p hp
      have hindex : p.2 = s.enc.sessions + 1 := hindex
      omega
  | observeSourceTime time =>
    have hsession := (observe_session s.enc time).1
    refine h.keep hsessions rfl (.inl hsession) ?_ fun session hlive =>
      latest_observe (hsession ▸ hlive) hD
    unfold Encoder.inFlight Encoder.observe
    split <;> exact .refl _
  | rememberSourceTime time hnone =>
    exact h.keep hsessions rfl (.inl rfl) (.refl _) fun _ hlive => by cases hnone.symm.trans hlive
  | submit frame hready htimed => exact h.submit hready htimed hsessions
  | takeOutput timestamp =>
    exact h.keep hsessions rfl (.inl rfl) (inFlight_takeOutput hD) fun _ _ => le_rfl
  | countFrame =>
    exact h.keep hsessions rfl (.inl rfl) (by simp [Encoder.inFlight]) fun _ _ => le_rfl
  | enqueueROS hsending _ hready => exact h.enqueue hsending hready
  | enqueueRTP =>
    exact h.keep hsessions (enqueueRTP_enqueued _ _ _) (.inl rfl) (.refl _) fun _ _ => le_rfl
  | _ => exact h.keep hsessions rfl (.inl rfl) (.refl _) fun _ _ => le_rfl

theorem TimeInv.step (h : TimeInv s) (hD : TimeKept l s) {t : ThreadName}
    (hs : ThreadStep cfg t l s s') : TimeInv s' := by
  by_cases ht : t = .render
  · subst ht
    exact h.renderStep hD hs
  · have hrely := hs.renderRely ht
    refine h.keep (h.sessions.rely hrely) hrely.enqueued (.inl (by rw [hrely.enc])) ?_
      fun session _ => ?_
    · rw [hrely.enc]
    · rw [hrely.enc]

theorem TimeInv.load (cfg : PluginConfig) (input : LoadInput) : TimeInv (.load cfg input) :=
  ⟨.load cfg input, .nil, fun _ hlive => by cases hlive⟩

end

/-- **Source times do not go back inside an epoch** in the runs whose steps keep the time. -/
theorem source_time_ordered {cfg : PluginConfig} {s : PluginState}
    (h : (pluginMachine cfg).ReachableUnder (Pool.Obeys TimeKept) s) :
    SourceTimeOrdered s.shared := by
  have hI : TimeInv s.shared :=
    plugin_invariant (TimeInv.load cfg) (fun _ _ _ _ _ hD hs hI => hI.step hD hs) h
  exact hI.ordered

/-! ## runs -/

def framesRun (first second : Int) : List PluginAction :=
  consumerRun ++ runCall .render (frameCall 10 .needMoreInput) 20 ++
    runCall .render (frameCall first (.output 0 idrUnit)) 60 ++
    runCall .render (frameCall second (.output 3000 deltaUnit)) 60

theorem one_session_per_epoch_framesRun :
    let s := ((pluginMachine .sample).run .sample (framesRun 20 30)).shared
    OneSession s ∧ s.enqueued.map (fun p => (p.1.epochIndex, p.2)) = [(1, 1), (1, 1)] :=
  ⟨one_session_per_epoch (Machine.Reachable.run (PluginState.sample_reachable _) _),
    by decide +kernel⟩

theorem source_time_ordered_framesRun :
    let s := ((pluginMachine .sample).run .sample (framesRun 20 30)).shared
    SourceTimeOrdered s ∧ s.enqueued.map (·.1.sourceTimeNanoseconds) = [30, 20] :=
  ⟨source_time_ordered ((PluginState.sample_reachable _).run (framesRun 20 30) (by decide +kernel)),
    by decide +kernel⟩

/-- time goes back from the callback that created the session to the next one -/
theorem source_time_unordered :
    (pluginMachine .sample).Reachable ((pluginMachine .sample).run .sample (framesRun 20 5)) ∧
      ¬ SourceTimeOrdered ((pluginMachine .sample).run .sample (framesRun 20 5)).shared :=
  ⟨Machine.Reachable.run (PluginState.sample_reachable _) _, by
    unfold SourceTimeOrdered
    decide +kernel⟩

end MediaCamera
