import MediaCamera.Control.Decimal
import MediaCamera.Plugin.ExecutorCalls
import MediaCamera.Plugin.Identities

/-!
# Observers

`GET observe/{revision}` waits for the next receipt, in one of four slots.

* `ObserveOutcome`    the answer to an observation, or the slot that holds it;
* `ObserverOutcome`   what a `FlushControl` does with a slot;
* `ObserverBook`      there are four slots, and no observer is ahead of the events;
* `Stage`             `FlushControl` has passed the slots below `i`;
* `observation_exact` the answers, the outcomes, and that no handle is answered twice.
-/

namespace MediaCamera

open Prog

/-! ## what should happen -/

def State.Answers (s : State) (handle : Nat) (response : ControlResponse) : Prop :=
  .replied handle response ∈ s.log

def revisionAhead : ControlError := ⟨409, "conflict", "observation revision is ahead of provider"⟩

def observersFull : ControlError := ⟨429, "resource_exhausted", "camera observers are full"⟩

def observationExpired : ControlError :=
  ⟨504, "deadline_exceeded", "no camera event before observation deadline"⟩

/-- what becomes of an observation of `sequence` that finds the executor as `e` -/
inductive ObserveOutcome (handle : Nat) (deadline : Int) (sequence : List Char) (e : Executor)
    (s : State) : Prop
  | refused (h : ∀ n < 2 ^ 64, sequence ≠ Nat.toDigits 10 n)
      (hanswer : s.Answers handle (.error (invalid "invalid observation revision")))
  | ahead (n : Nat) (h : sequence = Nat.toDigits 10 n) (hlt : n < 2 ^ 64)
      (hahead : e.controlEventRevision < n) (hanswer : s.Answers handle (.error revisionAhead))
  | behind (n : Nat) (h : sequence = Nat.toDigits 10 n) (hbehind : n < e.controlEventRevision)
      (status : CameraStatus) (hstatus : n < status.event_revision)
      (hanswer : s.Answers handle (.status status))
  | held (n i : Nat) (h : sequence = Nat.toDigits 10 n) (hnow : n = e.controlEventRevision)
      (hfree : e.controlWatchers[i]? = some none)
      (hheld : s.ctl.controlWatchers = e.controlWatchers.set i (some ⟨handle, deadline, n⟩))
  | full (n : Nat) (h : sequence = Nat.toDigits 10 n) (hnow : n = e.controlEventRevision)
      (hfull : none ∉ e.controlWatchers) (hanswer : s.Answers handle (.error observersFull))

/-- what a `FlushControl` makes of slot `i`, when the event revision is `event` -/
inductive ObserverOutcome (input : FlushInput) (i event : Nat)
    (answers : Nat → ControlResponse → Prop) :
    Option ControlWatcher → Option ControlWatcher → Prop
  | empty : ObserverOutcome input i event answers none none
  | cancelled (w : ControlWatcher) (h : input.watcherCancelled.getD i false = true)
      (hsilent : ∀ response, ¬ answers w.reply response) :
    ObserverOutcome input i event answers (some w) none
  | event (w : ControlWatcher) (h : input.watcherCancelled.getD i false = false)
      (hevent : w.after < event) (status : CameraStatus) (hstatus : status.event_revision = event)
      (hanswer : answers w.reply (.status status)) :
    ObserverOutcome input i event answers (some w) none
  | expired (w : ControlWatcher) (h : input.watcherCancelled.getD i false = false)
      (hsame : w.after = event) (hdeadline : w.deadline ≤ input.now)
      (hanswer : answers w.reply (.error observationExpired)) :
    ObserverOutcome input i event answers (some w) none
  | held (w : ControlWatcher) (h : input.watcherCancelled.getD i false = false)
      (hsame : w.after = event) (hdeadline : input.now < w.deadline)
      (hsilent : ∀ response, ¬ answers w.reply response) :
    ObserverOutcome input i event answers (some w) (some w)

/-! ## slots -/

theorem watch_some {watcher : ControlWatcher} {watchers watchers' : List (Option ControlWatcher)}
    (h : Executor.watch watcher watchers = some watchers') :
    ∃ i, watchers[i]? = some none ∧ watchers' = watchers.set i (some watcher) := by
  induction watchers generalizing watchers' with
  | nil => cases h
  | cons slot rest ih =>
    cases slot with
    | none =>
      obtain rfl := Option.some.inj h
      exact ⟨0, rfl, rfl⟩
    | some w =>
      obtain ⟨rest', hrest, rfl⟩ := Option.map_eq_some_iff.mp h
      obtain ⟨i, hfree, rfl⟩ := ih hrest
      exact ⟨i + 1, hfree, rfl⟩

theorem watch_none {watcher : ControlWatcher} {watchers : List (Option ControlWatcher)}
    (h : Executor.watch watcher watchers = none) : none ∉ watchers := by
  induction watchers with
  | nil => simp
  | cons slot rest ih =>
    cases slot with
    | none => cases h
    | some w =>
      have hrest : Executor.watch watcher rest = none := Option.map_eq_none_iff.mp h
      simpa using ih hrest

/-- there are four slots, and no observer is ahead of the events -/
structure ObserverBook (s : State) : Prop where
  length : s.ctl.controlWatchers.length = kObservers
  after : ∀ w, some w ∈ s.ctl.controlWatchers → w.after ≤ s.ctl.controlEventRevision

section
variable {cfg : PluginConfig} {t : ThreadName} {l : Label} {s s' : State}

theorem ObserverBook.keep (h : ObserverBook s)
    (hwatchers : s'.ctl.controlWatchers = s.ctl.controlWatchers)
    (hevent : s.ctl.controlEventRevision ≤ s'.ctl.controlEventRevision) : ObserverBook s' :=
  ⟨hwatchers ▸ h.length, fun w hw => (h.after w (hwatchers ▸ hw)).trans hevent⟩

theorem ObserverBook.step (h : ObserverBook s) (hs : ThreadStep cfg t l s s') :
    ObserverBook s' := by
  by_cases ht : t = .executor
  · subst ht
    have hs : ExecutorStep cfg l s s' := hs
    cases hs with
    | watch hw _ hafter =>
      obtain ⟨i, _, rfl⟩ := watch_some hw
      refine ⟨by simpa using h.length, fun w hmem => ?_⟩
      rcases List.mem_or_eq_of_mem_set hmem with hmem | hsame
      · exact h.after w hmem
      · obtain rfl := Option.some.inj hsame
        exact hafter.le
    | @endWatcher _ i =>
      refine ⟨by simpa [State.endWatcher] using h.length, fun w hmem => ?_⟩
      rcases List.mem_or_eq_of_mem_set hmem with hmem | hsame
      · exact h.after w hmem
      · cases hsame
    | failPending | completePending | expirePending | answerCapture =>
      exact h.keep rfl (Nat.le_succ _)
    | _ => exact h.keep rfl le_rfl
  · have hctl := (hs.executorRely ht).ctl
    exact h.keep (by rw [hctl]) (by rw [hctl])

theorem observerBook {s : PluginState} (h : (pluginMachine cfg).Reachable s) :
    ObserverBook s.shared := by
  refine plugin_invariant_under (J := ObserverBook) (fun input => ⟨rfl, fun w hmem => ?_⟩) ?_ h
  · cases List.eq_of_mem_replicate hmem
  · exact fun s a t l _ _ hs hbook => hbook.step hs

end

/-! ## an observation -/

def State.observed (s : State) : Executor × (Nat → ControlResponse → Prop) := (s.ctl, s.Answers)

theorem view_observed (P : Executor × (Nat → ControlResponse → Prop) → Prop) :
    viewContract.Stable fun s => P s.observed := by
  refine .of_eq (fun s s' h => ?_) P
  have hrely : ExecutorRely s s' := h
  obtain ⟨new, hlog, hnew⟩ := hrely.log
  refine Prod.ext hrely.ctl (funext fun handle => funext fun response => propext ?_)
  show Event.replied handle response ∈ s'.log ↔ Event.replied handle response ∈ s.log
  rw [hlog]
  refine ⟨fun hmem => ?_, List.mem_append_right _⟩
  rcases List.mem_append.mp hmem with hmem | hmem
  · cases hnew _ hmem
  · exact hmem

theorem view_reply {handle : Nat} {response : ControlResponse} {e : Executor} {Q : State → Prop}
    (hQ : ∀ s, s.ctl = e → s.Answers handle response → Q s)
    (hstable : viewContract.Stable Q) :
    viewContract.Triple (·.ctl = e) (reply handle response) fun _ => Q :=
  view_atomic (view_ctl (· = e)) (fun _ => hstable) fun _ hs =>
    hQ _ hs (List.mem_cons_self ..)

theorem view_observeOutcome {handle : Nat} {deadline : Int} {sequence : List Char} {e : Executor} :
    viewContract.Stable (ObserveOutcome handle deadline sequence e) := by
  intro s s' hr hI h
  have hanswers : ∀ {response}, s.Answers handle response → s'.Answers handle response :=
    fun hanswer => view_mem _ s s' hr hI hanswer
  cases h with
  | refused h hanswer => exact .refused h (hanswers hanswer)
  | ahead n h hlt hahead hanswer => exact .ahead n h hlt hahead (hanswers hanswer)
  | behind n h hbehind status hstatus hanswer =>
    exact .behind n h hbehind status hstatus (hanswers hanswer)
  | held n i h hnow hfree hheld =>
    exact .held n i h hnow hfree (by rw [ExecutorRely.ctl hr, hheld])
  | full n h hnow hfull hanswer => exact .full n h hnow hfull (hanswers hanswer)

theorem handleObserve_outcome (handle : Nat) (request : ControlRequest) (sequence : List Char)
    (e : Executor) :
    viewContract.Triple (·.ctl = e) (handleObserve handle request (.object []) sequence)
      fun _ => ObserveOutcome handle request.deadline sequence e := by
  have hlast : ∀ {response : ControlResponse},
      (∀ s : State, s.ctl = e → s.Answers handle response →
        ObserveOutcome handle request.deadline sequence e s) →
      viewContract.Triple (·.ctl = e) (reply handle response)
        fun _ => ObserveOutcome handle request.deadline sequence e :=
    fun h => view_reply h view_observeOutcome
  unfold handleObserve
  rw [show requireFields (.object []) [] = .ok () from rfl]
  cases hrevision : Executor.observationRevision sequence with
  | error error =>
    refine hlast fun s _ hanswer => .refused (fun n hlt he => ?_) ?_
    · rw [Executor.observationRevision_ok.mpr ⟨hlt, he⟩] at hrevision
      cases hrevision
    · rw [← Executor.observationRevision_error hrevision]
      exact hanswer
  | ok n =>
    obtain ⟨hlt, hdigits⟩ := Executor.observationRevision_ok.mp hrevision
    refine .bind (Q := fun event s => s.ctl = e ∧ event = e.controlEventRevision)
      (view_read (view_ctl (· = e)) (fun _ => (view_ctl (· = e)).and (.const _)) fun s hs =>
        ⟨hs, by rw [hs]⟩) fun event => ?_
    refine .assume fun hevent => ?_
    subst hevent
    refine .ite (fun hahead => hlast fun s _ hanswer => .ahead n hdigits hlt hahead hanswer)
      fun hahead => .ite (fun hbehind => ?_) fun hbehind => ?_
    · -- the status that is answered is that of a later state
      refine .bind (Q := fun status s => s.ctl = e ∧
        status.event_revision = e.controlEventRevision) (view_read (view_ctl (· = e))
          (fun _ => (view_ctl (· = e)).and (.const _)) fun s hs => ⟨hs, ?_⟩) fun status => ?_
      · rw [← hs]
        rfl
      · exact .assume fun hstatus => hlast fun s _ hanswer =>
          .behind n hdigits hbehind status (hstatus ▸ hbehind) hanswer
    · have hnow : n = e.controlEventRevision := by omega
      let watcher : ControlWatcher := ⟨handle, request.deadline, n⟩
      refine .bind (Q := fun watching s => (watching = true →
          ObserveOutcome handle request.deadline sequence e s) ∧
          (watching = false → s.ctl = e ∧ Executor.watch watcher e.controlWatchers = none))
        (view_atomic (view_ctl (· = e)) (fun watching => ?_) fun s hs => ?_) fun watching => ?_
      · intro s s' hr hI h
        refine ⟨fun hw => view_observeOutcome s s' hr hI (h.1 hw), fun hw => ?_⟩
        exact ⟨(ExecutorRely.ctl hr).trans (h.2 hw).1, (h.2 hw).2⟩
      · rw [hs]
        cases hslot : Executor.watch watcher e.controlWatchers with
        | none => exact ⟨fun hw => (by cases hw), fun _ => ⟨hs, rfl⟩⟩
        | some watchers =>
          obtain ⟨i, hfree, rfl⟩ := watch_some hslot
          exact ⟨fun _ => .held n i hdigits hnow hfree rfl, fun hw => (by cases hw)⟩
      · refine .ite (fun hw => ?_) fun hw => ?_
        · have hw : watching = false := by simpa using hw
          exact fun s hs => hlast (fun s _ hanswer =>
            .full n hdigits hnow (watch_none (hs.2 hw).2) hanswer) s (hs.2 hw).1
        · have hw : watching = true := by simpa using hw
          exact fun s hs s' hr hI => view_observeOutcome s s' hr hI (hs.1 hw)

theorem parse_observe (sequence : String) :
    Route.parse "GET" ("observe/" ++ sequence) = .observe sequence.toList := by
  have hne : ∀ name : String, name.toList.head? ≠ some 'o' → "observe/" ++ sequence ≠ name := by
    rintro name hhead rfl
    rw [String.toList_append] at hhead
    exact hhead rfl
  unfold Route.parse
  rw [if_neg fun h => hne "describe" (by decide) h.2, if_neg fun h => hne "status" (by decide) h.2,
    if_neg fun h => hne "config" (by decide) h.2]
  have hreceipts : afterPrefix "receipts/" ("observe/" ++ sequence) = none := by
    unfold afterPrefix
    rw [String.toList_append]
    rfl
  have hobserve : afterPrefix "observe/" ("observe/" ++ sequence) = some sequence.toList := by
    unfold afterPrefix
    rw [String.toList_append]
    rfl
  rw [hreceipts, hobserve]
  rfl

def observeCall (sequence request_id : String) (deadline now : Int) : Call .executor :=
  .request ("observe/" ++ sequence) ⟨"GET", request_id, deadline⟩ (.object []) now

theorem ObserveOutcome.of_same {handle : Nat} {deadline : Int} {sequence : List Char}
    {e e' : Executor} {s : State} (h : ObserveOutcome handle deadline sequence e' s)
    (hevent : e'.controlEventRevision = e.controlEventRevision)
    (hwatchers : e'.controlWatchers = e.controlWatchers) :
    ObserveOutcome handle deadline sequence e s := by
  cases h with
  | refused h hanswer => exact .refused h hanswer
  | ahead n h hlt hahead hanswer => exact .ahead n h hlt (hevent ▸ hahead) hanswer
  | behind n h hbehind status hstatus hanswer =>
    exact .behind n h (hevent ▸ hbehind) status hstatus hanswer
  | held n i h hnow hfree hheld =>
    exact .held n i h (hnow.trans hevent) (hwatchers ▸ hfree) (hwatchers ▸ hheld)
  | full n h hnow hfull hanswer =>
    exact .full n h (hnow.trans hevent) (hwatchers ▸ hfull) hanswer

/-- the outcome of an observation, whatever the other threads do -/
theorem CallRun.observed {cfg : PluginConfig} {sequence request_id : String} {deadline now : Int}
    (r : CallRun cfg (observeCall sequence request_id deadline now)) (hfinished : r.Finished) :
    ObserveOutcome r.before.shared.ctl.nextReply deadline sequence.toList r.before.shared.ctl
      r.after.shared := by
  let e := r.before.shared.ctl
  refine r.post (P := (·.ctl = e)) (Q := ObserveOutcome e.nextReply deadline sequence.toList e) ?_
    rfl hfinished
  have hobserve : ∀ handle, handle = e.nextReply → viewContract.Triple
      (·.ctl = { e with nextReply := e.nextReply + 1 })
      (handleObserve handle ⟨"GET", request_id, deadline⟩ (.object []) sequence.toList)
      fun _ => ObserveOutcome e.nextReply deadline sequence.toList e := by
    rintro handle rfl
    exact (handleObserve_outcome _ _ _ _).post fun _ _ h => h.of_same rfl rfl
  show viewContract.Triple _ (handleControlRequest cfg _ _ _ _) _
  unfold handleControlRequest
  refine .bind (Q := fun handle s => s.ctl = { e with nextReply := e.nextReply + 1 } ∧
    handle = e.nextReply) (view_atomic (view_ctl (· = e))
      (fun _ => (view_ctl (· = _)).and (.const _)) fun s hs => ?_) fun handle => ?_
  · rw [hs]
    exact ⟨rfl, rfl⟩
  · rw [parse_observe]
    exact fun s hs => hobserve handle hs.2 s hs.1

/-! ## FlushControl -/

def State.Silent (s : State) (handle : Nat) : Prop := ∀ response, ¬ s.Answers handle response

/-- `FlushControl` has passed the slots below `i` -/
structure Stage (input : FlushInput) (watchers : List (Option ControlWatcher)) (event i : Nat)
    (e : Executor) (answers : Nat → ControlResponse → Prop) : Prop where
  now : e.controlEventRevision = event
  length : e.controlWatchers.length = watchers.length
  passed : ∀ j < i, ∀ slot, watchers[j]? = some slot → ∃ slot', e.controlWatchers[j]? = some slot' ∧
    ObserverOutcome input j event answers slot slot'
  left : ∀ j, i ≤ j → e.controlWatchers[j]? = watchers[j]? ∧
    ∀ w, watchers[j]? = some (some w) → ∀ response, ¬ answers w.reply response

def Apart (watchers : List (Option ControlWatcher)) : Prop :=
  ∀ (i j : Nat) (w w' : ControlWatcher), watchers[i]? = some (some w) →
    watchers[j]? = some (some w') → w.reply = w'.reply → i = j

section
variable {input : FlushInput} {watchers : List (Option ControlWatcher)} {event i : Nat}
  {e : Executor} {answers answers' : Nat → ControlResponse → Prop}

theorem ObserverOutcome.more {slot slot' : Option ControlWatcher}
    (h : ObserverOutcome input i event answers slot slot')
    (hmore : ∀ handle response, answers handle response → answers' handle response)
    (hsame : ∀ w, slot = some w → ∀ response, answers' w.reply response →
      answers w.reply response) : ObserverOutcome input i event answers' slot slot' := by
  cases h with
  | empty => exact .empty
  | cancelled w h hsilent =>
    exact .cancelled w h fun response ha => hsilent response (hsame w rfl response ha)
  | event w h hevent status hstatus hanswer =>
    exact .event w h hevent status hstatus (hmore _ _ hanswer)
  | expired w h hsame' hdeadline hanswer =>
    exact .expired w h hsame' hdeadline (hmore _ _ hanswer)
  | held w h hsame' hdeadline hsilent =>
    exact .held w h hsame' hdeadline fun response ha => hsilent response (hsame w rfl response ha)

theorem Stage.skip (h : Stage input watchers event i e answers) {slot : Option ControlWatcher}
    (hslot : watchers[i]? = some slot) (houtcome : ObserverOutcome input i event answers slot slot) :
    Stage input watchers event (i + 1) e answers where
  now := h.now
  length := h.length
  passed j hj slot' hslot' := by
    rcases Nat.lt_succ_iff_lt_or_eq.mp hj with hlt | rfl
    · exact h.passed j hlt slot' hslot'
    · obtain rfl := Option.some.inj (hslot.symm.trans hslot')
      exact ⟨slot, (h.left j le_rfl).1.trans hslot, houtcome⟩
  left j hj := h.left j (by omega)

theorem Stage.free (h : Stage input watchers event i e answers) (hapart : Apart watchers)
    {w : ControlWatcher} (hslot : watchers[i]? = some (some w))
    (hmore : ∀ handle response, answers handle response → answers' handle response)
    (hown : ∀ handle response, answers' handle response → answers handle response ∨
      handle = w.reply) (houtcome : ObserverOutcome input i event answers' (some w) none) :
    Stage input watchers event (i + 1)
      { e with controlWatchers := e.controlWatchers.set i none } answers' where
  now := h.now
  length := by simpa using h.length
  passed j hj slot' hslot' := by
    rcases Nat.lt_succ_iff_lt_or_eq.mp hj with hlt | rfl
    · obtain ⟨slot'', hafter, hout⟩ := h.passed j hlt slot' hslot'
      refine ⟨slot'', by rw [List.getElem?_set_ne (by omega)]; exact hafter,
        hout.more hmore fun w' hw' response ha => ?_⟩
      subst hw'
      refine (hown _ _ ha).resolve_right fun hsame => ?_
      have := hapart j i w' w hslot' hslot hsame
      omega
    · obtain rfl := Option.some.inj (hslot.symm.trans hslot')
      have hlt : j < e.controlWatchers.length := by
        rw [h.length]
        exact (List.getElem?_eq_some_iff.mp hslot).1
      exact ⟨none, by simp [hlt], houtcome⟩
  left j hj := by
    obtain ⟨hsame, hsilent⟩ := h.left j (by omega)
    refine ⟨by rw [List.getElem?_set_ne (by omega)]; exact hsame, fun w' hw' response ha => ?_⟩
    refine hsilent w' hw' response ((hown _ _ ha).resolve_right fun hreply => ?_)
    have := hapart j i w' w hw' hslot hreply
    omega

def AtStage (input : FlushInput) (watchers : List (Option ControlWatcher)) (event i : Nat)
    (s : State) : Prop := Stage input watchers event i s.ctl s.Answers

theorem view_atStage : viewContract.Stable (AtStage input watchers event i) :=
  view_observed fun p => Stage input watchers event i p.1 p.2

theorem view_endWatcher (hapart : Apart watchers) {w : ControlWatcher}
    (hslot : watchers[i]? = some (some w)) {answer : List Event}
    (hanswer : answer = [] ∨ ∃ response, answer = [.replied w.reply response])
    (houtcome : ∀ s, AtStage input watchers event i s →
      ObserverOutcome input i event (s.endWatcher i answer).Answers (some w) none) :
    viewContract.Triple (AtStage input watchers event i) (write (·.endWatcher i answer))
      fun _ => AtStage input watchers event (i + 1) := by
  refine view_atomic view_atStage (fun _ => view_atStage) fun s hs => ?_
  refine Stage.free hs hapart hslot (fun handle response hmem => List.mem_append_right _ hmem)
    (fun handle response hmem => ?_) (houtcome s hs)
  rcases List.mem_append.mp hmem with hmem | hmem
  · rcases hanswer with rfl | ⟨response', rfl⟩
    · cases hmem
    · cases List.mem_singleton.mp hmem
      exact .inr rfl
  · exact .inl hmem

theorem flushWatcher_stage (hapart : Apart watchers) (hi : i < watchers.length)
    (hafter : ∀ w, watchers[i]? = some (some w) → w.after ≤ event) :
    viewContract.Triple (AtStage input watchers event i) (flushWatcher input i)
      fun _ => AtStage input watchers event (i + 1) := by
  unfold flushWatcher
  refine .bind (Q := fun slot s => AtStage input watchers event i s ∧ watchers[i]? = some slot)
    (view_read view_atStage (fun _ => view_atStage.and (.const _)) fun s hs => ⟨hs, ?_⟩)
    fun slot => Contract.Triple.assume fun hslot => ?_
  · obtain ⟨slot, hslot⟩ : ∃ slot, watchers[i]? = some slot := ⟨_, List.getElem?_eq_getElem hi⟩
    rw [List.getD_eq_getElem?_getD, (hs.left i le_rfl).1, hslot]
    rfl
  cases slot with
  | none => exact fun s hs s' hr hI => view_atStage s s' hr hI hs |>.skip hslot .empty
  | some w =>
    have hsilent : ∀ s, AtStage input watchers event i s → s.Silent w.reply :=
      fun s hs => (hs.left i le_rfl).2 w hslot
    refine .ite (fun hcancelled => ?_) fun hcancelled => ?_
    · exact view_endWatcher hapart hslot (.inl rfl) fun s hs => .cancelled w hcancelled (hsilent s hs)
    have hcancelled : input.watcherCancelled.getD i false = false := by simpa using hcancelled
    refine .bind (Q := fun now s => AtStage input watchers event i s ∧ now = event)
      (view_read view_atStage (fun _ => view_atStage.and (.const _)) fun s hs => ⟨hs, hs.now⟩)
      fun now => Contract.Triple.assume fun hnow => ?_
    subst hnow
    refine .ite (fun hevent => ?_) fun hevent => ?_
    · refine .bind (Q := fun status s => AtStage input watchers now i s ∧
        status.event_revision = now) (view_read view_atStage
          (fun _ => view_atStage.and (.const _)) fun s hs => ⟨hs, hs.now⟩)
        fun status => Contract.Triple.assume fun hstatus => ?_
      exact view_endWatcher hapart hslot (.inr ⟨_, rfl⟩) fun s _ =>
        .event w hcancelled hevent status hstatus (List.mem_cons_self ..)
    · have hsame : w.after = now := le_antisymm (hafter w hslot) (not_lt.mp hevent)
      refine .ite (fun hdeadline => ?_) fun hdeadline => ?_
      · exact view_endWatcher hapart hslot (.inr ⟨_, rfl⟩) fun s _ =>
          .expired w hcancelled hsame hdeadline (List.mem_cons_self ..)
      · intro s hs s' hr hI
        have hs' := view_atStage s s' hr hI hs
        exact hs'.skip hslot (.held w hcancelled hsame (not_le.mp hdeadline) (hsilent s' hs'))

theorem flushWatchers_stage (hapart : Apart watchers) (hlength : watchers.length = kObservers)
    (hafter : ∀ (i : Nat) (w : ControlWatcher), watchers[i]? = some (some w) → w.after ≤ event) :
    viewContract.Triple (AtStage input watchers event 0) (flushWatchers input)
      fun _ => AtStage input watchers event kObservers :=
  have hslot : ∀ i < kObservers, viewContract.Triple (AtStage input watchers event i)
      (flushWatcher input i) fun _ => AtStage input watchers event (i + 1) :=
    fun i hi => flushWatcher_stage hapart (hlength ▸ hi) (hafter i)
  .bind (hslot 0 (by decide)) fun _ => .bind (hslot 1 (by decide)) fun _ =>
    .bind (hslot 2 (by decide)) fun _ => hslot 3 (by decide)

/-! ## the rest of FlushControl -/

/-- observers are left alone, and only `own` is answered -/
structure SparesObservers (own : Nat) (s s' : State) : Prop where
  watchers : s'.ctl.controlWatchers = s.ctl.controlWatchers
  event : s.ctl.controlEventRevision ≤ s'.ctl.controlEventRevision
  capture : s'.ctl.captureReply = s.ctl.captureReply ∨ s'.ctl.captureReply = none
  answers : ∀ handle response, s'.Answers handle response → s.Answers handle response ∨ handle = own

theorem SparesObservers.of_log {own : Nat} {s s' : State} (hctl : s'.ctl = s.ctl)
    (hlog : s'.log = s.log) : SparesObservers own s s' :=
  ⟨by rw [hctl], by rw [hctl], by rw [hctl]; exact .inl rfl, fun handle response h => .inl (by
    show Event.replied handle response ∈ s.log
    rw [← hlog]
    exact h)⟩

theorem spares_failPending (pending : PendingControl) (error : ControlError) (s : State) :
    SparesObservers pending.reply s (s.failPending pending error) := by
  refine ⟨rfl, Nat.le_succ _, .inl rfl, fun handle response h => ?_⟩
  have h : Event.replied handle response ∈ (s.failPending pending error).log := h
  simp only [State.failPending, List.mem_cons, Event.replied.injEq, reduceCtorEq, false_or] at h
  exact h.symm.imp_right (·.1)

theorem spares_completePending (pending : PendingControl) (time : Int) (s : State) :
    SparesObservers pending.reply s (s.completePending pending time) := by
  refine ⟨rfl, Nat.le_succ _, .inl rfl, fun handle response h => ?_⟩
  have h : Event.replied handle response ∈ (s.completePending pending time).log := h
  simp only [State.completePending, List.mem_cons, reduceCtorEq, false_or] at h
  exact .inl h

theorem spares_answerCapture (handle : Nat) (response : SnapshotResult) (s : State) :
    SparesObservers handle s (s.answerCapture handle response) := by
  refine ⟨rfl, Nat.le_succ _, .inr rfl, fun handle' response' h => ?_⟩
  have h : Event.replied handle' response' ∈ (s.answerCapture handle response).log := h
  simp only [State.answerCapture, List.mem_cons, Event.replied.injEq, reduceCtorEq, false_or] at h
  exact h.symm.imp_right (·.1)

theorem spares_read {α : Type} (own : Nat) (f : State → α) :
    (read f).Within fun _ => SparesObservers own := .atomic fun _ => .of_log rfl rfl

theorem flushPending_spares (pending : PendingControl) (input : FlushInput) :
    (flushPending pending input).Within fun _ => SparesObservers pending.reply := by
  have hexpire : (expirePending pending input).Within fun _ => SparesObservers pending.reply := by
    refine .ite (.atomic fun s => ?_) (.ret _)
    show SparesObservers pending.reply s (s.expirePending pending input.lockTaken)
    unfold State.expirePending
    split
    · obtain ⟨hwatchers, hevent, hcapture, hanswers⟩ :=
        spares_failPending pending deadlineExceeded s
      exact ⟨hwatchers, hevent, hcapture, hanswers⟩
    · exact .of_log rfl rfl
  have hreply : ∀ response, (reply pending.reply response).Within
      fun _ => SparesObservers pending.reply := by
    refine fun response => .atomic fun s => ⟨rfl, le_rfl, .inl rfl, fun handle response' h => ?_⟩
    rcases List.mem_cons.mp h with h | h
    · cases h
      exact .inr rfl
    · exact .inl h
  have hcomplete : (completePending pending).Within fun _ => SparesObservers pending.reply := by
    refine .bind (spares_read _ _) fun active => .bind (.atomic fun s => ?_) fun _ =>
      .bind (spares_read _ _) fun time => .bind (.atomic fun s => ?_) fun receipt =>
        .bind (spares_read _ _) fun status => ?_
    · exact ⟨rfl, le_rfl, .inl rfl, fun _ _ h => .inl h⟩
    · exact spares_completePending pending time s
    · exact .ite (.bind (.map (spares_read _ _)) fun _ => hreply _)
        (.bind (.ret _) fun _ => hreply _)
  refine .bind (spares_read _ _) fun failed => .ite (.atomic (spares_failPending _ _)) ?_
  have hpublished : ∀ published, Prog.Within (fun _ => SparesObservers pending.reply)
      (if published = pending.revision then completePending pending
        else expirePending pending input) := fun _ => .ite hcomplete hexpire
  exact .bind (spares_read _ _) fun applied => .ite
    (.ite (.bind (spares_read _ _) hpublished) (.bind (.ret _) hpublished)) hexpire

theorem flushCapture_spares (handle : Nat) (late : Bool) :
    (flushCapture handle late).Within fun _ => SparesObservers handle := by
  refine .bind (.atomic fun _ => .of_log rfl rfl) fun verdict => ?_
  cases verdict with
  | waiting => exact .ret _
  | finished response =>
    refine .bind (.atomic (spares_answerCapture handle response)) fun _ =>
      .bind (.atomic fun _ => ⟨rfl, le_rfl, .inl rfl, fun _ _ h => .inl h⟩) fun _ =>
        .atomic fun _ => ⟨rfl, le_rfl, .inl rfl, fun _ _ h => .inl h⟩

def Waiting (e : Executor) (p : Executor × (Nat → ControlResponse → Prop)) : Prop :=
  p.1.controlWatchers = e.controlWatchers ∧ e.controlEventRevision ≤ p.1.controlEventRevision ∧
    (p.1.captureReply = e.captureReply ∨ p.1.captureReply = none) ∧
    ∀ (i : Nat) (w : ControlWatcher), e.controlWatchers[i]? = some (some w) →
      ∀ response, ¬ p.2 w.reply response

structure Executor.OwnHandles (e : Executor) : Prop where
  apart : Apart e.controlWatchers
  pending : ∀ pending, e.pendingControl = some pending → ∀ (i : Nat) (w : ControlWatcher),
    e.controlWatchers[i]? = some (some w) → w.reply ≠ pending.reply
  capture : ∀ handle, e.captureReply = some handle → ∀ (i : Nat) (w : ControlWatcher),
    e.controlWatchers[i]? = some (some w) → w.reply ≠ handle

theorem SparesObservers.waiting {own : Nat} {s s' : State} (h : SparesObservers own s s')
    (hown : ∀ (i : Nat) (w : ControlWatcher), e.controlWatchers[i]? = some (some w) →
      w.reply ≠ own) (hs : Waiting e s.observed) : Waiting e s'.observed := by
  obtain ⟨hwatchers, hevent, hcapture, hsilent⟩ := hs
  refine ⟨h.watchers.trans hwatchers, hevent.trans h.event, ?_, fun i w hw response ha => ?_⟩
  · rcases h.capture with hsame | hnone
    · exact hcapture.imp hsame.trans hsame.trans
    · exact .inr hnone
  · exact hsilent i w hw response ((h.answers _ _ ha).resolve_right (hown i w hw))

theorem flushControl_stage (input : FlushInput) (hown : e.OwnHandles)
    (hlength : e.controlWatchers.length = kObservers)
    (hafter : ∀ w, some w ∈ e.controlWatchers → w.after ≤ e.controlEventRevision) :
    viewContract.Triple (fun s => s.ctl = e ∧ Waiting e s.observed) (flushControl input)
      fun _ s => ∃ event, AtStage input e.controlWatchers event kObservers s := by
  have hwaiting : viewContract.Stable fun s => Waiting e s.observed := view_observed (Waiting e)
  have hwatchers : viewContract.Triple (fun s => Waiting e s.observed) (flushWatchers input)
      fun _ s => ∃ event, AtStage input e.controlWatchers event kObservers s := by
    rintro s ⟨hsame, hevent, _, hsilent⟩
    have hnow : ∀ (i : Nat) (w : ControlWatcher), e.controlWatchers[i]? = some (some w) →
        w.after ≤ s.ctl.controlEventRevision :=
      fun i w hw => (hafter w (List.mem_of_getElem? hw)).trans hevent
    refine ((flushWatchers_stage hown.apart hlength hnow).post fun _ s h => ⟨_, h⟩) s ?_
    exact ⟨rfl, congrArg List.length hsame, fun j hj => absurd hj (Nat.not_lt_zero j),
        fun j _ => ⟨congrArg (·[j]?) hsame, hsilent j⟩⟩
  unfold flushControl
  refine .bind (Q := fun pending s => Waiting e s.observed ∧ pending = e.pendingControl)
    (view_read ((view_ctl (· = e)).and hwaiting) (fun _ => hwaiting.and (.const _))
      fun s hs => ⟨hs.2, by rw [hs.1]⟩) fun pending => ?_
  cases pending
  case' none => refine Contract.Triple.pre (P := fun s => Waiting e s.observed) ?_ fun s hs => hs.1
  case' some pending =>
    refine .assume fun hpending => .bind (view_within (flushPending_spares pending input) hwaiting
      fun s s' h => h.waiting (hown.pending pending hpending.symm)) fun _ => ?_
  -- the mutation spares the observers, and so does the capture
  all_goals
    refine .bind (Q := fun r s => Waiting e s.observed ∧ (r.1 = e.captureReply ∨ r.1 = none))
      (view_read hwaiting (fun _ => hwaiting.and (.const _)) fun s hs => ⟨hs, hs.2.2.1⟩)
      fun r => ?_
    obtain ⟨reply, deadline⟩ := r
    cases reply with
    | none => exact hwatchers.pre fun s hs => hs.1
    | some handle =>
      refine .assume fun hreply => .bind (view_within (flushCapture_spares handle _) hwaiting
        fun s s' h => h.waiting ?_) fun _ => hwatchers
      exact hown.capture handle (hreply.resolve_right (by simp)).symm

end

/-! ## handles -/

theorem mem_watcherReplies {watchers : List (Option ControlWatcher)} {i : Nat} {w : ControlWatcher}
    (h : watchers[i]? = some (some w)) : w.reply ∈ watchers.filterMap (·.map (·.reply)) :=
  List.mem_filterMap.mpr ⟨some w, List.mem_of_getElem? h, rfl⟩

theorem apart_of_count {watchers : List (Option ControlWatcher)}
    (h : ∀ handle, (watchers.filterMap (·.map (·.reply))).count handle ≤ 1) : Apart watchers := by
  intro i j w w' hi hj hsame
  by_contra hne
  have hslot : watchers.getD i none = some w := by
    rw [List.getD_eq_getElem?_getD, hi]
    rfl
  have hend := watchers_end hslot
  have hj' : (watchers.set i none)[j]? = some (some w') := by
    rw [List.getElem?_set_ne hne]
    exact hj
  have hrest := List.count_pos_iff.mpr (mem_watcherReplies hj')
  have hcount := h w.reply
  rw [hend.count_eq, List.count_cons_self, hsame] at hcount
  omega

theorem ReplyBook.ownHandles {s : State} (h : ReplyBook s) : s.ctl.OwnHandles := by
  have hcount : ∀ handle, (s.ctl.pendingControl.map (·.reply)).toList.count handle +
      s.ctl.captureReply.toList.count handle +
      (s.ctl.controlWatchers.filterMap (·.map (·.reply))).count handle ≤ 1 := by
    intro handle
    have honce := h.once handle
    rw [State.uses, State.openReplies, List.count_append, List.count_append] at honce
    omega
  refine ⟨apart_of_count fun handle => ?_, fun pending hpending i w hw hsame => ?_,
    fun handle hcapture i w hw hsame => ?_⟩
  · have := hcount handle
    omega
  · have hmem := List.count_pos_iff.mpr (mem_watcherReplies hw)
    have := hcount w.reply
    rw [hpending, hsame] at this
    rw [hsame] at hmem
    simp at this
    omega
  · have hmem := List.count_pos_iff.mpr (mem_watcherReplies hw)
    have := hcount w.reply
    rw [hcapture, hsame] at this
    rw [hsame] at hmem
    simp at this
    omega

theorem ReplyBook.silent {s : State} (h : ReplyBook s) {i : Nat} {w : ControlWatcher}
    (hw : s.ctl.controlWatchers[i]? = some (some w)) : s.Silent w.reply := by
  intro response hanswer
  have hreplied : w.reply ∈ s.replied := List.mem_filterMap.mpr ⟨_, hanswer, rfl⟩
  have hreplied := List.count_pos_iff.mpr hreplied
  have hopen := List.count_pos_iff.mpr (mem_watcherReplies hw)
  have honce := h.once w.reply
  rw [State.uses, State.openReplies, List.count_append] at honce
  omega

/-! ## requests leave the observers in their slots -/

def State.KeepsObservers (s s' : State) : Prop := ∀ (i : Nat) (w : ControlWatcher),
  s.ctl.controlWatchers[i]? = some (some w) → s'.ctl.controlWatchers[i]? = some (some w)

abbrev KeepingObservers {α : Type} (p : Thread α) : Prop :=
  p.Within fun _ => State.KeepsObservers

theorem keeping_of_same {α : Type} {l : Label} {f : State → State × α}
    (h : ∀ s, (f s).1.ctl.controlWatchers = s.ctl.controlWatchers) :
    KeepingObservers (.atomic l f) :=
  .atomic fun s i w hw => by rw [h s]; exact hw

theorem keeping_read {α : Type} (f : State → α) : KeepingObservers (read f) :=
  keeping_of_same fun _ => rfl

theorem keeping_reply (handle : Nat) (response : ControlResponse) :
    KeepingObservers (reply handle response) :=
  keeping_of_same fun _ => rfl

theorem handleRead_keeping (handle : Nat) (input : Json) (response : State → ControlResponse) :
    KeepingObservers (handleRead handle input response) := by
  unfold handleRead
  split
  · exact keeping_reply handle _
  · exact .bind (keeping_read _) fun _ => keeping_reply handle _

theorem handleReceipts_keeping (handle : Nat) (input : Json) (id : String) :
    KeepingObservers (handleReceipts handle input id) := by
  unfold handleReceipts
  split
  · exact keeping_reply handle _
  · refine .bind (keeping_read _) fun slot => ?_
    split <;> exact keeping_reply handle _

theorem handleObserve_keeping (handle : Nat) (request : ControlRequest) (input : Json)
    (sequence : List Char) : KeepingObservers (handleObserve handle request input sequence) := by
  unfold handleObserve
  split
  · exact keeping_reply handle _
  split
  · exact keeping_reply handle _
  refine .bind (keeping_read _) fun event => .ite (keeping_reply handle _) (.ite ?_ ?_)
  · exact .bind (keeping_read _) fun _ => keeping_reply handle _
  refine .bind (.atomic fun s i w hw => ?_) fun watching => .ite (keeping_reply handle _) (.ret _)
  dsimp only
  split
  · rename_i watchers hwatch
    obtain ⟨j, hfree, rfl⟩ := watch_some hwatch
    have hne : j ≠ i := by
      rintro rfl
      rw [hfree] at hw
      cases hw
    show (s.ctl.controlWatchers.set j _)[i]? = _
    rw [List.getElem?_set_ne hne]
    exact hw
  · exact hw

theorem admitCapture_keeping (handle : Nat) (request : ControlRequest)
    (options : Executor.CaptureOptions) (now : Int) :
    KeepingObservers (admitCapture handle request options now) := by
  have hopen : KeepingObservers (.atomic (.openCapture request.request_id) fun s => ({ s with
      ctl.captureSlotHeld := true
      ctl.captureRecording := false
      ctl.captureReply := some handle
      ctl.captureRequestID := request.request_id
      ctl.captureDeadline := min request.deadline (now + kCaptureBudget) }, ())) :=
    keeping_of_same fun _ => rfl
  have hreserve : KeepingObservers reserveCapture := by
    refine .atomic fun s i w hw => ?_
    dsimp only
    split <;> exact hw
  unfold admitCapture
  refine .bind hreserve fun reserved => .ite (keeping_reply handle _) ?_
  refine .bind (keeping_of_same fun _ => rfl) fun generation => .ite ?_ hopen
  exact .bind (keeping_of_same fun _ => rfl) fun _ =>
    .bind (keeping_of_same fun _ => rfl) fun _ => hopen

theorem handleCapture_keeping (handle : Nat) (request : ControlRequest) (input : Json)
    (now : Int) : KeepingObservers (handleCapture handle request input now) := by
  refine .bind (keeping_read _) fun options => ?_
  split
  · exact keeping_reply handle _
  rename_i options
  have hrest : ∀ active : Bool, KeepingObservers
      (if (!active) = true then reply handle (.error noActiveEncoder)
        else admitCapture handle request options now) := fun _ =>
    .ite (keeping_reply handle _) (admitCapture_keeping handle request options now)
  exact .ite (.bind (keeping_read _) hrest) (.bind (.ret _) hrest)

theorem handleMutation_keeping (cfg : PluginConfig) (handle : Nat) (kind : ControlKind)
    (request : ControlRequest) (input : Json) :
    KeepingObservers (handleMutation cfg handle kind request input) := by
  refine .bind (keeping_read _) fun checked => ?_
  split
  · exact keeping_reply handle _
  refine .ite (.bind (keeping_read _) ?hrest) (.bind (.ret _) ?hrest)
  intro active
  refine .ite (keeping_reply handle _) (.bind (keeping_read _) fun desired => ?_)
  split
  · exact keeping_reply handle _
  · exact keeping_of_same fun _ => rfl

theorem handleControlRequest_keeping (cfg : PluginConfig) (operation : String)
    (request : ControlRequest) (input : Json) (now : Int) :
    KeepingObservers (handleControlRequest cfg operation request input now) := by
  refine .bind (keeping_of_same fun _ => rfl) fun handle => ?_
  split
  · exact handleRead_keeping handle input _
  · exact handleRead_keeping handle input _
  · exact handleRead_keeping handle input _
  · exact handleReceipts_keeping handle input _
  · exact handleObserve_keeping handle request input _
  · exact handleCapture_keeping handle request input now
  · exact handleMutation_keeping cfg handle _ request input
  · exact keeping_reply handle _

/-! ## the protocol -/

/-- what `GET observe/{sequence}` promises -/
structure ObservationsExact (cfg : PluginConfig) : Prop where
  /-- in every state: four slots, whose observers are unanswered, and no handle is answered twice -/
  slots : ∀ s, (pluginMachine cfg).Reachable s → s.shared.ctl.controlWatchers.length = kObservers
  unanswered : ∀ s, (pluginMachine cfg).Reachable s → ∀ (i : Nat) (w : ControlWatcher),
    s.shared.ctl.controlWatchers[i]? = some (some w) → s.shared.Silent w.reply
  once : ∀ s, (pluginMachine cfg).Reachable s → ∀ handle, s.shared.replied.count handle ≤ 1
  /-- an event is a receipt -/
  events : ∀ s, (pluginMachine cfg).Reachable s →
    s.shared.ctl.controlEventRevision = s.shared.receipts.length
  /-- the answer to an observation, or its slot -/
  observe : ∀ sequence request_id deadline now
    (r : CallRun cfg (observeCall sequence request_id deadline now)), r.Finished →
      ObserveOutcome r.before.shared.ctl.nextReply deadline sequence.toList r.before.shared.ctl
        r.after.shared
  /-- requests leave the held observers where they are -/
  keep : ∀ operation request input now
    (r : CallRun cfg (.request operation request input now)), r.Finished →
      r.before.shared.KeepsObservers r.after.shared
  /-- what a `FlushControl` does with every slot -/
  flush : ∀ input (r : CallRun cfg (.flush input)), r.Finished →
    ∀ i slot, r.before.shared.ctl.controlWatchers[i]? = some slot → ∃ slot',
      r.after.shared.ctl.controlWatchers[i]? = some slot' ∧
        ObserverOutcome input i r.after.shared.ctl.controlEventRevision r.after.shared.Answers
          slot slot'
  /-- the observers that remain have seen all events -/
  current : ∀ input (r : CallRun cfg (.flush input)), r.Finished →
    ∀ w, some w ∈ r.after.shared.ctl.controlWatchers →
      w.after = r.after.shared.ctl.controlEventRevision

section
variable {cfg : PluginConfig}

theorem CallRun.keepsObservers {operation : String} {request : ControlRequest} {input : Json}
    {now : Int} (r : CallRun cfg (.request operation request input now)) (hfinished : r.Finished) :
    r.before.shared.KeepsObservers r.after.shared := by
  refine r.post (P := fun s => r.before.shared.KeepsObservers s) ?_ (fun _ _ hw => hw) hfinished
  refine view_within (handleControlRequest_keeping cfg operation request input now)
    (view_ctl fun e => ∀ (i : Nat) (w : ControlWatcher),
      r.before.shared.ctl.controlWatchers[i]? = some (some w) →
        e.controlWatchers[i]? = some (some w)) fun s s' hkeep hs i w hw => ?_
  exact hkeep i w (hs i w hw)

theorem CallRun.flushed {input : FlushInput} (r : CallRun cfg (.flush input))
    (hfinished : r.Finished) : AtStage input r.before.shared.ctl.controlWatchers
      r.after.shared.ctl.controlEventRevision kObservers r.after.shared := by
  have hbook := observerBook r.reachable
  have hreply := (plugin_books r.reachable).reply
  let e := r.before.shared.ctl
  have hstage : ∃ event, AtStage input e.controlWatchers event kObservers r.after.shared := by
    refine r.post (P := fun s => s.ctl = e ∧ Waiting e s.observed)
      (flushControl_stage input hreply.ownHandles hbook.length hbook.after) ⟨rfl, ?_⟩ hfinished
    exact ⟨rfl, le_rfl, .inl rfl, fun i w hw => hreply.silent hw⟩
  obtain ⟨event, hstage⟩ := hstage
  have hnow := hstage.now
  subst hnow
  exact hstage

theorem CallRun.flushed_slot {input : FlushInput} (r : CallRun cfg (.flush input))
    (hfinished : r.Finished) {i : Nat} {slot : Option ControlWatcher}
    (hslot : r.before.shared.ctl.controlWatchers[i]? = some slot) :
    ∃ slot', r.after.shared.ctl.controlWatchers[i]? = some slot' ∧
      ObserverOutcome input i r.after.shared.ctl.controlEventRevision r.after.shared.Answers
        slot slot' := by
  have hi := (List.getElem?_eq_some_iff.mp hslot).1
  rw [(observerBook r.reachable).length] at hi
  exact (r.flushed hfinished).passed i hi slot hslot

theorem CallRun.flushed_current {input : FlushInput} (r : CallRun cfg (.flush input))
    (hfinished : r.Finished) {w : ControlWatcher}
    (hw : some w ∈ r.after.shared.ctl.controlWatchers) :
    w.after = r.after.shared.ctl.controlEventRevision := by
  obtain ⟨i, hi⟩ := List.getElem?_of_mem hw
  have hlt : i < r.before.shared.ctl.controlWatchers.length := by
    rw [← (r.flushed hfinished).length]
    exact (List.getElem?_eq_some_iff.mp hi).1
  obtain ⟨slot', hslot', houtcome⟩ :=
    r.flushed_slot hfinished (List.getElem?_eq_getElem hlt)
  obtain rfl := Option.some.inj (hi.symm.trans hslot')
  generalize r.before.shared.ctl.controlWatchers[i] = slot at houtcome
  cases houtcome with
  | held _ _ hsame _ _ => exact hsame

/-- **Observation** never misses an event and never invents one. -/
theorem observation_exact (cfg : PluginConfig) : ObservationsExact cfg where
  slots _ h := (observerBook h).length
  unanswered _ h _ _ hw := (plugin_books h).reply.silent hw
  once _ h handle :=
    (Nat.le_add_left _ _).trans ((plugin_books h).reply.once handle)
  events _ h := by
    obtain ⟨_, hrecorded⟩ := receiptBook h
    exact hrecorded.event
  observe _ _ _ _ r hfinished := r.observed hfinished
  keep _ _ _ _ r hfinished := r.keepsObservers hfinished
  flush _ r hfinished _ _ hslot := r.flushed_slot hfinished hslot
  current _ r hfinished _ hw := r.flushed_current hfinished hw

end

end MediaCamera
