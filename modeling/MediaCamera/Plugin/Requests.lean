import MediaCamera.Plugin.ExecutorCalls
import MediaCamera.Plugin.Outcome

/-!
# Rejected requests change nothing

* `State.Unchanged`, `State.Rejects`   a step that leaves every member alone; a step that answers a
                     request with an error;
* `handleControlRequest_decides`   the request handler rejects before it does anything;
* `RequestRun`       a run in which the executor takes one request and begins no further call;
* `requests_rejected_or_counted`   rejection, compare-and-swap, and the count of admissions.
-/

namespace MediaCamera

open Prog

/-! ## rejection -/

/-- only the numbering of the requests and the history differ -/
def State.Unchanged (s s' : State) : Prop :=
  s' = { s with ctl.nextReply := s'.ctl.nextReply, log := s'.log }

def State.Rejects (s s' : State) : Prop :=
  ∃ handle error, .replied handle (.error error) ∈ s'.log ∧
    .replied handle (.error error) ∉ s.log

/-- no member changes, and nothing is rejected -/
def State.Looks (s s' : State) : Prop := s.Unchanged s' ∧ ¬ s.Rejects s'

theorem State.Unchanged.refl (s : State) : s.Unchanged s := rfl

theorem State.accepts_of_log {s s' : State}
    (h : ∀ handle error, .replied handle (.error error) ∈ s'.log →
      .replied handle (.error error) ∈ s.log) : ¬ s.Rejects s' := by
  rintro ⟨handle, error, hnew, hold⟩
  exact hold (h handle error hnew)

theorem State.Looks.refl (s : State) : s.Looks s := ⟨rfl, State.accepts_of_log fun _ _ h => h⟩

abbrev Looking {α : Type} (p : Thread α) : Prop := p.Within fun _ => State.Looks

abbrev Silent {α : Type} (p : Thread α) : Prop := p.Within fun _ => State.Unchanged

abbrev Accepting {α : Type} (p : Thread α) : Prop := p.Within fun _ s s' => ¬ s.Rejects s'

/-- the program rejects before it does anything, or does not reject -/
abbrev DecidesFirst {α : Type} (p : Thread α) : Prop := p.Decides State.Unchanged State.Rejects

section
variable {α : Type}

theorem looking_read {f : State → α} : Looking (read f) := .atomic fun s => .refl s

theorem silent_read {f : State → α} : Silent (read f) := .atomic fun s => .refl s

theorem silent_reply (handle : Nat) (response : ControlResponse) : Silent (reply handle response) :=
  .atomic fun _ => rfl

theorem accepting_write {f : State → State}
    (h : ∀ s, (f s).log = s.log ∨
      ∃ e, (f s).log = e :: s.log ∧ ∀ handle error, e ≠ .replied handle (.error error)) :
    Accepting (write f) := by
  refine .atomic fun s => State.accepts_of_log fun handle error hmem => ?_
  have hmem : .replied handle (.error error) ∈ (f s).log := hmem
  rcases h s with hlog | ⟨e, hlog, hne⟩
  · rw [hlog] at hmem
    exact hmem
  · rw [hlog] at hmem
    rcases List.mem_cons.mp hmem with he | hmem
    · exact absurd he.symm (hne handle error)
    · exact hmem

theorem handleRead_silent (handle : Nat) (input : Json) (response : State → ControlResponse) :
    Silent (handleRead handle input response) := by
  unfold handleRead
  split
  · exact silent_reply handle _
  · exact .bind silent_read fun _ => silent_reply handle _

theorem handleReceipts_silent (handle : Nat) (input : Json) (id : String) :
    Silent (handleReceipts handle input id) := by
  unfold handleReceipts
  split
  · exact silent_reply handle _
  · refine .bind silent_read fun slot => ?_
    split <;> exact silent_reply handle _

/-- an observer that finds no free slot is the only one that is refused late -/
theorem handleObserve_decides (handle : Nat) (request : ControlRequest) (input : Json)
    (sequence : List Char) : DecidesFirst (handleObserve handle request input sequence) := by
  unfold handleObserve
  split
  · exact .of_silent (silent_reply handle _)
  split
  · exact .of_silent (silent_reply handle _)
  refine .bind looking_read fun event => .ite (.of_silent (silent_reply handle _)) (.ite ?_ ?_)
  · exact .of_silent (.bind silent_read fun _ => silent_reply handle _)
  refine .access fun s => ?_
  dsimp only
  split
  · exact .inr ⟨State.accepts_of_log fun _ _ h => h, .ret _⟩
  · exact .inl ⟨rfl, State.accepts_of_log fun _ _ h => h, .of_silent (silent_reply handle _)⟩

/-- past the reservation, the admission of a capture is not refused any more -/
theorem admitCapture_decides (handle : Nat) (request : ControlRequest)
    (options : Executor.CaptureOptions) (now : Int) :
    DecidesFirst (admitCapture handle request options now) := by
  have hopen : Accepting (write fun s => { s with
      ctl.captureSlotHeld := true
      ctl.captureReply := some handle
      ctl.captureRequestID := request.request_id
      ctl.captureDeadline := min request.deadline (now + kCaptureBudget) }) :=
    accepting_write fun s => .inl rfl
  refine .access fun s => ?_
  dsimp only
  split
  · exact .inl ⟨rfl, State.accepts_of_log fun _ _ h => h, .of_silent (silent_reply handle _)⟩
  · refine .inr ⟨State.accepts_of_log fun _ _ h => h, ?_⟩
    refine .bind (.atomic fun s => State.accepts_of_log fun _ _ h => h) fun generation => ?_
    refine .ite (.bind ?_ fun _ => .bind ?_ fun _ => hopen) hopen
    · exact accepting_write fun s => .inr ⟨_, rfl, by simp⟩
    · exact accepting_write fun s => .inl rfl

theorem handleCapture_decides (handle : Nat) (request : ControlRequest) (input : Json)
    (now : Int) : DecidesFirst (handleCapture handle request input now) := by
  refine .bind looking_read fun options => ?_
  split
  · exact .of_silent (silent_reply handle _)
  rename_i options
  have hrest : ∀ active : Bool, DecidesFirst
      (if (!active) = true then reply handle (.error noActiveEncoder)
        else admitCapture handle request options now) := fun _ =>
    .ite (.of_silent (silent_reply handle _)) (admitCapture_decides handle request options now)
  exact .ite (.bind looking_read hrest) (.bind (.ret _) hrest)

theorem handleMutation_decides (cfg : PluginConfig) (handle : Nat) (kind : ControlKind)
    (request : ControlRequest) (input : Json) :
    DecidesFirst (handleMutation cfg handle kind request input) := by
  refine .bind looking_read fun checked => ?_
  split
  · exact .of_silent (silent_reply handle _)
  refine .ite (.bind looking_read ?hrest) (.bind (.ret _) ?hrest)
  intro active
  refine .ite (.of_silent (silent_reply handle _)) (.bind looking_read fun r => ?_)
  split
  · exact .of_silent (silent_reply handle _)
  · exact .of_accepting (accepting_write fun s => .inr ⟨_, rfl, by simp⟩)

theorem handleControlRequest_decides (cfg : PluginConfig) (operation : String)
    (request : ControlRequest) (input : Json) (now : Int) :
    DecidesFirst (handleControlRequest cfg operation request input now) := by
  refine .bind (.atomic fun s => ⟨rfl, State.accepts_of_log fun _ _ h => h⟩) fun handle => ?_
  split
  · exact .of_silent (handleRead_silent handle input _)
  · exact .of_silent (handleRead_silent handle input _)
  · exact .of_silent (handleRead_silent handle input _)
  · exact .of_silent (handleReceipts_silent handle input _)
  · exact handleObserve_decides handle request input _
  · exact handleCapture_decides handle request input now
  · exact handleMutation_decides cfg handle _ request input
  · exact .of_silent (silent_reply handle _)

end

/-! ## compare-and-swap -/

def expectedRevision (input : Json) : Option Nat :=
  (input.get? "expected_revision").bind fun value => value.number?.bind (·.uint64?)

/-- a configuration passes its checks with the present revision only -/
theorem Executor.checkMutation_expected {e : Executor} {input : Json}
    (h : e.checkMutation .config input = .ok ()) :
    expectedRevision input = some e.desiredRevision := by
  unfold checkMutation at h
  obtain ⟨_, _, h⟩ := except_bind_ok h
  obtain ⟨persist, _, h⟩ := except_bind_ok h
  unfold expectedRevision
  cases hvalue : input.get? "expected_revision" with
  | none =>
    have hmember : input.isMember "expected_revision" = false := by
      rw [Json.isMember, hvalue]
      rfl
    simp only [hmember, and_self, if_true] at h
    split at h <;> cases h
  | some value =>
    rw [hvalue] at h
    cases hexpected : value.number?.bind (·.uint64?) with
    | none =>
      simp only [hexpected] at h
      repeat' split at h
      all_goals cases h
    | some expected =>
      simp only [hexpected] at h
      show value.number?.bind (·.uint64?) = _
      rw [hexpected]
      by_cases he : expected = e.desiredRevision
      · rw [he]
      · rw [if_pos he] at h
        repeat' split at h
        all_goals cases h

def State.Admits (s : State) (handle : Nat) (kind : ControlKind) (revision : Nat) : Prop :=
  .admitted handle kind revision ∈ s.log

/-- a step of a request with the document `input` that arrived at the revision `revision`: it
admits nothing, or it takes the next revision -/
def State.Counts (input : Json) (revision : Nat) (s s' : State) : Prop :=
  (s'.ctl.desiredRevision = s.ctl.desiredRevision ∧
    ∀ handle kind r, s'.Admits handle kind r → s.Admits handle kind r) ∨
  (s.ctl.desiredRevision = revision ∧ s'.ctl.desiredRevision = revision + 1 ∧
    ∀ handle kind r, s'.Admits handle kind r → s.Admits handle kind r ∨
      (r = revision + 1 ∧ (kind = .config → expectedRevision input = some revision)))

theorem State.Counts.same {input : Json} {revision : Nat} {s s' : State}
    (hrevision : s'.ctl.desiredRevision = s.ctl.desiredRevision)
    (hlog : s'.log = s.log ∨ ∃ e, s'.log = e :: s.log ∧ ∀ handle kind r, e ≠ .admitted handle kind r) :
    s.Counts input revision s' := by
  refine .inl ⟨hrevision, fun handle kind r hmem => ?_⟩
  unfold State.Admits at hmem ⊢
  rcases hlog with hlog | ⟨e, hlog, hne⟩
  · rw [hlog] at hmem
    exact hmem
  · rw [hlog] at hmem
    rcases List.mem_cons.mp hmem with he | hmem
    · exact absurd he.symm (hne handle kind r)
    · exact hmem

/-- what a request relies on: the executor's members are its own -/
def requestContract (input : Json) (revision : Nat) :
    Contract (σ := State) (Λ := Label) (fun _ => True) fun _ _ => True where
  rely s s' := s'.ctl = s.ctl
  guar _ := State.Counts input revision
  rely_refl _ := rfl
  rely_trans h h' := h'.trans h

section
variable {α : Type} {input : Json} {revision : Nat}

abbrev Countless {α : Type} (p : Thread α) : Prop := p.Within fun _ s s' =>
  s'.ctl.desiredRevision = s.ctl.desiredRevision ∧
    (s'.log = s.log ∨ ∃ e, s'.log = e :: s.log ∧ ∀ handle kind r, e ≠ .admitted handle kind r)

theorem countless_read {f : State → α} : Countless (read f) := .atomic fun _ => ⟨rfl, .inl rfl⟩

theorem countless_reply (handle : Nat) (response : ControlResponse) :
    Countless (reply handle response) := .atomic fun _ => ⟨rfl, .inr ⟨_, rfl, by simp⟩⟩

theorem request_countless {P : State → Prop} {p : Thread α} (h : Countless p) :
    (requestContract input revision).Triple P p fun _ _ => True :=
  Contract.Triple.pre (P := fun _ => True) (h.triple (fun _ _ _ _ _ => trivial)
    (fun _ _ _ hs => State.Counts.same hs.1 hs.2) .true fun _ _ _ _ _ => trivial) fun _ _ => trivial

theorem request_stable (P : Executor → Prop) :
    (requestContract input revision).Stable fun s => P s.ctl :=
  .of_eq (fun _ _ h => h) P

theorem request_read {P : Executor → Prop} {Q : α → Executor → Prop} {f : State → α}
    (h : ∀ s : State, P s.ctl → Q (f s) s.ctl) :
    (requestContract input revision).Triple (fun s => P s.ctl) (read f) fun a s => Q a s.ctl :=
  .atomic (request_stable P) (fun a => request_stable (Q a)) fun s _ hP _ =>
    ⟨trivial, State.Counts.same rfl (.inl rfl), h s hP⟩

theorem handleObserve_countless (handle : Nat) (request : ControlRequest) (sequence : List Char) :
    Countless (handleObserve handle request input sequence) := by
  unfold handleObserve
  split
  · exact countless_reply handle _
  split
  · exact countless_reply handle _
  refine .bind countless_read fun event => .ite (countless_reply handle _) (.ite ?_ ?_)
  · exact .bind countless_read fun _ => countless_reply handle _
  refine .bind (.atomic fun s => ?_) fun _ => .ite (countless_reply handle _) (.ret _)
  dsimp only
  split <;> exact ⟨rfl, .inl rfl⟩

theorem admitCapture_countless (handle : Nat) (request : ControlRequest)
    (options : Executor.CaptureOptions) (now : Int) :
    Countless (admitCapture handle request options now) := by
  have hopen : Countless (write fun s => { s with
      ctl.captureSlotHeld := true
      ctl.captureReply := some handle
      ctl.captureRequestID := request.request_id
      ctl.captureDeadline := min request.deadline (now + kCaptureBudget) }) :=
    .atomic fun s => ⟨rfl, .inl rfl⟩
  refine .bind (.atomic fun s => ?_) fun reserved => .ite (countless_reply handle _) ?_
  · dsimp only
    split <;> exact ⟨rfl, .inl rfl⟩
  refine .bind (.atomic fun s => ⟨rfl, .inl rfl⟩) fun generation => .ite ?_ hopen
  exact .bind (.atomic fun s => ⟨rfl, .inr ⟨_, rfl, by simp⟩⟩) fun _ =>
    .bind (.atomic fun s => ⟨rfl, .inl rfl⟩) fun _ => hopen

theorem handleCapture_countless (handle : Nat) (request : ControlRequest) (now : Int) :
    Countless (handleCapture handle request input now) := by
  refine .bind countless_read fun options => ?_
  split
  · exact countless_reply handle _
  have hrest : ∀ (options : Executor.CaptureOptions) (active : Bool), Countless
      (if (!active) = true then reply handle (.error noActiveEncoder)
        else admitCapture handle request options now) := fun options _ =>
    .ite (countless_reply handle _) (admitCapture_countless handle request options now)
  exact .ite (.bind countless_read (hrest _)) (.bind (.ret _) (hrest _))

theorem handleMutation_counts (cfg : PluginConfig) (handle : Nat) (kind : ControlKind)
    (request : ControlRequest) :
    (requestContract input revision).Triple (·.ctl.desiredRevision = revision)
      (handleMutation cfg handle kind request input) fun _ _ => True := by
  let Checked : Executor → Prop := fun e =>
    e.desiredRevision = revision ∧ (kind = .config → expectedRevision input = some revision)
  refine .bind (Q := fun r s => s.ctl.desiredRevision = revision ∧
      (r = .ok () → kind = .config → expectedRevision input = some revision))
    (request_read (P := (·.desiredRevision = revision))
      (Q := fun (r : Except ControlError Unit) e => e.desiredRevision = revision ∧
        (r = .ok () → kind = .config → expectedRevision input = some revision))
      fun s h => ⟨h, fun hr hkind => ?_⟩) fun checked => ?_
  · subst hkind
    rw [Executor.checkMutation_expected hr, h]
  split
  · exact request_countless (countless_reply handle _)
  refine Contract.Triple.pre (P := fun s => Checked s.ctl) ?_ fun s h => ⟨h.1, h.2 rfl⟩
  refine (fun hrest => .ite (fun _ => .bind (request_read (P := Checked) (Q := fun _ => Checked)
    fun s h => h) hrest) fun _ => .bind (.ret (request_stable Checked) fun _ _ h => h) hrest) ?_
  intro active
  refine .ite (fun _ => request_countless (countless_reply handle _)) fun _ => ?_
  refine .bind (request_read (P := Checked) (Q := fun _ => Checked) fun s h => h) fun r => ?_
  split
  · exact request_countless (countless_reply handle _)
  refine .atomic (request_stable Checked) (fun _ => .true) fun s _ h _ => ⟨trivial, ?_, trivial⟩
  refine .inr ⟨h.1, congrArg (· + 1) h.1, fun handle' kind' r' hmem => ?_⟩
  rcases List.mem_cons.mp hmem with he | hmem
  · cases he
    exact .inr ⟨congrArg (· + 1) h.1, h.2⟩
  · exact .inl hmem

/-- a request admits at most one mutation, at the revision at which it arrived -/
theorem handleControlRequest_counts (cfg : PluginConfig) (operation : String)
    (request : ControlRequest) (now : Int) :
    (requestContract input revision).Triple (·.ctl.desiredRevision = revision)
      (handleControlRequest cfg operation request input now) fun _ _ => True := by
  have hread : ∀ handle response, Countless (handleRead handle input response) := by
    intro handle response
    unfold handleRead
    split
    · exact countless_reply handle _
    · exact .bind countless_read fun _ => countless_reply handle _
  refine .bind (Q := fun _ s => s.ctl.desiredRevision = revision)
    (.atomic (request_stable (·.desiredRevision = revision))
      (fun _ => request_stable (·.desiredRevision = revision))
      fun s _ h _ => ⟨trivial, State.Counts.same rfl (.inl rfl), h⟩) fun handle => ?_
  split
  · exact request_countless (hread handle _)
  · exact request_countless (hread handle _)
  · exact request_countless (hread handle _)
  · refine request_countless ?_
    unfold handleReceipts
    split
    · exact countless_reply handle _
    · refine .bind countless_read fun slot => ?_
      split <;> exact countless_reply handle _
  · exact request_countless (handleObserve_countless handle request _)
  · exact request_countless (handleCapture_countless handle request now)
  · exact handleMutation_counts cfg handle _ request
  · exact request_countless (countless_reply handle _)

end

/-! ## runs of one request -/

/-- an idle executor takes a request, and begins no further call in the run `actions` -/
structure RequestRun (cfg : PluginConfig) where
  before : PluginState
  reachable : (pluginMachine cfg).Reachable before
  idle : before.thread .executor = .ret ()
  operation : String
  request : ControlRequest
  input : Json
  now : Int
  actions : List PluginAction
  uncalled : Pool.Uncalled .executor actions

namespace RequestRun
variable {cfg : PluginConfig} (r : RequestRun cfg)

def call : PluginAction := .start .executor (.request r.operation r.request r.input r.now)

def taken : PluginState := (pluginMachine cfg).step r.before r.call

def after : PluginState := (pluginMachine cfg).run r.taken r.actions

def steps : List (Taken State Label) := (plugin cfg).stepsOf .executor r.taken r.actions

def Records (e : Event) : Prop := e ∈ r.after.shared.log ∧ e ∉ r.before.shared.log

instance (e : Event) : Decidable (r.Records e) :=
  inferInstanceAs (Decidable (e ∈ r.after.shared.log ∧ e ∉ r.before.shared.log))

def Rejected : Prop := ∃ error, r.Records (.replied r.before.shared.ctl.nextReply (.error error))

def Admitted (kind : ControlKind) : Prop :=
  ∃ handle revision, r.Records (.admitted handle kind revision)

end RequestRun

section
variable {cfg : PluginConfig}

theorem ThreadStep.desiredRevision_le {t : ThreadName} {l : Label} {s s' : State}
    (h : ThreadStep cfg t l s s') : s.ctl.desiredRevision ≤ s'.ctl.desiredRevision := by
  by_cases ht : t = .executor
  · subst ht
    have h : ExecutorStep cfg l s s' := h
    cases h with
    | admission => exact Nat.le_succ _
    | _ => exact le_rfl
  · exact (congrArg (·.desiredRevision) (h.executorRely ht).ctl).ge

theorem desiredRevision_mono {s : PluginState} (h : (pluginMachine cfg).Reachable s)
    (as : List PluginAction) : s.shared.ctl.desiredRevision ≤
      ((pluginMachine cfg).run s as).shared.ctl.desiredRevision := by
  induction as generalizing s with
  | nil => exact le_rfl
  | cons a as ih =>
    refine le_trans ?_ (ih (h.next a))
    rcases plugin_step h a with e | ⟨t, l, rfl, _, hstep⟩
    · exact (congrArg (·.ctl.desiredRevision) e).ge
    · exact hstep.desiredRevision_le

end

namespace RequestRun
variable {cfg : PluginConfig} (r : RequestRun cfg)

theorem taken_eq : r.taken.shared = r.before.shared ∧ r.taken.thread .executor =
    handleControlRequest cfg r.operation r.request r.input r.now := by
  have hnext := Pool.next_start (P := plugin cfg) r.idle
    (.request r.operation r.request r.input r.now)
  have htaken : r.taken = _ := hnext
  rw [htaken]
  exact ⟨rfl, rfl⟩

theorem taken_reachable : (pluginMachine cfg).Reachable r.taken := r.reachable.next _

theorem after_reachable : (pluginMachine cfg).Reachable r.after := r.taken_reachable.run _

theorem records_step {X : State → Prop} (hX : ∀ s s', ExecutorRely s s' → X s' → X s)
    (hafter : X r.after.shared) (hbefore : ¬ X r.before.shared) :
    ∃ x ∈ r.steps, ¬ X x.before ∧ X x.after := by
  have hturn := Pool.stepsOf_turns (P := plugin cfg) (X := X) (t := .executor)
    (D := (pluginMachine cfg).Reachable) (fun s a h => h.next a)
    (fun s a h ha => hX _ _ (executorRely_of_others h ha)) r.uncalled r.taken_reachable hafter
  rcases hturn with hX | h
  · rw [r.taken_eq.1] at hX
    exact absurd hX hbefore
  · exact h

theorem rejected_unchanged (h : r.Rejected) : ∀ x ∈ r.steps, x.before.Unchanged x.after := by
  obtain ⟨error, hafter, hbefore⟩ := h
  have htrace : Prog.Trace (r.taken.thread .executor) r.steps :=
    Pool.stepsOf_trace r.uncalled r.taken
  rw [r.taken_eq.2] at htrace
  rcases (handleControlRequest_decides cfg _ _ _ _).trace htrace with hsilent | haccepts
  · exact hsilent
  obtain ⟨x, hx, hold, hnew⟩ := r.records_step
    (X := fun s => .replied r.before.shared.ctl.nextReply (.error error) ∈ s.log) (by
      rintro s s' hrely hmem
      obtain ⟨new, hlog, hnew⟩ := hrely.log
      rw [hlog] at hmem
      rcases List.mem_append.mp hmem with hmem | hmem
      · cases hnew _ hmem
      · exact hmem) hafter hbefore
  exact absurd ⟨_, error, hnew, hold⟩ (haccepts x hx)

theorem steps_count : ∀ x ∈ r.steps,
    x.before.Counts r.input r.before.shared.ctl.desiredRevision x.after := by
  refine Pool.stepsOf_guar (P := plugin cfg)
    (K := requestContract r.input r.before.shared.ctl.desiredRevision) (Q := fun _ _ => True)
    (D := (pluginMachine cfg).Reachable) (fun s a h => h.next a) (fun _ _ => trivial)
    (fun _ _ _ => trivial) (fun s a h ha => (executorRely_of_others h ha).ctl) r.uncalled
    r.taken_reachable ?_
  rw [r.taken_eq.2]
  refine handleControlRequest_counts cfg _ _ _ _ ?_
  rw [r.taken_eq.1]

theorem admitted_counts {kind : ControlKind} (h : r.Admitted kind) :
    r.after.shared.ctl.desiredRevision = r.before.shared.ctl.desiredRevision + 1 ∧
      (kind = .config →
        expectedRevision r.input = some r.before.shared.ctl.desiredRevision) := by
  obtain ⟨handle, revision, hafter, hbefore⟩ := h
  -- up to the admission the revision and the admitted mutations are those of the beginning
  let Before : State → Prop := fun s =>
    s.ctl.desiredRevision = r.before.shared.ctl.desiredRevision ∧
      ∀ handle kind revision, s.Admits handle kind revision →
        r.before.shared.Admits handle kind revision
  let After : State → Prop := fun s =>
    s.ctl.desiredRevision = r.before.shared.ctl.desiredRevision + 1 ∧
      ∀ handle kind revision, s.Admits handle kind revision →
        r.before.shared.Admits handle kind revision ∨ (kind = .config →
          expectedRevision r.input = some r.before.shared.ctl.desiredRevision)
  have hkeep : Before r.after.shared ∨ After r.after.shared := by
    refine Pool.stepsOf_keeps (P := plugin cfg) (J := fun s => Before s ∨ After s)
      (t := .executor) (D := (pluginMachine cfg).Reachable) (fun s a h => h.next a) ?_
      r.uncalled r.taken_reachable ?_ ?_
    · intro s a h ha hJ
      have hrely := executorRely_of_others h ha
      have hadmits : ∀ handle kind revision,
          ((pluginMachine cfg).step s a).shared.Admits handle kind revision →
            s.shared.Admits handle kind revision := by
        intro handle kind revision hmem
        obtain ⟨new, hlog, hnew⟩ := hrely.log
        unfold State.Admits at hmem
        rw [hlog] at hmem
        rcases List.mem_append.mp hmem with hmem | hmem
        · cases hnew _ hmem
        · exact hmem
      have hctl := congrArg (·.desiredRevision) hrely.ctl
      rcases hJ with ⟨hrevision, hmem⟩ | ⟨hrevision, hmem⟩
      · exact .inl ⟨hctl.trans hrevision, fun _ _ _ h => hmem _ _ _ (hadmits _ _ _ h)⟩
      · exact .inr ⟨hctl.trans hrevision, fun _ _ _ h => hmem _ _ _ (hadmits _ _ _ h)⟩
    · intro x hx hJ
      rcases r.steps_count x hx with ⟨hsame, hadmits⟩ | ⟨harrived, hnext, hadmits⟩
      · rcases hJ with ⟨hrevision, hmem⟩ | ⟨hrevision, hmem⟩
        · exact .inl ⟨hsame.trans hrevision, fun _ _ _ h => hmem _ _ _ (hadmits _ _ _ h)⟩
        · exact .inr ⟨hsame.trans hrevision, fun _ _ _ h => hmem _ _ _ (hadmits _ _ _ h)⟩
      · rcases hJ with ⟨_, hmem⟩ | ⟨hrevision, _⟩
        · refine .inr ⟨hnext, fun _ _ _ h => ?_⟩
          rcases hadmits _ _ _ h with h | h
          · exact .inl (hmem _ _ _ h)
          · exact .inr h.2
        · omega
    · rw [r.taken_eq.1]
      exact .inl ⟨rfl, fun _ _ _ h => h⟩
  rcases hkeep with ⟨_, hmem⟩ | ⟨hrevision, hmem⟩
  · exact absurd (hmem _ _ _ hafter) hbefore
  · refine ⟨hrevision, fun hkind => ?_⟩
    rcases hmem _ _ _ hafter with h | h
    · exact absurd h hbefore
    · exact h hkind

end RequestRun

/-- **Rejected requests change nothing**, each admission takes the next revision, and a
configuration is admitted at the revision that it expects, so no two at the same one -/
theorem requests_rejected_or_counted (cfg : PluginConfig) :
    (∀ r : RequestRun cfg, r.Rejected → ∀ x ∈ r.steps, x.before.Unchanged x.after) ∧
    (∀ (r : RequestRun cfg) (kind : ControlKind), r.Admitted kind →
      r.after.shared.ctl.desiredRevision = r.before.shared.ctl.desiredRevision + 1 ∧
        (kind = .config →
          expectedRevision r.input = some r.before.shared.ctl.desiredRevision)) ∧
    ∀ (r r' : RequestRun cfg) (as : List PluginAction),
      r'.before = (pluginMachine cfg).run r.after as → r.Admitted .config → r'.Admitted .config →
        expectedRevision r.input ≠ expectedRevision r'.input := by
  refine ⟨fun r => r.rejected_unchanged, fun r _ => r.admitted_counts, ?_⟩
  intro r r' as hlater h h' hsame
  obtain ⟨hnext, hexpected⟩ := r.admitted_counts h
  have hexpected' := (r'.admitted_counts h').2 rfl
  have hmono := desiredRevision_mono r.after_reachable as
  rw [hexpected rfl, hexpected'] at hsame
  rw [← hlater] at hmono
  have hsame := Option.some.inj hsame
  omega

/-- a configuration against revision 1, from an idle executor on -/
def RequestRun.config (before : PluginState) (reachable : (pluginMachine .sample).Reachable before)
    (idle : before.thread .executor = .ret ()) (request_id : String) : RequestRun .sample where
  before := before
  reachable := reachable
  idle := idle
  operation := "config"
  request := ⟨"PATCH", request_id, 10⟩
  input := .object [("config", .object [("jpeg_quality", .number (.int 80))]),
    ("expected_revision", .number (.uint 1))]
  now := 0
  actions := List.replicate 8 (.step .executor)
  uncalled := fun _ h => by cases List.eq_of_mem_replicate h

def RequestRun.first : RequestRun .sample :=
  .config .sample (PluginState.sample_reachable _) rfl "a"

def RequestRun.second : RequestRun .sample :=
  .config RequestRun.first.after RequestRun.first.after_reachable rfl "b"

theorem requests_rejected_or_counted_configs :
    (∀ x ∈ RequestRun.second.steps, x.before.Unchanged x.after) ∧
      RequestRun.first.after.shared.ctl.desiredRevision = 1 + 1 :=
  ⟨(requests_rejected_or_counted .sample).1 .second
      ⟨⟨409, "conflict", "camera configuration revision differs"⟩, by decide +kernel⟩,
    ((requests_rejected_or_counted .sample).2.1 .first .config
      ⟨0, 2, by decide +kernel⟩).1⟩

end MediaCamera
