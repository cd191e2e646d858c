import MediaCamera.Plugin.Replies

/-!
# The executor of the host

`hostMachine` lets each source have its calls of the executor at any time.  In a
`CameraSourceControlHost` there is one executor thread; it holds `sources_mutex_` through `Dispatch`
and through `FlushSources`, and `Unregister` waits for that mutex.  Here a sensor cannot be
unregistered while the executor is inside a call of any other.

* `ControlHost`          the sources of a host, and where its executor stands;
* `controlHostMachine`   the machine of the host;
* `ControlHost.Sound`    at most one source is inside a call of the executor;
* `controlHost_hosted`   every run of the host is one of `hostMachine`;
* `executor_returns`     an executor that goes on gives the mutex back.
-/

namespace MediaCamera

/-! ## the machine -/

/-- where the executor thread stands -/
inductive HostExecutor (ι : Type) where
  /-- it does not hold `sources_mutex_` -/
  | waiting
  /-- it holds `sources_mutex_`, inside a call of a source, and the other calls follow -/
  | calling (i : ι) (rest : List (ι × ExecutorCall))

structure ControlHost (ι : Type) where
  executor : HostExecutor ι
  host : CameraHost ι

inductive ControlHostAction (ι : Type) where
  /-- `Dispatch` finds the source of a request -/
  | dispatch (i : ι) (operation : String) (request : ControlRequest) (input : Json) (now : Int)
  /-- `FlushSources` begins -/
  | flush (inputs : ι → FlushInput)
  /-- the next step of the executor inside `Dispatch` or `FlushSources` -/
  | proceed
  /-- another thread of a source -/
  | thread (i : ι) (a : PluginAction)
  /-- the next step of the destructor of a source -/
  | remove (i : ι)

def PluginAction.ofExecutor : PluginAction → Bool
  | .start .executor _ | .step .executor => true
  | _ => false

namespace ControlHost
variable {ι : Type} [DecidableEq ι]

/-- the executor enters the next call; a slot whose source is unregistered is passed over -/
def call (cfg : ι → PluginConfig) (host : ControlHost ι) : List (ι × ExecutorCall) → ControlHost ι
  | [] => { host with executor := .waiting }
  | (i, c) :: rest =>
    { executor := .calling i rest, host := host.host.next cfg (i, .thread (.start .executor c)) }

/-- `slots` are the sources in the order of `sources_` -/
def next (cfg : ι → PluginConfig) (slots : List ι) (host : ControlHost ι) :
    ControlHostAction ι → ControlHost ι
  | .dispatch i operation request input now =>
    match host.executor with
    | .waiting => host.call cfg [(i, .request operation request input now)]
    | .calling _ _ => host
  | .flush inputs =>
    match host.executor with
    | .waiting => host.call cfg (slots.map fun i => (i, .flush (inputs i)))
    | .calling _ _ => host
  | .proceed =>
    match host.executor with
    | .waiting => host
    | .calling i rest =>
      if (host.host.source i).idle .executor then host.call cfg rest
      else { host with host := host.host.next cfg (i, .thread (.step .executor)) }
  | .thread i a =>
    if a.ofExecutor then host else { host with host := host.host.next cfg (i, .thread a) }
  | .remove i =>
    match (host.host.source i).removal, host.executor with
    -- `Unregister` waits for `sources_mutex_`
    | .unregistering, .calling _ _ => host
    | _, _ => { host with host := host.host.next cfg (i, .remove) }

end ControlHost

/-- a host, its executor and the removals of its sources -/
def controlHostMachine {ι : Type} [DecidableEq ι] (cfg : ι → PluginConfig) (slots : List ι) :
    Machine (ControlHost ι) (ControlHostAction ι) where
  init host := host.executor = .waiting ∧ (hostMachine cfg).init host.host
  step := ControlHost.next cfg slots

/-- a flush finds no observer cancelled -/
def ControlHostAction.Hears {ι : Type} : ControlHostAction ι → Prop
  | .flush inputs => ∀ i, (inputs i).Heard
  | _ => True

/-! ## one call at a time -/

def SourceAction.ofExecutor : SourceAction → Bool
  | .thread a => a.ofExecutor
  | .remove => false

theorem remove_thread (source : CameraSource) : source.remove.state.thread = source.state.thread := by
  unfold CameraSource.remove
  cases source.removal <;> dsimp only <;> (try split) <;> rfl

section
variable {ι : Type} [DecidableEq ι] {cfg : ι → PluginConfig}

/-- whoever is not the executor leaves it where it stands, and so does a call of another source -/
theorem executor_kept (host : CameraHost ι) {j : ι} {a : ι × SourceAction}
    (ha : j ≠ a.1 ∨ a.2.ofExecutor = false) :
    ((host.next cfg a).source j).state.thread .executor = (host.source j).state.thread .executor := by
  by_cases hj : j = a.1
  · subst hj
    have ha : a.2.ofExecutor = false := ha.resolve_left (fun hne => hne rfl)
    rw [CameraHost.next_source_self]
    cases haction : a.2 with
    | remove =>
      show (CameraSource.remove _).state.thread .executor = _
      rw [remove_thread]
      rfl
    | thread b =>
      rw [haction] at ha
      show (CameraSource.state (if _ then _ else _)).thread .executor = _
      split
      · cases b with
        | start t c =>
          refine Pool.next_start_thread_ne ?_ _ c
          rintro rfl
          cases ha
        | step t =>
          refine Pool.next_thread_ne (P := plugin (cfg a.1)) ?_ _
          rintro rfl
          cases ha
      · rfl
  · rw [CameraHost.next_source_other hj]

/-- the executor leaves the other threads and the removals where they stand -/
theorem others_kept (host : CameraHost ι) {i : ι} {a : PluginAction} (ha : a.ofExecutor = true)
    (j : ι) :
    ((host.next cfg (i, .thread a)).source j).removal = (host.source j).removal ∧
      ∀ t, t ≠ .executor →
        ((host.next cfg (i, .thread a)).source j).state.thread t = (host.source j).state.thread t := by
  by_cases hj : j = i
  · subst hj
    rw [CameraHost.next_source_self]
    dsimp only [CameraSource.next]
    split
    · refine ⟨rfl, fun t ht => ?_⟩
      cases a with
      | start t' c =>
        refine Pool.next_start_thread_ne ?_ _ c
        rintro rfl
        cases t' with
        | executor => exact ht rfl
        | _ => cases ha
      | step t' =>
        refine Pool.next_thread_ne (P := plugin (cfg j)) ?_ _
        rintro rfl
        cases t' with
        | executor => exact ht rfl
        | _ => cases ha
    · exact ⟨rfl, fun t _ => rfl⟩
  · rw [CameraHost.next_source_other hj]
    exact ⟨rfl, fun t _ => rfl⟩

namespace ControlHost
variable {slots : List ι} {host : ControlHost ι}

theorem proceed_waiting (hwaiting : host.executor = .waiting) :
    host.next cfg slots .proceed = host := by
  unfold ControlHost.next
  rw [hwaiting]

theorem remove_waiting (hwaiting : host.executor = .waiting) (i : ι) :
    host.next cfg slots (.remove i) =
      { executor := .waiting, host := host.host.next cfg (i, .remove) } := by
  unfold ControlHost.next
  dsimp only
  rw [hwaiting]
  split
  · rename_i hcalling
    cases hcalling
  · rfl

theorem proceed_idle {i : ι} {rest : List (ι × ExecutorCall)}
    (hcalling : host.executor = .calling i rest)
    (hidle : (host.host.source i).idle .executor = true) :
    host.next cfg slots .proceed = host.call cfg rest := by
  unfold ControlHost.next
  rw [hcalling]
  exact if_pos hidle

theorem proceed_busy {i : ι} {rest : List (ι × ExecutorCall)}
    (hcalling : host.executor = .calling i rest)
    (hbusy : (host.host.source i).idle .executor = false) :
    host.next cfg slots .proceed =
      { host with host := host.host.next cfg (i, .thread (.step .executor)) } := by
  unfold ControlHost.next
  rw [hcalling]
  exact if_neg (by simp [hbusy])

/-- only the source that the executor has called is inside a call, and no call finds an observer
cancelled -/
structure Sound (host : ControlHost ι) : Prop where
  called : ∀ i, (host.host.source i).idle .executor = false →
    ∃ rest, host.executor = .calling i rest
  heard : ∀ i rest, host.executor = .calling i rest → ∀ c ∈ rest, ExecutorCall.Heard c.2

omit [DecidableEq ι] in
theorem Sound.free (h : host.Sound)
    (hover : ∀ i rest, host.executor = .calling i rest → (host.host.source i).idle .executor = true)
    (i : ι) : (host.host.source i).idle .executor = true := by
  by_contra hidle
  obtain ⟨rest, hcalling⟩ := h.called i (Bool.eq_false_of_not_eq_true hidle)
  exact hidle (hover i rest hcalling)

omit [DecidableEq ι] in
theorem Sound.waiting (h : host.Sound) (hwaiting : host.executor = .waiting) (i : ι) :
    (host.host.source i).idle .executor = true := by
  apply h.free
  intro j rest hcalling
  cases hwaiting.symm.trans hcalling

theorem Sound.call {calls : List (ι × ExecutorCall)}
    (hfree : ∀ i, (host.host.source i).idle .executor = true)
    (hheard : ∀ c ∈ calls, ExecutorCall.Heard c.2) : (host.call cfg calls).Sound := by
  cases calls with
  | nil =>
    constructor
    · intro i hi
      rw [show ((host.call cfg []).host.source i).idle .executor = true from hfree i] at hi
      cases hi
    · intro i rest hcalling
      cases hcalling
  | cons c rest =>
    constructor
    · intro i hi
      by_cases hc : i = c.1
      · exact ⟨rest, by rw [hc]; rfl⟩
      · have hkept : ((host.host.next cfg (c.1, .thread (.start .executor c.2))).source
            i).state.thread .executor = (host.host.source i).state.thread .executor :=
          executor_kept host.host (.inl hc)
        have hidle := hfree i
        unfold CameraSource.idle at hi hidle
        rw [show (host.call cfg (c :: rest)).host =
          host.host.next cfg (c.1, .thread (.start .executor c.2)) from rfl, hkept, hidle] at hi
        cases hi
    · intro i rest' hcalling
      cases hcalling
      exact fun c' hc' => hheard c' (List.mem_cons_of_mem _ hc')

theorem Sound.beside (h : host.Sound) {a : ι × SourceAction} (ha : a.2.ofExecutor = false) :
    ({ host with host := host.host.next cfg a } : ControlHost ι).Sound := by
  constructor
  · intro i hi
    apply h.called i
    unfold CameraSource.idle at hi ⊢
    rwa [executor_kept host.host (.inr ha)] at hi
  · exact h.heard

theorem Sound.next (h : host.Sound) {a : ControlHostAction ι} (ha : a.Hears) :
    (host.next cfg slots a).Sound := by
  cases a with
  | dispatch i operation request input now =>
    unfold ControlHost.next
    cases hexecutor : host.executor with
    | waiting =>
      apply Sound.call (h.waiting hexecutor)
      intro c hc
      rw [List.mem_singleton.mp hc]
      trivial
    | calling i rest => exact h
  | flush inputs =>
    unfold ControlHost.next
    cases hexecutor : host.executor with
    | waiting =>
      apply Sound.call (h.waiting hexecutor)
      intro c hc
      obtain ⟨i, _, rfl⟩ := List.mem_map.mp hc
      exact ha i
    | calling i rest => exact h
  | proceed =>
    cases hexecutor : host.executor with
    | waiting =>
      rw [proceed_waiting hexecutor]
      exact h
    | calling i rest =>
      cases hidle : (host.host.source i).idle .executor with
      | true =>
        rw [proceed_idle hexecutor hidle]
        refine Sound.call (h.free fun j rest' hcalling => ?_) (h.heard i rest hexecutor)
        cases hexecutor.symm.trans hcalling
        exact hidle
      | false =>
        rw [proceed_busy hexecutor hidle]
        constructor
        · intro j hj
          by_cases hi : j = i
          · subst hi
            exact ⟨rest, hexecutor⟩
          · apply h.called j
            unfold CameraSource.idle at hj ⊢
            rwa [executor_kept host.host (.inl hi)] at hj
        · exact h.heard
  | thread i a =>
    unfold ControlHost.next
    dsimp only
    cases hofExecutor : a.ofExecutor with
    | true => exact h
    | false => exact h.beside (a := (i, .thread a)) hofExecutor
  | remove i =>
    unfold ControlHost.next
    dsimp only
    split
    · exact h
    · exact h.beside (a := (i, .remove)) rfl

end ControlHost

/-! ## the host, and its sources -/

theorem call_host (cfg : ι → PluginConfig) (host : ControlHost ι)
    (calls : List (ι × ExecutorCall)) :
    (host.call cfg calls).host = host.host ∨ ∃ c ∈ calls,
      (host.call cfg calls).host = host.host.next cfg (c.1, .thread (.start .executor c.2)) := by
  cases calls with
  | nil => exact .inl rfl
  | cons c rest => exact .inr ⟨c, List.mem_cons_self, rfl⟩

theorem next_host (cfg : ι → PluginConfig) (slots : List ι) (host : ControlHost ι)
    (a : ControlHostAction ι) :
    (host.next cfg slots a).host = host.host ∨ ∃ b : ι × SourceAction,
      (a.Hears → host.Sound → CameraSource.Hears b.2) ∧
        (host.next cfg slots a).host = host.host.next cfg b := by
  have hcall : ∀ calls, (a.Hears → host.Sound → ∀ c ∈ calls, ExecutorCall.Heard c.2) →
      (host.call cfg calls).host = host.host ∨ ∃ b : ι × SourceAction,
        (a.Hears → host.Sound → CameraSource.Hears b.2) ∧
          (host.call cfg calls).host = host.host.next cfg b := by
    intro calls hheard
    rcases call_host cfg host calls with hsame | ⟨c, hc, hstep⟩
    · exact .inl hsame
    · exact .inr ⟨(c.1, .thread (.start .executor c.2)), fun ha hsound => hheard ha hsound c hc,
        hstep⟩
  cases a with
  | dispatch i operation request input now =>
    unfold ControlHost.next
    cases host.executor with
    | waiting =>
      apply hcall
      intro _ _ c hc
      rw [List.mem_singleton.mp hc]
      trivial
    | calling i rest => exact .inl rfl
  | flush inputs =>
    unfold ControlHost.next
    cases host.executor with
    | waiting =>
      apply hcall
      intro ha _ c hc
      obtain ⟨i, _, rfl⟩ := List.mem_map.mp hc
      exact ha i
    | calling i rest => exact .inl rfl
  | proceed =>
    cases hexecutor : host.executor with
    | waiting => exact .inl (by rw [ControlHost.proceed_waiting hexecutor])
    | calling i rest =>
      cases hidle : (host.host.source i).idle .executor with
      | true =>
        rw [ControlHost.proceed_idle hexecutor hidle]
        exact hcall rest fun _ hsound => hsound.heard i rest hexecutor
      | false =>
        rw [ControlHost.proceed_busy hexecutor hidle]
        exact .inr ⟨(i, .thread (.step .executor)), fun _ _ => trivial, rfl⟩
  | thread i a =>
    unfold ControlHost.next
    dsimp only
    cases hofExecutor : a.ofExecutor with
    | true => exact .inl rfl
    | false =>
      refine .inr ⟨(i, .thread a), fun _ _ => ?_, rfl⟩
      cases a with
      | step t => trivial
      | start t c =>
        cases t with
        | executor => cases hofExecutor
        | _ => trivial
  | remove i =>
    unfold ControlHost.next
    dsimp only
    split
    · exact .inl rfl
    · exact .inr ⟨(i, .remove), fun _ _ => trivial, rfl⟩

variable {slots : List ι} {host : ControlHost ι}

theorem controlHost_sound
    (h : (controlHostMachine cfg slots).ReachableUnder (fun _ a => a.Hears) host) : host.Sound := by
  refine Machine.ReachableUnder.invariant ?_ (fun host a _ ha hsound => hsound.next ha) h
  intro host hinit
  constructor
  · intro i hi
    rw [CameraSource.idle, (hinit.2.2 i).2.2] at hi
    cases hi
  · intro i rest hcalling
    cases hinit.1.symm.trans hcalling

/-- **The host runs its sources.**  What holds in every run of `hostMachine` holds here. -/
theorem controlHost_hosted
    (h : (controlHostMachine cfg slots).ReachableUnder (fun _ a => a.Hears) host) :
    (hostMachine cfg).ReachableUnder (fun _ a => CameraSource.Hears a.2) host.host := by
  have hprojects : Machine.Projects (controlHostMachine cfg slots) (hostMachine cfg)
      ControlHost.host (fun host a => a.Hears ∧ host.Sound) fun _ a => CameraSource.Hears a.2 := by
    refine ⟨fun host hinit => hinit.2, fun host a ha => ?_⟩
    rcases next_host cfg slots host a with hsame | ⟨b, hheard, hstep⟩
    · exact .inl hsame
    · exact .inr ⟨b, hheard ha.1 ha.2, hstep⟩
  exact (Machine.ReachableUnder.strengthen (fun host h => controlHost_sound h) h).map hprojects

theorem controlHost_run (cfg : ι → PluginConfig) (slots : List ι) (host : ControlHost ι)
    (as : List (ControlHostAction ι)) :
    ∃ bs, ((controlHostMachine cfg slots).run host as).host = (hostMachine cfg).run host.host bs := by
  induction as generalizing host with
  | nil => exact ⟨[], rfl⟩
  | cons a as ih =>
    obtain ⟨bs, hrun⟩ := ih (host.next cfg slots a)
    rcases next_host cfg slots host a with hsame | ⟨b, _, hstep⟩
    · exact ⟨bs, by rw [← hsame]; exact hrun⟩
    · refine ⟨b :: bs, hrun.trans ?_⟩
      rw [hstep]
      rfl

/-! ## the executor goes on -/

structure CameraHost.Beside (host host' : CameraHost ι) : Prop where
  removal : ∀ j, (host'.source j).removal = (host.source j).removal
  thread : ∀ j t, t ≠ .executor →
    (host'.source j).state.thread t = (host.source j).state.thread t

omit [DecidableEq ι] in
theorem CameraHost.Beside.trans {host host' host'' : CameraHost ι} (h : host.Beside host')
    (h' : host'.Beside host'') : host.Beside host'' where
  removal j := (h'.removal j).trans (h.removal j)
  thread j t ht := (h'.thread j t ht).trans (h.thread j t ht)

theorem beside_executor (host : CameraHost ι) (i : ι) {a : PluginAction}
    (ha : a.ofExecutor = true) : host.Beside (host.next cfg (i, .thread a)) where
  removal j := (others_kept host ha j).1
  thread j := (others_kept host ha j).2

omit [DecidableEq ι] in
theorem CameraHost.Beside.refl (host : CameraHost ι) : host.Beside host where
  removal _ := rfl
  thread _ _ _ := rfl

theorem beside_call (host : ControlHost ι) (calls : List (ι × ExecutorCall)) :
    host.host.Beside (host.call cfg calls).host := by
  rcases call_host cfg host calls with hsame | ⟨c, _, hstep⟩
  · rw [hsame]
    exact .refl _
  · rw [hstep]
    exact beside_executor _ _ rfl

theorem beside_proceed (slots : List ι) (host : ControlHost ι) :
    host.host.Beside (host.next cfg slots .proceed).host := by
  cases hexecutor : host.executor with
  | waiting =>
    rw [ControlHost.proceed_waiting hexecutor]
    exact .refl _
  | calling i rest =>
    cases hidle : (host.host.source i).idle .executor with
    | true =>
      rw [ControlHost.proceed_idle hexecutor hidle]
      exact beside_call host rest
    | false =>
      rw [ControlHost.proceed_busy hexecutor hidle]
      exact beside_executor _ _ rfl

def ControlHost.goingOn (cfg : ι → PluginConfig) (slots : List ι) (host : ControlHost ι) (n : Nat) :
    ControlHost ι :=
  (controlHostMachine cfg slots).run host (List.replicate n .proceed)

theorem goingOn_beside (host : ControlHost ι) (n : Nat) :
    host.host.Beside (host.goingOn cfg slots n).host := by
  induction n generalizing host with
  | zero => exact .refl _
  | succ n ih => exact (beside_proceed slots host).trans (ih (host.next cfg slots .proceed))

theorem goingOn_waiting (hwaiting : host.executor = .waiting) (n : Nat) :
    host.goingOn cfg slots n = host := by
  induction n with
  | zero => rfl
  | succ n ih =>
    show (host.next cfg slots .proceed).goingOn cfg slots n = host
    rw [ControlHost.proceed_waiting hwaiting]
    exact ih

theorem call_returns (cfg : ι → PluginConfig) (slots : List ι) (host : ControlHost ι) {i : ι}
    {rest : List (ι × ExecutorCall)} (hcalling : host.executor = .calling i rest) :
    ∃ n, (host.goingOn cfg slots n).executor = .calling i rest ∧
      ((host.goingOn cfg slots n).host.source i).idle .executor = true := by
  generalize hp : (host.host.source i).state.thread .executor = p
  induction p generalizing host with
  | ret u =>
    refine ⟨0, hcalling, ?_⟩
    show ((host.host.source i).state.thread .executor).next.isNone = true
    rw [hp]
    rfl
  | act l f k ih =>
    have hbusy : (host.host.source i).idle .executor = false := by
      rw [CameraSource.idle, hp]
      rfl
    have hnext : host.next cfg slots .proceed = _ := ControlHost.proceed_busy hcalling hbusy
    have hthread : ((host.next cfg slots .proceed).host.source i).state.thread .executor =
        k ((host.host.source i).state.shared.seeing host.host.captureReserved) := by
      rw [hnext]
      show ((host.host.next cfg (i, .thread (.step .executor))).source i).state.thread .executor = _
      rw [CameraHost.next_source_self (i, .thread (.step .executor))]
      show ((plugin (cfg i)).next _ (.step .executor)).thread .executor = _
      rw [Pool.next_step (s := ((host.host.source i).seeing host.host.captureReserved).state) hp]
      rfl
    have hstill : (host.next cfg slots .proceed).executor = .calling i rest := by
      rw [hnext]
      exact hcalling
    obtain ⟨n, hreach⟩ := ih _ _ hstill hthread
    exact ⟨n + 1, hreach⟩

theorem goingOn_add (host : ControlHost ι) (m n : Nat) :
    host.goingOn cfg slots (m + n) = (host.goingOn cfg slots m).goingOn cfg slots n := by
  unfold ControlHost.goingOn
  rw [List.replicate_add, Machine.run_append]

/-- **The executor gives the mutex back**, if it goes on. -/
theorem executor_returns (cfg : ι → PluginConfig) (slots : List ι) (host : ControlHost ι) :
    ∃ n, (host.goingOn cfg slots n).executor = .waiting := by
  cases hexecutor : host.executor with
  | waiting => exact ⟨0, hexecutor⟩
  | calling i rest =>
    -- call by call
    induction rest generalizing host i with
    | nil =>
      obtain ⟨n, hcalling, hidle⟩ := call_returns cfg slots host hexecutor
      refine ⟨n + 1, ?_⟩
      rw [goingOn_add]
      show ((host.goingOn cfg slots n).next cfg slots .proceed).executor = _
      rw [ControlHost.proceed_idle hcalling hidle]
      rfl
    | cons c rest ih =>
      obtain ⟨n, hcalling, hidle⟩ := call_returns cfg slots host hexecutor
      have hnext : ((host.goingOn cfg slots n).next cfg slots .proceed).executor =
          .calling c.1 rest := by
        rw [ControlHost.proceed_idle hcalling hidle]
        rfl
      obtain ⟨m, hwaiting⟩ := ih _ _ hnext
      refine ⟨n + (m + 1), ?_⟩
      rw [goingOn_add]
      exact hwaiting

end

end MediaCamera
