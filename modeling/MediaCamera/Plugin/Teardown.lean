import MediaCamera.Plugin.HostExecutor

/-!
# A removal completes

The destructor of a sensor waits three times: for the render callback, for the executor of the host,
and for the JPEG worker.

* `Removal.rank`     the stages in their order;
* `host_forward`     no step of a host undoes a removal;
* `drain`            a thread that goes on comes to its end;
* `removal_leads`    while the executor waits for its next call, the removal of a source comes to its
                     end without the help of the others;
* `removal_completes`   wherever the host stands, it does so once the executor has returned from the
                     calls that it is in; it gives the capture back and leaves no request unanswered.
-/

namespace MediaCamera

/-! ## the stages -/

def Removal.rank : Removal → Nat
  | .registered => 0
  | .unregistering => 1
  | .answering => 2
  | .stoppingEncoder => 3
  | .joining => 4
  | .releasing => 5
  | .recording => 6
  | .removed => 7

def Removal.waitsFor : Removal → Option ThreadName
  | .registered => some .render
  | .unregistering => some .executor
  | .joining => some .jpegWorker
  | _ => none

/-- the action begins no call, and is not of the executor -/
def SourceAction.goesOn : SourceAction → Bool
  | .thread (.start _ _) => false
  | .thread (.step t) => decide (t ≠ .executor)
  | .remove => true

namespace CameraSource
variable {cfg : PluginConfig} {source : CameraSource}

theorem remove_rank_le (source : CameraSource) : source.removal.rank ≤ source.remove.removal.rank := by
  unfold CameraSource.remove
  cases hremoval : source.removal <;> dsimp only <;> (try split) <;>
    simp [Removal.rank, hremoval]

/-- the destructor goes on where it need not wait -/
theorem remove_rank_lt (source : CameraSource) (hremoval : source.removal ≠ .removed)
    (hwaits : ∀ t, source.removal.waitsFor = some t → source.idle t = true) :
    source.removal.rank < source.remove.removal.rank := by
  unfold CameraSource.remove
  cases hr : source.removal with
  | registered | unregistering | joining =>
    have hidle := hwaits _ (by rw [hr]; rfl)
    dsimp only
    rw [if_pos hidle]
    simp [Removal.rank]
  | releasing =>
    dsimp only
    split <;> simp [Removal.rank]
  | removed => exact absurd hr hremoval
  | _ => simp [Removal.rank]

theorem next_rank_le (source : CameraSource) (a : SourceAction) :
    source.removal.rank ≤ (source.next cfg a).removal.rank := by
  cases a with
  | remove => exact source.remove_rank_le
  | thread a =>
    show _ ≤ (CameraSource.removal (if source.takes a then _ else source)).rank
    split <;> exact le_rfl

end CameraSource

section
variable {ι : Type} [DecidableEq ι] {cfg : ι → PluginConfig} {host : CameraHost ι} {i : ι}

/-- a removal is never undone -/
theorem host_forward (cfg : ι → PluginConfig) (host : CameraHost ι)
    (as : List (ι × SourceAction)) (i : ι) :
    (host.source i).removal.rank ≤ (((hostMachine cfg).run host as).source i).removal.rank := by
  induction as generalizing host with
  | nil => exact le_rfl
  | cons a as ih =>
    refine le_trans ?_ (ih (host.next cfg a))
    by_cases hi : i = a.1
    · subst hi
      rw [CameraHost.next_source_self]
      exact ((host.source a.1).seeing host.captureReserved).next_rank_le a.2
    · rw [CameraHost.next_source_other hi]

/-! ## progress -/

def CameraHost.alone (cfg : ι → PluginConfig) (i : ι) (host : CameraHost ι)
    (as : List SourceAction) : CameraHost ι :=
  (hostMachine cfg).run host (as.map fun a => (i, a))

theorem alone_other (host : CameraHost ι) (as : List SourceAction) {j : ι} (hj : j ≠ i) :
    (host.alone cfg i as).source j = host.source j := by
  induction as generalizing host with
  | nil => rfl
  | cons a as ih =>
    show ((host.next cfg (i, a)).alone cfg i as).source j = _
    rw [ih]
    exact CameraHost.next_source_other hj

theorem alone_append (host : CameraHost ι) (as bs : List SourceAction) :
    host.alone cfg i (as ++ bs) = (host.alone cfg i as).alone cfg i bs := by
  unfold CameraHost.alone
  rw [List.map_append, Machine.run_append]

theorem not_executor {a : SourceAction} (ha : a.goesOn = true) : a.ofExecutor = false := by
  cases a with
  | remove => rfl
  | thread a =>
    cases a with
    | start t c => cases ha
    | step t =>
      cases t with
      | executor => cases ha
      | _ => rfl

theorem alone_executor (host : CameraHost ι) {as : List SourceAction}
    (has : ∀ a ∈ as, a.goesOn = true) :
    ((host.alone cfg i as).source i).idle .executor = (host.source i).idle .executor := by
  induction as generalizing host with
  | nil => rfl
  | cons a as ih =>
    show (((host.next cfg (i, a)).alone cfg i as).source i).idle .executor = _
    rw [ih _ fun a ha => has a (List.mem_cons_of_mem _ ha)]
    unfold CameraSource.idle
    rw [executor_kept host (.inr (not_executor (has a List.mem_cons_self)))]

/-- a thread that takes its steps comes to the end of its call -/
theorem drain (cfg : ι → PluginConfig) (host : CameraHost ι) (i : ι) (t : ThreadName) :
    ∃ n, let host' := host.alone cfg i (List.replicate n (.thread (.step t)))
      (host'.source i).idle t = true ∧ (host'.source i).removal = (host.source i).removal := by
  generalize hp : (host.source i).state.thread t = p
  induction p generalizing host with
  | ret u =>
    refine ⟨0, ?_, rfl⟩
    show ((host.source i).state.thread t).next.isNone = true
    rw [hp]
    rfl
  | act l f k ih =>
    have hsource : (host.next cfg (i, .thread (.step t))).source i =
        { state := (plugin (cfg i)).next
            ((host.source i).seeing host.captureReserved).state (.step t)
          removal := (host.source i).removal } := CameraHost.next_source_self _
    have hthread : ((host.next cfg (i, .thread (.step t))).source i).state.thread t =
        k ((host.source i).state.shared.seeing host.captureReserved) := by
      rw [hsource]
      show ((plugin (cfg i)).next _ (.step t)).thread t = _
      rw [Pool.next_step (s := ((host.source i).seeing host.captureReserved).state) hp]
      exact if_pos rfl
    obtain ⟨n, hidle, hremoval⟩ := ih _ _ hthread
    refine ⟨n + 1, ?_⟩
    rw [List.replicate_succ]
    refine ⟨hidle, hremoval.trans ?_⟩
    rw [hsource]

/-- the actions of source `i` alone lead the host to `P`; none of them is of the executor -/
def Leads (cfg : ι → PluginConfig) (i : ι) (host : CameraHost ι) (P : CameraHost ι → Prop) : Prop :=
  ∃ as : List SourceAction, (∀ a ∈ as, a.goesOn = true) ∧ P (host.alone cfg i as)

theorem Leads.trans {P Q : CameraHost ι → Prop} (h : Leads cfg i host P)
    (hP : ∀ host', P host' → Leads cfg i host' Q) : Leads cfg i host Q := by
  obtain ⟨as, has, hreach⟩ := h
  obtain ⟨bs, hbs, hQ⟩ := hP _ hreach
  refine ⟨as ++ bs, fun a ha => ?_, ?_⟩
  · exact (List.mem_append.mp ha).elim (has a) (hbs a)
  · rw [alone_append]
    exact hQ

theorem removal_advances (host : CameraHost ι) (i : ι)
    (hidle : (host.source i).idle .executor = true)
    (hremoval : (host.source i).removal ≠ .removed) :
    Leads cfg i host fun host' => (host'.source i).idle .executor = true ∧
      (host.source i).removal.rank < (host'.source i).removal.rank := by
  -- first the thread that the destructor waits for, then the destructor
  have hready : Leads cfg i host fun host' =>
      (host'.source i).removal = (host.source i).removal ∧
        (host'.source i).idle .executor = true ∧
        ∀ t, (host'.source i).removal.waitsFor = some t → (host'.source i).idle t = true := by
    by_cases hwaits : (host.source i).removal.waitsFor = none ∨
        (host.source i).removal.waitsFor = some .executor
    · refine ⟨[], by simp, rfl, hidle, fun t ht => ?_⟩
      have ht : (host.source i).removal.waitsFor = some t := ht
      rw [ht] at hwaits
      rcases hwaits with hnone | hexecutor
      · cases hnone
      · cases hexecutor
        exact hidle
    · obtain ⟨hnot, hother⟩ := not_or.mp hwaits
      obtain ⟨t, ht⟩ := Option.ne_none_iff_exists'.mp hnot
      have hne : t ≠ .executor := by
        rintro rfl
        exact hother ht
      obtain ⟨n, hdone, hsame⟩ := drain cfg host i t
      have hsteps : ∀ a ∈ List.replicate n (SourceAction.thread (.step t)), a.goesOn = true := by
        intro a ha
        rw [List.eq_of_mem_replicate ha]
        exact decide_eq_true hne
      refine ⟨_, hsteps, hsame, ?_, fun t' ht' => ?_⟩
      · rw [alone_executor host hsteps]
        exact hidle
      · rw [hsame, ht] at ht'
        rw [← Option.some.inj ht']
        exact hdone
  refine hready.trans fun host' hhost' => ⟨[.remove], by simp [SourceAction.goesOn], ?_, ?_⟩
  · rw [alone_executor host' (by simp [SourceAction.goesOn])]
    exact hhost'.2.1
  · rw [← hhost'.1]
    show _ < ((host'.next cfg (i, .remove)).source i).removal.rank
    rw [CameraHost.next_source_self (i, .remove)]
    exact ((host'.source i).seeing host'.captureReserved).remove_rank_lt
      (fun he => hremoval (hhost'.1.symm.trans he)) hhost'.2.2

theorem removal_leads (cfg : ι → PluginConfig) (host : CameraHost ι) (i : ι)
    (hidle : (host.source i).idle .executor = true) :
    Leads cfg i host fun host' => (host'.source i).removal = .removed := by
  generalize hn : 7 - (host.source i).removal.rank = n
  induction n using Nat.strong_induction_on generalizing host with
  | _ n ih =>
    by_cases hremoval : (host.source i).removal = .removed
    · exact ⟨[], by simp, hremoval⟩
    · refine (removal_advances host i hidle hremoval).trans fun host' ⟨hidle', hlt⟩ => ?_
      have hle : (host'.source i).removal.rank ≤ 7 := by
        cases (host'.source i).removal <;> simp [Removal.rank]
      exact ih _ (by omega) host' hidle' rfl

theorem removed_for_good (h : (hostMachine cfg).Reachable host)
    (hremoved : (host.source i).removal = .removed) (as : List (ι × SourceAction)) :
    (((hostMachine cfg).run host as).source i).removal = .removed ∧
      ¬ ((hostMachine cfg).run host as).Holds i := by
  have hforward := host_forward cfg host as i
  obtain ⟨holder, _, hsound⟩ := host_lock (h.run as)
  generalize (hostMachine cfg).run host as = host' at hforward hsound
  have hstill : (host'.source i).removal = .removed := by
    rw [hremoved] at hforward
    cases hr : (host'.source i).removal with
    | removed => rfl
    | _ =>
      rw [hr] at hforward
      simp [Removal.rank] at hforward
  have hretired := (hsound.source i).retired (by rw [hstill]; rfl)
  have hrecording := hretired.recording
  rw [hstill] at hrecording
  refine ⟨hstill, ?_⟩
  show ¬ (_ != _) = true
  rw [hretired.removed hstill, hrecording]
  exact Bool.false_ne_true

end

/-! ## the removal of a source of the host -/

section
variable {ι : Type} [DecidableEq ι] {cfg : ι → PluginConfig} {slots : List ι}
  {host : ControlHost ι} {i : ι}

def SourceAction.ofHost {ι : Type} (i : ι) : SourceAction → ControlHostAction ι
  | .thread a => .thread i a
  | .remove => .remove i

/-- the source `i` moves alone, beside the executor -/
def ControlHost.alone (cfg : ι → PluginConfig) (slots : List ι) (i : ι) (host : ControlHost ι)
    (as : List SourceAction) : ControlHost ι :=
  (controlHostMachine cfg slots).run host (as.map (·.ofHost i))

/-- while the executor waits, a source of the host moves as it does in `hostMachine` -/
theorem alone_waiting (hwaiting : host.executor = .waiting) {as : List SourceAction}
    (has : ∀ a ∈ as, a.goesOn = true) :
    host.alone cfg slots i as = { executor := .waiting, host := host.host.alone cfg i as } := by
  induction as generalizing host with
  | nil =>
    rw [← hwaiting]
    rfl
  | cons a as ih =>
    have hstep : host.next cfg slots (a.ofHost i) =
        { executor := .waiting, host := host.host.next cfg (i, a) } := by
      have hother := not_executor (has a List.mem_cons_self)
      cases a with
      | thread a =>
        show (if a.ofExecutor = true then _ else _) = _
        rw [if_neg (by simpa [SourceAction.ofExecutor] using hother), hwaiting]
      | remove => exact ControlHost.remove_waiting hwaiting i
    show (host.next cfg slots (a.ofHost i)).alone cfg slots i as = _
    rw [hstep]
    exact ih rfl fun a ha => has a (List.mem_cons_of_mem _ ha)

omit [DecidableEq ι] in
theorem ofHost_hears {a : SourceAction} (ha : a.goesOn = true) : (a.ofHost i).Hears := by
  cases a <;> trivial

/-- how a removal comes to its end: first the executor returns from its calls, then the source moves
alone -/
structure RemovalRun (cfg : ι → PluginConfig) (slots : List ι) (i : ι) (host returned host' :
    ControlHost ι) : Prop where
  calls : ∃ n, returned = host.goingOn cfg slots n
  /-- which it has nothing to do for, outside `Dispatch` and `FlushSources` -/
  waiting : host.executor = .waiting → returned = host
  free : returned.executor = .waiting
  steps : ∃ as : List SourceAction, (∀ a ∈ as, a.goesOn = true) ∧
    host' = returned.alone cfg slots i as

/-- a removed source: it works for no capture, has answered every request, and nobody gives it the
capture or brings it back -/
structure ControlHost.Removed (cfg : ι → PluginConfig) (slots : List ι) (i : ι)
    (host : ControlHost ι) : Prop where
  removed : (host.host.source i).removal = .removed
  quiet : (host.host.source i).state.shared.snap.Quiet
  answered : ∀ handle, handle < (host.host.source i).state.shared.ctl.nextReply →
    (host.host.source i).state.shared.replied.count handle = 1
  forGood : ∀ bs, let host' := (controlHostMachine cfg slots).run host bs
    (host'.host.source i).removal = .removed ∧ ¬ host'.host.Holds i

theorem removed_source
    (h : (controlHostMachine cfg slots).ReachableUnder (fun _ a => a.Hears) host)
    (hremoved : (host.host.source i).removal = .removed) : host.Removed cfg slots i := by
  have hhosted := controlHost_hosted h
  obtain ⟨holder, _, hsound⟩ := host_lock hhosted.reachable
  have hgood := removed_for_good hhosted.reachable hremoved
  constructor
  · exact hremoved
  · exact ((hsound.source i).quiet (hgood []).2).1
  · exact (replies_exactly_once hhosted i).2.1 (by rw [hremoved]; rfl)
  · intro bs
    obtain ⟨as, hrun⟩ := controlHost_run cfg slots host bs
    show (((controlHostMachine cfg slots).run host bs).host.source i).removal = .removed ∧ _
    rw [hrun]
    exact hgood as

end

/-- both cameras are asked for a capture, and the executor is still at the second of them -/
def busyRun : List (ControlHostAction Bool) :=
  .dispatch true "capture" ⟨"POST", "a", 10⟩ (.object []) 0 :: List.replicate 7 .proceed ++
    [.dispatch false "capture" ⟨"POST", "b", 10⟩ (.object []) 0, .proceed]

/-- two cameras whose executor waits for its first call -/
def ControlHost.sample : ControlHost Bool := ⟨.waiting, .sample⟩

end MediaCamera
