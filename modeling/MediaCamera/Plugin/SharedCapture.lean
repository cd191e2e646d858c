import MediaCamera.Machine.Lock
import MediaCamera.Plugin.Removal

/-!
# The sources of one host

Any number of sources share the one `capture_reserved_` of a `CameraSourceControlHost`.

* `CameraHost.next`  a step of one source, on the flag that the others left;
* `hostMachine`      the machine of all sources, with their removals; each source has an executor of
                     its own, which allows more runs than the one executor of the host;
* `CameraSource.Sound.seeing`   a source cannot tell the host's flag from the steps that
                     `State.hostSide` models;
* `CameraHost.Sound` who holds the capture;
* `host_lock`        the host refines `lockMachine`.
-/

namespace MediaCamera

/-! ## the flag that a source sees -/

/-- the source reads the host's flag -/
def State.seeing (reserved : Bool) (s : State) : State :=
  { s with
    flags.captureReserved := reserved
    flags.reservedElsewhere := reserved && !s.holdsCapture }

def CameraSource.seeing (reserved : Bool) (source : CameraSource) : CameraSource where
  state := { shared := source.state.shared.seeing reserved, thread := source.state.thread }
  removal := source.removal

section
variable {cfg : PluginConfig} {s : PluginState}

theorem hostSide_run (cfg : PluginConfig) (hidle : s.thread .hostSide = .ret ())
    (side : HostSide) :
    (pluginMachine cfg).run s [.start .hostSide side, .step .hostSide] =
      { shared := s.shared.hostSide side, thread := s.thread } := by
  show (plugin cfg).next ((plugin cfg).next s (.start .hostSide side)) (.step .hostSide) = _
  rw [Pool.next_start hidle, Pool.next_step (l := .step)
    (f := fun s => s.hostSide side) (k := fun _ => .ret ()) rfl]
  congr 1
  funext t
  by_cases ht : t = .hostSide
  · subst ht
    rw [hidle]
    rfl
  · simp [ht]

theorem seeing_eq {s : State} {reserved : Bool} (hreserved : s.flags.captureReserved = reserved)
    (helsewhere : s.flags.reservedElsewhere = (reserved && !s.holdsCapture)) :
    s.seeing reserved = s := by
  subst hreserved
  rw [State.seeing, ← helsewhere]

/-- what a source sees is its own flag, or what another source made of it -/
theorem seeing_cases {s : State} (hbook : SlotBook s) {reserved : Bool}
    (hholds : s.holdsCapture = true → reserved = true) :
    s.seeing reserved = s ∨ ∃ side, s.seeing reserved = s.hostSide side := by
  have howned : s.flags.owned = s.holdsCapture := hbook.owned
  have helsewhere := hbook.elsewhere
  rw [Flags.owned] at howned
  cases hflag : s.flags.captureReserved with
  | true =>
    have helse : s.flags.reservedElsewhere = !s.holdsCapture := by simp [← howned, hflag]
    cases reserved with
    | true =>
      left
      exact seeing_eq hflag helse
    | false =>
      right
      have hfree : s.holdsCapture = false := by simpa using hholds
      rw [hfree] at helse
      exact ⟨.release, by simp [State.hostSide, State.seeing, helse]⟩
  | false =>
    have helse : s.flags.reservedElsewhere = false := by simpa [hflag] using helsewhere
    have hfree : s.holdsCapture = false := by simp [← howned, hflag]
    cases reserved with
    | true =>
      right
      exact ⟨.reserve, by simp [State.hostSide, State.seeing, hflag, hfree]⟩
    | false =>
      left
      exact seeing_eq hflag helse

end

namespace CameraSource
variable {cfg : PluginConfig} {source : CameraSource} {reserved : Bool}

/-- **The others of the host.**  What they do to the flag, a plugin knows already. -/
theorem Sound.seeing (h : source.Sound cfg)
    (hholds : source.state.shared.holdsCapture = true → reserved = true) :
    (source.seeing reserved).Sound cfg := by
  refine ⟨h.hostSide, fun hserves => ?_, h.unregistering, fun hserves => ?_⟩
  · have hreach := h.serving hserves
    show (pluginMachine cfg).Reachable
      { shared := source.state.shared.seeing reserved, thread := source.state.thread }
    rcases seeing_cases (h.books hserves).slot hholds with hsame | ⟨side, hside⟩
    · rw [hsame]
      exact hreach
    · rw [hside, ← hostSide_run cfg h.hostSide side]
      exact hreach.run _
  · have hretired := h.retired hserves
    exact ⟨hretired.executor, hretired.render, hretired.pacer, hretired.rosSide,
      hretired.worker.rely rfl, hretired.recording, hretired.releasing, hretired.removed,
      hretired.stopped, hretired.quiet⟩

end CameraSource

/-! ## the host -/

structure CameraHost (ι : Type) where
  /-- `capture_reserved_` -/
  captureReserved : Bool
  source : ι → CameraSource

def CameraHost.next {ι : Type} [DecidableEq ι] (cfg : ι → PluginConfig) (host : CameraHost ι)
    (a : ι × SourceAction) : CameraHost ι :=
  let source := ((host.source a.1).seeing host.captureReserved).next (cfg a.1) a.2
  { captureReserved := source.state.shared.flags.captureReserved
    source := Function.update host.source a.1 source }

/-- the sources of one host -/
def hostMachine {ι : Type} [DecidableEq ι] (cfg : ι → PluginConfig) :
    Machine (CameraHost ι) (ι × SourceAction) where
  init host := host.captureReserved = false ∧ ∀ i,
    (host.source i).removal = .registered ∧ (pluginMachine (cfg i)).init (host.source i).state
  step := CameraHost.next cfg

namespace CameraHost
variable {ι : Type} [DecidableEq ι] {cfg : ι → PluginConfig} {host : CameraHost ι}

def Holds (host : CameraHost ι) (i : ι) : Prop :=
  (host.source i).state.shared.holdsCapture = true

structure Sound (cfg : ι → PluginConfig) (host : CameraHost ι) (holder : Option ι) : Prop where
  source : ∀ i, (host.source i).Sound (cfg i)
  lock : HolderOf host.Holds holder
  reserved : host.captureReserved = holder.isSome

omit [DecidableEq ι] in
theorem Sound.init (h : host.captureReserved = false ∧ ∀ i,
    (host.source i).removal = .registered ∧ (pluginMachine (cfg i)).init (host.source i).state) :
    host.Sound cfg none := by
  refine ⟨fun i => ?_, HolderOf.free fun i => ?_, h.1⟩
  · obtain ⟨hremoval, hinit⟩ := h.2 i
    refine ⟨?_, fun _ => .start hinit, fun he => ?_, fun he => ?_⟩
    · rw [hinit.2]
    · rw [hremoval] at he
      cases he
    · rw [hremoval] at he
      cases he
  · obtain ⟨_, ⟨input, hload⟩, _⟩ := h.2 i
    show ¬ (host.source i).state.shared.holdsCapture = true
    rw [hload]
    exact Bool.false_ne_true

theorem next_source_self (a : ι × SourceAction) :
    (host.next cfg a).source a.1 =
      ((host.source a.1).seeing host.captureReserved).next (cfg a.1) a.2 :=
  Function.update_self ..

theorem next_source_other {i : ι} {a : ι × SourceAction} (hne : i ≠ a.1) :
    (host.next cfg a).source i = host.source i :=
  Function.update_of_ne hne ..

omit [DecidableEq ι] in
theorem Sound.holds_reserved {holder : Option ι} (h : host.Sound cfg holder) (i : ι)
    (hholds : (host.source i).state.shared.holdsCapture = true) : host.captureReserved = true := by
  rw [h.reserved]
  exact h.lock.isSome.mpr ⟨i, hholds⟩

omit [DecidableEq ι] in
theorem Sound.turn {holder : Option ι} (h : host.Sound cfg holder) (i : ι) :
    ((host.source i).seeing host.captureReserved).Sound (cfg i) :=
  (h.source i).seeing (h.holds_reserved i)

/-- **One step of the host.**  Its source takes the free capture, gives back the one that it
holds, or leaves the capture alone. -/
theorem Sound.next {holder : Option ι} (h : host.Sound cfg holder) (a : ι × SourceAction) :
    (host.next cfg a).Sound cfg holder ∨
      (holder = none ∧ (host.next cfg a).Sound cfg (some a.1)) ∨
      (holder = some a.1 ∧ (host.source a.1).state.shared.ctl.captureSlotHeld = true ∧
        (host.source a.1).state.shared.ctl.captureRecording = false ∧
        (host.next cfg a).Sound cfg none) := by
  obtain ⟨hsound, heffect⟩ := (h.turn a.1).next a.2
  have hsources : ∀ i, ((host.next cfg a).source i).Sound (cfg i) := by
    intro i
    by_cases hi : i = a.1
    · subst hi
      rw [next_source_self]
      exact hsound
    · rw [next_source_other hi]
      exact h.source i
  have hothers : ∀ i, i ≠ a.1 → ((host.next cfg a).Holds i ↔ host.Holds i) := by
    intro i hi
    rw [Holds, Holds, next_source_other hi]
  have hself : ∀ b, (((host.source a.1).seeing host.captureReserved).next (cfg a.1)
      a.2).state.shared.holdsCapture = b → ((host.next cfg a).Holds a.1 ↔ b = true) := by
    intro b hb
    rw [Holds, next_source_self, hb]
  cases heffect with
  | keep hreserved hholds =>
    left
    refine ⟨hsources, h.lock.keep hothers (hself _ hholds), ?_⟩
    exact hreserved.trans h.reserved
  | acquire hfree hreserved hholds =>
    right
    left
    have hnone : holder = none := by
      have hnot : host.captureReserved = false := hfree
      rw [h.reserved] at hnot
      exact Option.isSome_eq_false_iff.mp hnot |> Option.isNone_iff_eq_none.mp
    subst hnone
    exact ⟨rfl, hsources, h.lock.acquire hothers ((hself _ hholds).mpr rfl), hreserved⟩
  | release hheld hrecording hreserved hholds =>
    right
    right
    have hheld : (host.source a.1).state.shared.ctl.captureSlotHeld = true := hheld
    have hrecording : (host.source a.1).state.shared.ctl.captureRecording = false := hrecording
    have hholder : holder = some a.1 := by
      rw [← h.lock a.1]
      show (_ != _) = true
      rw [hheld, hrecording]
      rfl
    subst hholder
    refine ⟨rfl, hheld, hrecording, hsources, h.lock.release hothers ?_, hreserved⟩
    rw [hself _ hholds]
    exact Bool.false_ne_true

end CameraHost

section
variable {ι : Type} [DecidableEq ι] {cfg : ι → PluginConfig} {host : CameraHost ι}

/-- the host refines the lock -/
theorem host_lock (h : (hostMachine cfg).Reachable host) :
    ∃ holder, (lockMachine ι).ReachableUnder (fun holder a => a.Enabled holder) holder ∧
      host.Sound cfg holder := by
  refine Machine.ReachableUnder.simulates (R := CameraHost.Sound cfg) ?_ ?_ h
  · exact fun host hinit => ⟨none, rfl, CameraHost.Sound.init hinit⟩
  · intro host a holder _ _ hsound
    rcases hsound.next a with hkeep | ⟨hnone, hnext⟩ | ⟨hsome, _, _, hnext⟩
    · exact .inl hkeep
    · exact .inr ⟨.acquire a.1, hnone, hnext⟩
    · exact .inr ⟨.release a.1, hsome, hnext⟩

theorem CameraSource.Sound.quiet {source : CameraSource} {cfg : PluginConfig}
    (h : source.Sound cfg) (hholds : ¬ source.state.shared.holdsCapture = true) :
    source.state.shared.snap.Quiet ∧ (source.removal.serves = true →
      source.state.shared.snap.snapshotReadbackPending = false) := by
  have hnot : source.state.shared.holdsCapture = false := by simpa using hholds
  cases hserves : source.removal.serves with
  | true =>
    have hslot := (h.books hserves).slot
    have howned : source.state.shared.flags.owned = false := hslot.owned.trans hnot
    have hresting := (hslot.free howned).resting
    exact ⟨⟨hresting.job, hresting.encoding⟩, fun _ => hresting.pending⟩
  | false => exact ⟨(h.retired hserves).quiet (.inl hnot), fun he => (by cases he)⟩

/-- the reservation is with its source, but for the step that records it -/
theorem CameraSource.Sound.recording {source : CameraSource} {cfg : PluginConfig}
    (h : source.Sound cfg) (hrecording : source.state.shared.ctl.captureRecording = true) :
    source.idle .executor = false ∨ source.removal = .recording := by
  cases hserves : source.removal.serves with
  | false =>
    right
    rw [(h.retired hserves).recording] at hrecording
    simpa using hrecording
  | true =>
    left
    cases hidle : source.idle .executor with
    | false => rfl
    | true =>
      have hsettled := (CameraSource.executor_settled (h.serving hserves) (ret_of_idle hidle)).recorded
      rw [hrecording] at hsettled
      cases hsettled

end

/-! ## the queue of the JPEG worker -/

theorem failSnapshot_resting {cfg : PluginConfig} {work : Nat} {s s' : State}
    (h : RenderStep cfg (.failSnapshot work) s s') :
    s.snap.Resting := by
  cases h with
  | rest h =>
    cases h with
    | capture h =>
      cases h with
      | fail _ _ h => exact h

theorem queueEncode_accepts {cfg : PluginConfig} {s : PluginState}
    (h : (pluginMachine cfg).Reachable s) {result : SnapshotResult} {k : Unit → Thread Unit}
    (hrender : s.thread .render = queueSnapshotEncode result >>= k) :
    (s.shared.snap.queueEncode result).2 = true := by
  have hbooks := plugin_books h
  have hsafe := ((pluginVerified cfg).safe (h.mono fun s a _ => Pool.Obeys.trivial s a)).2 .render
  rw [hrender] at hsafe
  -- a refusal leaves the members alone, and the next step fails a capture that nobody works for
  by_contra hrefused
  have hrefused : (s.shared.snap.queueEncode result).2 = false := by simpa using hrefused
  have hjob : s.shared.snap.snapshotEncodeJob.isSome = true := by
    by_contra hnone
    rw [Snapshot.queueEncode, if_neg (by simp [hbooks.captures.running, hnone])] at hrefused
    cases hrefused
  have hsame : (s.shared.snap.queueEncode result).1 = s.shared.snap := by
    rw [Snapshot.queueEncode, if_pos (.inr hjob)]
  obtain ⟨hkept, _, hrest⟩ := hsafe s.shared ((renderContract cfg).rely_refl _) hbooks trivial
  simp only [hsame, hrefused] at hkept hrest
  obtain ⟨_, hfail, _⟩ := hrest s.shared ((renderContract cfg).rely_refl _) hbooks trivial
  have hresting : s.shared.snap.Resting := failSnapshot_resting hfail
  rw [hresting.job] at hjob
  cases hjob

theorem CameraSource.Sound.queue_accepts {source : CameraSource} {cfg : PluginConfig}
    (h : source.Sound cfg) {result : SnapshotResult} {k : Unit → Thread Unit}
    (hrender : source.state.thread .render = queueSnapshotEncode result >>= k) :
    (source.state.shared.snap.queueEncode result).2 = true := by
  cases hserves : source.removal.serves with
  | true => exact queueEncode_accepts (h.serving hserves) hrender
  | false =>
    rw [(h.retired hserves).render] at hrender
    cases hrender

/-! ## the capture is exclusive -/

/-- one source at a time has the capture, and works for it -/
structure CameraHost.Exclusive {ι : Type} [DecidableEq ι] (cfg : ι → PluginConfig)
    (host : CameraHost ι) : Prop where
  reserved : host.captureReserved = true ↔ ∃! i, host.Holds i
  /-- reserved or released, and not yet recorded: only inside a call, or at the end of a removal -/
  recording : ∀ i, (host.source i).state.shared.ctl.captureRecording = true →
    (host.source i).idle .executor = false ∨ (host.source i).removal = .recording
  released : ∀ a, host.captureReserved = true → (host.next cfg a).captureReserved = false →
    host.Holds a.1 ∧ (host.source a.1).state.shared.ctl.captureSlotHeld = true
  working : ∀ i, ¬ host.Holds i → (host.source i).state.shared.snap.Quiet ∧
    ((host.source i).removal.serves = true →
      (host.source i).state.shared.snap.snapshotReadbackPending = false)
  queue : ∀ i result k,
    (host.source i).state.thread .render = queueSnapshotEncode result >>= k →
      ((host.source i).state.shared.snap.queueEncode result).2 = true

/-- **Exclusivity across the sources.**  Whatever the sources of a host do, and however many of them
are removed in the meantime, the host is a lock, and its holder alone works for a capture. -/
theorem capture_exclusive {ι : Type} [DecidableEq ι] {cfg : ι → PluginConfig} {host : CameraHost ι}
    (h : (hostMachine cfg).Reachable host) :
    host.Exclusive cfg ∧ ∃ holder,
      (lockMachine ι).ReachableUnder (fun holder a => a.Enabled holder) holder ∧
        HolderOf host.Holds holder := by
  obtain ⟨holder, hlock, hsound⟩ := host_lock h
  refine ⟨⟨?_, fun i => (hsound.source i).recording, ?_, fun i => (hsound.source i).quiet,
    fun i _ _ => (hsound.source i).queue_accepts⟩, holder, hlock, hsound.lock⟩
  · rw [hsound.reserved]
    exact hsound.lock.existsUnique
  · intro a hreserved hreleased
    rcases hsound.next a with hkeep | ⟨_, hnext⟩ | ⟨hholder, hheld, _, _⟩
    · rw [hkeep.reserved, ← hsound.reserved, hreserved] at hreleased
      cases hreleased
    · rw [hnext.reserved] at hreleased
      cases hreleased
    · exact ⟨(hsound.lock a.1).mpr hholder, hheld⟩

/-! ## two cameras -/

def CameraHost.sample : CameraHost Bool := ⟨false, fun _ => ⟨.sample, .registered⟩⟩

theorem CameraHost.sample_reachable (C : CameraHost Bool → Bool × SourceAction → Prop) :
    (hostMachine fun _ : Bool => .sample).ReachableUnder C .sample :=
  .start ⟨rfl, fun _ => ⟨rfl, ⟨.sample, rfl⟩, rfl⟩⟩

/-- both cameras are asked for a capture, and the one that has it is removed -/
def removalRun : List (Bool × SourceAction) :=
  ((runCall .executor (captureCall "a") 6).map fun a => (true, .thread a)) ++
    ((runCall .executor (captureCall "b") 6).map fun a => (false, .thread a)) ++
    List.replicate 7 (true, .remove)

/-- the capture is the first camera's, until its removal gives it back -/
theorem capture_exclusive_removalRun :
    let host := (hostMachine fun _ : Bool => .sample).run .sample
    ((host (removalRun.take 14)).captureReserved = true ∧
      (host (removalRun.take 14)).Exclusive fun _ => .sample) ∧
    ((host removalRun).captureReserved = false ∧
      (host removalRun).Exclusive fun _ => .sample) := by
  have hinit : (hostMachine fun _ : Bool => .sample).Reachable .sample :=
    CameraHost.sample_reachable _
  exact ⟨⟨by decide +kernel, (capture_exclusive (hinit.run _)).1⟩,
    ⟨by decide +kernel, (capture_exclusive (hinit.run _)).1⟩⟩

end MediaCamera
