import MediaCamera.Machine.Trace
import MediaCamera.Plugin.Verified

/-!
# Calls of the executor

A call of the executor runs while the other threads move.

* `executorRely_of_others`   what the executor sees of the others in a reachable state;
* `viewContract`             a contract that relies on this and guarantees nothing;
* `CallRun`                  a run in which an idle executor takes a call and begins no further one;
* `CallRun.post`             what a triple says of the end of such a run.
-/

namespace MediaCamera

section
variable {cfg : PluginConfig}

theorem executorRely_of_others {s : PluginState} (h : (pluginMachine cfg).Reachable s)
    {a : PluginAction} (ha : Pool.stepOf .executor s a = none) :
    ExecutorRely s.shared ((pluginMachine cfg).step s a).shared := by
  rcases plugin_step h a with e | ⟨t, l, rfl, hl, hstep⟩
  · rw [e]
    exact .refl _
  · refine hstep.executorRely fun ht => ?_
    subst ht
    cases hthread : s.thread .executor with
    | ret u => simp [hthread, Prog.next] at hl
    | act l f k => simp [Pool.stepOf, hthread] at ha

end

/-! ## what the executor sees -/

/-- the others stay within `ExecutorRely` -/
def viewContract : Contract (fun _ : State => True) (fun (_ : Label) _ => True) where
  rely := ExecutorRely
  guar _ _ _ := True
  rely_refl := .refl
  rely_trans := .trans

theorem view_ctl (P : Executor → Prop) : viewContract.Stable fun s => P s.ctl :=
  .of_eq (fun _ _ h => ExecutorRely.ctl h) P

theorem view_mem (e : Event) : viewContract.Stable (e ∈ ·.log) := by
  intro s s' h _ he
  obtain ⟨new, hlog, _⟩ := h.log
  rw [hlog]
  exact List.mem_append_right _ he

section
variable {α : Type} {P : State → Prop} {Q : α → State → Prop}

theorem view_atomic {l : Label} {f : State → State × α} (hP : viewContract.Stable P)
    (hQ : ∀ a, viewContract.Stable (Q a)) (h : ∀ s, P s → Q (f s).2 (f s).1) :
    viewContract.Triple P (.atomic l f) Q :=
  .atomic hP hQ fun s _ hs _ => ⟨trivial, trivial, h s hs⟩

theorem view_read {f : State → α} (hP : viewContract.Stable P)
    (hQ : ∀ a, viewContract.Stable (Q a)) (h : ∀ s, P s → Q (f s) s) :
    viewContract.Triple P (read f) Q := view_atomic hP hQ h

theorem view_within {p : Thread α} {T : State → State → Prop} (h : p.Within fun _ => T)
    (hP : viewContract.Stable P) (hPT : ∀ s s', T s s' → P s → P s') :
    viewContract.Triple P p fun _ => P :=
  h.triple (fun _ _ _ _ _ => trivial) (fun _ _ _ _ => trivial) hP fun _ s s' => hPT s s'

end

/-! ## runs -/

/-- an idle executor takes a call; no further call of it begins in the run -/
structure CallRun (cfg : PluginConfig) (c : Call .executor) where
  before : PluginState
  reachable : (pluginMachine cfg).Reachable before
  idle : before.thread .executor = .ret ()
  actions : List PluginAction
  uncalled : Pool.Uncalled .executor actions

namespace CallRun
variable {cfg : PluginConfig} {c : Call .executor} (r : CallRun cfg c)

def taken : PluginState := (pluginMachine cfg).step r.before (.start .executor c)

def after : PluginState := (pluginMachine cfg).run r.taken r.actions

def Finished : Prop := (r.after.thread .executor).next = none

instance : Decidable r.Finished := inferInstanceAs (Decidable (_ = none))

theorem taken_eq : r.taken.shared = r.before.shared ∧
    r.taken.thread .executor = (plugin cfg).body .executor c := by
  have h : r.taken = _ := Pool.next_start (P := plugin cfg) r.idle c
  rw [h]
  exact ⟨rfl, by simp only [if_true]⟩

theorem taken_reachable : (pluginMachine cfg).Reachable r.taken := r.reachable.next _

/-- a triple holds of every run of the call -/
theorem post {P : State → Prop} {Q : State → Prop}
    (h : viewContract.Triple P ((plugin cfg).body .executor c) fun _ => Q) (hP : P r.before.shared)
    (hfinished : r.Finished) : Q r.after.shared := by
  have hsafe : viewContract.Safe (fun _ => Q) (r.after.thread .executor) r.after.shared := by
    refine Pool.safe_run (P := plugin cfg) (D := (pluginMachine cfg).Reachable)
      (fun s a hs => hs.next a) (fun _ _ => trivial) (fun _ _ _ => trivial)
      (fun s a hs ha => executorRely_of_others hs ha) r.uncalled r.taken_reachable ?_
    rw [r.taken_eq.1, r.taken_eq.2]
    exact h _ hP
  rw [Prog.eq_ret hfinished] at hsafe
  exact hsafe _ (.refl _) trivial

end CallRun

end MediaCamera
