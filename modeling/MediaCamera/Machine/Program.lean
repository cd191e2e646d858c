import MediaCamera.Machine.Run

/-!
# Threads as programs

A thread runs a PROGRAM: a tree of atomic steps on a state that all threads share.

* `Prog.ret a`          the program is over, with the result `a`;
* `Prog.act l f k`      one atomic step, named `l`, changes the state `s` to `f s`; the program
                        `k s` is left to run.

`Prog` is a monad, so a program is written with `do`, one line for each atomic access.  A
`Pool` has one thread for each `t : T`; an idle thread starts a call, any other thread takes its
next step (`Pool.machine`).  `Prog.solo` runs a program without interference.  What a step reads from outside the model is an argument of the call.
-/

namespace MediaCamera

inductive Prog (σ Λ : Type) (α : Type) where
  | ret (a : α)
  | act (label : Λ) (f : σ → σ) (k : σ → Prog σ Λ α)

namespace Prog
variable {σ Λ α β : Type}

def bind : Prog σ Λ α → (α → Prog σ Λ β) → Prog σ Λ β
  | ret a, g => g a
  | act l f k, g => act l f (fun s => (k s).bind g)

instance : Monad (Prog σ Λ) where
  pure := ret
  bind := bind

def atomic (l : Λ) (f : σ → σ × α) : Prog σ Λ α :=
  act l (fun s => (f s).1) (fun s => ret (f s).2)

def next : Prog σ Λ α → Option Λ
  | ret _ => none
  | act l _ _ => some l

theorem eq_ret {p : Prog σ Λ Unit} (h : p.next = none) : p = ret () := by
  cases p with
  | ret u => rfl
  | act l f k => cases h

/-- the program runs alone: the state that it leaves, and its result -/
def solo : Prog σ Λ α → σ → σ × α
  | ret a, s => (s, a)
  | act _ f k, s => (k s).solo (f s)

@[simp] theorem solo_pure (a : α) (s : σ) : (pure a : Prog σ Λ α).solo s = (s, a) := rfl

@[simp] theorem solo_atomic (l : Λ) (f : σ → σ × α) (s : σ) : (atomic l f).solo s = f s := rfl

@[simp] theorem solo_bind (p : Prog σ Λ α) (g : α → Prog σ Λ β) (s : σ) :
    (p >>= g).solo s = (g (p.solo s).2).solo (p.solo s).1 := by
  show (p.bind g).solo s = _
  induction p generalizing s with
  | ret a => rfl
  | act l f k ih => exact ih s (f s)

end Prog

/-! ## pools of threads -/

structure Pool (σ Λ T : Type) (Call : T → Type) where
  init : σ → Prop
  body : (t : T) → Call t → Prog σ Λ Unit

structure PoolState (σ Λ T : Type) where
  shared : σ
  thread : T → Prog σ Λ Unit

inductive PoolAction (T : Type) (Call : T → Type) where
  /-- an idle thread starts a call -/
  | start (t : T) (c : Call t)
  /-- a running thread takes its next step -/
  | step (t : T)

namespace Pool
variable {σ Λ T : Type} {Call : T → Type} [DecidableEq T]

def next (P : Pool σ Λ T Call) (s : PoolState σ Λ T) :
    PoolAction T Call → PoolState σ Λ T
  | .start t c =>
    match s.thread t with
    | .ret _ => { s with thread := fun t' => if t' = t then P.body t c else s.thread t' }
    | .act _ _ _ => s
  | .step t =>
    match s.thread t with
    | .ret _ => s
    | .act _ f k =>
      { shared := f s.shared
        thread := fun t' => if t' = t then k s.shared else s.thread t' }

section
variable {P : Pool σ Λ T Call} {s : PoolState σ Λ T} {t : T}

theorem next_start (h : s.thread t = .ret ()) (c : Call t) :
    P.next s (.start t c) =
      { s with thread := fun t' => if t' = t then P.body t c else s.thread t' } := by
  simp only [next, h]

theorem next_start_running {l : Λ} {f : σ → σ} {k : σ → Prog σ Λ Unit}
    (h : s.thread t = .act l f k) (c : Call t) : P.next s (.start t c) = s := by
  simp only [next, h]

theorem next_step_idle (h : s.thread t = .ret ()) : P.next s (.step t) = s := by
  simp only [next, h]

theorem next_step {l : Λ} {f : σ → σ} {k : σ → Prog σ Λ Unit} (h : s.thread t = .act l f k) :
    P.next s (.step t) =
      { shared := f s.shared
        thread := fun t' => if t' = t then k s.shared else s.thread t' } := by
  simp only [next, h]

end

def machine (P : Pool σ Λ T Call) : Machine (PoolState σ Λ T) (PoolAction T Call) where
  init s := P.init s.shared ∧ s.thread = fun _ => .ret ()
  step := P.next

theorem machine_step (P : Pool σ Λ T Call) : P.machine.step = P.next := rfl

omit [DecidableEq T]

/-- the condition `C` on named steps, as a condition on the actions of the pool -/
def Obeys (C : Λ → σ → Prop) (s : PoolState σ Λ T) : PoolAction T Call → Prop
  | .start _ _ => True
  | .step t => ∀ l ∈ (s.thread t).next, C l s.shared

instance Obeys.decidable (C : Λ → σ → Prop) [∀ l s, Decidable (C l s)] (s : PoolState σ Λ T) :
    ∀ a : PoolAction T Call, Decidable (Obeys C s a)
  | .start _ _ => .isTrue True.intro
  | .step t => inferInstanceAs (Decidable (∀ l ∈ (s.thread t).next, C l s.shared))

theorem Obeys.label {C : Λ → σ → Prop} {s : PoolState σ Λ T} {t : T} {l : Λ} {f : σ → σ}
    {k : σ → Prog σ Λ Unit} (h : ∀ l ∈ (s.thread t).next, C l s.shared)
    (ht : s.thread t = .act l f k) : C l s.shared := by
  rw [ht] at h
  exact h l rfl

theorem Obeys.trivial (s : PoolState σ Λ T) (a : PoolAction T Call) :
    Obeys (fun (_ : Λ) (_ : σ) => True) s a := by
  cases a with
  | start t c => exact True.intro
  | step t => exact fun _ _ => True.intro

end Pool

end MediaCamera
