import Mathlib.Tactic.Common

/-!
# Scripts

Sequential programs on a state `σ`, each step of which may raise an exception of `ε`, with `try`,
`except` and `finally`.

* `Script.attempt`   a step whose outcome is decided outside;
* `Script.once`      an initialization that is tried until it succeeds;
* `Ends x s Q E`     started in `s`, the script returns with `Q` or raises with `E`;
* `Ends.bind`, `Ends.handle`, `Ends.ensuring`   the rules for the three ways to compose.
-/

namespace MediaCamera

def Script (σ ε α : Type) := σ → Except ε α × σ

namespace Script
variable {σ ε α β : Type}

def bind (x : Script σ ε α) (f : α → Script σ ε β) : Script σ ε β := fun s =>
  match x s with
  | (.ok a, s') => f a s'
  | (.error e, s') => (.error e, s')

/-- `try: x`, `except e: h e` -/
def handle (x : Script σ ε α) (h : ε → Script σ ε α) : Script σ ε α := fun s =>
  match x s with
  | (.ok a, s') => (.ok a, s')
  | (.error e, s') => h e s'

/-- `try: x`, `finally: f`; an exception of `f` takes the place of that of `x` -/
def ensuring (x : Script σ ε α) (f : Option α → Script σ ε β) : Script σ ε (α × β) := fun s =>
  match x s with
  | (.ok a, s') =>
    match f (some a) s' with
    | (.ok b, s'') => (.ok (a, b), s'')
    | (.error e, s'') => (.error e, s'')
  | (.error e, s') =>
    match f none s' with
    | (.ok _, s'') => (.error e, s'')
    | (.error e', s'') => (.error e', s'')

instance : Monad (Script σ ε) where
  pure a := fun s => (.ok a, s)
  bind := bind

instance : MonadExcept ε (Script σ ε) where
  throw e := fun s => (.error e, s)
  tryCatch := handle

instance : MonadFinally (Script σ ε) where
  tryFinally' := ensuring

instance : MonadStateOf σ (Script σ ε) where
  get := fun s => (.ok s, s)
  set s := fun _ => (.ok (), s)
  modifyGet f := fun s => (.ok (f s).1, (f s).2)

def attempt (outcome : Except ε α) : Script σ ε α := fun s => (outcome, s)

/-- nothing once it is `done`; an initialization that fails is tried again the next time -/
def once (done : σ → Bool) (mark : σ → σ) (works : Bool) : Script σ ε Bool := do
  if done (← getThe σ) then return true
  else if !works then return false
  else
    modifyThe σ mark
    return true

/-! ## how a script ends -/

/-- `x`, started in `s`, returns with `Q` or raises with `E` -/
def Ends (x : Script σ ε α) (s : σ) (Q : α → σ → Prop) (E : ε → σ → Prop) : Prop :=
  match x s with
  | (.ok a, s') => Q a s'
  | (.error e, s') => E e s'

variable {x : Script σ ε α} {s : σ} {Q Q' : α → σ → Prop} {E E' : ε → σ → Prop}

theorem Ends.cases (h : Ends x s Q E) :
    (∃ a s', x s = (.ok a, s') ∧ Q a s') ∨ ∃ e s', x s = (.error e, s') ∧ E e s' := by
  unfold Ends at h
  rcases hx : x s with ⟨e | a, s'⟩
  · rw [hx] at h
    exact .inr ⟨e, s', rfl, h⟩
  · rw [hx] at h
    exact .inl ⟨a, s', rfl, h⟩

theorem Ends.of_ok {a : α} {s' : σ} (hx : x s = (.ok a, s')) (h : Q a s') : Ends x s Q E := by
  rw [Ends, hx]
  exact h

theorem Ends.of_error {e : ε} {s' : σ} (hx : x s = (.error e, s')) (h : E e s') :
    Ends x s Q E := by
  rw [Ends, hx]
  exact h

theorem Ends.mono (h : Ends x s Q E) (hQ : ∀ a s', Q a s' → Q' a s')
    (hE : ∀ e s', E e s' → E' e s') : Ends x s Q' E' := by
  rcases h.cases with ⟨a, s', hx, h'⟩ | ⟨e, s', hx, h'⟩
  · exact .of_ok hx (hQ a s' h')
  · exact .of_error hx (hE e s' h')

/-! ## single steps -/

theorem Ends.pure {a : α} (h : Q a s) : Ends (Pure.pure a : Script σ ε α) s Q E := h

theorem Ends.throw {e : ε} (h : E e s) : Ends (MonadExcept.throw e : Script σ ε α) s Q E := h

theorem Ends.attempt {outcome : Except ε α} (ok : ∀ a, outcome = .ok a → Q a s)
    (error : ∀ e, outcome = .error e → E e s) : Ends (Script.attempt outcome) s Q E := by
  cases outcome with
  | ok a => exact ok a rfl
  | error e => exact error e rfl

/-! ## composition -/

theorem Ends.bind {f : α → Script σ ε β} {R : β → σ → Prop} (h : Ends x s Q E)
    (hf : ∀ a s', Q a s' → Ends (f a) s' R E) : Ends (x >>= f) s R E := by
  show Ends (Script.bind x f) s R E
  unfold Ends Script.bind
  rcases h.cases with ⟨a, s', hx, h'⟩ | ⟨e, s', hx, h'⟩
  · rw [hx]
    exact hf a s' h'
  · rw [hx]
    exact h'

theorem Ends.attempt_bind {outcome : Except ε α} {f : α → Script σ ε β} {R : β → σ → Prop}
    (error : ∀ e, outcome = .error e → E e s)
    (ok : ∀ a, outcome = .ok a → Ends (f a) s R E) :
    Ends (Script.attempt outcome >>= f) s R E := by
  cases outcome with
  | ok a => exact ok a rfl
  | error e => exact error e rfl

theorem Ends.modify_bind {g : σ → σ} {f : Unit → Script σ ε β} {R : β → σ → Prop}
    (h : Ends (f ()) (g s) R E) : Ends (modifyThe σ g >>= f) s R E := h

theorem Ends.get_bind {f : σ → Script σ ε β} {R : β → σ → Prop} (h : Ends (f s) s R E) :
    Ends (getThe σ >>= f) s R E := h

theorem Ends.once {done : σ → Bool} {mark : σ → σ} {works : Bool} {Q : Bool → σ → Prop}
    (ready : done s = true → Q true s) (fails : done s = false → works = false → Q false s)
    (succeeds : done s = false → works = true → Q true (mark s)) :
    Ends (Script.once done mark works) s Q E := by
  apply Ends.get_bind
  cases hdone : done s with
  | true => exact ready hdone
  | false =>
    cases works with
    | false => exact fails hdone rfl
    | true => exact succeeds hdone rfl

theorem Ends.handle {h : ε → Script σ ε α} (hx : Ends x s Q E)
    (hh : ∀ e s', E e s' → Ends (h e) s' Q E') : Ends (tryCatch x h) s Q E' := by
  show Ends (Script.handle x h) s Q E'
  unfold Ends Script.handle
  rcases hx.cases with ⟨a, s', hx, h'⟩ | ⟨e, s', hx, h'⟩
  · rw [hx]
    exact h'
  · rw [hx]
    exact hh e s' h'

theorem Ends.ensuring {f : Script σ ε β} {R : α → σ → Prop} {F : ε → σ → Prop} (hx : Ends x s Q E)
    (hQ : ∀ a s', Q a s' → Ends f s' (fun _ => R a) F)
    (hE : ∀ e s', E e s' → Ends f s' (fun _ => F e) F) : Ends (tryFinally x f) s R F := by
  show Ends (Script.bind (Script.ensuring x (fun _ => f)) _) s R F
  unfold Ends Script.bind Script.ensuring
  rcases hx.cases with ⟨a, s', hx, h'⟩ | ⟨e, s', hx, h'⟩
  · rcases (hQ a s' h').cases with ⟨b, s'', hf, hR⟩ | ⟨e, s'', hf, hF⟩
    · simp only [hx, hf]
      exact hR
    · simp only [hx, hf]
      exact hF
  · rcases (hE e s' h').cases with ⟨b, s'', hf, hF⟩ | ⟨e', s'', hf, hF⟩
    · simp only [hx, hf]
      exact hF
    · simp only [hx, hf]
      exact hF

end Script
end MediaCamera
