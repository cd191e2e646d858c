import MediaCamera.Machine.Rely

/-!
# Programs without interference

* `p.Runs s Q`     `p`, alone and started in `s`, ends with `Q`;
* `Runs.bind`, `Runs.atomic`, `Runs.ret`   the rules;
* `Runs.keeps`     what every step keeps, the run keeps;
* `p.Comes s R`    started in `s`, `p` comes to a program and a state of `R`, and ends as that one;
* `Safe.runs`      a program that meets a contract ends alone as the contract says.
-/

namespace MediaCamera

namespace Prog
variable {σ Λ α β γ : Type}

def Runs (p : Prog σ Λ α) (s : σ) (Q : α → σ → Prop) : Prop := Q (p.solo s).2 (p.solo s).1

variable {p : Prog σ Λ α} {g : α → Prog σ Λ β} {s : σ} {Q Q' : α → σ → Prop} {R : β → σ → Prop}

theorem Runs.ret {a : α} (h : Q a s) : (pure a : Prog σ Λ α).Runs s Q := h

theorem Runs.atomic {l : Λ} {f : σ → σ × α} (h : Q (f s).2 (f s).1) : (atomic l f).Runs s Q := h

theorem Runs.bind (h : p.Runs s Q) (hg : ∀ a s', Q a s' → (g a).Runs s' R) :
    (p >>= g).Runs s R := by
  unfold Runs
  rw [solo_bind]
  exact hg _ _ h

theorem Runs.assoc {k : β → Prog σ Λ γ} {R : γ → σ → Prop} (h : ((p >>= g) >>= k).Runs s R) :
    (p >>= fun a => g a >>= k).Runs s R := by
  unfold Runs at *
  simpa only [solo_bind] using h

theorem Runs.mono (h : p.Runs s Q) (hQ : ∀ a s', Q a s' → Q' a s') : p.Runs s Q' := hQ _ _ h

theorem Runs.keeps {view : σ → γ} (h : p.Within fun _ s s' => view s' = view s) (s : σ) :
    p.Runs s fun _ s' => view s' = view s := by
  unfold Runs
  induction p generalizing s with
  | ret a => rfl
  | act l f k ih => exact (ih s (h s).2 (f s)).trans (h s).1

/-- `p`, alone and started in `s`, ends as a program of `R` does from its state -/
def Comes (p : Prog σ Λ α) (s : σ) (R : Prog σ Λ α → σ → Prop) : Prop :=
  ∃ q s', R q s' ∧ p.solo s = q.solo s'

theorem Comes.here {R : Prog σ Λ α → σ → Prop} (h : R p s) : p.Comes s R := ⟨p, s, h, rfl⟩

theorem Comes.bind {R : Prog σ Λ β → σ → Prop} (h : p.Runs s Q)
    (hg : ∀ a s', Q a s' → (g a).Comes s' R) : (p >>= g).Comes s R := by
  obtain ⟨q, s', hR, hsolo⟩ := hg _ _ h
  refine ⟨q, s', hR, ?_⟩
  rw [solo_bind]
  exact hsolo

theorem Comes.assoc {k : β → Prog σ Λ γ} {R : Prog σ Λ γ → σ → Prop}
    (h : ((p >>= g) >>= k).Comes s R) : (p >>= fun a => g a >>= k).Comes s R := by
  obtain ⟨q, s', hR, hsolo⟩ := h
  refine ⟨q, s', hR, ?_⟩
  rw [← hsolo]
  simp only [solo_bind]

theorem Comes.trans {R R' : Prog σ Λ α → σ → Prop} (h : p.Comes s R)
    (hR : ∀ q s', R q s' → q.Comes s' R') : p.Comes s R' := by
  obtain ⟨q, s', hq, hsolo⟩ := h
  obtain ⟨q', s'', hq', hsolo'⟩ := hR q s' hq
  exact ⟨q', s'', hq', hsolo.trans hsolo'⟩

theorem Comes.runs {R : Prog σ Λ α → σ → Prop} (h : p.Comes s R)
    (hR : ∀ q s', R q s' → q.Runs s' Q) : p.Runs s Q := by
  obtain ⟨q, s', hq, hsolo⟩ := h
  unfold Runs
  rw [hsolo]
  exact hR q s' hq

theorem Comes.result {R : α → Prog σ Λ α → σ → Prop}
    (h : p.Comes s fun q s' => R (q.solo s').2 q s') : p.Comes s (R (p.solo s).2) := by
  obtain ⟨q, s', hR, hsolo⟩ := h
  refine ⟨q, s', ?_, hsolo⟩
  rw [hsolo]
  exact hR

end Prog

/-- nobody else moving is one way for the others to keep to the rely -/
theorem Contract.Safe.runs {σ Λ α : Type} {I : σ → Prop} {C : Λ → σ → Prop} {K : Contract I C}
    {Q : α → σ → Prop} {p : Prog σ Λ α} {s : σ} (h : K.Safe Q p s) (hI : I s) (hC : ∀ l s, C l s) :
    p.Runs s Q := by
  induction p generalizing s with
  | ret a => exact h s (K.rely_refl s) hI
  | act l f k ih =>
    obtain ⟨hI', -, hk⟩ := h s (K.rely_refl s) hI (hC l s)
    exact ih s hk hI'

end MediaCamera
