import Mathlib.Tactic.IntervalCases
import MediaCamera.Control.Request

/-!
# Observation revisions

`observe/{revision}` takes exactly the canonical decimals of the 64-bit numbers.

* `digits_value`              the loop computes the value of a list of digits, if it fits;
* `canonical`                 digits without a leading zero are the digits of their value;
* `observationRevision_ok`    what is accepted, and as which number.
-/

namespace MediaCamera.Executor

def IsDigit (c : Char) : Prop := '0' ≤ c ∧ c ≤ '9'

theorem digit_lt {c : Char} (h : IsDigit c) : c.toNat - '0'.toNat < 10 := by
  have hle : c.toNat ≤ '9'.toNat := h.2
  have : '9'.toNat = 57 := rfl
  have : '0'.toNat = 48 := rfl
  omega

theorem digitChar_sub {c : Char} (h : IsDigit c) : (c.toNat - '0'.toNat).digitChar = c := by
  have hge : '0'.toNat ≤ c.toNat := h.1
  have hle : c.toNat ≤ '9'.toNat := h.2
  have hc : c = Char.ofNat c.toNat := (Char.ofNat_toNat c).symm
  rw [show '0'.toNat = 48 from rfl] at hge ⊢
  rw [show '9'.toNat = 57 from rfl] at hle
  generalize c.toNat = m at hge hle hc ⊢
  subst hc
  interval_cases m <;> rfl

theorem isDigit_of_mem_toDigits {n : Nat} {c : Char} (h : c ∈ Nat.toDigits 10 n) : IsDigit c := by
  have hdigit := Nat.isDigit_of_mem_toDigits (by decide) (by decide) h
  rw [Char.isDigit, Bool.and_eq_true, decide_eq_true_eq, decide_eq_true_eq] at hdigit
  exact hdigit

theorem observationDigit_some {after next : Nat} {c : Char} :
    observationDigit after c = some next ↔
      IsDigit c ∧ next = 10 * after + (c.toNat - '0'.toNat) ∧ next < 2 ^ 64 := by
  unfold observationDigit
  constructor
  · intro h
    split at h
    · rename_i hc
      obtain ⟨hge, hle, hroom⟩ := hc
      have hdigit : IsDigit c := ⟨hge, hle⟩
      have hlt := digit_lt hdigit
      obtain rfl := Option.some.inj h
      exact ⟨hdigit, by omega, by omega⟩
    · cases h
  · rintro ⟨hdigit, rfl, hlt⟩
    have hd := digit_lt hdigit
    rw [if_pos ⟨hdigit.1, hdigit.2, by omega⟩, Nat.mul_comm]

theorem digits_value {after next : Nat} {digits : List Char} :
    digits.foldlM observationDigit after = some next ↔
      (∀ c ∈ digits, IsDigit c) ∧ next = Nat.ofDigitChars 10 digits after ∧
        (digits ≠ [] → next < 2 ^ 64) := by
  induction digits generalizing after with
  | nil => simp [eq_comm]
  | cons c digits ih =>
    rw [List.foldlM_cons, Option.bind_eq_bind, Option.bind_eq_some_iff, Nat.ofDigitChars_cons]
    have hgrows : ∀ a : Nat, a ≤ Nat.ofDigitChars 10 digits a := by
      intro a
      rw [Nat.ofDigitChars_eq_ofDigitChars_zero]
      exact (Nat.le_mul_of_pos_left a (by positivity)).trans (Nat.le_add_right _ _)
    constructor
    · rintro ⟨mid, hmid, hrest⟩
      obtain ⟨hdigit, rfl, hlt⟩ := observationDigit_some.mp hmid
      obtain ⟨hall, rfl, hfits⟩ := ih.mp hrest
      refine ⟨List.forall_mem_cons.mpr ⟨hdigit, hall⟩, rfl, fun _ => ?_⟩
      by_cases hnil : digits = []
      · subst hnil
        exact hlt
      · exact hfits hnil
    · rintro ⟨hall, rfl, hfits⟩
      obtain ⟨hdigit, hall⟩ := List.forall_mem_cons.mp hall
      have hlt := hfits (by simp)
      refine ⟨_, observationDigit_some.mpr ⟨hdigit, rfl, ?_⟩, ih.mpr ⟨hall, rfl, fun _ => hlt⟩⟩
      exact (hgrows _).trans_lt hlt

theorem canonical {digits : List Char} (hall : ∀ c ∈ digits, IsDigit c) (hne : digits ≠ [])
    (hzero : 1 < digits.length → digits.head? ≠ some '0') :
    Nat.toDigits 10 (Nat.ofDigitChars 10 digits 0) = digits ∧
      (digits.head? ≠ some '0' → 0 < Nat.ofDigitChars 10 digits 0) := by
  induction digits using List.reverseRecOn with
  | nil => exact absurd rfl hne
  | append_singleton digits c ih =>
    have hc : IsDigit c := hall c (by simp)
    have hlt := digit_lt hc
    rw [Nat.ofDigitChars_append, Nat.ofDigitChars_cons, Nat.ofDigitChars_nil]
    by_cases hnil : digits = []
    · subst hnil
      refine ⟨?_, fun hhead => ?_⟩
      · rw [Nat.ofDigitChars_nil, Nat.mul_zero, Nat.zero_add, Nat.toDigits_of_lt_base hlt,
          digitChar_sub hc]
        rfl
      · rw [Nat.ofDigitChars_nil, Nat.mul_zero, Nat.zero_add]
        by_contra hzero'
        have : c = '0' := by
          rw [← digitChar_sub hc, Nat.eq_zero_of_not_pos hzero']
          rfl
        exact hhead (by simp [this])
    · have hhead : digits.head? ≠ some '0' := by
        have := hzero (by
          rw [List.length_append, List.length_singleton]
          have := List.length_pos_iff.mpr hnil
          omega)
        rwa [List.head?_append_of_ne_nil _ hnil] at this
      obtain ⟨hdigits, hpos⟩ := ih (fun c hmem => hall c (List.mem_append_left _ hmem)) hnil
        fun _ => hhead
      refine ⟨?_, fun _ => by have := hpos hhead; omega⟩
      rw [← Nat.toDigits_append_toDigits (by decide) (hpos hhead) hlt, hdigits,
        Nat.toDigits_of_lt_base hlt, digitChar_sub hc]

theorem toDigits_head {n : Nat} (hn : 0 < n) : (Nat.toDigits 10 n).head? ≠ some '0' := by
  induction n using Nat.strongRecOn with
  | ind n ih =>
    by_cases hlt : n < 10
    · rw [Nat.toDigits_of_lt_base hlt]
      interval_cases n <;> decide
    · rw [Nat.toDigits_of_base_le (by decide) (by omega),
        List.head?_append_of_ne_nil _ Nat.toDigits_ne_nil]
      exact ih (n / 10) (by omega) (by omega)

/-- **Observation revisions** are the canonical decimals of the 64-bit numbers. -/
theorem observationRevision_ok {sequence : List Char} {n : Nat} :
    observationRevision sequence = .ok n ↔ n < 2 ^ 64 ∧ sequence = Nat.toDigits 10 n := by
  unfold observationRevision
  constructor
  · intro h
    split at h
    · cases h
    · rename_i hshape
      simp only [not_or, not_and] at hshape
      obtain ⟨hne, _, hzero⟩ := hshape
      split at h
      · rename_i after hfold
        obtain rfl := Except.ok.inj h
        obtain ⟨hall, rfl, hfits⟩ := digits_value.mp hfold
        exact ⟨hfits hne, (canonical hall hne fun hlen => hzero hlen).1.symm⟩
      · cases h
  · rintro ⟨hlt, rfl⟩
    have hlength : (Nat.toDigits 10 n).length ≤ 20 :=
      (Nat.length_toDigits_le_iff (by decide) (by decide)).mpr (hlt.trans (by norm_num))
    have hhead : 1 < (Nat.toDigits 10 n).length → (Nat.toDigits 10 n).head? ≠ some '0' := by
      intro hlen
      refine toDigits_head (Nat.pos_of_ne_zero fun hn => ?_)
      rw [hn, Nat.toDigits_zero] at hlen
      exact absurd hlen (by decide)
    have hfold : (Nat.toDigits 10 n).foldlM observationDigit 0 = some n :=
      digits_value.mpr ⟨fun c hc => isDigit_of_mem_toDigits hc,
        Nat.ofDigitChars_ten_toDigits.symm, fun _ => hlt⟩
    rw [if_neg, hfold]
    rintro (hnil | hlong | ⟨hlen, hzero⟩)
    · exact Nat.toDigits_ne_nil hnil
    · omega
    · exact hhead hlen hzero

theorem observationRevision_error {sequence : List Char} {e : ControlError}
    (h : observationRevision sequence = .error e) :
    e = invalid "invalid observation revision" := by
  unfold observationRevision at h
  split at h
  · exact (Except.error.inj h).symm
  · split at h
    · cases h
    · exact (Except.error.inj h).symm

end MediaCamera.Executor
