import Mathlib.Data.List.Nodup
import Mathlib.Data.List.Basic

/-!
# Rings

`n` slots that are written round robin: the value number `k` goes to slot `k % n`.  The written
values are a list, newest first.

* `Ring.Holds slots written`   every slot holds the newest value that was written to it;
* `Ring.Holds.write`           one write;
* `Ring.Holds.mem_of_take`     the `n` newest values are held;
* `Ring.Holds.of_get`          every held value is one of the `n` newest;
* `Ring.Holds.mem_iff`         so the ring holds the `n` newest values;
* `Ring.Holds.full`, `Ring.Holds.not_full`   empty slots go with the `n`-th write;
* `Ring.Holds.inj_of_nodup`    newest values that differ are held in one slot each.
-/

namespace MediaCamera.Ring
variable {α β : Type}

structure Holds (n : Nat) (slots : List (Option α)) (written : List α) : Prop where
  length : slots.length = n
  newest : ∀ k, k < n → ∀ v, written[k]? = some v →
    slots[(written.length - 1 - k) % n]? = some (some v)
  empty : ∀ i, i < n → written.length ≤ i → slots[i]? = some none

theorem Holds.start (n : Nat) : Holds n (List.replicate n (none : Option α)) [] where
  length := List.length_replicate ..
  newest _ _ _ hv := by simp at hv
  empty i hi _ := by simp [hi]

theorem slot_ne {n m k : Nat} (hk : k + 1 < n) (hm : k < m) : (m - 1 - k) % n ≠ m % n := by
  intro he
  have hd : n ∣ m - (m - 1 - k) := Nat.dvd_of_mod_eq_zero (Nat.sub_mod_eq_zero_of_mod_eq he.symm)
  have hle : n ≤ m - (m - 1 - k) := Nat.le_of_dvd (by omega) hd
  omega

theorem slot_of {n m i : Nat} (hi : i < n) (hm : i < m) :
    (m - 1 - (m - 1 - i) % n) % n = i := by
  have hle : (m - 1 - i) % n ≤ m - 1 - i := Nat.mod_le _ _
  have hdiv := Nat.div_add_mod (m - 1 - i) n
  have he : m - 1 - (m - 1 - i) % n = i + n * ((m - 1 - i) / n) := by omega
  rw [he, Nat.add_mul_mod_self_left, Nat.mod_eq_of_lt hi]

variable {n : Nat} {slots : List (Option α)} {written : List α}

theorem Holds.write (h : Holds n slots written) (hn : 0 < n) (v : α) :
    Holds n (slots.set (written.length % n) (some v)) (v :: written) where
  length := by rw [List.length_set, h.length]
  newest k hk w hw := by
    cases k with
    | zero =>
      obtain rfl : v = w := by simpa using hw
      have hlt : written.length % n < slots.length := by rw [h.length]; exact Nat.mod_lt _ hn
      simp [hlt]
    | succ k =>
      have hw : written[k]? = some w := by simpa using hw
      have hlt : k < written.length := (List.getElem?_eq_some_iff.mp hw).1
      have hslot : (v :: written).length - 1 - (k + 1) = written.length - 1 - k := by
        rw [List.length_cons]
        omega
      rw [hslot, List.getElem?_set_ne (slot_ne hk hlt).symm]
      exact h.newest k (by omega) w hw
  empty i hi hle := by
    have hle : written.length + 1 ≤ i := hle
    have hne : written.length % n ≠ i := by rw [Nat.mod_eq_of_lt (by omega)]; omega
    rw [List.getElem?_set_ne hne]
    exact h.empty i hi (by omega)

theorem Holds.mem_of_take (h : Holds n slots written) {v : α} (hv : v ∈ written.take n) :
    some v ∈ slots := by
  obtain ⟨k, hk⟩ := List.mem_iff_getElem?.mp hv
  have hkn : k < n := by
    by_contra hge
    rw [List.getElem?_take_eq_none (by omega)] at hk
    cases hk
  rw [List.getElem?_take_of_lt hkn] at hk
  exact List.mem_of_getElem? (h.newest k hkn v hk)

theorem Holds.of_get (h : Holds n slots written) {i : Nat} {v : α}
    (hi : slots[i]? = some (some v)) :
    ∃ k, (written.take n)[k]? = some v ∧ (written.length - 1 - k) % n = i := by
  have hin : i < n := by
    have := (List.getElem?_eq_some_iff.mp hi).1
    rwa [h.length] at this
  have hlt : i < written.length := by
    by_contra hle
    rw [h.empty i hin (by omega)] at hi
    cases hi
  have hk : (written.length - 1 - i) % n < n := Nat.mod_lt _ (by omega)
  have hle : (written.length - 1 - i) % n ≤ written.length - 1 - i := Nat.mod_le _ _
  have hslot := slot_of hin hlt
  refine ⟨(written.length - 1 - i) % n, ?_, hslot⟩
  obtain ⟨w, hw⟩ : ∃ w, written[(written.length - 1 - i) % n]? = some w :=
    ⟨_, List.getElem?_eq_getElem (by omega)⟩
  have := h.newest _ hk w hw
  rw [hslot, hi] at this
  rw [List.getElem?_take_of_lt hk, hw]
  exact (Option.some.inj this).symm

/-- the held values are the `n` newest -/
theorem Holds.mem_iff (h : Holds n slots written) {v : α} :
    some v ∈ slots ↔ v ∈ written.take n := by
  refine ⟨fun hmem => ?_, h.mem_of_take⟩
  obtain ⟨i, hi⟩ := List.mem_iff_getElem?.mp hmem
  obtain ⟨k, hk, _⟩ := h.of_get hi
  exact List.mem_of_getElem? hk

theorem Holds.full (h : Holds n slots written) (hle : n ≤ written.length) : none ∉ slots := by
  intro hmem
  obtain ⟨i, hi⟩ := List.mem_iff_getElem?.mp hmem
  have hin : i < n := by
    have := (List.getElem?_eq_some_iff.mp hi).1
    rwa [h.length] at this
  have hk : (written.length - 1 - i) % n < n := Nat.mod_lt _ (by omega)
  obtain ⟨v, hv⟩ : ∃ v, written[(written.length - 1 - i) % n]? = some v :=
    ⟨_, List.getElem?_eq_getElem (by omega)⟩
  have hnew := h.newest _ hk v hv
  rw [slot_of hin (by omega), hi] at hnew
  cases hnew

theorem Holds.not_full (h : Holds n slots written) (hlt : written.length < n) : none ∈ slots :=
  List.mem_of_getElem? (h.empty written.length hlt (Nat.le_refl _))

/-- where the newest values have different keys, each key is in one slot only -/
theorem Holds.inj_of_nodup (h : Holds n slots written) {key : α → β}
    (hnodup : ((written.take n).map key).Nodup) {i j : Nat} {v w : α}
    (hi : slots[i]? = some (some v)) (hj : slots[j]? = some (some w)) (hkey : key v = key w) :
    i = j := by
  obtain ⟨k, hk, rfl⟩ := h.of_get hi
  obtain ⟨m, hm, rfl⟩ := h.of_get hj
  have hkm : k = m := by
    refine (List.getElem?_inj ?_ hnodup).mp ?_
    · rw [List.length_map]
      exact (List.getElem?_eq_some_iff.mp hk).1
    · rw [List.getElem?_map, List.getElem?_map, hk, hm, Option.map_some, Option.map_some, hkey]
  rw [hkm]

end MediaCamera.Ring
