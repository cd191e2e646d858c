import Mathlib.Tactic

/-!
# Checked machine arithmetic

Integers of a fixed range are computed exactly, and a result that does not fit is a fault.

* `IntType`            the range of an integer type;
* `t.add`, `t.mul`, `t.div`   arithmetic in a type; the quotient rounds toward zero;
* `t.cast`             a conversion to the type;
* `Holds`, `..._of`    where they are exact.
-/

namespace MediaCamera

structure IntType where
  least : Int
  greatest : Int
  deriving DecidableEq

inductive ArithmeticFault where
  | overflow
  | divisionByZero
  | truncation
  deriving DecidableEq, Repr

namespace IntType

def int : IntType := ⟨-2 ^ 31, 2 ^ 31 - 1⟩
def int64 : IntType := ⟨-2 ^ 63, 2 ^ 63 - 1⟩
def uint16 : IntType := ⟨0, 2 ^ 16 - 1⟩
def uint32 : IntType := ⟨0, 2 ^ 32 - 1⟩
def uint64 : IntType := ⟨0, 2 ^ 64 - 1⟩

def Holds (t : IntType) (x : Int) : Prop := t.least ≤ x ∧ x ≤ t.greatest

instance (t : IntType) (x : Int) : Decidable (t.Holds x) :=
  inferInstanceAs (Decidable (_ ∧ _))

def result (t : IntType) (x : Int) : Except ArithmeticFault Int :=
  if t.Holds x then .ok x else .error .overflow

def add (t : IntType) (a b : Int) : Except ArithmeticFault Int := t.result (a + b)

def mul (t : IntType) (a b : Int) : Except ArithmeticFault Int := t.result (a * b)

def div (t : IntType) (a b : Int) : Except ArithmeticFault Int :=
  if b = 0 then .error .divisionByZero else t.result (a.tdiv b)

def cast (t : IntType) (x : Int) : Except ArithmeticFault Int :=
  if t.Holds x then .ok x else .error .truncation

variable {t : IntType} {a b x : Int}

theorem int_holds : int.Holds x ↔ -2147483648 ≤ x ∧ x ≤ 2147483647 := Iff.rfl

theorem int64_holds : int64.Holds x ↔
    -9223372036854775808 ≤ x ∧ x ≤ 9223372036854775807 := Iff.rfl

theorem uint16_holds : uint16.Holds x ↔ 0 ≤ x ∧ x ≤ 65535 := Iff.rfl

theorem uint32_holds : uint32.Holds x ↔ 0 ≤ x ∧ x ≤ 4294967295 := Iff.rfl

theorem uint64_holds : uint64.Holds x ↔ 0 ≤ x ∧ x ≤ 18446744073709551615 := Iff.rfl

theorem result_of (h : t.Holds x) : t.result x = .ok x := if_pos h

theorem result_not (h : ¬ t.Holds x) : t.result x = .error .overflow := if_neg h

theorem mul_of (h : t.Holds (a * b)) : t.mul a b = .ok (a * b) := result_of h

theorem div_of (hb : b ≠ 0) (h : t.Holds (a.tdiv b)) : t.div a b = .ok (a.tdiv b) := by
  unfold div
  rw [if_neg hb]
  exact result_of h

theorem div_of_pos (ht : t.least ≤ 0) (ha : 0 ≤ a) (htop : a ≤ t.greatest) (hb : 0 < b) :
    t.div a b = .ok (a / b) := by
  have hdiv : a.tdiv b = a / b := Int.tdiv_eq_ediv_of_nonneg ha
  have hnonneg : 0 ≤ a / b := Int.ediv_nonneg ha hb.le
  have hle : a / b ≤ a := Int.ediv_le_self b ha
  have hholds : t.Holds (a.tdiv b) := by
    rw [hdiv]
    exact ⟨by omega, by omega⟩
  rw [div_of hb.ne' hholds, hdiv]

theorem cast_of (h : t.Holds x) : t.cast x = .ok x := if_pos h

end IntType

end MediaCamera
