import Mathlib.Data.List.Infix

/-!
# Scanning for a place

* `FreeOf hit a b`   no suffix of `a ++ b` that begins inside `a` is a hit;
* `scan hit l`       cuts `l` in front of its first suffix that is a hit;
* `scan_append`, `scan_free`, `scan_stop`   what a scan returns;
* `scan_eq`          and nothing else can be returned;
* `freeOf_word`      a word whose first letter does not recur is found where it was written.
-/

namespace MediaCamera

variable {α : Type} {hit : List α → Prop} {a b l : List α} {x : α}

def FreeOf (hit : List α → Prop) (a b : List α) : Prop := ∀ k < a.length, ¬ hit ((a ++ b).drop k)

theorem FreeOf.nil : FreeOf hit [] b := fun _ hk => by cases hk

theorem freeOf_cons : FreeOf hit (x :: a) b ↔ ¬ hit (x :: (a ++ b)) ∧ FreeOf hit a b := by
  refine ⟨fun h => ⟨h 0 (Nat.succ_pos _), fun k hk => h (k + 1) (Nat.succ_lt_succ hk)⟩, ?_⟩
  rintro ⟨hhead, htail⟩ k hk
  cases k with
  | zero => exact hhead
  | succ k => exact htail k (Nat.lt_of_succ_lt_succ hk)

theorem FreeOf.mono {hit' : List α → Prop} (h : FreeOf hit a b) (hsub : ∀ l, hit' l → hit l) :
    FreeOf hit' a b := fun k hk hhit => h k hk (hsub _ hhit)

def scan (hit : List α → Prop) [DecidablePred hit] : List α → List α × List α
  | [] => ([], [])
  | x :: l => if hit (x :: l) then ([], x :: l) else (x :: (scan hit l).1, (scan hit l).2)

section
variable (hit) [DecidablePred hit]

theorem scan_append (l : List α) : (scan hit l).1 ++ (scan hit l).2 = l := by
  induction l with
  | nil => rfl
  | cons x l ih =>
    unfold scan
    split
    · rfl
    · exact congrArg (x :: ·) ih

theorem scan_free (l : List α) : FreeOf hit (scan hit l).1 (scan hit l).2 := by
  induction l with
  | nil => exact .nil
  | cons x l ih =>
    unfold scan
    split
    · exact .nil
    · rename_i hhead
      refine freeOf_cons.mpr ⟨?_, ih⟩
      rw [scan_append]
      exact hhead

theorem scan_stop (l : List α) : (scan hit l).2 = [] ∨ hit (scan hit l).2 := by
  induction l with
  | nil => exact .inl rfl
  | cons x l ih =>
    unfold scan
    split
    · rename_i hhead
      exact .inr hhead
    · exact ih

end

theorem scan_eq [DecidablePred hit] (hfree : FreeOf hit a b) (hstop : b = [] ∨ hit b) : scan hit (a ++ b) = (a, b) := by
  induction a with
  | nil =>
    cases b with
    | nil => rfl
    | cons x b => exact if_pos (hstop.resolve_left (List.cons_ne_nil x b))
  | cons x a ih =>
    obtain ⟨hhead, htail⟩ := freeOf_cons.mp hfree
    have hrest := ih htail
    rw [List.cons_append, scan, if_neg hhead, hrest]

theorem freeOf_word {w rest : List α} (hx : x ∉ w) (ha : ¬ x :: w <:+: a) :
    FreeOf (x :: w <+: ·) a (x :: w ++ rest) := by
  intro k hk hprefix
  rw [List.drop_append_of_le_length hk.le] at hprefix
  rcases Nat.lt_or_ge (a.drop k).length (x :: w).length with hshort | hlong
  · -- the word would run over its own first letter
    obtain ⟨u, hu⟩ := List.prefix_of_prefix_length_le (List.prefix_append _ _) hprefix hshort.le
    have hne : a.drop k ≠ [] := fun he => absurd (List.drop_eq_nil_iff.mp he) (by omega)
    obtain ⟨y, tail, htail⟩ := List.exists_cons_of_ne_nil hne
    rw [← hu, List.prefix_append_right_inj, htail] at hprefix
    rw [htail] at hu
    obtain ⟨rfl, hw⟩ := List.cons.inj hu
    cases u with
    | nil =>
      rw [htail, ← hu, List.append_nil] at hshort
      exact absurd hshort (lt_irrefl _)
    | cons z u =>
      obtain rfl := (List.cons_prefix_cons.mp hprefix).1
      exact hx (hw ▸ List.mem_append_right _ (List.mem_cons_self ..))
  · have hwithin := List.prefix_of_prefix_length_le hprefix (List.prefix_append _ _) hlong
    exact ha (hwithin.isInfix.trans (List.drop_suffix k a).isInfix)

end MediaCamera
