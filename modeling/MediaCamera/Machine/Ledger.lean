import Mathlib.Data.List.Basic
import Mathlib.Logic.Function.Basic

/-!
# Ledgers

Resources that a program opens, uses and closes through a driver.  The LEDGER lists the calls,
newest first; a resource may live on others, its owners.

* `Legal t`                every call of the ledger `t` is legal;
* `Legal.after_closed`     a closed resource is not mentioned again;
* `Legal.owner_outlives`   a resource is closed before its owners;
* `Device S`               the members of a program, one for each `s : S`, and its ledger;
* `Device.Sound`           the ledger is legal, and the members hold exactly what is open;
* `Device.Holding needs d l`   moreover, the members in `l` are those that hold something.

`Holding.take`, `Holding.use` and `Holding.drop` are the rules for a program; their conditions are
about the list `l` alone.
-/

namespace MediaCamera

inductive LedgerEvent (H : Type) where
  /-- `h` is opened, and lives on `owners` -/
  | opened (h : H) (owners : List H)
  | used (h : H)
  | closed (h : H)
  /-- a call without the resource or the function that it needs -/
  | null
  deriving DecidableEq, Repr

def LedgerEvent.Mentions {H : Type} (h : H) : LedgerEvent H → Prop
  | .opened h' owners => h = h' ∨ h ∈ owners
  | .used h' => h = h'
  | .closed h' => h = h'
  | .null => False

section
variable {H : Type} [DecidableEq H]

def openIn : List (LedgerEvent H) → List H
  | [] => []
  | .opened h _ :: t => h :: openIn t
  | .closed h :: t => (openIn t).filter (· ≠ h)
  | .used _ :: t => openIn t
  | .null :: t => openIn t

def ownersIn : List (LedgerEvent H) → H → List H
  | [], _ => []
  | .opened h owners :: t, h' => if h = h' then owners else ownersIn t h'
  | .closed _ :: t, h' => ownersIn t h'
  | .used _ :: t, h' => ownersIn t h'
  | .null :: t, h' => ownersIn t h'

inductive Legal : List (LedgerEvent H) → Prop
  | nil : Legal []
  | opened {t : List (LedgerEvent H)} {h : H} {owners : List H} (ht : Legal t)
      (hnew : ∀ owners', .opened h owners' ∉ t) (howners : ∀ o ∈ owners, o ∈ openIn t) :
      Legal (.opened h owners :: t)
  | used {t : List (LedgerEvent H)} {h : H} (ht : Legal t) (hopen : h ∈ openIn t) :
      Legal (.used h :: t)
  | closed {t : List (LedgerEvent H)} {h : H} (ht : Legal t) (hopen : h ∈ openIn t)
      (hfree : ∀ h' ∈ openIn t, h ∉ ownersIn t h') : Legal (.closed h :: t)

variable {t newer older : List (LedgerEvent H)} {h h' : H} {owners : List H}

theorem opened_of_openIn (hopen : h ∈ openIn t) : ∃ owners, .opened h owners ∈ t := by
  induction t with
  | nil => cases hopen
  | cons e t ih =>
    have hrest : h ∈ openIn t → ∃ owners, .opened h owners ∈ e :: t := fun hopen => by
      obtain ⟨owners, ho⟩ := ih hopen
      exact ⟨owners, List.mem_cons_of_mem _ ho⟩
    cases e with
    | opened h' owners =>
      rcases List.mem_cons.mp hopen with rfl | hopen
      · exact ⟨owners, List.mem_cons_self⟩
      · exact hrest hopen
    | closed h' => exact hrest (List.mem_filter.mp hopen).1
    | used h' => exact hrest hopen
    | null => exact hrest hopen

theorem Legal.opened_of_closed (hl : Legal t) (hc : .closed h ∈ t) :
    ∃ owners, .opened h owners ∈ t := by
  induction hl with
  | nil => cases hc
  | @opened t h' owners' ht hnew howners ih =>
    rcases List.mem_cons.mp hc with he | hc
    · cases he
    · obtain ⟨owners, ho⟩ := ih hc
      exact ⟨owners, List.mem_cons_of_mem _ ho⟩
  | @used t h' ht hopen ih =>
    rcases List.mem_cons.mp hc with he | hc
    · cases he
    · obtain ⟨owners, ho⟩ := ih hc
      exact ⟨owners, List.mem_cons_of_mem _ ho⟩
  | @closed t h' ht hopen hfree ih =>
    rcases List.mem_cons.mp hc with he | hc
    · cases he
      obtain ⟨owners, ho⟩ := opened_of_openIn hopen
      exact ⟨owners, List.mem_cons_of_mem _ ho⟩
    · obtain ⟨owners, ho⟩ := ih hc
      exact ⟨owners, List.mem_cons_of_mem _ ho⟩

theorem Legal.mem_openIn (hl : Legal t) :
    h ∈ openIn t ↔ (∃ owners, .opened h owners ∈ t) ∧ .closed h ∉ t := by
  induction hl with
  | nil => simp [openIn]
  | @opened t h' owners' ht hnew howners ih =>
    rw [openIn, List.mem_cons, ih]
    constructor
    · rintro (rfl | ⟨⟨owners, ho⟩, hc⟩)
      · refine ⟨⟨owners', List.mem_cons_self⟩, fun hc => ?_⟩
        obtain ⟨owners, ho⟩ := ht.opened_of_closed (by simpa using hc)
        exact hnew owners ho
      · exact ⟨⟨owners, List.mem_cons_of_mem _ ho⟩, by simpa using hc⟩
    · rintro ⟨⟨owners, ho⟩, hc⟩
      rcases List.mem_cons.mp ho with he | ho
      · cases he
        exact .inl rfl
      · exact .inr ⟨⟨owners, ho⟩, fun hc' => hc (List.mem_cons_of_mem _ hc')⟩
  | used ht hopen ih => simpa [openIn] using ih
  | @closed t h' ht hopen hfree ih =>
    rw [openIn, List.mem_filter, ih]
    constructor
    · rintro ⟨⟨⟨owners, ho⟩, hc⟩, hne⟩
      refine ⟨⟨owners, List.mem_cons_of_mem _ ho⟩, fun hc' => ?_⟩
      rcases List.mem_cons.mp hc' with he | hc'
      · cases he
        simp at hne
      · exact hc hc'
    · rintro ⟨⟨owners, ho⟩, hc⟩
      rcases List.mem_cons.mp ho with he | ho
      · cases he
      · refine ⟨⟨⟨owners, ho⟩, fun hc' => hc (List.mem_cons_of_mem _ hc')⟩, ?_⟩
        have hne : h ≠ h' := by
          rintro rfl
          exact hc List.mem_cons_self
        simpa using hne

theorem Legal.of_append (hl : Legal (newer ++ t)) : Legal t := by
  induction newer with
  | nil => exact hl
  | cons e newer ih =>
    cases hl with
    | opened ht => exact ih ht
    | used ht => exact ih ht
    | closed ht => exact ih ht

/-- a closed resource is not mentioned again: not used, not closed, not an owner, not opened -/
theorem Legal.after_closed (hl : Legal (newer ++ .closed h :: older)) :
    ∀ e ∈ newer, ¬ e.Mentions h := by
  induction newer with
  | nil => exact fun e he => by cases he
  | cons e newer ih =>
    have hmem : LedgerEvent.closed h ∈ newer ++ .closed h :: older := by simp
    have hgone (hl : Legal (newer ++ .closed h :: older)) :
        h ∉ openIn (newer ++ .closed h :: older) := fun hopen => (hl.mem_openIn.mp hopen).2 hmem
    cases hl with
    | opened ht hnew howners =>
      refine List.forall_mem_cons.mpr ⟨?_, ih ht⟩
      rintro (rfl | howner)
      · obtain ⟨owners, ho⟩ := ht.opened_of_closed hmem
        exact hnew owners ho
      · exact hgone ht (howners h howner)
    | used ht hopen =>
      refine List.forall_mem_cons.mpr ⟨?_, ih ht⟩
      rintro rfl
      exact hgone ht hopen
    | closed ht hopen =>
      refine List.forall_mem_cons.mpr ⟨?_, ih ht⟩
      rintro rfl
      exact hgone ht hopen

theorem Legal.ownersIn (hl : Legal t) (ho : .opened h owners ∈ t) : ownersIn t h = owners := by
  induction hl with
  | nil => cases ho
  | @opened t h' owners' ht hnew howners ih =>
    rw [MediaCamera.ownersIn]
    rcases List.mem_cons.mp ho with he | ho
    · cases he
      exact if_pos rfl
    · rw [if_neg (by rintro rfl; exact hnew owners ho)]
      exact ih ho
  | used ht hopen ih => exact ih (by simpa using ho)
  | closed ht hopen hfree ih => exact ih (by simpa using ho)

/-- what lives on a resource is closed before it -/
theorem Legal.owner_outlives (hl : Legal (newer ++ .closed h :: older))
    (ho : .opened h' owners ∈ older) (hh : h ∈ owners) : .closed h' ∈ older := by
  cases hl.of_append with
  | closed ht hopen hfree =>
    by_contra hc
    refine hfree h' (ht.mem_openIn.mpr ⟨⟨owners, ho⟩, hc⟩) ?_
    rw [ht.ownersIn ho]
    exact hh

end

/-! ## devices -/

/-- `opened` counts the resources; it is the handle of the next one -/
structure Device (S : Type) where
  members : S → Option Nat
  opened : Nat
  trace : List (LedgerEvent Nat)

namespace Device
variable {S : Type} {needs : S → List S} {d : Device S} {s s' : S} {l : List S}

def new : Device S := ⟨fun _ => none, 0, []⟩

def has (d : Device S) (s : S) : Bool := (d.members s).isSome

/-- a call without effect on what is open, with the resource of the member `s` -/
def use (s : S) (d : Device S) : Device S :=
  { d with trace := (d.members s).elim .null .used :: d.trace }

/-- a call through a function that is not there -/
def null (d : Device S) : Device S := { d with trace := .null :: d.trace }

@[simp] theorem has_use : (d.use s).has s' = d.has s' := rfl

/-- the ledger is legal, and the members hold exactly what is open -/
structure Sound (needs : S → List S) (d : Device S) : Prop where
  legal : Legal d.trace
  fresh : ∀ h owners, .opened h owners ∈ d.trace → h < d.opened
  held : ∀ h, h ∈ openIn d.trace ↔ ∃ s, d.members s = some h
  apart : ∀ s s' h, d.members s = some h → d.members s' = some h → s = s'
  owners : ∀ s h, d.members s = some h → ownersIn d.trace h = (needs s).filterMap d.members
  needed : ∀ s, d.has s = true → ∀ s' ∈ needs s, d.has s' = true

theorem Sound.new : (new : Device S).Sound needs where
  legal := .nil
  fresh h owners ho := by cases ho
  held h := by simp [openIn, Device.new]
  apart s s' h hs := by cases hs
  owners s h hs := by cases hs
  needed s hs := by cases hs

theorem Sound.lt (h : d.Sound needs) {n : Nat} (hs : d.members s = some n) : n < d.opened := by
  obtain ⟨owners, ho⟩ := opened_of_openIn ((h.held n).mpr ⟨s, hs⟩)
  exact h.fresh n owners ho

theorem Sound.use (h : d.Sound needs) (hs : d.has s = true) : (d.use s).Sound needs := by
  obtain ⟨n, hn⟩ := Option.isSome_iff_exists.mp hs
  have htrace : (d.use s).trace = .used n :: d.trace := by
    rw [Device.use, hn]
    rfl
  refine ⟨?_, ?_, ?_, h.apart, ?_, h.needed⟩
  · rw [htrace]
    exact .used h.legal ((h.held n).mpr ⟨s, hn⟩)
  · intro n' owners ho
    rw [htrace] at ho
    exact h.fresh n' owners (by simpa using ho)
  · intro n'
    rw [htrace]
    exact h.held n'
  · intro s' n' hs'
    rw [htrace]
    exact h.owners s' n' hs'

/-- and the members in `l` are those that hold something -/
structure Holding (needs : S → List S) (d : Device S) (l : List S) : Prop where
  sound : d.Sound needs
  has_iff : ∀ s, d.has s = true ↔ s ∈ l

theorem Holding.has (h : d.Holding needs l) (hs : s ∈ l) : d.has s = true := (h.has_iff s).mpr hs

theorem Holding.has_not (h : d.Holding needs l) (hs : s ∉ l) : d.has s = false := by
  cases hd : d.has s with
  | false => rfl
  | true => exact absurd ((h.has_iff s).mp hd) hs

theorem Holding.new : (new : Device S).Holding needs [] := ⟨.new, fun s => by simp [Device.has, Device.new]⟩

theorem Holding.use (h : d.Holding needs l) (hs : s ∈ l) : (d.use s).Holding needs l :=
  ⟨h.sound.use (h.has hs), h.has_iff⟩

theorem Holding.uses (h : d.Holding needs l) {args : List S} (hargs : ∀ s ∈ args, s ∈ l) :
    (args.foldl (fun d s => d.use s) d).Holding needs l := by
  induction args generalizing d with
  | nil => exact h
  | cons s args ih =>
    exact ih (h.use (hargs s List.mem_cons_self)) fun s' hs' => hargs s' (List.mem_cons_of_mem _ hs')

theorem Holding.congr {l' : List S} (h : d.Holding needs l) (hl : ∀ s, s ∈ l ↔ s ∈ l') :
    d.Holding needs l' := ⟨h.sound, fun s => (h.has_iff s).trans (hl s)⟩

/-! ## opening and closing -/

variable [DecidableEq S]

/-- a resource is opened, and put into the member `s`; it lives on the members `needs s` -/
def take (needs : S → List S) (s : S) (d : Device S) : Device S where
  members := Function.update d.members s (some d.opened)
  opened := d.opened + 1
  trace := .opened d.opened ((needs s).filterMap d.members) :: d.trace

def forget (s : S) (d : Device S) : Device S :=
  { d with members := Function.update d.members s none }

/-- the resource of the member `s` is closed, and the member is overwritten -/
def drop (s : S) (d : Device S) : Device S :=
  { (d.forget s) with trace := (d.members s).elim .null .closed :: d.trace }

/-- `if (s) { close(s); s = nullptr; }` -/
def dropIf (s : S) (d : Device S) : Device S := if d.has s then d.drop s else d

/-- the resource of the member `s` passes to the member `s'` -/
def move (s s' : S) (d : Device S) : Device S :=
  { d with members := Function.update (Function.update d.members s none) s' (d.members s) }

theorem members_take {n : Nat} : (d.take needs s).members s' = some n ↔
    (s' = s ∧ n = d.opened) ∨ (s' ≠ s ∧ d.members s' = some n) := by
  show Function.update d.members s (some d.opened) s' = some n ↔ _
  by_cases hs : s' = s
  · subst hs
    simp [eq_comm]
  · simp [hs]

theorem members_drop {n : Nat} : (d.drop s).members s' = some n ↔
    s' ≠ s ∧ d.members s' = some n := by
  show Function.update d.members s none s' = some n ↔ _
  by_cases hs : s' = s
  · subst hs
    simp
  · simp [hs]

theorem members_move {t : S} {n : Nat} : (d.move s s').members t = some n ↔
    (t = s' ∧ d.members s = some n) ∨ (t ≠ s' ∧ t ≠ s ∧ d.members t = some n) := by
  show Function.update (Function.update d.members s none) s' (d.members s) t = some n ↔ _
  by_cases hs' : t = s'
  · subst hs'
    simp
  · by_cases hs : t = s
    · subst hs
      simp [hs']
    · simp [hs, hs']

theorem has_take : (d.take needs s).has s' = (decide (s' = s) || d.has s') := by
  by_cases hs : s' = s
  · subst hs
    simp [has, take]
  · simp [has, take, hs]

theorem has_drop : (d.drop s).has s' = (!decide (s' = s) && d.has s') := by
  by_cases hs : s' = s
  · subst hs
    simp [has, drop, forget]
  · simp [has, drop, forget, hs]

theorem Sound.take (h : d.Sound needs) (hs : d.has s = false)
    (hneeds : ∀ s' ∈ needs s, d.has s' = true) : (d.take needs s).Sound needs := by
  have hnone : d.members s = none := by simpa [has] using hs
  -- nothing that is held needs the member `s`
  have hkeep : ∀ s', (∀ s'' ∈ needs s', d.has s'' = true) →
      (needs s').filterMap (Function.update d.members s (some d.opened)) =
        (needs s').filterMap d.members := fun s' hall => by
    apply List.filterMap_congr
    intro s'' hmem
    refine Function.update_of_ne ?_ _ _
    rintro rfl
    rw [hall s'' hmem] at hs
    cases hs
  refine ⟨.opened h.legal (fun owners ho => ?_) (fun o ho => ?_), ?_, fun n => ?_, ?_, ?_, ?_⟩
  · exact Nat.lt_irrefl _ (h.fresh _ owners ho)
  · obtain ⟨s', -, hs'⟩ := List.mem_filterMap.mp ho
    exact (h.held o).mpr ⟨s', hs'⟩
  · intro n owners ho
    rcases List.mem_cons.mp ho with he | ho
    · cases he
      exact Nat.lt_succ_self _
    · exact Nat.lt_succ_of_lt (h.fresh n owners ho)
  · show n ∈ d.opened :: openIn d.trace ↔ _
    rw [List.mem_cons, h.held]
    constructor
    · rintro (rfl | ⟨s', hs'⟩)
      · exact ⟨s, members_take.mpr (.inl ⟨rfl, rfl⟩)⟩
      · refine ⟨s', members_take.mpr (.inr ⟨?_, hs'⟩)⟩
        rintro rfl
        rw [hnone] at hs'
        cases hs'
    · rintro ⟨s', hs'⟩
      rcases members_take.mp hs' with ⟨-, hn⟩ | ⟨-, hs'⟩
      · exact .inl hn
      · exact .inr ⟨s', hs'⟩
  · intro s₁ s₂ n h₁ h₂
    rcases members_take.mp h₁ with ⟨he₁, hn₁⟩ | ⟨-, h₁⟩ <;>
      rcases members_take.mp h₂ with ⟨he₂, hn₂⟩ | ⟨-, h₂⟩
    · exact he₁.trans he₂.symm
    · have hlt := h.lt h₂
      omega
    · have hlt := h.lt h₁
      omega
    · exact h.apart _ _ _ h₁ h₂
  · intro s' n hs'
    show (if d.opened = n then _ else _) = (needs s').filterMap (Function.update d.members s _)
    rcases members_take.mp hs' with ⟨rfl, rfl⟩ | ⟨-, hs'⟩
    · rw [if_pos rfl, hkeep _ hneeds]
    · have hlt := h.lt hs'
      rw [if_neg (by omega), h.owners _ _ hs', hkeep]
      exact h.needed s' (by rw [has, hs']; rfl)
  · intro s' hs' s'' hmem
    rw [has_take, Bool.or_eq_true, decide_eq_true_eq] at hs' ⊢
    rcases hs' with rfl | hs'
    · exact .inr (hneeds s'' hmem)
    · exact .inr (h.needed s' hs' s'' hmem)

theorem Sound.drop (h : d.Sound needs) (hs : d.has s = true)
    (hunneeded : ∀ s', d.has s' = true → s ∉ needs s') : (d.drop s).Sound needs := by
  obtain ⟨n, hn⟩ := Option.isSome_iff_exists.mp hs
  have htrace : (d.drop s).trace = .closed n :: d.trace := by
    rw [Device.drop, hn]
    rfl
  have hkeep : ∀ s', d.has s' = true → (needs s').filterMap (d.drop s).members =
      (needs s').filterMap d.members := fun s' hhas => by
    apply List.filterMap_congr
    intro s'' hmem
    refine Function.update_of_ne ?_ _ _
    rintro rfl
    exact hunneeded s' hhas hmem
  refine ⟨?_, ?_, fun n' => ?_, ?_, ?_, ?_⟩
  · rw [htrace]
    refine .closed h.legal ((h.held n).mpr ⟨s, hn⟩) fun n' hopen howner => ?_
    obtain ⟨s', hs'⟩ := (h.held n').mp hopen
    rw [h.owners s' n' hs'] at howner
    obtain ⟨s'', hmem, hs''⟩ := List.mem_filterMap.mp howner
    obtain rfl := h.apart _ _ _ hs'' hn
    exact hunneeded s' (by rw [has, hs']; rfl) hmem
  · intro n' owners ho
    rw [htrace] at ho
    exact h.fresh n' owners (by simpa using ho)
  · rw [htrace, openIn, List.mem_filter, h.held]
    constructor
    · rintro ⟨⟨s', hs'⟩, hne⟩
      refine ⟨s', members_drop.mpr ⟨?_, hs'⟩⟩
      rintro rfl
      rw [hn] at hs'
      simp [Option.some.inj hs'] at hne
    · rintro ⟨s', hs'⟩
      obtain ⟨hne, hs'⟩ := members_drop.mp hs'
      refine ⟨⟨s', hs'⟩, ?_⟩
      have hn' : n' ≠ n := by
        rintro rfl
        exact hne (h.apart _ _ _ hs' hn)
      simpa using hn'
  · intro s₁ s₂ n' h₁ h₂
    exact h.apart _ _ _ (members_drop.mp h₁).2 (members_drop.mp h₂).2
  · intro s' n' hs'
    obtain ⟨-, hs'⟩ := members_drop.mp hs'
    rw [htrace, hkeep s' (by rw [has, hs']; rfl)]
    exact h.owners s' n' hs'
  · intro s' hs' s'' hmem
    rw [has_drop, Bool.and_eq_true] at hs'
    rw [has_drop, h.needed s' hs'.2 s'' hmem, Bool.and_true, Bool.not_eq_true',
      decide_eq_false_iff_not]
    rintro rfl
    exact hunneeded s' hs'.2 hmem

theorem Sound.move (h : d.Sound needs) (hs : d.has s = true) (hs' : d.has s' = false)
    (hneeds : needs s' = needs s) (hunneeded : ∀ t, d.has t = true → s ∉ needs t) :
    (d.move s s').Sound needs := by
  have hne : s' ≠ s := by
    rintro rfl
    rw [hs] at hs'
    cases hs'
  have hhas : ∀ t, d.has t = true → t ≠ s → (d.move s s').has t = true := fun t ht hts => by
    obtain ⟨n, hn⟩ := Option.isSome_iff_exists.mp ht
    refine Option.isSome_iff_exists.mpr ⟨n, members_move.mpr (.inr ⟨?_, hts, hn⟩)⟩
    rintro rfl
    rw [ht] at hs'
    cases hs'
  -- what is needed stays where it is
  have hkeep : ∀ t, d.has t = true → (needs t).filterMap (d.move s s').members =
      (needs t).filterMap d.members := fun t ht => by
    apply List.filterMap_congr
    intro t' hmem
    have hts : t' ≠ s := by
      rintro rfl
      exact hunneeded t ht hmem
    have hts' : t' ≠ s' := by
      rintro rfl
      rw [h.needed t ht t' hmem] at hs'
      cases hs'
    show Function.update (Function.update d.members s none) s' (d.members s) t' = _
    rw [Function.update_of_ne hts', Function.update_of_ne hts]
  refine ⟨h.legal, h.fresh, fun n => ?_, ?_, ?_, ?_⟩
  · rw [show (d.move s s').trace = d.trace from rfl, h.held]
    constructor
    · rintro ⟨t, ht⟩
      by_cases hts : t = s
      · subst hts
        exact ⟨s', members_move.mpr (.inl ⟨rfl, ht⟩)⟩
      · obtain ⟨n', hn'⟩ := Option.isSome_iff_exists.mp (hhas t (by rw [has, ht]; rfl) hts)
        rcases members_move.mp hn' with ⟨rfl, -⟩ | ⟨hts', -, ht'⟩
        · rw [has, ht] at hs'
          cases hs'
        · exact ⟨t, members_move.mpr (.inr ⟨hts', hts, ht⟩)⟩
    · rintro ⟨t, ht⟩
      rcases members_move.mp ht with ⟨-, ht⟩ | ⟨-, -, ht⟩
      · exact ⟨s, ht⟩
      · exact ⟨t, ht⟩
  · intro t t' n ht ht'
    rcases members_move.mp ht with ⟨he, ht⟩ | ⟨-, hts, ht⟩ <;>
      rcases members_move.mp ht' with ⟨he', ht'⟩ | ⟨-, hts', ht'⟩
    · exact he.trans he'.symm
    · exact absurd (h.apart _ _ _ ht' ht) hts'
    · exact absurd (h.apart _ _ _ ht ht') hts
    · exact h.apart _ _ _ ht ht'
  · intro t n ht
    rcases members_move.mp ht with ⟨rfl, hn⟩ | ⟨-, -, hn⟩
    · rw [hneeds, hkeep s hs]
      exact h.owners s n hn
    · rw [hkeep t (by rw [has, hn]; rfl)]
      exact h.owners t n hn
  · intro t ht t' hmem
    obtain ⟨n, hn⟩ := Option.isSome_iff_exists.mp ht
    rcases members_move.mp hn with ⟨rfl, hn⟩ | ⟨-, -, hn⟩
    · rw [hneeds] at hmem
      refine hhas t' (h.needed s hs t' hmem) ?_
      rintro rfl
      exact hunneeded t' hs hmem
    · have hhas' : d.has t = true := by
        rw [has, hn]
        rfl
      refine hhas t' (h.needed t hhas' t' hmem) ?_
      rintro rfl
      exact hunneeded t hhas' hmem

theorem Holding.take (h : d.Holding needs l) (hs : s ∉ l) (hneeds : ∀ s' ∈ needs s, s' ∈ l) :
    (d.take needs s).Holding needs (s :: l) := by
  refine ⟨h.sound.take (h.has_not hs) fun s' hs' => h.has (hneeds s' hs'), fun s' => ?_⟩
  rw [has_take, Bool.or_eq_true, decide_eq_true_eq, h.has_iff, List.mem_cons]

theorem Holding.drop (h : d.Holding needs l) (hs : s ∈ l) (hunneeded : ∀ s' ∈ l, s ∉ needs s') :
    (d.drop s).Holding needs (l.filter (· ≠ s)) := by
  refine ⟨h.sound.drop (h.has hs) fun s' hs' => hunneeded s' ((h.has_iff s').mp hs'), fun s' => ?_⟩
  rw [has_drop, Bool.and_eq_true, h.has_iff, List.mem_filter]
  simp [and_comm]

theorem Holding.move (h : d.Holding needs l) (hs : s ∈ l) (hs' : s' ∉ l)
    (hneeds : needs s' = needs s) (hunneeded : ∀ t ∈ l, s ∉ needs t) :
    (d.move s s').Holding needs (s' :: l.filter (· ≠ s)) := by
  refine ⟨h.sound.move (h.has hs) (h.has_not hs') hneeds fun t ht =>
    hunneeded t ((h.has_iff t).mp ht), fun t => ?_⟩
  rw [List.mem_cons, List.mem_filter, ← h.has_iff]
  constructor
  · intro ht
    obtain ⟨n, hn⟩ := Option.isSome_iff_exists.mp ht
    rcases members_move.mp hn with ⟨he, -⟩ | ⟨-, hts, hn⟩
    · exact .inl he
    · exact .inr ⟨by rw [Device.has, hn]; rfl, by simpa using hts⟩
  · rintro (rfl | ⟨ht, hts⟩)
    · obtain ⟨n, hn⟩ := Option.isSome_iff_exists.mp (h.has hs)
      exact Option.isSome_iff_exists.mpr ⟨n, members_move.mpr (.inl ⟨rfl, hn⟩)⟩
    · obtain ⟨n, hn⟩ := Option.isSome_iff_exists.mp ht
      refine Option.isSome_iff_exists.mpr ⟨n, members_move.mpr (.inr ⟨?_, by simpa using hts, hn⟩)⟩
      rintro rfl
      exact hs' ((h.has_iff t).mp ht)

theorem Holding.forget (h : d.Holding needs l) (hs : s ∉ l) : (d.forget s).Holding needs l := by
  have hnone : d.members s = none := by simpa [Device.has] using h.has_not hs
  have heq : d.forget s = d := by
    rw [Device.forget, ← hnone, Function.update_eq_self]
  rw [heq]
  exact h

theorem Holding.dropIf (h : d.Holding needs l) (hunneeded : ∀ s' ∈ l, s ∉ needs s') :
    (d.dropIf s).Holding needs (l.filter (· ≠ s)) := by
  unfold Device.dropIf
  split
  · rename_i hs
    exact h.drop ((h.has_iff s).mp hs) hunneeded
  · rename_i hs
    have hnot : s ∉ l := fun hmem => hs (h.has hmem)
    rw [List.filter_eq_self.mpr fun s' hs' => by
      have hne : s' ≠ s := by
        rintro rfl
        exact hnot hs'
      simpa using hne]
    exact h

end Device

end MediaCamera
