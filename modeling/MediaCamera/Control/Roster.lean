import Mathlib.Data.Finmap
import MediaCamera.Client.SourceIdentity

/-!
# The roster of the control host

`CameraSourceControlHost` keeps the registered sources in sixteen slots.  A slot whose identifier
is empty is free.

* `Host.register`, `Host.unregister`    the two calls, over the slots;
* `registered`                what they mean: a finite map from identifiers to handlers;
* `Represents`                the slots hold a map of at most sixteen safe identifiers;
* `roster_represents`         and they do so after any sequence of calls;
* `lookup_registered`         the map holds the handler of the latest registration.
-/

namespace MediaCamera

def kSources : Nat := 16

/-- `Source`, whose handler is any function object, an empty one among them -/
structure Source (H : Type) where
  id : List UInt8
  handler : H
  deriving DecidableEq, Repr

/-- the exceptions, as `Dispatch` tells them apart -/
inductive Thrown where
  | invalidArgument (what : String)
  | exception (what : String)
  deriving DecidableEq, Repr

section
variable {H : Type}

/-- the second loop of `Register`: the first free slot is taken -/
def fillSlot (source : Source H) : List (Source H) → Option (List (Source H))
  | [] => none
  | slot :: slots =>
    if slot.id = [] then some (source :: slots) else (fillSlot source slots).map (slot :: ·)

/-- `Register`: the slots it leaves, and what it throws -/
def Host.register (slots : List (Source H)) (source_id : List UInt8) (handler : H) :
    List (Source H) × Option Thrown :=
  if safeSourceIdentifier source_id = false then
    (slots, some (.invalidArgument "invalid camera source_id"))
  else if slots.any (·.id = source_id) then
    (slots, some (.invalidArgument "duplicate camera source_id"))
  else
    match fillSlot ⟨source_id, handler⟩ slots with
    | some filled => (filled, none)
    | none => (slots, some (.exception "camera source capacity is exhausted (16)"))

variable [Inhabited H]

def Source.empty : Source H := ⟨[], default⟩

def Host.unregister (slots : List (Source H)) (source_id : List UInt8) : List (Source H) :=
  slots.map fun source => if source.id = source_id then .empty else source

inductive RosterCall (H : Type) where
  | register (source_id : List UInt8) (handler : H)
  | unregister (source_id : List UInt8)
  deriving DecidableEq, Repr

def RosterCall.apply (slots : List (Source H)) : RosterCall H → List (Source H)
  | .register source_id handler => (Host.register slots source_id handler).1
  | .unregister source_id => Host.unregister slots source_id

def roster (calls : List (RosterCall H)) : List (Source H) :=
  calls.foldl RosterCall.apply (List.replicate kSources .empty)

end

/-! ## what the calls mean -/

/-- the registered sources, with their handlers -/
abbrev SourceMap (H : Type) := Finmap fun _ : List UInt8 => H

section
variable {H : Type}

def Registrable (sources : SourceMap H) (source_id : List UInt8) : Prop :=
  safeSourceIdentifier source_id = true ∧ source_id ∉ sources ∧ sources.keys.card < kSources

instance (sources : SourceMap H) (source_id : List UInt8) :
    Decidable (Registrable sources source_id) := by
  unfold Registrable
  infer_instance

def RosterCall.meaning (sources : SourceMap H) : RosterCall H → SourceMap H
  | .register source_id handler =>
    if Registrable sources source_id then sources.insert source_id handler else sources
  | .unregister source_id => sources.erase source_id

def registered (calls : List (RosterCall H)) : SourceMap H :=
  calls.foldl RosterCall.meaning ∅

theorem registered_append (calls : List (RosterCall H)) (call : RosterCall H) :
    registered (calls ++ [call]) = call.meaning (registered calls) := by
  rw [registered, List.foldl_append]
  rfl

/-- an accepted registration, after which the source was not unregistered -/
def Latest (calls : List (RosterCall H)) (source_id : List UInt8) (handler : H) : Prop :=
  ∃ before after, calls = before ++ .register source_id handler :: after ∧
    Registrable (registered before) source_id ∧ .unregister source_id ∉ after

theorem Latest.snoc {calls : List (RosterCall H)} {call : RosterCall H} {source_id : List UInt8}
    {handler : H} : Latest (calls ++ [call]) source_id handler ↔
      (call = .register source_id handler ∧ Registrable (registered calls) source_id) ∨
        (Latest calls source_id handler ∧ call ≠ .unregister source_id) := by
  constructor
  · rintro ⟨before, after, hcalls, hregistrable, hkept⟩
    rcases List.eq_nil_or_concat after with rfl | ⟨after, last, rfl⟩
    · obtain ⟨rfl, hcall⟩ := List.append_inj' hcalls rfl
      exact .inl ⟨List.singleton_inj.mp hcall, hregistrable⟩
    · rw [List.concat_eq_append, ← List.cons_append, ← List.append_assoc] at hcalls
      obtain ⟨rfl, hcall⟩ := List.append_inj' hcalls rfl
      obtain rfl := List.singleton_inj.mp hcall
      rw [List.concat_eq_append, List.mem_append, List.mem_singleton, not_or] at hkept
      exact .inr ⟨⟨before, after, rfl, hregistrable, hkept.1⟩, fun h => hkept.2 h.symm⟩
  · rintro (⟨rfl, hregistrable⟩ | ⟨⟨before, after, rfl, hregistrable, hkept⟩, hcall⟩)
    · exact ⟨calls, [], rfl, hregistrable, List.not_mem_nil⟩
    · refine ⟨before, after ++ [call], by simp, hregistrable, ?_⟩
      rw [List.mem_append, List.mem_singleton, not_or]
      exact ⟨hkept, fun h => hcall h.symm⟩

theorem lookup_registered {calls : List (RosterCall H)} {source_id : List UInt8} {handler : H} :
    (registered calls).lookup source_id = some handler ↔ Latest calls source_id handler := by
  induction calls using List.reverseRecOn with
  | nil =>
    rw [show registered ([] : List (RosterCall H)) = ∅ from rfl, Finmap.lookup_empty]
    constructor
    · intro h
      cases h
    · rintro ⟨before, after, hcalls, -⟩
      exact absurd hcalls.symm (by simp)
  | append_singleton calls call ih =>
    rw [registered_append, Latest.snoc, ← ih]
    cases call with
    | unregister other =>
      show (Finmap.erase other (registered calls)).lookup source_id = some handler ↔ _
      by_cases hother : source_id = other
      · subst hother
        simp [Finmap.lookup_erase]
      · rw [Finmap.lookup_erase_ne hother]
        simp [Ne.symm hother]
    | register other handler' =>
      rw [RosterCall.meaning]
      by_cases hregistrable : Registrable (registered calls) other
      · rw [if_pos hregistrable]
        by_cases hother : source_id = other
        · subst hother
          have habsent := Finmap.lookup_eq_none.mpr hregistrable.2.1
          simp [Finmap.lookup_insert, habsent, hregistrable]
        · rw [Finmap.lookup_insert_of_ne _ hother]
          simp [Ne.symm hother]
      · rw [if_neg hregistrable]
        constructor
        · intro h
          exact .inr ⟨h, by simp⟩
        · rintro (⟨hcall, hregistrable'⟩ | ⟨h, -⟩)
          · obtain ⟨rfl, -⟩ := RosterCall.register.inj hcall
            exact absurd hregistrable' hregistrable
          · exact h

/-! ## the slots hold the map -/

def occupied (slots : List (Source H)) : List (Source H) := slots.filter (·.id ≠ [])

theorem mem_occupied {slots : List (Source H)} {source : Source H} :
    source ∈ occupied slots ↔ source ∈ slots ∧ source.id ≠ [] := by
  simp [occupied]

/-- the slots hold a map of at most sixteen safe identifiers -/
structure Represents (slots : List (Source H)) (sources : SourceMap H) : Prop where
  size : slots.length = kSources
  distinct : ((occupied slots).map Source.id).Nodup
  lookup : ∀ source_id handler,
    sources.lookup source_id = some handler ↔ ⟨source_id, handler⟩ ∈ occupied slots
  safe : ∀ source_id ∈ sources, safeSourceIdentifier source_id = true

theorem ne_nil_of_safe {source_id : List UInt8} (h : safeSourceIdentifier source_id = true) :
    source_id ≠ [] := (safeSourceIdentifier_iff.mp h).1

section
variable {slots : List (Source H)} {sources : SourceMap H} {source_id : List UInt8} {handler : H}

theorem Represents.mem (h : Represents slots sources) :
    source_id ∈ sources ↔ source_id ∈ (occupied slots).map Source.id := by
  rw [Finmap.mem_iff, List.mem_map]
  constructor
  · rintro ⟨handler, hlookup⟩
    exact ⟨_, (h.lookup source_id handler).mp hlookup, rfl⟩
  · rintro ⟨⟨id, handler⟩, hmem, rfl⟩
    exact ⟨handler, (h.lookup id handler).mpr hmem⟩

theorem Represents.card (h : Represents slots sources) :
    sources.keys.card = (occupied slots).length := by
  have hkeys : sources.keys = ((occupied slots).map Source.id).toFinset := by
    ext id
    rw [Finmap.mem_keys, List.mem_toFinset]
    exact h.mem
  rw [hkeys, List.toFinset_card_of_nodup h.distinct, List.length_map]

theorem Represents.card_le (h : Represents slots sources) : sources.keys.card ≤ kSources := by
  rw [h.card, ← h.size]
  exact List.length_filter_le ..

theorem Represents.any (h : Represents slots sources) (hne : source_id ≠ []) :
    slots.any (·.id = source_id) = true ↔ source_id ∈ sources := by
  rw [h.mem, List.any_eq_true, List.mem_map]
  constructor
  · rintro ⟨source, hmem, hid⟩
    obtain rfl := of_decide_eq_true hid
    exact ⟨source, mem_occupied.mpr ⟨hmem, hne⟩, rfl⟩
  · rintro ⟨source, hmem, hid⟩
    exact ⟨source, (mem_occupied.mp hmem).1, decide_eq_true hid⟩

/-! ### `Register` -/

theorem fillSlot_none {source : Source H} : fillSlot source slots = none ↔
    occupied slots = slots := by
  induction slots with
  | nil => exact ⟨fun _ => rfl, fun _ => rfl⟩
  | cons slot slots ih =>
    rw [fillSlot, occupied]
    by_cases hfree : slot.id = []
    · rw [if_pos hfree, List.filter_cons_of_neg (by simp [hfree])]
      constructor
      · intro h
        cases h
      · intro h
        have hle := congrArg List.length h
        have := List.length_filter_le (·.id ≠ []) slots
        rw [List.length_cons] at hle
        omega
    · rw [if_neg hfree, List.filter_cons_of_pos (by simp [hfree]), Option.map_eq_none_iff, ih]
      exact (List.cons_inj_right slot).symm

theorem fillSlot_some {source : Source H} {filled : List (Source H)}
    (h : fillSlot source slots = some filled) :
    ∃ before slot after, slots = before ++ slot :: after ∧ slot.id = [] ∧
      filled = before ++ source :: after := by
  induction slots generalizing filled with
  | nil => cases h
  | cons slot slots ih =>
    rw [fillSlot] at h
    by_cases hfree : slot.id = []
    · rw [if_pos hfree] at h
      obtain rfl := Option.some.inj h
      exact ⟨[], slot, slots, rfl, hfree, rfl⟩
    · rw [if_neg hfree, Option.map_eq_some_iff] at h
      obtain ⟨rest, hrest, rfl⟩ := h
      obtain ⟨before, free, after, rfl, hid, rfl⟩ := ih hrest
      exact ⟨slot :: before, free, after, rfl, hid, rfl⟩

theorem Represents.full (h : Represents slots sources) {source : Source H} :
    fillSlot source slots = none ↔ ¬ sources.keys.card < kSources := by
  rw [fillSlot_none, h.card, ← h.size]
  constructor
  · intro hall
    rw [hall]
    exact lt_irrefl _
  · intro hfull
    exact List.Sublist.eq_of_length_le List.filter_sublist (Nat.not_lt.mp hfull)

theorem Represents.filled (h : Represents slots sources) {filled : List (Source H)}
    (hsafe : safeSourceIdentifier source_id = true) (hnew : source_id ∉ sources)
    (hfill : fillSlot ⟨source_id, handler⟩ slots = some filled) :
    Represents filled (sources.insert source_id handler) := by
  obtain ⟨before, slot, after, rfl, hfree, rfl⟩ := fillSlot_some hfill
  have hbefore : occupied (before ++ slot :: after) = occupied before ++ occupied after := by
    simp [occupied, hfree]
  have hafter : occupied (before ++ ⟨source_id, handler⟩ :: after) =
      occupied before ++ ⟨source_id, handler⟩ :: occupied after := by
    simp [occupied, ne_nil_of_safe hsafe]
  have habsent : source_id ∉ (occupied before ++ occupied after).map Source.id := by
    rw [← hbefore, ← h.mem]
    exact hnew
  constructor
  case size =>
    rw [← h.size, List.length_append, List.length_append]
    rfl
  case distinct =>
    rw [hafter, List.map_append, List.map_cons, List.nodup_middle, ← List.map_append]
    have hdistinct := h.distinct
    rw [hbefore] at hdistinct
    exact List.nodup_cons.mpr ⟨habsent, hdistinct⟩
  case lookup =>
    intro id other
    have hold := h.lookup id other
    rw [hbefore, List.mem_append] at hold
    rw [hafter, List.mem_append, List.mem_cons]
    by_cases hid : id = source_id
    · subst hid
      have hnone : ∀ l, ⟨id, other⟩ ∈ occupied l →
          l = before ∨ l = after → False := by
        rintro l hmem (rfl | rfl)
        · exact habsent (List.mem_map.mpr ⟨_, List.mem_append_left _ hmem, rfl⟩)
        · exact habsent (List.mem_map.mpr ⟨_, List.mem_append_right _ hmem, rfl⟩)
      rw [Finmap.lookup_insert]
      constructor
      · intro heq
        obtain rfl := Option.some.inj heq
        exact .inr (.inl rfl)
      · rintro (hmem | heq | hmem)
        · exact (hnone _ hmem (.inl rfl)).elim
        · rw [(Source.mk.inj heq).2]
        · exact (hnone _ hmem (.inr rfl)).elim
    · rw [Finmap.lookup_insert_of_ne _ hid, hold]
      have hneq : (⟨id, other⟩ : Source H) ≠ ⟨source_id, handler⟩ :=
        fun heq => hid (Source.mk.inj heq).1
      simp [hneq]
  case safe =>
    intro id hmem
    rcases Finmap.mem_insert.mp hmem with rfl | hmem
    · exact hsafe
    · exact h.safe id hmem

/-- a registration of a source that can be added succeeds -/
theorem Represents.register (h : Represents slots sources)
    (hregistrable : Registrable sources source_id) :
    (Host.register slots source_id handler).2 = none ∧
      Represents (Host.register slots source_id handler).1 (sources.insert source_id handler) := by
  obtain ⟨hsafe, hnew, hroom⟩ := hregistrable
  have hunsafe : ¬ safeSourceIdentifier source_id = false := by simp [hsafe]
  have hduplicate : ¬ slots.any (·.id = source_id) = true :=
    fun hfound => hnew ((h.any (ne_nil_of_safe hsafe)).mp hfound)
  rw [Host.register, if_neg hunsafe, if_neg hduplicate]
  cases hfill : fillSlot ⟨source_id, handler⟩ slots with
  | none => exact absurd hroom (h.full.mp hfill)
  | some filled => exact ⟨rfl, h.filled hsafe hnew hfill⟩

/-- any other registration throws, and changes nothing -/
theorem Represents.refused (h : Represents slots sources)
    (hregistrable : ¬ Registrable sources source_id) :
    (Host.register slots source_id handler).2 ≠ none ∧
      (Host.register slots source_id handler).1 = slots := by
  rw [Host.register]
  by_cases hunsafe : safeSourceIdentifier source_id = false
  · rw [if_pos hunsafe]
    exact ⟨Option.some_ne_none _, rfl⟩
  rw [if_neg hunsafe]
  have hsafe : safeSourceIdentifier source_id = true := by simpa using hunsafe
  by_cases hduplicate : slots.any (·.id = source_id) = true
  · rw [if_pos hduplicate]
    exact ⟨Option.some_ne_none _, rfl⟩
  rw [if_neg hduplicate]
  have hnew : source_id ∉ sources :=
    fun hpresent => hduplicate ((h.any (ne_nil_of_safe hsafe)).mpr hpresent)
  have hfull : fillSlot ⟨source_id, handler⟩ slots = none :=
    h.full.mpr fun hroom => hregistrable ⟨hsafe, hnew, hroom⟩
  rw [hfull]
  exact ⟨Option.some_ne_none _, rfl⟩

/-! ### `Unregister` -/

variable [Inhabited H]

theorem occupied_unregister :
    occupied (Host.unregister slots source_id) = (occupied slots).filter (·.id ≠ source_id) := by
  induction slots with
  | nil => rfl
  | cons slot slots ih =>
    have hcons : Host.unregister (slot :: slots) source_id =
        (if slot.id = source_id then Source.empty else slot) :: Host.unregister slots source_id := rfl
    unfold occupied at ih ⊢
    rw [hcons]
    by_cases hid : slot.id = source_id
    · rw [if_pos hid, List.filter_cons_of_neg (by simp [Source.empty]), ih]
      by_cases hfree : slot.id = []
      · rw [List.filter_cons_of_neg (by simp [hfree])]
      · rw [List.filter_cons_of_pos (by simp [hfree]), List.filter_cons_of_neg (by simp [hid])]
    · rw [if_neg hid]
      by_cases hfree : slot.id = []
      · rw [List.filter_cons_of_neg (by simp [hfree]), List.filter_cons_of_neg (by simp [hfree]), ih]
      · rw [List.filter_cons_of_pos (by simp [hfree]), List.filter_cons_of_pos (by simp [hfree]),
          List.filter_cons_of_pos (by simp [hid]), ih]

theorem Represents.unregister (h : Represents slots sources) (source_id : List UInt8) :
    Represents (Host.unregister slots source_id) (sources.erase source_id) := by
  constructor
  case size => rw [Host.unregister, List.length_map, h.size]
  case distinct =>
    rw [occupied_unregister]
    exact h.distinct.sublist (List.filter_sublist.map Source.id)
  case lookup =>
    intro id handler
    rw [occupied_unregister, List.mem_filter, decide_eq_true_eq]
    by_cases hid : id = source_id
    · subst hid
      simp [Finmap.lookup_erase]
    · rw [Finmap.lookup_erase_ne hid, h.lookup]
      simp [hid]
  case safe =>
    intro id hmem
    exact h.safe id (Finmap.mem_erase.mp hmem).2

/-! ### any sequence of calls -/

theorem represents_empty : Represents (roster []) (∅ : SourceMap H) := by
  have hfree : occupied (roster ([] : List (RosterCall H))) = [] := by
    rw [occupied, List.filter_eq_nil_iff]
    intro source hmem
    rw [List.eq_of_mem_replicate hmem]
    simp [Source.empty]
  constructor
  case size => exact List.length_replicate
  case distinct => rw [hfree]; exact List.nodup_nil
  case lookup =>
    intro id handler
    rw [hfree, Finmap.lookup_empty]
    simp
  case safe =>
    intro id hmem
    exact absurd hmem Finmap.notMem_empty

theorem Represents.apply (h : Represents slots sources) (call : RosterCall H) :
    Represents (call.apply slots) (call.meaning sources) := by
  cases call with
  | unregister source_id => exact h.unregister source_id
  | register source_id handler =>
    rw [RosterCall.apply, RosterCall.meaning]
    by_cases hregistrable : Registrable sources source_id
    · rw [if_pos hregistrable]
      exact (h.register hregistrable).2
    · rw [if_neg hregistrable, (h.refused hregistrable).2]
      exact h

theorem roster_represents (calls : List (RosterCall H)) :
    Represents (roster calls) (registered calls) := by
  induction calls using List.reverseRecOn with
  | nil => exact represents_empty
  | append_singleton calls call ih =>
    rw [registered_append, roster, List.foldl_append]
    exact ih.apply call

end

end

end MediaCamera
