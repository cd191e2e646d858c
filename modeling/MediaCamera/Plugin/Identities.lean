import MediaCamera.Control.Receipts
import MediaCamera.Plugin.Verified

/-!
# Request identities

The executor has a slot for a mutation and a slot for a capture, and the check for a used
`request_id` reads the ring of the receipts only.  An identity that the other slot holds passes the
check (`identity_used_twice`).

* `State.opened`           the identity of the operation in a slot;
* `SlotStep`               what a step does to the slots and the receipts: nothing, an admission, or
                           a receipt;
* `IdentityFree`           the condition: an admitted identity is not open in the other slot;
* `Receipted`              what has become of an operation since its admission;
* `IdentityInv`            the newest receipts and the open operations have different identities;
* `identities_used_once`   the property.
-/

namespace MediaCamera

/-! ## the slots -/

/-- the operations that an executor runs at a time -/
inductive Slot where
  | mutation
  | capture
  deriving DecidableEq

def State.opened (s : State) : Slot → Option String
  | .mutation => s.ctl.pendingControl.map (·.requestID)
  | .capture => s.ctl.captureReply.map fun _ => s.ctl.captureRequestID

def Event.receipt? : Event → Option (Slot × Receipt)
  | .recorded (some _) receipt => some (.mutation, receipt)
  | .recorded none receipt => some (.capture, receipt)
  | _ => none

def State.receipts (s : State) : List Receipt := s.log.filterMap fun e => e.receipt?.map (·.2)

/-- the executor's ledger is that of the recorded receipts -/
def ReceiptBook (s : State) : Prop :=
  ∃ configuration, Executor.Recorded configuration s.receipts s.ctl

/-! ## the condition -/

def Slot.other : Slot → Slot
  | .mutation => .capture
  | .capture => .mutation

/-- the slot that a labelled step fills, and the identity -/
def Label.admits? : Label → Option (Slot × String)
  | .admission id _ _ => some (.mutation, id)
  | .openCapture id => some (.capture, id)
  | _ => none

/-- an admitted identity is not open in the other slot -/
def IdentityFree (l : Label) (s : State) : Prop :=
  ∀ admitted ∈ l.admits?, s.opened admitted.1.other ≠ some admitted.2

instance IdentityFree.decidable (l : Label) (s : State) : Decidable (IdentityFree l s) :=
  inferInstanceAs (Decidable (∀ admitted ∈ l.admits?, _))

/-! ## steps -/

inductive SlotStep (l : Label) (s s' : State) : Prop
  | keep (hopened : ∀ slot, s'.opened slot = s.opened slot)
      (hledger : s.ctl.SameLedger s'.ctl)
      (hlog : ∃ new, s'.log = new ++ s.log ∧ ∀ e ∈ new, e.receipt? = none)
  | opens (slot : Slot) (id : String) (hlabel : l.admits? = some (slot, id))
      (hnone : s.opened slot = none)
      (hopened : s'.opened slot = some id)
      (hother : ∀ slot' ≠ slot, s'.opened slot' = s.opened slot')
      (hnew : s.ctl.remembers id = false)
      (hledger : s.ctl.SameLedger s'.ctl)
      (hlog : ∃ new, s'.log = new ++ s.log ∧ ∀ e ∈ new, e.receipt? = none)
  | record (slot : Slot) (receipt : Receipt) (hopen : s.opened slot = some receipt.request_id)
      (hopened : s'.opened slot = none)
      (hother : ∀ slot' ≠ slot, s'.opened slot' = s.opened slot')
      (hledger : (s.ctl.remember receipt).SameLedger s'.ctl)
      (hlog : ∃ answer e, s'.log = answer ++ e :: s.log ∧ e.receipt? = some (slot, receipt) ∧
        ∀ e ∈ answer, e.receipt? = none)

section
variable {cfg : PluginConfig} {t : ThreadName} {l : Label} {s s' : State}

theorem SlotStep.same (hctl : s'.ctl = s.ctl)
    (hlog : ∃ new, s'.log = new ++ s.log ∧ ∀ e ∈ new, e.receipt? = none) : SlotStep l s s' := by
  refine .keep (fun slot => ?_) (by rw [hctl]; exact .refl _) hlog
  cases slot <;> simp only [State.opened, hctl]

theorem SlotStep.ended {pending : PendingControl} {receipt : Receipt} {answer : List Event}
    (hpending : s.ctl.pendingControl = some pending)
    (hreceipt : receipt.request_id = pending.requestID)
    (hnone : s'.ctl.pendingControl = none)
    (hreply : s'.ctl.captureReply = s.ctl.captureReply)
    (hid : s'.ctl.captureRequestID = s.ctl.captureRequestID)
    (hledger : (s.ctl.remember receipt).SameLedger s'.ctl)
    (hlog : s'.log = answer ++ .recorded (some pending.revision) receipt :: s.log)
    (hanswer : ∀ e ∈ answer, e.receipt? = none) : SlotStep l s s' := by
  refine .record .mutation receipt (by simp [State.opened, hpending, hreceipt])
    (by simp [State.opened, hnone]) (fun slot hne => ?_) hledger ⟨answer, _, hlog, rfl, hanswer⟩
  cases slot with
  | mutation => exact absurd rfl hne
  | capture => simp only [State.opened, hreply, hid]

theorem ExecutorStep.slots (hs : ExecutorStep cfg l s s') : SlotStep l s s' := by
  cases hs with
  | admission h hnone _ _ hdesired =>
    obtain ⟨_, _, _, hdesired⟩ := hdesired
    refine .opens .mutation _ rfl (by simp [State.opened, hnone]) rfl (fun slot hne => ?_)
      (Executor.desiredMutation_ok hdesired) ⟨rfl, rfl, rfl⟩ ⟨[_], rfl, by simp [Event.receipt?]⟩
    cases slot with
    | mutation => exact absurd rfl hne
    | capture => rfl
  | openCapture requestID deadline h _ _ hnone hnew =>
    refine .opens .capture requestID rfl (by simp [State.opened, hnone]) rfl (fun slot hne => ?_) hnew
      ⟨rfl, rfl, rfl⟩ ⟨[], rfl, by simp⟩
    cases slot with
    | mutation => rfl
    | capture => exact absurd rfl hne
  | failPending hpending | expirePending hpending =>
    exact .ended hpending rfl rfl rfl rfl ⟨rfl, rfl, rfl⟩ (rfl : _ = [_] ++ _)
      (by simp [Event.receipt?])
  | completePending time hpending =>
    exact .ended hpending rfl rfl rfl rfl ⟨rfl, rfl, rfl⟩ (rfl : _ = [] ++ _) (by simp)
  | answerCapture response h =>
    refine .record .capture _ (by simp [State.opened, h]; rfl) rfl (fun slot hne => ?_)
      ⟨rfl, rfl, rfl⟩ ⟨[_], _, rfl, rfl, by simp [Event.receipt?]⟩
    cases slot with
    | mutation => rfl
    | capture => exact absurd rfl hne
  | reply | demandKeyframe => exact .same rfl ⟨[_], rfl, by simp [Event.receipt?]⟩
  | endWatcher _ hanswer =>
    refine .keep (fun slot => by cases slot <;> rfl) ⟨rfl, rfl, rfl⟩ ⟨_, rfl, ?_⟩
    rcases hanswer with rfl | ⟨response, rfl, _⟩ <;> simp [Event.receipt?]
  | _ => exact .keep (fun slot => by cases slot <;> rfl) ⟨rfl, rfl, rfl⟩ ⟨[], rfl, by simp⟩

theorem ThreadStep.slots (hs : ThreadStep cfg t l s s') : SlotStep l s s' := by
  by_cases ht : t = .executor
  · subst ht
    exact ExecutorStep.slots hs
  · have hrely := hs.executorRely ht
    obtain ⟨new, hlog, hnew⟩ := hrely.log
    refine .same hrely.ctl ⟨new, hlog, fun e he => ?_⟩
    have := hnew e he
    cases e with
    | recorded => cases this
    | _ => rfl

/-! ## the receipts -/

theorem receipts_append {new : List Event} (hlog : s'.log = new ++ s.log)
    (hnew : ∀ e ∈ new, e.receipt? = none) : s'.receipts = s.receipts := by
  have hnone : new.filterMap (fun e => e.receipt?.map (·.2)) = [] :=
    List.filterMap_eq_nil_iff.mpr fun e he => by rw [hnew e he]; rfl
  simp only [State.receipts, hlog, List.filterMap_append, hnone, List.nil_append]

theorem receipts_record {answer : List Event} {e : Event} {slot : Slot} {receipt : Receipt}
    (hlog : s'.log = answer ++ e :: s.log) (he : e.receipt? = some (slot, receipt))
    (hanswer : ∀ e ∈ answer, e.receipt? = none) : s'.receipts = receipt :: s.receipts := by
  have hnone : answer.filterMap (fun e => e.receipt?.map (·.2)) = [] :=
    List.filterMap_eq_nil_iff.mpr fun e he => by rw [hanswer e he]; rfl
  simp only [State.receipts, hlog, List.filterMap_append, hnone, List.nil_append,
    List.filterMap_cons, he, Option.map_some]

theorem ReceiptBook.step (h : ReceiptBook s) (hs : SlotStep l s s') : ReceiptBook s' := by
  obtain ⟨configuration, h⟩ := h
  refine ⟨configuration, ?_⟩
  cases hs with
  | keep _ hledger hlog | opens _ _ _ _ _ _ _ hledger hlog =>
    obtain ⟨new, hlog, hnew⟩ := hlog
    rw [receipts_append hlog hnew]
    exact h.other hledger
  | record slot receipt _ _ _ hledger hlog =>
    obtain ⟨answer, e, hlog, he, hanswer⟩ := hlog
    rw [receipts_record hlog he hanswer]
    exact (h.remember receipt).other hledger

theorem ReceiptBook.remembers (h : ReceiptBook s) {receipt : Receipt}
    (hmem : receipt ∈ s.receipts.take kReceipts) :
    s.ctl.remembers receipt.request_id = true := by
  obtain ⟨_, h⟩ := h
  exact List.any_eq_true.mpr ⟨some receipt, h.holds.mem_of_take hmem, by simp [Executor.slotID]⟩

/-- a receipt is one of the newest until `kReceipts` others follow it -/
theorem receipt_newest {later older : List Event} {e : Event} {slot : Slot} {receipt : Receipt}
    (hlog : s.log = later ++ e :: older) (he : e.receipt? = some (slot, receipt))
    (hfew : (later.filterMap (·.receipt?)).length < kReceipts) :
    receipt ∈ s.receipts.take kReceipts := by
  have hlater : later.filterMap (fun e => e.receipt?.map (·.2)) =
      (later.filterMap (·.receipt?)).map (·.2) := by rw [List.map_filterMap]
  obtain ⟨k, hk⟩ : ∃ k, kReceipts - ((later.filterMap (·.receipt?)).map (·.2)).length = k + 1 :=
    ⟨kReceipts - (later.filterMap (·.receipt?)).length - 1, by rw [List.length_map]; omega⟩
  rw [State.receipts, hlog, List.filterMap_append, List.filterMap_cons, he, hlater, List.take_append,
    hk]
  exact List.mem_append_right _ (List.mem_cons_self ..)

/-! ## one operation -/

/-- what has become of an operation that was admitted to `slot` at `log` -/
inductive Receipted (slot : Slot) (id : String) (log : List Event) (s : State) : Prop
  | opened (new : List Event) (hopen : s.opened slot = some id) (hlog : s.log = new ++ log)
      (hnone : ∀ e ∈ new, ∀ receipt, e.receipt? ≠ some (slot, receipt))
  | closed (later earlier : List Event) (e : Event) (receipt : Receipt)
      (hlog : s.log = later ++ e :: (earlier ++ log)) (he : e.receipt? = some (slot, receipt))
      (hid : receipt.request_id = id)
      (hfirst : ∀ e ∈ earlier, ∀ receipt, e.receipt? ≠ some (slot, receipt))

theorem Receipted.step {slot : Slot} {id : String} {log : List Event}
    (h : Receipted slot id log s) (hs : SlotStep l s s') : Receipted slot id log s' := by
  cases h with
  | closed later earlier e receipt hlog he hid hfirst =>
    obtain ⟨new, hnew⟩ : ∃ new, s'.log = new ++ s.log := by
      cases hs with
      | keep _ _ hlog | opens _ _ _ _ _ _ _ _ hlog =>
        obtain ⟨new, hlog, _⟩ := hlog
        exact ⟨new, hlog⟩
      | record _ _ _ _ _ _ hlog =>
        obtain ⟨answer, e, hlog, _⟩ := hlog
        exact ⟨answer ++ [e], by simpa using hlog⟩
    exact .closed (new ++ later) earlier e receipt (by rw [hnew, hlog, List.append_assoc]) he hid
      hfirst
  | opened new hopen hlog hnone =>
    cases hs with
    | keep hopened _ hnew =>
      obtain ⟨later, hlater, hplain⟩ := hnew
      refine .opened (later ++ new) ((hopened slot).trans hopen)
        (by rw [hlater, hlog, List.append_assoc]) fun e he receipt => ?_
      rcases List.mem_append.mp he with he | he
      · rw [hplain e he]
        simp
      · exact hnone e he receipt
    | opens slot' id' _ hfree _ hother _ _ hnew =>
      have hne : slot ≠ slot' := fun he => by cases (he ▸ hopen).symm.trans hfree
      obtain ⟨later, hlater, hplain⟩ := hnew
      refine .opened (later ++ new) ((hother slot hne).trans hopen)
        (by rw [hlater, hlog, List.append_assoc]) fun e he receipt => ?_
      rcases List.mem_append.mp he with he | he
      · rw [hplain e he]
        simp
      · exact hnone e he receipt
    | record slot' receipt hopen' _ hother _ hnew =>
      obtain ⟨answer, e, hlater, he, hplain⟩ := hnew
      by_cases heq : slot = slot'
      · subst heq
        refine .closed answer new e receipt (by rw [hlater, hlog]) he ?_ hnone
        exact Option.some.inj (hopen'.symm.trans hopen)
      · refine .opened (answer ++ e :: new) ((hother slot heq).trans hopen)
          (by rw [hlater, hlog, List.append_assoc, List.cons_append]) fun e' he' receipt' => ?_
        rcases List.mem_append.mp he' with he' | he'
        · rw [hplain e' he']
          simp
        · rcases List.mem_cons.mp he' with rfl | he'
          · rw [he]
            intro hsame
            cases hsame
            exact heq rfl
          · exact hnone e' he' receipt'

/-! ## the newest receipts -/

def State.newest (s : State) : List String := (s.receipts.take kReceipts).map (·.request_id)

/-- the newest receipts and the open operations have different identities -/
structure IdentityInv (s : State) : Prop where
  nodup : s.newest.Nodup
  fresh : ∀ slot id, s.opened slot = some id → id ∉ s.newest
  apart : ∀ slot id, s.opened slot = some id → s.opened slot.other ≠ some id

theorem Slot.other_ne (slot : Slot) : slot.other ≠ slot := by cases slot <;> simp [Slot.other]

theorem Slot.eq_or_other (slot slot' : Slot) : slot' = slot ∨ slot' = slot.other := by
  cases slot <;> cases slot' <;> simp [Slot.other]

theorem Slot.other_other (slot : Slot) : slot.other.other = slot := by cases slot <;> rfl

theorem ReceiptBook.not_newest (h : ReceiptBook s) {id : String} (hnew : s.ctl.remembers id = false) :
    id ∉ s.newest := by
  intro hmem
  obtain ⟨receipt, hreceipt, rfl⟩ := List.mem_map.mp hmem
  rw [h.remembers hreceipt] at hnew
  cases hnew

theorem IdentityInv.step (h : IdentityInv s) (hbook : ReceiptBook s) (hfree : IdentityFree l s)
    (hs : SlotStep l s s') : IdentityInv s' := by
  cases hs with
  | keep hopened _ hlog =>
    obtain ⟨new, hlog, hnew⟩ := hlog
    have hnewest : s'.newest = s.newest := by rw [State.newest, receipts_append hlog hnew]; rfl
    refine ⟨hnewest ▸ h.nodup, fun slot id hopen => ?_, fun slot id hopen => ?_⟩
    · rw [hnewest]
      exact h.fresh slot id (hopened slot ▸ hopen)
    · rw [hopened]
      exact h.apart slot id (hopened slot ▸ hopen)
  | opens slot id hlabel _ hopened hother hnew _ hlog =>
    obtain ⟨new, hlog, hplain⟩ := hlog
    have hnewest : s'.newest = s.newest := by rw [State.newest, receipts_append hlog hplain]; rfl
    have hapart : s'.opened slot.other ≠ some id := by
      rw [hother _ slot.other_ne]
      exact hfree _ hlabel
    refine ⟨hnewest ▸ h.nodup, fun slot' id' hopen => ?_, fun slot' id' hopen => ?_⟩
    · rw [hnewest]
      rcases Slot.eq_or_other slot slot' with rfl | rfl
      · obtain rfl := Option.some.inj (hopened.symm.trans hopen)
        exact hbook.not_newest hnew
      · exact h.fresh _ id' (hother _ slot.other_ne ▸ hopen)
    · rcases Slot.eq_or_other slot slot' with rfl | rfl
      · obtain rfl := Option.some.inj (hopened.symm.trans hopen)
        exact hapart
      · rw [Slot.other_other, hopened]
        intro he
        obtain rfl := Option.some.inj he
        exact hapart hopen
  | record slot receipt hopen hnone hother _ hlog =>
    obtain ⟨answer, e, hlog, he, hplain⟩ := hlog
    have hnewest : s'.newest =
        receipt.request_id :: (s.receipts.take (kReceipts - 1)).map (·.request_id) := by
      rw [State.newest, receipts_record hlog he hplain]
      rfl
    have hsub : List.Sublist ((s.receipts.take (kReceipts - 1)).map (·.request_id)) s.newest :=
      (List.take_sublist_take_left (by decide)).map _
    have hfresh : receipt.request_id ∉ s.newest := h.fresh slot _ hopen
    have hslot : ∀ slot' id', s'.opened slot' = some id' → slot' = slot.other := by
      intro slot' id' hopen'
      refine (Slot.eq_or_other slot slot').resolve_left fun heq => ?_
      cases (heq ▸ hopen').symm.trans hnone
    refine ⟨?_, fun slot' id' hopen' => ?_, fun slot' id' hopen' => ?_⟩
    · rw [hnewest]
      exact List.nodup_cons.mpr ⟨fun hmem => hfresh (hsub.subset hmem), h.nodup.sublist hsub⟩
    · obtain rfl := hslot slot' id' hopen'
      rw [hother _ slot.other_ne] at hopen'
      rw [hnewest, List.mem_cons, not_or]
      refine ⟨fun he => h.apart slot _ hopen (he ▸ hopen'), fun hmem => ?_⟩
      exact h.fresh _ id' hopen' (hsub.subset hmem)
    · obtain rfl := hslot slot' id' hopen'
      rw [Slot.other_other, hnone]
      simp

end

/-! ## runs -/

def AdmitsOperation (cfg : PluginConfig) (s : PluginState) (a : PluginAction) (slot : Slot)
    (id : String) : Prop :=
  s.shared.opened slot = none ∧ ((pluginMachine cfg).step s a).shared.opened slot = some id

/-- from `log` to `log'`, the operation of the slot got its receipt, and then came `n` receipts -/
def ReceiptThenReceipts (slot : Slot) (id : String) (n : Nat) (log log' : List Event) : Prop :=
  ∃ later e receipt earlier, log' = later ++ e :: (earlier ++ log) ∧
    (∀ e ∈ earlier, ∀ receipt, e.receipt? ≠ some (slot, receipt)) ∧
    e.receipt? = some (slot, receipt) ∧ receipt.request_id = id ∧
    n ≤ (later.filterMap (·.receipt?)).length

/-- no two slots of the ring have receipts with the same identity -/
def Executor.RingDistinct (e : Executor) : Prop :=
  ∀ (i j : Nat) (receipt receipt' : Receipt), e.controlReceipts[i]? = some (some receipt) →
    e.controlReceipts[j]? = some (some receipt') → receipt.request_id = receipt'.request_id → i = j

section
variable {cfg : PluginConfig}

theorem receiptBook {s : PluginState} (h : (pluginMachine cfg).Reachable s) : ReceiptBook s.shared := by
  refine plugin_invariant_under (J := ReceiptBook) (fun input => ⟨_, .load⟩) ?_ h
  exact fun s a t l _ _ hs hbook => hbook.step (l := l) hs.slots

theorem identityInv {s : PluginState}
    (h : (pluginMachine cfg).ReachableUnder (Pool.Obeys IdentityFree) s) :
    IdentityInv s.shared := by
  refine (plugin_invariant (J := fun s => ReceiptBook s ∧ IdentityInv s) (fun input => ?_) ?_ h).2
  · refine ⟨⟨_, .load⟩, List.nodup_nil, fun slot id hopen => ?_,
      fun slot id hopen => ?_⟩ <;> cases slot <;> cases hopen
  · exact fun t l s s' _ hfree hs hI => ⟨hI.1.step hs.slots, hI.2.step hI.1 hfree hs.slots⟩

theorem Receipted.run {s : PluginState} {slot : Slot} {id : String} {log : List Event}
    (h : (pluginMachine cfg).Reachable s) (hs : Receipted slot id log s.shared)
    (as : List PluginAction) :
    Receipted slot id log ((pluginMachine cfg).run s as).shared := by
  induction as generalizing s with
  | nil => exact hs
  | cons a as ih =>
    refine ih (h.next a) ?_
    rcases plugin_step h a with hsame | ⟨t, l, _, _, hstep⟩
    · exact hsame ▸ hs
    · exact hs.step (l := l) hstep.slots

theorem AdmitsOperation.slotStep {s : PluginState} {a : PluginAction} {slot : Slot} {id : String}
    (h : (pluginMachine cfg).Reachable s) (ha : AdmitsOperation cfg s a slot id) :
    ∃ t l, a = .step t ∧ (s.thread t).next = some l ∧ l.admits? = some (slot, id) ∧
      s.shared.ctl.remembers id = false ∧
      ∃ new, ((pluginMachine cfg).step s a).shared.log = new ++ s.shared.log ∧
        ∀ e ∈ new, e.receipt? = none := by
  obtain ⟨hnone, hsome⟩ := ha
  rcases plugin_step h a with hsame | ⟨t, l, rfl, hl, hs⟩
  · rw [hsame, hnone] at hsome
    cases hsome
  · refine ⟨t, l, rfl, hl, ?_⟩
    cases hs.slots with
    | keep hopened =>
      rw [hopened, hnone] at hsome
      cases hsome
    | opens slot' id' hlabel _ hopened hother hnew _ hlog =>
      have heq : slot = slot' := by
        by_contra hne
        rw [hother slot hne, hnone] at hsome
        cases hsome
      subst heq
      obtain rfl := Option.some.inj (hopened.symm.trans hsome)
      exact ⟨hlabel, hnew, hlog⟩
    | record slot' receipt _ hopened hother =>
      by_cases heq : slot = slot'
      · subst heq
        rw [hopened] at hsome
        cases hsome
      · rw [hother slot heq, hnone] at hsome
        cases hsome

/-- **Request identities are used once** in every run whose admissions satisfy the condition. -/
theorem identities_used_once {s : PluginState}
    (h : (pluginMachine cfg).ReachableUnder (Pool.Obeys IdentityFree) s) :
    s.shared.ctl.RingDistinct ∧
      ∀ a as b slot slot' id, AdmitsOperation cfg s a slot id →
        let later := (pluginMachine cfg).run ((pluginMachine cfg).step s a) as
        Pool.Obeys IdentityFree later b → AdmitsOperation cfg later b slot' id →
        ReceiptThenReceipts slot id kReceipts ((pluginMachine cfg).step s a).shared.log
          later.shared.log := by
  refine ⟨fun i j receipt receipt' hi hj he => ?_, ?_⟩
  · obtain ⟨_, hrecorded⟩ := receiptBook h.reachable
    exact hrecorded.holds.inj_of_nodup (identityInv h).nodup hi hj he
  · intro a as b slot slot' id hfirst later hobeys hsecond
    have hlater : (pluginMachine cfg).Reachable later := (h.reachable.next a).run as
    obtain ⟨t, l, rfl, hl, hlabel, hnew, _⟩ := hsecond.slotStep hlater
    have hfree : later.shared.opened slot'.other ≠ some id := hobeys l hl _ hlabel
    have hreceipted : Receipted slot id ((pluginMachine cfg).step s a).shared.log later.shared :=
      Receipted.run (h.reachable.next a) (.opened [] hfirst.2 rfl (by simp)) as
    cases hreceipted with
    | opened new hopen =>
      -- the first operation is still open: in the same slot, or in the other one
      rcases Slot.eq_or_other slot' slot with rfl | rfl
      · cases hsecond.1.symm.trans hopen
      · exact absurd hopen hfree
    | closed newer earlier e receipt hlog he hid hfirst =>
      refine ⟨newer, e, receipt, earlier, hlog, hfirst, he, hid, ?_⟩
      by_contra hfew
      have hmem : receipt ∈ later.shared.receipts.take kReceipts :=
        receipt_newest hlog he (by omega)
      have hremembers := (receiptBook hlater).remembers hmem
      rw [hid, hnew] at hremembers
      cases hremembers

end

/-! ## fixed runs -/

/-- a capture and a start with the same identity overlap in time, and both are given up -/
def overlapRun : List PluginAction :=
  runCall .executor (captureCall "a") 8 ++ runCall .executor (mutationCall "start" "a") 8 ++
    runCall .executor (flushCall 10) 24

theorem identity_used_twice :
    (pluginMachine .sample).Reachable ((pluginMachine .sample).run .sample overlapRun) ∧
      ¬ ((pluginMachine .sample).run .sample overlapRun).shared.ctl.RingDistinct := by
  refine ⟨Machine.Reachable.run (PluginState.sample_reachable _) _, fun h => ?_⟩
  have hheld : ∀ i < 2, (((pluginMachine .sample).run .sample
      overlapRun).shared.ctl.controlReceipts[i]?).any (·.any (·.request_id == "a")) = true := by
    decide +kernel
  have hreceipt : ∀ i < 2, ∃ receipt, ((pluginMachine .sample).run .sample
      overlapRun).shared.ctl.controlReceipts[i]? = some (some receipt) ∧
        receipt.request_id = "a" := by
    intro i hi
    obtain ⟨slot, hslot, hany⟩ := (Option.any_eq_true _ _).mp (hheld i hi)
    obtain ⟨receipt, rfl, hid⟩ := (Option.any_eq_true _ _).mp hany
    exact ⟨receipt, hslot, by simpa using hid⟩
  obtain ⟨receipt, h0, hid⟩ := hreceipt 0 (by decide)
  obtain ⟨receipt', h1, hid'⟩ := hreceipt 1 (by decide)
  exact absurd (h 0 1 receipt receipt' h0 h1 (hid.trans hid'.symm)) (by decide)

/-- starts that are given up -/
def givenUpRun (ids : List String) : List PluginAction :=
  ids.flatMap fun id =>
    runCall .executor (mutationCall "start" id) 5 ++ runCall .executor (flushCall 10) 12

/-- a start is given up, 32 others are, and a capture with the identity of the first one is next -/
def reuseRun : List PluginAction :=
  runCall .executor (flushCall 10) 12 ++
    givenUpRun ["b", "c", "d", "e", "f", "g", "h", "i", "j", "k", "l", "m", "n", "o", "p", "q",
      "r", "s", "t", "u", "v", "w", "x", "y", "z", "A", "B", "C", "D", "E", "F", "G"] ++
    runCall .executor (captureCall "a") 4

/-- 32 receipts after the receipt of the start `a`, a capture `a` is admitted -/
theorem identities_used_once_reuseRun :
    let s := (pluginMachine .sample).run .sample (runCall .executor (mutationCall "start" "a") 3)
    let first := (pluginMachine .sample).step s (.step .executor)
    let later := (pluginMachine .sample).run first reuseRun
    ReceiptThenReceipts .mutation "a" kReceipts first.shared.log later.shared.log := by
  have hreach : (pluginMachine .sample).ReachableUnder (Pool.Obeys IdentityFree)
      ((pluginMachine .sample).run .sample
        (runCall .executor (mutationCall "start" "a") 3)) :=
    (PluginState.sample_reachable _).run _ (by decide +kernel)
  refine (identities_used_once hreach).2 (.step .executor) reuseRun (.step .executor) .mutation
    .capture "a" ⟨?_, ?_⟩ ?_ ⟨?_, ?_⟩ <;> decide +kernel

end MediaCamera
