import MediaCamera.Control.Request
import MediaCamera.Machine.Ring

/-!
# The receipt ledger

* `Executor.SameLedger`     nothing is recorded;
* `Executor.Recorded`       the receipts that `RememberReceipt` has recorded, whatever else
                            happened to the executor in between;
* `Recorded.next`, `Recorded.event`, `Recorded.holds`   what the counters and the ring tell of them;
* `Recorded.last`           the last receipt;
* `Recorded.find`, `Recorded.find_empty`   the scan of `GET receipts/{id}`.
-/

namespace MediaCamera.Executor

/-- nothing is recorded from `e` to `e'` -/
structure SameLedger (e e' : Executor) : Prop where
  ring : e'.controlReceipts = e.controlReceipts
  next : e'.nextControlReceipt = e.nextControlReceipt
  event : e'.controlEventRevision = e.controlEventRevision

theorem SameLedger.refl (e : Executor) : SameLedger e e := ⟨rfl, rfl, rfl⟩

inductive Recorded (configuration : Configuration) : List Receipt → Executor → Prop
  | load : Recorded configuration [] (load configuration)
  | remember {receipts : List Receipt} {e : Executor} (receipt : Receipt)
      (h : Recorded configuration receipts e) :
    Recorded configuration (receipt :: receipts) (e.remember receipt)
  | other {receipts : List Receipt} {e e' : Executor} (h : Recorded configuration receipts e)
      (hsame : SameLedger e e') : Recorded configuration receipts e'

namespace Recorded
variable {configuration : Configuration} {receipts : List Receipt} {e : Executor}

theorem next (h : Recorded configuration receipts e) : e.nextControlReceipt = receipts.length := by
  induction h with
  | load => rfl
  | remember receipt _ ih => exact congrArg (· + 1) ih
  | other _ hsame ih => exact hsame.next.trans ih

theorem event (h : Recorded configuration receipts e) :
    e.controlEventRevision = receipts.length := by
  induction h with
  | load => rfl
  | remember receipt _ ih => exact congrArg (· + 1) ih
  | other _ hsame ih => exact hsame.event.trans ih

theorem holds (h : Recorded configuration receipts e) :
    Ring.Holds kReceipts e.controlReceipts receipts := by
  induction h with
  | load => exact Ring.Holds.start _
  | @remember receipts e receipt h ih =>
    show Ring.Holds kReceipts (e.controlReceipts.set (e.nextControlReceipt % kReceipts) _) _
    rw [h.next]
    exact ih.write (by decide) receipt
  | other _ hsame ih => rwa [hsame.ring]

theorem last (h : Recorded configuration receipts e) : e.lastReceipt = receipts.head? := by
  unfold lastReceipt
  cases receipts with
  | nil => rw [if_neg (by rw [h.next]; decide)]; rfl
  | cons receipt older =>
    rw [if_pos (by rw [h.next]; exact Nat.succ_pos _), h.next, List.getD_eq_getElem?_getD]
    have hnewest := h.holds.newest 0 (by decide) receipt rfl
    rw [Nat.sub_zero] at hnewest
    rw [hnewest]
    rfl

/-- the scan of the ring finds what a search of the newest receipts finds; an empty identity has to
wait until no slot is empty -/
theorem find (h : Recorded configuration receipts e)
    (hdistinct : (receipts.map (·.request_id)).Nodup) {id : String}
    (hid : id ≠ "" ∨ kReceipts ≤ receipts.length) :
    e.controlReceipts.find? (slotID · == id) =
      ((receipts.take kReceipts).find? (·.request_id == id)).map some := by
  have hslot : ∀ slot ∈ e.controlReceipts, slotID slot = id →
      ∃ receipt ∈ receipts.take kReceipts, slot = some receipt ∧ receipt.request_id = id := by
    intro slot hmem hsame
    cases slot with
    | none =>
      rcases hid with hid | hfull
      · exact absurd hsame.symm hid
      · exact absurd hmem (h.holds.full hfull)
    | some receipt => exact ⟨receipt, h.holds.mem_iff.mp hmem, rfl, hsame⟩
  cases hfind : (receipts.take kReceipts).find? (·.request_id == id) with
  | none =>
    refine List.find?_eq_none.mpr fun slot hmem hsame => ?_
    obtain ⟨receipt, hreceipt, _, hsame⟩ := hslot slot hmem (by simpa using hsame)
    exact List.find?_eq_none.mp hfind receipt hreceipt (by simpa using hsame)
  | some receipt =>
    have hreceipt := List.mem_of_find?_eq_some hfind
    have hsame : receipt.request_id = id := by simpa using List.find?_some hfind
    cases hring : e.controlReceipts.find? (slotID · == id) with
    | none =>
      refine absurd ?_ (List.find?_eq_none.mp hring _ (h.holds.mem_iff.mpr hreceipt))
      simpa [slotID] using hsame
    | some slot =>
      obtain ⟨receipt', hreceipt', rfl, hsame'⟩ := hslot slot (List.mem_of_find?_eq_some hring)
        (by simpa using List.find?_some hring)
      have heq : receipt' = receipt :=
        List.inj_on_of_nodup_map hdistinct (List.mem_of_mem_take hreceipt')
          (List.mem_of_mem_take hreceipt) (hsame'.trans hsame.symm)
      rw [heq]
      rfl

theorem find_empty (h : Recorded configuration receipts e)
    (hnonempty : ∀ receipt ∈ receipts, receipt.request_id ≠ "")
    (hfew : receipts.length < kReceipts) :
    e.controlReceipts.find? (slotID · == "") = some none := by
  cases hring : e.controlReceipts.find? (slotID · == "") with
  | none =>
    refine absurd ?_ (List.find?_eq_none.mp hring _ (h.holds.not_full hfew))
    rfl
  | some slot =>
    cases slot with
    | none => rfl
    | some receipt =>
      have hmem := h.holds.mem_iff.mp (List.mem_of_find?_eq_some hring)
      have hsame : receipt.request_id = "" := by simpa [slotID] using List.find?_some hring
      exact absurd hsame (hnonempty receipt (List.mem_of_mem_take hmem))

end Recorded

end MediaCamera.Executor
