import MediaCamera.Control.Receipts
import MediaCamera.Plugin.System

/-!
# What `GET receipts/{id}` answers

The ring starts with null documents, and the identity of a null document reads as the empty string
(`empty_identity_answered`).

* `AnswersExactly`       the receipt with the identity if it is retained, and else 404;
* `handleReceipts_solo`  the answer is decided by one scan of the ring;
* `receipts_exact`       the answer is exact iff the identity is not empty or no slot is.
-/

namespace MediaCamera

/-- the answer for an identity that no retained receipt has -/
def receiptExpired : ControlError :=
  ⟨404, "not_found", "receipt has expired or was not accepted"⟩

/-- the answer is the retained receipt with the identity, or 404 if there is none -/
structure AnswersExactly (receipts : List Receipt) (id : String) (response : ControlResponse) :
    Prop where
  found : ∀ receipt, response = .receipt (some receipt) ↔
    receipt ∈ receipts.take kReceipts ∧ receipt.request_id = id
  missing : (∀ receipt ∈ receipts.take kReceipts, receipt.request_id ≠ id) →
    response = .error receiptExpired

def receiptResponse : Option (Option Receipt) → ControlResponse
  | some slot => .receipt slot
  | none => .error receiptExpired

/-- the handler replies what one scan of the ring gives, and changes nothing else -/
theorem handleReceipts_solo (handle : Nat) (id : String) (s : State) :
    ((handleReceipts handle (.object []) id).solo s).1 = ((reply handle (receiptResponse
      (s.ctl.controlReceipts.find? (Executor.slotID · == id)))).solo s).1 := by
  have hread : (handleReceipts handle (.object []) id).solo s =
      Prog.solo (match s.ctl.controlReceipts.find? (Executor.slotID · == id) with
        | some slot => reply handle (.receipt slot)
        | none => reply handle (.error receiptExpired)) s := rfl
  rw [hread]
  cases s.ctl.controlReceipts.find? (Executor.slotID · == id) <;> rfl

theorem answersExactly_find {receipts : List Receipt} {id : String}
    (hdistinct : (receipts.map (·.request_id)).Nodup) :
    AnswersExactly receipts id (receiptResponse
      (((receipts.take kReceipts).find? (·.request_id == id)).map some)) := by
  cases hfind : (receipts.take kReceipts).find? (·.request_id == id) with
  | none =>
    have hnone : ∀ receipt ∈ receipts.take kReceipts, receipt.request_id ≠ id := by
      intro receipt hmem hsame
      exact List.find?_eq_none.mp hfind receipt hmem (by simpa using hsame)
    exact ⟨fun receipt => ⟨fun he => (by cases he), fun ⟨hmem, hsame⟩ =>
      absurd hsame (hnone receipt hmem)⟩, fun _ => rfl⟩
  | some found =>
    have hmem := List.mem_of_find?_eq_some hfind
    have hsame : found.request_id = id := by simpa using List.find?_some hfind
    refine ⟨fun receipt => ⟨fun he => ?_, fun ⟨hmem', hsame'⟩ => ?_⟩, fun hnone => ?_⟩
    · cases he
      exact ⟨hmem, hsame⟩
    · rw [List.inj_on_of_nodup_map hdistinct (List.mem_of_mem_take hmem')
        (List.mem_of_mem_take hmem) (hsame'.trans hsame.symm)]
      rfl
    · exact absurd hsame (hnone found hmem)

/-- **The receipt ledger** answers exactly for every identity but the empty one, which has to wait
for the `kReceipts`-th receipt. -/
theorem receipts_exact {configuration : Configuration} {receipts : List Receipt} {s : State}
    (h : Executor.Recorded configuration receipts s.ctl)
    (hnonempty : ∀ receipt ∈ receipts, receipt.request_id ≠ "")
    (hdistinct : (receipts.map (·.request_id)).Nodup) :
    (∀ handle id, ∃ response,
      ((handleReceipts handle (.object []) id).solo s).1.log = .replied handle response :: s.log ∧
        (AnswersExactly receipts id response ↔ id ≠ "" ∨ kReceipts ≤ receipts.length)) ∧
      s.ctl.controlEventRevision = receipts.length ∧
      s.cameraStatus.last_receipt = receipts.head? := by
  refine ⟨fun handle id => ⟨_, congrArg State.log (handleReceipts_solo handle id s), ?_⟩, h.event,
    h.last⟩
  by_cases hid : id ≠ "" ∨ kReceipts ≤ receipts.length
  · rw [h.find hdistinct hid]
    exact ⟨fun _ => hid, fun _ => answersExactly_find hdistinct⟩
  · obtain ⟨hempty, hfew⟩ := not_or.mp hid
    obtain rfl : id = "" := not_not.mp hempty
    rw [h.find_empty hnonempty (by omega)]
    refine ⟨fun hanswer => ?_, fun hid => absurd hid (by simpa using hfew)⟩
    have := hanswer.missing fun receipt hmem => hnonempty receipt (List.mem_of_mem_take hmem)
    cases this

/-! ## fixed ledgers -/

/-- a source that has failed captures with these identities, newest first -/
def State.failedCaptures : List String → State
  | [] => .load .sample .sample
  | id :: older =>
    let s := failedCaptures older
    { s with ctl := s.ctl.remember (s.ctl.newReceipt id .capture .failed "") }

def State.failedReceipts : List String → List Receipt
  | [] => []
  | id :: older =>
    (failedCaptures older).ctl.newReceipt id .capture .failed "" :: failedReceipts older

theorem failedCaptures_recorded (ids : List String) : ∃ configuration,
    Executor.Recorded configuration (State.failedReceipts ids) (State.failedCaptures ids).ctl := by
  induction ids with
  | nil => exact ⟨_, .load⟩
  | cons id older ih =>
    obtain ⟨configuration, hrecorded⟩ := ih
    exact ⟨configuration, hrecorded.remember _⟩

theorem failedReceipts_ids (ids : List String) :
    (State.failedReceipts ids).map (·.request_id) = ids := by
  induction ids with
  | nil => rfl
  | cons id older ih => exact congrArg (id :: ·) ih

/-- more captures than the ring has slots -/
def wrappedIDs : List String := (List.range 35).reverse.map toString

/-- the ring has overwritten its first receipts, and answers exactly for every identity -/
theorem receipts_exact_wrapped : kReceipts + 3 = (State.failedReceipts wrappedIDs).length ∧
    ∀ id, ∃ response,
      ((handleReceipts 0 (.object []) id).solo (.failedCaptures wrappedIDs)).1.log =
        .replied 0 response :: (State.failedCaptures wrappedIDs).log ∧
      AnswersExactly (State.failedReceipts wrappedIDs) id response := by
  have hids := failedReceipts_ids wrappedIDs
  have hlength : (State.failedReceipts wrappedIDs).length = 35 := by
    rw [← List.length_map, hids]
    rfl
  obtain ⟨_, hrecorded⟩ := failedCaptures_recorded wrappedIDs
  have hnonempty : ∀ receipt ∈ State.failedReceipts wrappedIDs, receipt.request_id ≠ "" := by
    intro receipt hmem
    have hid : receipt.request_id ∈ wrappedIDs := by
      rw [← hids]
      exact List.mem_map_of_mem hmem
    revert hid
    generalize receipt.request_id = id
    revert id
    decide +kernel
  have hexact := (receipts_exact hrecorded hnonempty (by rw [hids]; decide +kernel)).1 0
  refine ⟨hlength.symm, fun id => ?_⟩
  obtain ⟨response, hlog, hanswer⟩ := hexact id
  exact ⟨response, hlog, hanswer.mpr (.inr (by rw [hlength]; decide))⟩

/-- `GET receipts/` is answered with a null document -/
theorem empty_identity_answered : ∃ configuration,
    Executor.Recorded configuration (State.failedReceipts ["a"]) (State.failedCaptures ["a"]).ctl ∧
    ((handleReceipts 0 (.object []) "").solo (.failedCaptures ["a"])).1.log =
      .replied 0 (.receipt none) :: (State.failedCaptures ["a"]).log ∧
    ¬ AnswersExactly (State.failedReceipts ["a"]) "" (.receipt none) := by
  obtain ⟨configuration, hrecorded⟩ := failedCaptures_recorded ["a"]
  refine ⟨configuration, hrecorded, rfl, fun hanswer => ?_⟩
  have hexpired := hanswer.missing fun receipt hmem => by
    obtain rfl := List.mem_singleton.mp (List.mem_of_mem_take hmem)
    show "a" ≠ ""
    decide
  cases hexpired

end MediaCamera
