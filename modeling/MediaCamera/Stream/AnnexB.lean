import MediaCamera.Machine.Run
import MediaCamera.Machine.Scan
import MediaCamera.Stream.Packets

/-!
# Annex-B framing

* `splitAnnexBChecked`   the loops of `SplitAnnexB` over offsets, with every read checked against
                         the size; `splitAnnexBChecked_eq`: no read fails, and the result is that of
                         `splitAnnexB`;
* `framed`               NAL units behind start codes of either length;
* `NALUnit.free`         no start code begins inside a well-formed NAL unit;
* `Partition`            a byte string is a prefix, start codes and units;
* `splitAnnexB_exact`    the inverse on framed units, and the partition of every byte string.
-/

namespace MediaCamera

/-! ## the loops over offsets -/

/-- the bytes at `offset` are those of `word`; a read past the end fails -/
def matchesAt (data : List UInt8) : Nat → List UInt8 → Option Bool
  | _, [] => some true
  | offset, b :: word => do
    if (← data[offset]?) = b then matchesAt data (offset + 1) word else some false

/-- the size is checked before the bytes are read -/
def wordAt (data : List UInt8) (offset : Nat) (word : List UInt8) : Option Bool :=
  if offset + word.length ≤ data.length then matchesAt data offset word else some false

/-- the lambda `startCodeLength` -/
def startCodeLengthAt (data : List UInt8) (offset : Nat) : Option Nat := do
  if ← wordAt data offset [0, 0, 1] then return 3
  if ← wordAt data offset [0, 0, 0, 1] then return 4
  return 0

/-- the loops that look for the next start code; they do not end without fuel -/
def seekStartCode (data : List UInt8) : Nat → Nat → Option Nat
  | 0, _ => none
  | fuel + 1, offset => do
    if offset < data.length then
      if (← startCodeLengthAt data offset) = 0 then seekStartCode data fuel (offset + 1)
      else some offset
    else some offset

/-- the bytes from `first` to `last`, which must be bytes of the data -/
def slice (data : List UInt8) (first last : Nat) : Option (List UInt8) :=
  if first ≤ last ∧ last ≤ data.length then some ((data.take last).drop first) else none

def unitsLoop (data : List UInt8) : Nat → Nat → List (List UInt8) → Option (List (List UInt8))
  | 0, _, _ => none
  | fuel + 1, start, nalUnits => do
    if start < data.length then
      let prefixLength ← startCodeLengthAt data start
      if prefixLength = 0 then some nalUnits
      else
        let payloadStart := start + prefixLength
        let next ← seekStartCode data (data.length + 1) payloadStart
        if payloadStart < next then
          unitsLoop data fuel next (nalUnits ++ [← slice data payloadStart next])
        else unitsLoop data fuel next nalUnits
    else some nalUnits

/-- `SplitAnnexB`, with every read checked -/
def splitAnnexBChecked (data : List UInt8) : Option (List (List UInt8)) := do
  let start ← seekStartCode data (data.length + 1) 0
  unitsLoop data (data.length + 1) start []

section
variable {data : List UInt8}

theorem matchesAt_eq {offset : Nat} {word : List UInt8} (h : offset + word.length ≤ data.length) :
    matchesAt data offset word = some (word.isPrefixOf (data.drop offset)) := by
  induction word generalizing offset with
  | nil => rfl
  | cons b word ih =>
    have hlength : offset + (word.length + 1) ≤ data.length := h
    have hlt : offset < data.length := by omega
    have hrest := ih (show offset + 1 + word.length ≤ data.length by omega)
    rw [List.drop_eq_getElem_cons hlt, matchesAt, List.getElem?_eq_getElem hlt]
    show (if data[offset] = b then matchesAt data (offset + 1) word else some false) = _
    rw [hrest, List.isPrefixOf_cons_cons]
    by_cases hb : data[offset] = b
    · simp [hb]
    · simp [hb, Ne.symm hb]

theorem wordAt_eq {word : List UInt8} (hne : word ≠ []) (offset : Nat) :
    wordAt data offset word = some (word.isPrefixOf (data.drop offset)) := by
  unfold wordAt
  split
  · exact matchesAt_eq ‹_›
  · rename_i hshort
    have hpos := List.length_pos_iff.mpr hne
    refine congrArg some (Bool.eq_false_iff.mpr fun hprefix => ?_).symm
    have hle := (List.isPrefixOf_iff_prefix.mp hprefix).length_le
    rw [List.length_drop] at hle
    omega

theorem startCodeLength_eq (data : List UInt8) :
    startCodeLength data = if [0, 0, 1].isPrefixOf data then 3
      else if [0, 0, 0, 1].isPrefixOf data then 4 else 0 := by
  unfold startCodeLength
  split
  · rfl
  · rfl
  · rename_i hshort hlong
    rw [if_neg, if_neg]
    · intro hprefix
      obtain ⟨rest, rfl⟩ := List.isPrefixOf_iff_prefix.mp hprefix
      exact hlong rest rfl
    · intro hprefix
      obtain ⟨rest, rfl⟩ := List.isPrefixOf_iff_prefix.mp hprefix
      exact hshort rest rfl

theorem startCodeLengthAt_eq (offset : Nat) :
    startCodeLengthAt data offset = some (startCodeLength (data.drop offset)) := by
  unfold startCodeLengthAt
  rw [startCodeLength_eq, wordAt_eq (by simp), wordAt_eq (by simp)]
  cases [0, 0, 1].isPrefixOf (data.drop offset) <;>
    cases [0, 0, 0, 1].isPrefixOf (data.drop offset) <;> rfl

theorem seekStartCode_eq {fuel offset : Nat} (hoffset : offset ≤ data.length)
    (hfuel : data.length - offset < fuel) : seekStartCode data fuel offset =
      some (offset + (beforeStartCode (data.drop offset)).1.length) := by
  induction fuel generalizing offset with
  | zero => omega
  | succ fuel ih =>
    unfold seekStartCode
    split
    · rename_i hlt
      rw [startCodeLengthAt_eq, List.drop_eq_getElem_cons hlt]
      show (if _ = 0 then _ else _) = _
      unfold beforeStartCode
      split
      · rw [ih (show offset + 1 ≤ data.length from hlt) (by omega), List.length_cons]
        exact congrArg some (by omega)
      · rfl
    · have hend : data.drop offset = [] := List.drop_eq_nil_of_le (by omega)
      rw [hend]
      rfl

theorem beforeStartCode_eq_scan (data : List UInt8) :
    beforeStartCode data = scan (startCodeLength · ≠ 0) data := by
  induction data with
  | nil => rfl
  | cons b rest ih =>
    rw [beforeStartCode, scan, ih]
    by_cases hcode : startCodeLength (b :: rest) = 0
    · rw [if_pos hcode, if_neg (not_not.mpr hcode)]
    · rw [if_neg hcode, if_pos hcode]

theorem beforeStartCode_append (data : List UInt8) :
    (beforeStartCode data).1 ++ (beforeStartCode data).2 = data := by
  rw [beforeStartCode_eq_scan]
  exact scan_append _ data

theorem startCodeLength_le (data : List UInt8) : startCodeLength data ≤ data.length := by
  unfold startCodeLength
  split <;> simp

theorem slice_payload {first : Nat} (hfirst : first ≤ data.length) :
    let payload := beforeStartCode (data.drop first)
    first + payload.1.length ≤ data.length ∧
      slice data first (first + payload.1.length) = some payload.1 ∧
      data.drop (first + payload.1.length) = payload.2 := by
  intro payload
  have happend : payload.1 ++ payload.2 = data.drop first := beforeStartCode_append _
  have hlength : payload.1.length + payload.2.length = data.length - first := by
    rw [← List.length_append, happend, List.length_drop]
  have hlast : first + payload.1.length ≤ data.length := by omega
  refine ⟨hlast, ?_, ?_⟩
  · rw [slice, if_pos ⟨Nat.le_add_right _ _, hlast⟩, List.drop_take, ← happend,
      Nat.add_sub_cancel_left, List.take_left]
  · rw [← List.drop_drop, ← happend, List.drop_left]

/-- the loop over offsets is the loop over what is left -/
theorem unitsLoop_eq {fuel start : Nat} {nalUnits : List (List UInt8)}
    (hstart : start ≤ data.length) (hfuel : data.length - start ≤ fuel) :
    unitsLoop data (fuel + 1) start nalUnits =
      some (nalUnits ++ splitUnits fuel (data.drop start)) := by
  induction fuel generalizing start nalUnits with
  | zero =>
    have hend : ¬ start < data.length := by omega
    rw [unitsLoop, if_neg hend]
    exact congrArg some (List.append_nil _).symm
  | succ fuel ih =>
    rw [unitsLoop]
    split
    · let code := startCodeLength (data.drop start)
      rw [startCodeLengthAt_eq, splitUnits]
      show (if code = 0 then _ else _) = some (nalUnits ++ if code = 0 then _ else _)
      split
      · rw [List.append_nil]
      · rename_i hcode
        have hle : code ≤ data.length - start := by
          rw [← List.length_drop]
          exact startCodeLength_le _
        have hpayload : start + code ≤ data.length := by omega
        obtain ⟨hlast, hslice, hrest⟩ := slice_payload hpayload
        have hloop := fun units => @ih _ units hlast (by omega)
        rw [hrest] at hloop
        rw [List.drop_drop, seekStartCode_eq hpayload (by omega)]
        generalize beforeStartCode (data.drop (start + code)) = payload at hslice hloop
        show (if start + code < start + code + payload.1.length then
            slice data (start + code) (start + code + payload.1.length) >>= fun unit =>
              unitsLoop data (fuel + 1) (start + code + payload.1.length) (nalUnits ++ [unit])
          else unitsLoop data (fuel + 1) (start + code + payload.1.length) nalUnits) =
          some (nalUnits ++ if payload.1 = [] then splitUnits fuel payload.2
            else payload.1 :: splitUnits fuel payload.2)
        rw [hslice]
        by_cases hempty : payload.1 = []
        · rw [if_pos hempty, if_neg (by simp [hempty]), hloop]
        · have hpos := List.length_pos_iff.mpr hempty
          rw [if_neg hempty, if_pos (by omega)]
          show unitsLoop data (fuel + 1) _ (nalUnits ++ [payload.1]) = _
          rw [hloop, List.append_assoc]
          rfl
    · have hend : data.drop start = [] := List.drop_eq_nil_of_le (by omega)
      rw [hend]
      exact congrArg some (List.append_nil _).symm

/-- **No read leaves the data**, and the loops end. -/
theorem splitAnnexBChecked_eq (data : List UInt8) :
    splitAnnexBChecked data = some (splitAnnexB data) := by
  obtain ⟨hlast, -, hrest⟩ := @slice_payload data 0 (Nat.zero_le _)
  rw [List.drop_zero, Nat.zero_add] at hlast hrest
  unfold splitAnnexBChecked
  rw [seekStartCode_eq (Nat.zero_le _) (by omega), List.drop_zero, Nat.zero_add]
  show unitsLoop data (data.length + 1) (beforeStartCode data).1.length [] = _
  rw [unitsLoop_eq hlast (Nat.sub_le _ _), hrest, List.nil_append]
  rfl

end

/-! ## framing -/

inductive StartCode where
  | short
  | long
  deriving DecidableEq, Repr

def StartCode.bytes : StartCode → List UInt8
  | .short => [0, 0, 1]
  | .long => [0, 0, 0, 1]

def BeginsStartCode (data : List UInt8) : Prop := ∃ code : StartCode, code.bytes <+: data

def framed (units : List (StartCode × List UInt8)) : List UInt8 :=
  units.flatMap fun u => u.1.bytes ++ u.2

@[simp] theorem framed_nil : framed [] = [] := rfl

@[simp] theorem framed_cons (u : StartCode × List UInt8) (units : List (StartCode × List UInt8)) :
    framed (u :: units) = u.1.bytes ++ (u.2 ++ framed units) := by
  simp [framed]

theorem startCodeLength_bytes (code : StartCode) (rest : List UInt8) :
    startCodeLength (code.bytes ++ rest) = code.bytes.length := by
  cases code <;> rfl

theorem beginsStartCode_iff {data : List UInt8} :
    BeginsStartCode data ↔ startCodeLength data ≠ 0 := by
  constructor
  · rintro ⟨code, rest, rfl⟩
    rw [startCodeLength_bytes]
    cases code <;> decide
  · intro h
    unfold startCodeLength at h
    split at h
    · exact ⟨.short, _, rfl⟩
    · exact ⟨.long, _, rfl⟩
    · exact absurd rfl h

theorem exists_startCode {data : List UInt8} (h : startCodeLength data ≠ 0) :
    ∃ code : StartCode, data = code.bytes ++ data.drop (startCodeLength data) := by
  obtain ⟨code, rest, rfl⟩ := beginsStartCode_iff.mpr h
  refine ⟨code, ?_⟩
  rw [startCodeLength_bytes, List.drop_left]

theorem beginsStartCode_framed (u : StartCode × List UInt8)
    (units : List (StartCode × List UInt8)) : BeginsStartCode (framed (u :: units)) :=
  ⟨u.1, _, (framed_cons u units).symm⟩

/-- a NAL unit that an encoder may write -/
structure NALUnit where
  bytes : List UInt8
  nonempty : bytes ≠ []
  /-- the last byte is not zero -/
  last : bytes.getLast? ≠ some 0
  clean : ¬ [0, 0, 1] <:+: bytes

/-- no start code begins inside a NAL unit, whatever follows it -/
theorem NALUnit.free (nal : NALUnit) (rest : List UInt8) :
    FreeOf BeginsStartCode nal.bytes rest := by
  intro k hk hbegins
  have hlast : (nal.bytes.drop k).getLast? ≠ some 0 := by
    rw [List.getLast?_drop, if_neg (by omega)]
    exact nal.last
  have hclean : ¬ [0, 0, 1] <:+: nal.bytes.drop k := fun h =>
    nal.clean (h.trans (List.drop_suffix k _).isInfix)
  have hne : nal.bytes.drop k ≠ [] := fun h => by
    have := List.drop_eq_nil_iff.mp h
    omega
  rw [List.drop_append_of_le_length hk.le] at hbegins
  generalize nal.bytes.drop k = tail at hlast hclean hne hbegins
  obtain ⟨code, more, h⟩ := hbegins
  -- the code ends inside the unit, or the unit ends in one of its zeros
  rcases tail with _ | ⟨a, _ | ⟨b, _ | ⟨c, _ | ⟨d, tail⟩⟩⟩⟩
  · exact hne rfl
  all_goals cases code <;> simp only [StartCode.bytes, List.cons_append, List.nil_append,
    List.cons.injEq] at h
  · exact hlast (by rw [← h.1]; rfl)
  · exact hlast (by rw [← h.1]; rfl)
  · exact hlast (by rw [← h.2.1]; rfl)
  · exact hlast (by rw [← h.2.1]; rfl)
  · exact hclean ⟨[], [], by rw [← h.1, ← h.2.1, ← h.2.2.1]; rfl⟩
  · exact hlast (by rw [← h.2.2.1]; rfl)
  · exact hclean ⟨[], d :: tail, by rw [← h.1, ← h.2.1, ← h.2.2.1]; rfl⟩
  · exact hclean ⟨[a], tail, by rw [← h.2.1, ← h.2.2.1, ← h.2.2.2.1]; rfl⟩

/-! ## the units -/

theorem beforeStartCode_eq {unit rest : List UInt8} (hfree : FreeOf BeginsStartCode unit rest)
    (hstop : rest = [] ∨ BeginsStartCode rest) : beforeStartCode (unit ++ rest) = (unit, rest) := by
  rw [beforeStartCode_eq_scan]
  exact scan_eq (hfree.mono fun _ => beginsStartCode_iff.mpr) (hstop.imp_right beginsStartCode_iff.mp)

theorem framed_stop (units : List (StartCode × List UInt8)) :
    framed units = [] ∨ BeginsStartCode (framed units) := by
  cases units with
  | nil => exact .inl rfl
  | cons u units => exact .inr (beginsStartCode_framed u units)

/-- the start codes of `framed units` are where they were written -/
def UnitsFree (units : List (StartCode × List UInt8)) : Prop :=
  Justified (fun u rest => FreeOf BeginsStartCode u.2 (framed rest)) units

theorem splitUnits_framed {units : List (StartCode × List UInt8)} (h : UnitsFree units)
    {fuel : Nat} (hfuel : (framed units).length ≤ fuel) :
    splitUnits fuel (framed units) = (units.map Prod.snd).filter (· ≠ []) := by
  induction units generalizing fuel with
  | nil => cases fuel <;> rfl
  | cons u units ih =>
    obtain ⟨hfree, hrest⟩ := h
    rw [framed_cons, List.length_append, List.length_append] at hfuel
    have hcode : 3 ≤ u.1.bytes.length := by cases u.1 <;> decide
    cases fuel with
    | zero => omega
    | succ fuel =>
      have hunits := ih hrest (show (framed units).length ≤ fuel by omega)
      rw [splitUnits, framed_cons, startCodeLength_bytes, if_neg (by omega), List.drop_left,
        beforeStartCode_eq hfree (framed_stop units)]
      show (if u.2 = [] then splitUnits fuel (framed units)
        else u.2 :: splitUnits fuel (framed units)) = _
      rw [hunits, List.map_cons]
      by_cases hempty : u.2 = []
      · rw [if_pos hempty, List.filter_cons_of_neg (by simp [hempty])]
      · rw [if_neg hempty, List.filter_cons_of_pos (by simp [hempty])]

theorem exists_framed {data : List UInt8} (h : data = [] ∨ BeginsStartCode data) :
    ∃ units, data = framed units ∧ UnitsFree units := by
  rcases h with rfl | h
  · exact ⟨[], rfl, trivial⟩
  obtain ⟨code, hcode⟩ := exists_startCode (beginsStartCode_iff.mp h)
  generalize hrest : data.drop (startCodeLength data) = rest at hcode
  have hshorter : (scan (startCodeLength · ≠ 0) rest).2.length < data.length := by
    have hlength := congrArg List.length (scan_append (startCodeLength · ≠ 0) rest)
    have hpos : 3 ≤ code.bytes.length := by cases code <;> decide
    rw [List.length_append] at hlength
    rw [hcode, List.length_append]
    omega
  obtain ⟨units, hunits, hfree⟩ := exists_framed
    ((scan_stop (startCodeLength · ≠ 0) rest).imp_right beginsStartCode_iff.mpr)
  refine ⟨(code, (scan (startCodeLength · ≠ 0) rest).1) :: units, ?_, ?_, hfree⟩
  · rw [framed_cons, ← hunits, scan_append, ← hcode]
  · show FreeOf BeginsStartCode _ (framed units)
    rw [← hunits]
    exact (scan_free _ rest).mono fun _ => beginsStartCode_iff.mp
termination_by data.length

/-- a byte string is a prefix, start codes and units, and `result` the units that are not empty -/
structure Partition (data : List UInt8) (result : List (List UInt8)) (lead : List UInt8)
    (units : List (StartCode × List UInt8)) : Prop where
  cut : data = lead ++ framed units
  lead_free : FreeOf BeginsStartCode lead (framed units)
  units_free : ∀ before code unit after, units = before ++ (code, unit) :: after →
    FreeOf BeginsStartCode unit (framed after)
  kept : result = (units.map Prod.snd).filter (· ≠ [])

theorem splitAnnexB_framed {lead : List UInt8} {units : List (StartCode × List UInt8)}
    (hlead : FreeOf BeginsStartCode lead (framed units)) (hunits : UnitsFree units) :
    splitAnnexB (lead ++ framed units) = (units.map Prod.snd).filter (· ≠ []) := by
  rw [splitAnnexB, beforeStartCode_eq hlead (framed_stop units)]
  exact splitUnits_framed hunits (by simp)

theorem exists_partition (data : List UInt8) :
    ∃ lead units, Partition data (splitAnnexB data) lead units := by
  obtain ⟨units, hunits, hfree⟩ := exists_framed
    ((scan_stop (startCodeLength · ≠ 0) data).imp_right beginsStartCode_iff.mpr)
  have hlead : FreeOf BeginsStartCode (scan (startCodeLength · ≠ 0) data).1 (framed units) := by
    rw [← hunits]
    exact (scan_free _ data).mono fun _ => beginsStartCode_iff.mp
  have hcut : data = (scan (startCodeLength · ≠ 0) data).1 ++ framed units := by
    rw [← hunits, scan_append]
  refine ⟨_, units, hcut, hlead, fun before code unit after h => Justified.split hfree h, ?_⟩
  conv_lhs => rw [hcut]
  exact splitAnnexB_framed hlead hfree

theorem unitsFree_nals (units : List (StartCode × NALUnit)) :
    UnitsFree (units.map fun u => (u.1, u.2.bytes)) := by
  induction units with
  | nil => trivial
  | cons u units ih => exact ⟨u.2.free _, ih⟩

/-- **Annex-B framing.**  `SplitAnnexB` reads within the data, inverts the framing of NAL units, and
partitions every byte string. -/
theorem splitAnnexB_exact :
    (∀ data, splitAnnexBChecked data = some (splitAnnexB data)) ∧
    (∀ (lead : List UInt8) (units : List (StartCode × NALUnit)),
      FreeOf BeginsStartCode lead (framed (units.map fun u => (u.1, u.2.bytes))) →
        splitAnnexB (lead ++ framed (units.map fun u => (u.1, u.2.bytes))) =
          units.map (·.2.bytes)) ∧
    ∀ data, ∃ lead units, Partition data (splitAnnexB data) lead units := by
  refine ⟨splitAnnexBChecked_eq, fun lead units hlead => ?_, exists_partition⟩
  rw [splitAnnexB_framed hlead (unitsFree_nals units), List.map_map, List.filter_eq_self.mpr]
  · rfl
  · intro unit hunit
    obtain ⟨u, -, rfl⟩ := List.mem_map.mp hunit
    simpa using u.2.nonempty

end MediaCamera
