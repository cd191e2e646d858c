import Mathlib.Data.List.Basic
import MediaCamera.Machine.Scan

/-!
# The identity of a media source

The placement tool takes `--media-source-id`, the plugin registers it, and the metadata publisher
is given the same string as `~media_source_id`.  Each has a recognizer of its own:

* `parseIdentifier`          the regular expression of `parse_arguments`;
* `isSafeIdentifier`, `safeSourceIdentifier`   the loops over bytes of the plugin and of its host;
* `stableCameraName`         the pattern of camera names, behind a `strip`;
* `dispatchRoute`            the source that a target addresses.

`one_grammar` says for which strings they agree: the pattern of camera names is narrower.
-/

namespace MediaCamera

/-! ## Python -/

/-- the characters that `str.strip` removes and `str.split` splits at -/
def isSpace (c : Char) : Bool :=
  decide (9 ≤ c.toNat ∧ c.toNat ≤ 13 ∨ 28 ≤ c.toNat ∧ c.toNat ≤ 32 ∨
    0x2000 ≤ c.toNat ∧ c.toNat ≤ 0x200a) ||
    [0x85, 0xa0, 0x1680, 0x2028, 0x2029, 0x202f, 0x205f, 0x3000].contains c.toNat

def strip (s : List Char) : List Char := ((s.dropWhile isSpace).reverse.dropWhile isSpace).reverse

def isLetter (c : Char) : Bool :=
  decide (65 ≤ c.toNat ∧ c.toNat ≤ 90 ∨ 97 ≤ c.toNat ∧ c.toNat ≤ 122)

def isIdentifierChar (c : Char) : Bool :=
  isLetter c || decide (48 ≤ c.toNat ∧ c.toNat ≤ 57) || c == '.' || c == '_' || c == '-'

/-- the identifier check of `parse_arguments`: one to 128 characters of the class -/
def parseIdentifier (s : List Char) : Bool :=
  s.all isIdentifierChar && decide (1 ≤ s.length ∧ s.length ≤ 128)

/-- a full match of `_CAMERA_NAME_PATTERN`: a letter, and up to 63 characters of the class -/
def cameraNamePattern : List Char → Bool
  | [] => false
  | c :: rest => isLetter c && rest.all isIdentifierChar && decide (rest.length ≤ 63)

/-- `_stable_camera_name`; `none` where it raises -/
def stableCameraName (value : List Char) : Option (List Char) :=
  if cameraNamePattern (strip value) then some (strip value) else none

def sourcesPrefix : List Char := "/v1/media/sources/".toList

def route (sourceID : List Char) : List Char := sourcesPrefix ++ sourceID

/-- the beginning of `_apply_camera_info_metadata`: the route of the source, which must be one of
the registered sources -/
def reconcileRoute (sources : List (List Char)) (mediaSourceID : List Char) : Option (List Char) :=
  (stableCameraName mediaSourceID).bind fun sourceID =>
    if sourceID ∈ sources then some (route sourceID) else none

/-! ## C++ -/

def utf8Bytes (s : List Char) : List UInt8 := s.flatMap String.utf8EncodeChar

/-- `std::isalnum` in the C locale -/
def isalnum (c : UInt8) : Bool :=
  decide (48 ≤ c ∧ c ≤ 57 ∨ 65 ≤ c ∧ c ≤ 90 ∨ 97 ≤ c ∧ c ≤ 122)

def isSafeIdentifier (value : List UInt8) : Bool :=
  if value = [] ∨ 128 < value.length then false
  else value.all fun c => isalnum c || c == 45 || c == 95 || c == 46

def safeSourceIdentifier (value : List UInt8) : Bool :=
  value ≠ [] && decide (value.length ≤ 128) && value.all fun c =>
    decide (97 ≤ c ∧ c ≤ 122) || decide (65 ≤ c ∧ c ≤ 90) || decide (48 ≤ c ∧ c ≤ 57) ||
      c == 45 || c == 95 || c == 46

/-- the source and the operation that `Dispatch` reads off a target; `none` where it refuses the
target before it looks for the source -/
def dispatchRoute (target : List UInt8) : Option (List UInt8 × List UInt8) :=
  if utf8Bytes sourcesPrefix <+: target then
    let cut := scan ([47] <+: ·) (target.drop (utf8Bytes sourcesPrefix).length)
    if cut.2.drop 1 = [] ∨ safeSourceIdentifier cut.1 = false then none
    else some (cut.1, cut.2.drop 1)
  else none

/-! ## characters and bytes -/

theorem isIdentifierChar_lt {c : Char} (h : isIdentifierChar c = true) : c.toNat < 128 := by
  simp only [isIdentifierChar, isLetter, Bool.or_eq_true, decide_eq_true_eq, beq_iff_eq] at h
  rcases h with (((h | h) | rfl) | rfl) | rfl
  · omega
  · omega
  · decide
  · decide
  · decide

theorem isIdentifierChar_byte {c : Char} (h : isIdentifierChar c = true) :
    isSpace c = false ∧ ∃ b, String.utf8EncodeChar c = [b] ∧ isSafeIdentifier [b] = true ∧
      safeSourceIdentifier [b] = true ∧ b ≠ 47 := by
  have hascii : ∀ n < 128, isIdentifierChar (Char.ofNat n) = true →
      isSpace (Char.ofNat n) = false ∧
        String.utf8EncodeChar (Char.ofNat n) = [(Char.ofNat n).val.toUInt8] ∧
        isSafeIdentifier [(Char.ofNat n).val.toUInt8] = true ∧
        safeSourceIdentifier [(Char.ofNat n).val.toUInt8] = true ∧
        (Char.ofNat n).val.toUInt8 ≠ 47 := by decide
  have hchar := hascii c.toNat (isIdentifierChar_lt h)
  rw [Char.ofNat_toNat] at hchar
  obtain ⟨hspace, hencode, hbyte⟩ := hchar h
  exact ⟨hspace, _, hencode, hbyte⟩

theorem isSafeIdentifier_iff {value : List UInt8} : isSafeIdentifier value = true ↔
    value ≠ [] ∧ value.length ≤ 128 ∧ ∀ b ∈ value, isSafeIdentifier [b] = true := by
  rcases eq_or_ne value [] with rfl | hne
  · simp [isSafeIdentifier]
  · rcases Nat.lt_or_ge 128 value.length with hlong | hshort
    · simp [isSafeIdentifier, hlong, Nat.not_le.mpr hlong]
    · simp [isSafeIdentifier, hne, hshort, Nat.not_lt.mpr hshort]

theorem safeSourceIdentifier_iff {value : List UInt8} : safeSourceIdentifier value = true ↔
    value ≠ [] ∧ value.length ≤ 128 ∧ ∀ b ∈ value, safeSourceIdentifier [b] = true := by
  simp [safeSourceIdentifier, and_assoc]

section
variable {s : List Char}

theorem parseIdentifier_iff : parseIdentifier s = true ↔
    (∀ c ∈ s, isIdentifierChar c = true) ∧ 1 ≤ s.length ∧ s.length ≤ 128 := by
  simp [parseIdentifier]

theorem utf8Bytes_identifier (h : ∀ c ∈ s, isIdentifierChar c = true) :
    (utf8Bytes s).length = s.length ∧ ∀ b ∈ utf8Bytes s,
      isSafeIdentifier [b] = true ∧ safeSourceIdentifier [b] = true ∧ b ≠ 47 := by
  induction s with
  | nil => exact ⟨rfl, fun b hb => by cases hb⟩
  | cons c s ih =>
    obtain ⟨hlength, hbytes⟩ := ih fun d hd => h d (List.mem_cons_of_mem _ hd)
    obtain ⟨-, b, hencode, hb⟩ := isIdentifierChar_byte (h c (List.mem_cons_self ..))
    have hcons : utf8Bytes (c :: s) = b :: utf8Bytes s := by
      rw [utf8Bytes, List.flatMap_cons, hencode]
      rfl
    rw [hcons]
    refine ⟨congrArg (· + 1) hlength, fun b' hb' => ?_⟩
    rcases List.mem_cons.mp hb' with rfl | hb'
    · exact hb
    · exact hbytes b' hb'

/-- both loops accept what the regular expression accepts -/
theorem parseIdentifier_safe (h : parseIdentifier s = true) :
    isSafeIdentifier (utf8Bytes s) = true ∧ safeSourceIdentifier (utf8Bytes s) = true := by
  obtain ⟨hchars, hpos, hle⟩ := parseIdentifier_iff.mp h
  obtain ⟨hlength, hbytes⟩ := utf8Bytes_identifier hchars
  have hne : utf8Bytes s ≠ [] := List.length_pos_iff.mp (by omega)
  exact ⟨isSafeIdentifier_iff.mpr ⟨hne, by omega, fun b hb => (hbytes b hb).1⟩,
    safeSourceIdentifier_iff.mpr ⟨hne, by omega, fun b hb => (hbytes b hb).2.1⟩⟩

theorem dropWhile_isSpace (h : ∀ c ∈ s, isSpace c = false) : s.dropWhile isSpace = s := by
  cases s with
  | nil => rfl
  | cons c s => rw [List.dropWhile_cons_of_neg (by simp [h c])]

theorem strip_identifier (h : ∀ c ∈ s, isIdentifierChar c = true) : strip s = s := by
  have hspace : ∀ c ∈ s, isSpace c = false := fun c hc => (isIdentifierChar_byte (h c hc)).1
  have hreverse : ∀ c ∈ s.reverse, isSpace c = false := fun c hc => hspace c (List.mem_reverse.mp hc)
  rw [strip, dropWhile_isSpace hspace, dropWhile_isSpace hreverse, List.reverse_reverse]

theorem parseIdentifier_of_pattern (h : cameraNamePattern s = true) : parseIdentifier s = true := by
  cases s with
  | nil => cases h
  | cons c rest =>
    simp only [cameraNamePattern, Bool.and_eq_true, decide_eq_true_eq] at h
    obtain ⟨⟨hletter, hrest⟩, hlength⟩ := h
    simp only [parseIdentifier, List.all_cons, List.length_cons, isIdentifierChar, hletter,
      Bool.true_or, Bool.and_eq_true, decide_eq_true_eq]
    exact ⟨⟨trivial, hrest⟩, by omega⟩

/-- the host looks for the source whose route the publisher takes -/
theorem dispatchRoute_route (h : parseIdentifier s = true) {operation : List Char}
    (hoperation : operation ≠ []) :
    dispatchRoute (utf8Bytes (route s ++ '/' :: operation)) =
      some (utf8Bytes s, utf8Bytes operation) := by
  obtain ⟨hchars, -, -⟩ := parseIdentifier_iff.mp h
  have htarget : utf8Bytes (route s ++ '/' :: operation) =
      utf8Bytes sourcesPrefix ++ (utf8Bytes s ++ ([47] ++ utf8Bytes operation)) := by
    rw [route, List.append_assoc]
    simp only [utf8Bytes, List.flatMap_append, List.flatMap_cons]
    rfl
  have hslash : ¬ [47] <:+: utf8Bytes s := fun hin =>
    ((utf8Bytes_identifier hchars).2 47 (hin.subset (List.mem_cons_self ..))).2.2 rfl
  have hscan : scan ([47] <+: ·) (utf8Bytes s ++ ([47] ++ utf8Bytes operation)) =
      (utf8Bytes s, [47] ++ utf8Bytes operation) :=
    scan_eq (freeOf_word (List.not_mem_nil) hslash) (.inr (List.prefix_append _ _))
  have hne : utf8Bytes operation ≠ [] := by
    obtain ⟨c, rest, rfl⟩ := List.exists_cons_of_ne_nil hoperation
    rw [utf8Bytes, List.flatMap_cons]
    exact List.append_ne_nil_of_left_ne_nil String.utf8EncodeChar_ne_nil _
  rw [dispatchRoute, htarget, if_pos (List.prefix_append _ _), List.drop_left, hscan]
  have hrefused : ¬ (([47] ++ utf8Bytes operation).drop 1 = [] ∨
      safeSourceIdentifier (utf8Bytes s) = false) := by
    simpa [(parseIdentifier_safe h).2] using hne
  exact if_neg hrefused

/-! ## one grammar -/

/-- what the placement tool accepts is accepted by the plugin and reconciled by the publisher, and
the publisher addresses no other source -/
structure OneGrammar (s : List Char) : Prop where
  plugin : parseIdentifier s = true →
    isSafeIdentifier (utf8Bytes s) = true ∧ safeSourceIdentifier (utf8Bytes s) = true
  publisher : parseIdentifier s = true → ∀ sources, s ∈ sources →
    reconcileRoute sources s = some (route s) ∧ ∀ operation, operation ≠ [] →
      dispatchRoute (utf8Bytes (route s ++ '/' :: operation)) =
        some (utf8Bytes s, utf8Bytes operation)
  exact : ∀ sources target, reconcileRoute sources s = some target → target = route s

theorem stableCameraName_identifier (h : parseIdentifier s = true) :
    stableCameraName s = if cameraNamePattern s = true then some s else none := by
  rw [stableCameraName, strip_identifier (parseIdentifier_iff.mp h).1]

/-- **The identity of a source** has one grammar for the camera names, and for what neither the
placement tool nor the publisher accepts. -/
theorem one_grammar (s : List Char) : OneGrammar s ↔ cameraNamePattern s = true ∨
    (parseIdentifier s = false ∧ cameraNamePattern (strip s) = false) := by
  constructor
  · intro h
    cases hname : cameraNamePattern s with
    | true => exact .inl rfl
    | false =>
      refine .inr ⟨Bool.eq_false_iff.mpr fun hparse => ?_, Bool.eq_false_iff.mpr fun hstrip => ?_⟩
      · have hroute := (h.publisher hparse [s] (List.mem_cons_self ..)).1
        rw [reconcileRoute, stableCameraName_identifier hparse, hname] at hroute
        cases hroute
      · have hroute : reconcileRoute [strip s] s = some (route (strip s)) := by
          rw [reconcileRoute, stableCameraName, if_pos hstrip]
          exact if_pos (List.mem_cons_self ..)
        have hsame := List.append_cancel_left (h.exact _ _ hroute)
        rw [hsame, hname] at hstrip
        cases hstrip
  · rintro (hname | ⟨hparse, hstrip⟩)
    · have hparse := parseIdentifier_of_pattern hname
      have hstable : stableCameraName s = some s := by
        rw [stableCameraName_identifier hparse, if_pos hname]
      refine ⟨parseIdentifier_safe, fun _ sources hmem => ⟨?_, fun _ => dispatchRoute_route hparse⟩,
        fun sources target htarget => ?_⟩
      · rw [reconcileRoute, hstable]
        exact if_pos hmem
      · rw [reconcileRoute, hstable] at htarget
        obtain ⟨-, htarget⟩ := Option.ite_none_right_eq_some.mp htarget
        exact (Option.some.inj htarget).symm
    · refine ⟨parseIdentifier_safe, fun h => ?_, fun sources target htarget => ?_⟩
      · rw [hparse] at h
        cases h
      · rw [reconcileRoute, stableCameraName, hstrip] at htarget
        cases htarget

/-- a source that begins with a digit is placed and registered, and never reconciled -/
theorem two_grammars : parseIdentifier "1cam".toList = true ∧
    isSafeIdentifier (utf8Bytes "1cam".toList) = true ∧
    reconcileRoute ["1cam".toList] "1cam".toList = none ∧ ¬ OneGrammar "1cam".toList := by
  refine ⟨by decide, by decide, by decide, fun h => ?_⟩
  have hroute := (h.publisher (by decide) ["1cam".toList] (by decide)).1
  have hnone : reconcileRoute ["1cam".toList] "1cam".toList = none := by decide
  rw [hnone] at hroute
  cases hroute

end

end MediaCamera
