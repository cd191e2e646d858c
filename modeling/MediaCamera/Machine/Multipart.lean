import MediaCamera.Machine.Scan

/-!
# Multipart bodies

The grammar of multipart bodies, as a reader of bytes: a delimiter is a line break, two dashes and
the boundary; what is before the first one and behind the close delimiter is ignored.  The reader
is stricter than the grammar: no folded header fields, at most one parameter in a disposition.

* `Multipart.texts`      the texts between the delimiters;
* `Multipart.bodyPart`   header fields, an empty line, and the content;
* `BodyPart.part`        content type, disposition and name of a body part;
* `texts_encode`         texts in which no delimiter occurs are read back as they were written;
* `not_delimiter`        none occurs in header lines and a content without two dashes and boundary.
-/

namespace MediaCamera

def utf8 (s : String) : List UInt8 := s.toByteArray.data.toList

namespace Multipart

def CRLF : List UInt8 := [13, 10]

def dashBoundary (boundary : List UInt8) : List UInt8 := 45 :: 45 :: boundary

def delimiter (boundary : List UInt8) : List UInt8 := 13 :: 10 :: dashBoundary boundary

def isLWSP (b : UInt8) : Bool := b == 32 || b == 9

/-- the rest of a delimiter's line, from which the next text starts -/
def lineRest (data : List UInt8) : Option (List UInt8) :=
  match data.dropWhile isLWSP with
  | 13 :: 10 :: rest => some rest
  | _ => none

/-- the close delimiter ends the body or its line -/
def closes (data : List UInt8) : Bool :=
  [45, 45].isPrefixOf data &&
    ((data.drop 2).dropWhile isLWSP == [] || (lineRest (data.drop 2)).isSome)

def nextText (boundary data : List UInt8) : Option (List UInt8 × List UInt8) :=
  let cut := scan (delimiter boundary <+: ·) data
  if cut.2 = [] then none else some (cut.1, cut.2.drop (delimiter boundary).length)

def behind (boundary : List UInt8) : Nat → List UInt8 → Option (List (List UInt8))
  | 0, _ => none
  | fuel + 1, data =>
    if closes data then some []
    else do
      let (text, rest) ← nextText boundary (← lineRest data)
      return text :: (← behind boundary fuel rest)

/-- the texts of the body parts; at the start of a body, a delimiter has no line break -/
def texts (boundary body : List UInt8) : Option (List (List UInt8)) := do
  let (_, rest) ← nextText boundary (CRLF ++ body)
  behind boundary (body.length + 1) rest

structure BodyPart where
  headers : List (List UInt8 × List UInt8)
  content : List UInt8
  deriving DecidableEq, Repr

def trim (value : List UInt8) : List UInt8 :=
  ((value.dropWhile isLWSP).reverse.dropWhile isLWSP).reverse

def headerField (line : List UInt8) : Option (List UInt8 × List UInt8) :=
  let cut := scan ([58] <+: ·) line
  if cut.1 = [] ∨ cut.2 = [] ∨ cut.1.any isLWSP then none else some (cut.1, trim (cut.2.drop 1))

def bodyPart : Nat → List UInt8 → Option BodyPart
  | 0, _ => none
  | _ + 1, [] => some ⟨[], []⟩
  | _ + 1, 13 :: 10 :: content => some ⟨[], content⟩
  | fuel + 1, text =>
    let line := scan (CRLF <+: ·) text
    (headerField line.1).bind fun field => (bodyPart fuel (line.2.drop 2)).map fun part =>
      { part with headers := field :: part.headers }

def lower (b : UInt8) : UInt8 := if 65 ≤ b ∧ b ≤ 90 then b + 32 else b

/-- the value of the first field with the name, in whatever case -/
def BodyPart.header? (part : BodyPart) (name : List UInt8) : Option (List UInt8) :=
  (part.headers.find? (·.1.map lower == name)).map (·.2)

def quotedParameter (text : List UInt8) : Option (List UInt8 × List UInt8) :=
  let cut := scan ([61, 34] <+: ·) text
  let value := scan ([34] <+: ·) (cut.2.drop 2)
  if value.2 = [34] then some (trim cut.1, value.1) else none

/-- content type, disposition with its `name`, and content -/
structure Part where
  contentType : List UInt8
  disposition : List UInt8
  name : List UInt8
  content : List UInt8
  deriving DecidableEq, Repr

def BodyPart.part (part : BodyPart) : Option Part := do
  let contentType ← part.header? (utf8 "content-type")
  let value ← part.header? (utf8 "content-disposition")
  let cut := scan ([59] <+: ·) value
  let (key, name) ← quotedParameter (cut.2.drop 1)
  if key = utf8 "name" then some ⟨contentType, trim cut.1, name, part.content⟩ else none

def parse (boundary body : List UInt8) : Option (List Part) := do
  (← texts boundary body).mapM fun text => (bodyPart (text.length + 1) text).bind (·.part)

/-! ## writing -/

def written (boundary : List UInt8) : List (List UInt8) → List UInt8
  | [] => [45, 45] ++ CRLF
  | text :: texts => CRLF ++ text ++ delimiter boundary ++ written boundary texts

def encode (boundary : List UInt8) (texts : List (List UInt8)) : List UInt8 :=
  dashBoundary boundary ++ written boundary texts

section
variable {boundary : List UInt8}

theorem not_mem_delimiter (h : (13 : UInt8) ∉ boundary) : (13 : UInt8) ∉ 10 :: dashBoundary boundary := by
  simpa [dashBoundary] using h

theorem nextText_delimiter (h : (13 : UInt8) ∉ boundary) {text : List UInt8}
    (htext : ¬ delimiter boundary <:+: text) (rest : List UInt8) :
    nextText boundary (text ++ (delimiter boundary ++ rest)) = some (text, rest) := by
  have hscan : scan (delimiter boundary <+: ·) (text ++ (delimiter boundary ++ rest)) =
      (text, delimiter boundary ++ rest) :=
    scan_eq (freeOf_word (not_mem_delimiter h) htext) (.inr (List.prefix_append _ _))
  have hne : delimiter boundary ++ rest ≠ [] := fun hnil => by cases hnil
  simp only [nextText, hscan, if_neg hne, List.drop_left]

theorem behind_written (h : (13 : UInt8) ∉ boundary) {texts : List (List UInt8)}
    (htexts : ∀ text ∈ texts, ¬ delimiter boundary <:+: text) {fuel : Nat}
    (hfuel : texts.length < fuel) : behind boundary fuel (written boundary texts) = some texts := by
  induction texts generalizing fuel with
  | nil =>
    cases fuel with
    | zero => omega
    | succ fuel => rfl
  | cons text texts ih =>
    cases fuel with
    | zero => omega
    | succ fuel =>
      have hrest := ih (fun t ht => htexts t (List.mem_cons_of_mem _ ht))
        (Nat.lt_of_succ_lt_succ hfuel)
      have hwritten : written boundary (text :: texts) =
          13 :: 10 :: (text ++ (delimiter boundary ++ written boundary texts)) := by
        simp [written, CRLF]
      rw [hwritten, behind, if_neg (by simp [closes])]
      show ((nextText boundary (text ++ (delimiter boundary ++ written boundary texts))).bind
        fun r => (behind boundary fuel r.2).bind fun more => some (r.1 :: more)) = _
      rw [nextText_delimiter h (htexts text (List.mem_cons_self ..))]
      show (behind boundary fuel (written boundary texts)).bind _ = _
      rw [hrest]
      rfl

theorem encode_eq (texts : List (List UInt8)) : encode boundary texts =
    texts.flatMap (fun text => dashBoundary boundary ++ (CRLF ++ (text ++ CRLF))) ++
      (dashBoundary boundary ++ ([45, 45] ++ CRLF)) := by
  induction texts with
  | nil => rfl
  | cons text texts ih =>
    have hdelimiter : delimiter boundary = CRLF ++ dashBoundary boundary := rfl
    rw [List.flatMap_cons, List.append_assoc, ← ih, encode, encode, written, hdelimiter]
    simp only [List.append_assoc]

theorem length_written (texts : List (List UInt8)) :
    texts.length < (written boundary texts).length := by
  induction texts with
  | nil => exact Nat.succ_pos 3
  | cons text texts ih =>
    have hbreak : CRLF.length = 2 := rfl
    simp only [written, List.length_append, List.length_cons]
    omega

/-- **Texts are read back** as they were written. -/
theorem texts_encode (h : (13 : UInt8) ∉ boundary) {texts : List (List UInt8)}
    (htexts : ∀ text ∈ texts, ¬ delimiter boundary <:+: text) :
    Multipart.texts boundary (encode boundary texts) = some texts := by
  have hbody : CRLF ++ encode boundary texts = [] ++ (delimiter boundary ++ written boundary texts) :=
    rfl
  have hempty : ¬ delimiter boundary <:+: [] := fun h => by cases List.infix_nil.mp h
  have hfuel : texts.length < (encode boundary texts).length + 1 := by
    have := @length_written boundary texts
    rw [encode, List.length_append]
    omega
  unfold Multipart.texts
  rw [hbody, nextText_delimiter h hempty]
  exact behind_written h htexts hfuel

/-- texts that are read one by one as parts make a body of these parts -/
theorem parse_encode {ι : Type} {parts : List ι} {text : ι → List UInt8} {part : ι → Part}
    (h : (13 : UInt8) ∉ boundary) (htexts : ∀ i ∈ parts, ¬ delimiter boundary <:+: text i)
    (hparts : ∀ i ∈ parts,
      (bodyPart ((text i).length + 1) (text i)).bind (·.part) = some (part i)) :
    parse boundary (encode boundary (parts.map text)) = some (parts.map part) := by
  have hread : Multipart.texts boundary (encode boundary (parts.map text)) =
      some (parts.map text) := by
    refine texts_encode h fun t ht => ?_
    obtain ⟨i, hi, rfl⟩ := List.mem_map.mp ht
    exact htexts i hi
  rw [parse, hread]
  show List.mapM (fun t => (bodyPart (t.length + 1) t).bind (·.part)) (parts.map text) = _
  clear htexts hread
  induction parts with
  | nil => rfl
  | cons i parts ih =>
    rw [List.map_cons, List.mapM_cons, hparts i (List.mem_cons_self ..),
      ih fun j hj => hparts j (List.mem_cons_of_mem _ hj)]
    rfl

theorem bodyPart_field {line : List UInt8} (rest : List UInt8) (fuel : Nat)
    (hbreak : (13 : UInt8) ∉ line) (hne : line ≠ []) :
    bodyPart (fuel + 1) (line ++ (CRLF ++ rest)) = (headerField line).bind fun field =>
      (bodyPart fuel rest).map fun part => { part with headers := field :: part.headers } := by
  have hline : ¬ CRLF <:+: line := fun h => hbreak (h.subset (List.mem_cons_self ..))
  have hscan : scan (CRLF <+: ·) (line ++ (CRLF ++ rest)) = (line, CRLF ++ rest) :=
    scan_eq (freeOf_word (by decide) hline) (.inr (List.prefix_append _ _))
  obtain ⟨c, tail, rfl⟩ := List.exists_cons_of_ne_nil hne
  rw [bodyPart, hscan]
  · rfl
  · exact fun h => by cases h
  · intro content h
    exact hbreak (List.mem_cons.mpr (.inl (List.cons.inj h).1.symm))

/-- no delimiter occurs in header lines before a content in which two dashes and the boundary do
not occur -/
theorem not_delimiter {lines content : List UInt8} (hlines : FreeOf ([13, 10, 45] <+: ·) lines CRLF)
    (hcontent : ¬ dashBoundary boundary <:+: content) :
    ¬ delimiter boundary <:+: lines ++ CRLF ++ content := by
  rintro ⟨s, u, h⟩
  rw [List.append_assoc, List.append_assoc] at h
  have hend : delimiter boundary ++ u ≠ CRLF ++ content := by
    intro he
    have he : CRLF ++ (dashBoundary boundary ++ u) = CRLF ++ content := he
    exact hcontent (List.append_cancel_left he ▸ (List.prefix_append _ _).isInfix)
  rcases List.append_eq_append_iff.mp h with ⟨a, rfl, ha⟩ | ⟨a, rfl, ha⟩
  · -- the delimiter would begin in the lines
    cases a with
    | nil => exact hend ha
    | cons x a =>
      refine hlines s.length (by simp) ?_
      rw [List.append_assoc, List.drop_left]
      have hword : [13, 10, 45] <+: delimiter boundary ++ u := ⟨45 :: boundary ++ u, rfl⟩
      have hline : x :: a ++ CRLF <+: delimiter boundary ++ u :=
        ⟨content, by rw [ha, List.append_assoc]⟩
      exact List.prefix_of_prefix_length_le hword hline (by simp [CRLF])
  · -- the delimiter would begin in the line break, or in the content
    rcases a with _ | ⟨x, _ | ⟨y, a⟩⟩
    · exact hend ha.symm
    · cases (List.cons.inj (List.cons.inj ha).2).1
    · have hin : content = a ++ (delimiter boundary ++ u) :=
        (List.cons.inj (List.cons.inj ha).2).2
      refine hcontent ⟨a ++ CRLF, u, ?_⟩
      rw [hin, List.append_assoc, List.append_assoc]
      rfl

end

end Multipart

end MediaCamera
