import MediaCamera.Control.Decimal
import MediaCamera.Control.Roster

/-!
# Dispatching a request

`Dispatch` splits the target of a request with `find` and `substr` and either answers it or calls
the handler of one source.

* `find`, `substr`, `stoi`          the string operations that it uses;
* `Host.describes`                  the check of `/v1/describe` and of its query;
* `sourceRoute`                     the source and the operation of any other target;
* `Host.dispatch`                   what the request makes the host do;
* `describes_ok`, `sourceRoute_eq`  which targets these take apart, and how;
* `Addressed`, `Discovery`          the requests that are delivered and those that are answered;
* `dispatch_delivers`               and nothing else happens.

The reader of JSON documents is a parameter, and so is what a handler throws.
-/

namespace MediaCamera

/-! ## strings -/

section
variable (s : List UInt8)

def find (c : UInt8) (pos : Nat) : Option Nat := ((s.drop pos).findIdx? (· == c)).map (pos + ·)

def substr (pos : Nat) (count : Option Nat) : List UInt8 :=
  match count with
  | none => s.drop pos
  | some n => (s.drop pos).take n

/-- `find_first_not_of("0123456789") != npos`, negated -/
def digitsOnly : Bool := s.all fun c => decide (48 ≤ c ∧ c ≤ 57)

/-- `std::stoi` of at most five digits -/
def stoi : Nat := s.foldl (fun n c => 10 * n + (c.toNat - 48)) 0

end

/-! ## the request -/

/-- `ControlRequest`, as the server hands it over -/
structure DomainRequest where
  method : String
  target : List UInt8
  body : List UInt8
  request_id : String
  deadline : Int

def parseControlJSON (reader : List UInt8 → Option Json) (body : List UInt8) :
    Except Thrown Json :=
  if body = [] then .ok (.object [])
  else
    match reader body with
    | some result =>
      if result.isObject then .ok result
      else .error (.invalidArgument "camera request must be a strict JSON object")
    | none => .error (.invalidArgument "camera request must be a strict JSON object")

/-- `ControlResponse`, before it is written out -/
inductive HostResponse where
  | json (value : Json) (status : Nat)
  | error (refusal : ControlError)

def HostResponse.status : HostResponse → Nat
  | json _ status => status
  | error refusal => refusal.status

/-- what `Dispatch` does: it calls a handler, or completes the reply -/
inductive Effect (H : Type) where
  | invoke (handler : H) (operation : List UInt8) (request : DomainRequest) (input : Json)
  | complete (response : HostResponse)

/-- the two `catch` blocks -/
def Thrown.response : Thrown → HostResponse
  | invalidArgument what => .error (invalid what)
  | exception what => .error ⟨500, "internal", what⟩

def notFound (message : String) : HostResponse := .error ⟨404, "not_found", message⟩

/-- the members of `CameraSourceControlHost` that `Dispatch` reads -/
structure Host where
  path : String
  instance_id : String
  target_id : String

def describePath : List UInt8 := utf8Bytes "/v1/describe".toList

def discoveryPath : List UInt8 := utf8Bytes "/v1/media/sources".toList

def routePrefix : List UInt8 := utf8Bytes sourcesPrefix

def waitKey : List UInt8 := utf8Bytes "wait_ready_ms=".toList

def identifierText (id : List UInt8) : String := String.ofList (id.map fun c => Char.ofNat c.toNat)

def Host.serviceRef (host : Host) : Json := .object [
  ("api_version", .string "v1"),
  ("endpoint", .object [("address", .string host.path), ("kind", .string "unix")]),
  ("instance_id", .string host.instance_id),
  ("profile", .string "http.v1"),
  ("service", .string "camera-source"),
  ("target_id", .string host.target_id)]

def waitQuery (query : List UInt8) : Except Thrown Unit :=
  let digits := if waitKey.isPrefixOf query then substr query waitKey.length none else []
  if digits = [] ∨ 5 < digits.length ∨ (1 < digits.length ∧ digits.head? = some 48) ∨
      digitsOnly digits = false ∨ 30000 < stoi digits then
    .error (.invalidArgument "describe takes only wait_ready_ms=<0..30000>")
  else .ok ()

/-- `describe`, with the check of its query -/
def Host.describes (request : DomainRequest) : Except Thrown Bool :=
  let query_at := find request.target 63 0
  let path := substr request.target 0 query_at
  if request.method = "GET" ∧ path = describePath then
    match query_at with
    | some place => (waitQuery (substr request.target (place + 1) none)).map fun _ => true
    | none => .ok true
  else .ok false

section
variable {H : Type}

/-- `facts["limits"]` -/
def discoveryLimits : Json := .object [
  ("concurrent_captures", .number (.int 1)),
  ("connections", .number (.uint 8)),
  ("inflight", .number (.uint 4)),
  ("request_bytes", .number (.uint 65536)),
  ("response_bytes", .number (.uint 67108864)),
  ("sources", .number (.uint kSources))]

/-- `facts["sources"]` -/
def discoverySources (slots : List (Source H)) : Json :=
  .array ((slots.filter (·.id ≠ [])).map fun source => .string (identifierText source.id))

def Host.discovery (host : Host) (slots : List (Source H)) (describe : Bool) : Json :=
  if describe then
    .object [
      ("api_version", .string "v1"),
      ("facts", .object [
        ("limits", discoveryLimits),
        ("service_ref", host.serviceRef),
        ("sources", discoverySources slots),
        ("target_id", .string host.target_id)]),
      ("instance_id", .string host.instance_id),
      ("ready", .bool true),
      ("service", .string "camera-source")]
  else .object [("limits", discoveryLimits), ("sources", discoverySources slots)]

/-- `id` and `operation` of a target with the prefix -/
def sourceRoute (target : List UInt8) : List UInt8 × List UInt8 :=
  let separator := find target 47 routePrefix.length
  (substr target routePrefix.length (separator.map (· - routePrefix.length)),
    match separator with
    | some place => substr target (place + 1) none
    | none => [])

/-- the rest of `Dispatch`, for a request that asks for no discovery -/
def Host.deliver (slots : List (Source H))
    (throws : H → List UInt8 → DomainRequest → Json → Option Thrown) (request : DomainRequest)
    (input : Json) : List (Effect H) × Option Thrown :=
  if routePrefix.isPrefixOf request.target = false then
    ([.complete (notFound "camera route not found")], none)
  else
    let (id, operation) := sourceRoute request.target
    if operation = [] then
      ([.complete (notFound "an explicit source domain route is required")], none)
    else if safeSourceIdentifier id = false then
      ([], some (.invalidArgument "invalid camera source_id"))
    else
      match slots.find? (·.id = id) with
      | some source => ([.invoke source.handler operation request input],
          throws source.handler operation request input)
      | none => ([.complete (notFound "camera source not found")], none)

/-- the `try` block of `Dispatch` after the body is parsed: its effects, and what it throws -/
def Host.respond (host : Host) (slots : List (Source H))
    (throws : H → List UInt8 → DomainRequest → Json → Option Thrown) (request : DomainRequest)
    (input : Json) : List (Effect H) × Option Thrown :=
  match Host.describes request with
  | .error thrown => ([], some thrown)
  | .ok describe =>
    if describe = true ∨ (request.method = "GET" ∧ request.target = discoveryPath) then
      if input.fields ≠ [] then ([], some (.invalidArgument "discovery does not accept a body"))
      else ([.complete (.json (host.discovery slots describe) 200)], none)
    else Host.deliver slots throws request input

def Host.dispatch (host : Host) (slots : List (Source H)) (reader : List UInt8 → Option Json)
    (throws : H → List UInt8 → DomainRequest → Json → Option Thrown) (request : DomainRequest) :
    List (Effect H) :=
  match parseControlJSON reader request.body with
  | .error thrown => [.complete thrown.response]
  | .ok input =>
    let (effects, thrown) := host.respond slots throws request input
    effects ++ (thrown.map fun thrown => .complete thrown.response).toList

end

/-! ## finding a character -/

section
variable (start : List UInt8) {word rest : List UInt8} {c : UInt8}

theorem find_none (h : c ∉ rest) : find (start ++ rest) c start.length = none := by
  rw [find, List.drop_left, Option.map_eq_none_iff, List.findIdx?_eq_none_iff]
  intro b hb
  exact beq_eq_false_iff_ne.mpr fun heq => h (heq ▸ hb)

theorem find_some (h : c ∉ word) :
    find (start ++ (word ++ c :: rest)) c start.length = some (start.length + word.length) := by
  have hword : word.findIdx? (· == c) = none := by
    rw [List.findIdx?_eq_none_iff]
    intro b hb
    exact beq_eq_false_iff_ne.mpr fun heq => h (heq ▸ hb)
  rw [find, List.drop_left, List.findIdx?_append, hword, List.findIdx?_cons]
  simp

theorem substr_word : substr (start ++ (word ++ c :: rest)) start.length (some word.length) = word := by
  rw [substr, List.drop_left, List.take_left]

theorem substr_rest :
    substr (start ++ (word ++ c :: rest)) (start.length + word.length + 1) none = rest := by
  have hlist : start ++ (word ++ c :: rest) = (start ++ word ++ [c]) ++ rest := by simp
  rw [substr, hlist]
  exact List.drop_left' (by simp; omega)

end

theorem cut_or (c : UInt8) (l : List UInt8) :
    c ∉ l ∨ ∃ word rest, l = word ++ c :: rest ∧ c ∉ word := by
  by_cases h : c ∈ l
  · exact .inr (List.eq_append_cons_of_mem h)
  · exact .inl h

theorem sourceRoute_eq {id operation : List UInt8} (h : 47 ∉ id) :
    sourceRoute (routePrefix ++ (id ++ 47 :: operation)) = (id, operation) := by
  rw [sourceRoute, find_some _ h]
  simp only [Option.map_some, Nat.add_sub_cancel_left, substr_word, substr_rest]

theorem sourceRoute_none {id : List UInt8} (h : 47 ∉ id) :
    sourceRoute (routePrefix ++ id) = (id, []) := by
  rw [sourceRoute, find_none _ h]
  simp only [Option.map_none, substr, List.drop_left]

/-- the recognizer of targets that the identity of a source is stated for -/
theorem dispatchRoute_eq {target id operation : List UInt8} :
    dispatchRoute target = some (id, operation) ↔
      routePrefix <+: target ∧ sourceRoute target = (id, operation) ∧ operation ≠ [] ∧
        safeSourceIdentifier id = true := by
  rw [dispatchRoute, ← routePrefix]
  by_cases hroute : routePrefix <+: target
  · rw [if_pos hroute]
    obtain ⟨tail, rfl⟩ := hroute
    rw [List.drop_left]
    rcases cut_or 47 tail with htail | ⟨word, rest, rfl, hword⟩
    · have hfree : FreeOf ([47] <+: ·) tail [] := by
        intro k hk hstart
        rw [List.append_nil] at hstart
        exact htail (List.mem_of_mem_drop (hstart.subset (List.mem_singleton_self 47)))
      have hscan := scan_eq hfree (.inl rfl)
      rw [List.append_nil] at hscan
      rw [hscan, sourceRoute_none htail]
      simp
      grind
    · have hscan : scan ([47] <+: ·) (word ++ ([47] ++ rest)) = (word, [47] ++ rest) := by
        refine scan_eq (freeOf_word List.not_mem_nil ?_) (.inr (List.prefix_append _ _))
        intro hin
        exact hword (hin.subset (List.mem_singleton_self 47))
      rw [List.singleton_append] at hscan
      rw [hscan, sourceRoute_eq hword]
      simp
      grind
  · rw [if_neg hroute]
    simp [hroute]

/-! ## the query of a description -/

open Executor (IsDigit)

theorem digit_byte {c : Char} (h : IsDigit c) : ∃ b : UInt8, String.utf8EncodeChar c = [b] ∧
    (48 ≤ b ∧ b ≤ 57) ∧ b.toNat - 48 = c.toNat - '0'.toNat ∧ (b = 48 ↔ c = '0') := by
  have hge : '0'.toNat ≤ c.toNat := h.1
  have hle : c.toNat ≤ '9'.toNat := h.2
  have hc : c = Char.ofNat c.toNat := (Char.ofNat_toNat c).symm
  rw [show '0'.toNat = 48 from rfl] at hge
  rw [show '9'.toNat = 57 from rfl] at hle
  generalize c.toNat = m at hge hle hc
  subst hc
  interval_cases m <;> exact ⟨_, rfl, by decide, by decide, by decide⟩

theorem byte_digit {b : UInt8} (h : 48 ≤ b ∧ b ≤ 57) :
    ∃ c, IsDigit c ∧ String.utf8EncodeChar c = [b] := by
  have hge : 48 ≤ b.toNat := h.1
  have hle : b.toNat ≤ 57 := h.2
  have hb : b = UInt8.ofNat b.toNat := UInt8.ofNat_toNat.symm
  generalize b.toNat = m at hge hle hb
  subst hb
  refine ⟨Char.ofNat m, ?_, ?_⟩
  · interval_cases m <;> exact ⟨by decide, by decide⟩
  · interval_cases m <;> rfl

theorem digits_bytes {cs : List Char} (h : ∀ c ∈ cs, IsDigit c) :
    digitsOnly (utf8Bytes cs) = true ∧ (utf8Bytes cs).length = cs.length ∧
      stoi (utf8Bytes cs) = Nat.ofDigitChars 10 cs 0 ∧
      ((utf8Bytes cs).head? = some 48 ↔ cs.head? = some '0') := by
  have hvalue : ∀ n, (utf8Bytes cs).foldl (fun n b => 10 * n + (b.toNat - 48)) n =
      Nat.ofDigitChars 10 cs n := by
    induction cs with
    | nil => exact fun n => rfl
    | cons c cs ih =>
      intro n
      obtain ⟨b, hencode, -, hdigit, -⟩ := digit_byte (h c (List.mem_cons_self ..))
      have hcons : utf8Bytes (c :: cs) = b :: utf8Bytes cs := by
        rw [utf8Bytes, List.flatMap_cons, hencode]
        rfl
      rw [hcons, List.foldl_cons, ih fun d hd => h d (List.mem_cons_of_mem _ hd),
        Nat.ofDigitChars_cons, hdigit]
  refine ⟨?_, ?_, hvalue 0, ?_⟩
  · rw [digitsOnly, List.all_eq_true]
    intro b hb
    obtain ⟨c, hc, hmem⟩ := List.mem_flatMap.mp hb
    obtain ⟨b', hencode, hrange, -⟩ := digit_byte (h c hc)
    rw [hencode, List.mem_singleton] at hmem
    rw [hmem]
    exact decide_eq_true hrange
  · rw [utf8Bytes, List.length_flatMap]
    have hone : ∀ c ∈ cs, (String.utf8EncodeChar c).length = 1 := by
      intro c hc
      obtain ⟨b, hencode, -⟩ := digit_byte (h c hc)
      rw [hencode]
      rfl
    rw [List.map_congr_left hone, List.map_const', List.sum_replicate, smul_eq_mul, mul_one]
  · cases cs with
    | nil => simp [utf8Bytes]
    | cons c cs =>
      obtain ⟨b, hencode, -, -, hzero⟩ := digit_byte (h c (List.mem_cons_self ..))
      have hcons : utf8Bytes (c :: cs) = b :: utf8Bytes cs := by
        rw [utf8Bytes, List.flatMap_cons, hencode]
        rfl
      rw [hcons, List.head?_cons, List.head?_cons, Option.some_inj, Option.some_inj]
      exact hzero

theorem exists_digits {digits : List UInt8} (h : digitsOnly digits = true) :
    ∃ cs, (∀ c ∈ cs, IsDigit c) ∧ utf8Bytes cs = digits := by
  induction digits with
  | nil => exact ⟨[], fun c hc => (List.not_mem_nil hc).elim, rfl⟩
  | cons b digits ih =>
    rw [digitsOnly, List.all_cons, Bool.and_eq_true, decide_eq_true_eq] at h
    obtain ⟨c, hc, hencode⟩ := byte_digit h.1
    obtain ⟨cs, hcs, rfl⟩ := ih h.2
    refine ⟨c :: cs, List.forall_mem_cons.mpr ⟨hc, hcs⟩, ?_⟩
    rw [utf8Bytes, List.flatMap_cons, hencode]
    rfl

def decimal (n : Nat) : List UInt8 := utf8Bytes (Nat.toDigits 10 n)

theorem waitQuery_ok {query : List UInt8} :
    waitQuery query = .ok () ↔ ∃ v ≤ 30000, query = waitKey ++ decimal v := by
  rw [waitQuery]
  constructor
  · intro h
    by_cases hkey : waitKey.isPrefixOf query = true
    · rw [if_pos hkey] at h
      obtain ⟨digits, rfl⟩ := List.isPrefixOf_iff_prefix.mp hkey
      rw [substr, List.drop_left] at h
      split at h
      · cases h
      · rename_i hshape
        simp only [not_or, not_and, Bool.not_eq_false] at hshape
        obtain ⟨hne, -, hzero, honly, hle⟩ := hshape
        obtain ⟨cs, hcs, rfl⟩ := exists_digits honly
        obtain ⟨-, hlength, hvalue, hhead⟩ := digits_bytes hcs
        have hcanonical := Executor.canonical hcs (fun h => hne (by rw [h]; rfl))
          (fun hlong h => hzero (by omega) (hhead.mpr h))
        refine ⟨Nat.ofDigitChars 10 cs 0, by omega, ?_⟩
        rw [decimal, hcanonical.1]
    · rw [if_neg hkey, if_pos (.inl rfl)] at h
      cases h
  · rintro ⟨v, hv, rfl⟩
    have hdigits : ∀ c ∈ Nat.toDigits 10 v, IsDigit c :=
      fun c hc => Executor.isDigit_of_mem_toDigits hc
    obtain ⟨honly, hlength, hvalue, hhead⟩ := digits_bytes hdigits
    have hfive : (Nat.toDigits 10 v).length ≤ 5 :=
      (Nat.length_toDigits_le_iff (by decide) (by decide)).mpr (by omega)
    have hpos : 0 < (Nat.toDigits 10 v).length := List.length_pos_iff.mpr Nat.toDigits_ne_nil
    have hlead : 1 < (Nat.toDigits 10 v).length → (Nat.toDigits 10 v).head? ≠ some '0' := by
      intro hlong
      apply Executor.toDigits_head
      apply Nat.pos_of_ne_zero
      intro hzero
      rw [hzero, Nat.toDigits_zero] at hlong
      exact absurd hlong (by decide)
    rw [if_pos (List.isPrefixOf_iff_prefix.mpr (List.prefix_append ..)), substr, List.drop_left,
      decimal, if_neg]
    rw [hlength, honly, hvalue, hhead, Nat.ofDigitChars_ten_toDigits]
    rintro (hnil | hlong | ⟨hlong, hzero⟩ | hother | hlarge)
    · rw [hnil] at hlength
      simp at hlength
      omega
    · omega
    · exact hlead hlong hzero
    · cases hother
    · omega

theorem waitQuery_error {query : List UInt8} {thrown : Thrown}
    (h : waitQuery query = .error thrown) : ∃ what, thrown = .invalidArgument what := by
  unfold waitQuery at h
  simp only at h
  generalize (if waitKey.isPrefixOf query = true then substr query waitKey.length none
    else []) = digits at h
  split at h
  · exact ⟨_, (Except.error.inj h).symm⟩
  · cases h

theorem cut_inj {c : UInt8} {word rest word' rest' : List UInt8} (h : c ∉ word) (h' : c ∉ word')
    (heq : word ++ c :: rest = word' ++ c :: rest') : word = word' ∧ rest = rest' := by
  have hfind : find (word ++ c :: rest) c 0 = some (0 + word.length) := find_some [] h
  have hfind' : find (word' ++ c :: rest') c 0 = some (0 + word'.length) := find_some [] h'
  rw [heq, hfind'] at hfind
  have hlength : word.length = word'.length := by
    have := Option.some.inj hfind
    omega
  obtain ⟨hword, hrest⟩ := List.append_inj heq hlength
  exact ⟨hword, (List.cons.inj hrest).2⟩

/-- a target of `/v1/describe` that is accepted -/
def Described (target : List UInt8) : Prop :=
  target = describePath ∨ ∃ v ≤ 30000, target = describePath ++ 63 :: (waitKey ++ decimal v)

section
variable {request : DomainRequest}

theorem describes_plain (h : 63 ∉ request.target) : Host.describes request =
    if request.method = "GET" ∧ request.target = describePath then .ok true else .ok false := by
  have hfind : find request.target 63 0 = none := find_none [] h
  rw [Host.describes, hfind]
  simp only [substr, List.drop_zero]

theorem describes_query {path query : List UInt8} (htarget : request.target = path ++ 63 :: query)
    (h : 63 ∉ path) : Host.describes request =
      if request.method = "GET" ∧ path = describePath then (waitQuery query).map fun _ => true
      else .ok false := by
  have hfind : find (path ++ 63 :: query) 63 0 = some (0 + path.length) := find_some [] h
  have hword : substr (path ++ 63 :: query) 0 (some path.length) = path := substr_word []
  have hrest : substr (path ++ 63 :: query) (0 + path.length + 1) none = query := substr_rest []
  rw [Nat.zero_add] at hfind hrest
  rw [← htarget] at hfind hword hrest
  rw [Host.describes, hfind]
  simp only [hword, hrest]

theorem describes_ok :
    Host.describes request = .ok true ↔ request.method = "GET" ∧ Described request.target := by
  have hpath : (63 : UInt8) ∉ describePath := by decide
  rcases cut_or 63 request.target with hplain | ⟨path, query, htarget, hcut⟩
  · rw [describes_plain hplain]
    have hdescribed : Described request.target ↔ request.target = describePath := by
      refine ⟨?_, .inl⟩
      rintro (heq | ⟨v, -, heq⟩)
      · exact heq
      · rw [heq] at hplain
        exact absurd (by simp) hplain
    rw [hdescribed]
    by_cases hdescribe : request.method = "GET" ∧ request.target = describePath
    · rw [if_pos hdescribe]
      exact ⟨fun _ => hdescribe, fun _ => rfl⟩
    · rw [if_neg hdescribe]
      constructor
      · intro h
        cases h
      · intro h
        exact absurd h hdescribe
  · rw [describes_query htarget hcut]
    have hdescribed : Described request.target ↔ path = describePath ∧ waitQuery query = .ok () := by
      rw [Described, htarget, waitQuery_ok]
      constructor
      · rintro (heq | ⟨v, hv, heq⟩)
        · rw [← heq] at hpath
          exact absurd (by simp) hpath
        · obtain ⟨rfl, rfl⟩ := cut_inj hcut hpath heq
          exact ⟨rfl, v, hv, rfl⟩
      · rintro ⟨rfl, v, hv, rfl⟩
        exact .inr ⟨v, hv, rfl⟩
    rw [hdescribed]
    by_cases hdescribe : request.method = "GET" ∧ path = describePath
    · rw [if_pos hdescribe]
      cases hquery : waitQuery query with
      | ok _ => exact ⟨fun _ => ⟨hdescribe.1, hdescribe.2, rfl⟩, fun _ => rfl⟩
      | error thrown =>
        constructor
        · intro h
          cases h
        · rintro ⟨-, -, h⟩
          cases h
    · rw [if_neg hdescribe]
      constructor
      · intro h
        cases h
      · rintro ⟨hmethod, hpath, -⟩
        exact absurd ⟨hmethod, hpath⟩ hdescribe

theorem describes_error {thrown : Thrown} (h : Host.describes request = .error thrown) :
    (∃ what, thrown = .invalidArgument what) ∧ describePath <+: request.target := by
  rcases cut_or 63 request.target with hplain | ⟨path, query, htarget, hcut⟩
  · rw [describes_plain hplain] at h
    split at h
    · cases h
    · cases h
  · rw [describes_query htarget hcut] at h
    split at h
    · rename_i hdescribe
      rw [htarget, hdescribe.2]
      refine ⟨?_, List.prefix_append ..⟩
      cases hquery : waitQuery query with
      | ok _ =>
        rw [hquery] at h
        cases h
      | error refused =>
        rw [hquery] at h
        obtain rfl : refused = thrown := Except.error.inj h
        exact waitQuery_error hquery
    · cases h

theorem Described.starts (h : Described request.target) : describePath <+: request.target := by
  rcases h with heq | ⟨v, -, heq⟩
  · rw [heq]
  · rw [heq]
    exact List.prefix_append ..

end

/-! ## what is delivered, and what is answered -/

section
variable {H : Type}

/-- the target addresses an operation of the source with the handler -/
def Addressed (sources : SourceMap H) (target : List UInt8) (handler : H)
    (operation : List UInt8) : Prop :=
  ∃ id, target = routePrefix ++ (id ++ 47 :: operation) ∧ 47 ∉ id ∧
    safeSourceIdentifier id = true ∧ operation ≠ [] ∧ sources.lookup id = some handler

/-- the request asks for the sources, or for the description of the host -/
def Discovery (request : DomainRequest) (input : Json) : Prop :=
  request.method = "GET" ∧ input.fields = [] ∧
    (request.target = discoveryPath ∨ Described request.target)

/-- what `Dispatch` makes of a request: an addressed source gets it, and any other request is
answered at once -/
structure Delivered (host : Host) (slots : List (Source H)) (sources : SourceMap H)
    (throws : H → List UInt8 → DomainRequest → Json → Option Thrown) (request : DomainRequest)
    (input : Json) (effects : List (Effect H)) : Prop where
  delivered : ∀ handler operation, Addressed sources request.target handler operation →
    effects = .invoke handler operation request input ::
      ((throws handler operation request input).map fun thrown =>
        .complete thrown.response).toList
  invoked : ∀ handler operation request' input',
    .invoke handler operation request' input' ∈ effects →
      Addressed sources request.target handler operation
  answered : (∀ handler operation, ¬ Addressed sources request.target handler operation) →
    ∃ response, effects = [.complete response] ∧
      (Discovery request input → ∃ describe, response = .json (host.discovery slots describe) 200 ∧
        (describe = true ↔ request.target ≠ discoveryPath)) ∧
      (¬ Discovery request input → response.status = 400 ∨ response.status = 404)

theorem Represents.find {slots : List (Source H)} {sources : SourceMap H} {id : List UInt8}
    (h : Represents slots sources) (hne : id ≠ []) :
    slots.find? (fun source : Source H => source.id = id) =
      (sources.lookup id).map (Source.mk id) := by
  cases hfind : slots.find? (fun source : Source H => source.id = id) with
  | none =>
    have hnone : sources.lookup id = none := by
      rw [Option.eq_none_iff_forall_ne_some]
      intro handler hlookup
      have hmem := (mem_occupied.mp ((h.lookup id handler).mp hlookup)).1
      have hother := List.find?_eq_none.mp hfind _ hmem
      simp at hother
    rw [hnone]
    rfl
  | some source =>
    have hid : source.id = id := by simpa using List.find?_some hfind
    subst hid
    have hmem := mem_occupied.mpr ⟨List.mem_of_find?_eq_some hfind, hne⟩
    rw [(h.lookup source.id source.handler).mpr hmem]
    rfl

theorem addressed_starts {sources : SourceMap H} {target operation : List UInt8} {handler : H}
    (h : Addressed sources target handler operation) : routePrefix <+: target := by
  obtain ⟨id, rfl, -⟩ := h
  exact List.prefix_append ..

theorem not_both {target : List UInt8} (h : describePath <+: target) (h' : routePrefix <+: target) :
    False := by
  have hshort : describePath <+: routePrefix :=
    List.prefix_of_prefix_length_le h h' (by decide)
  exact absurd hshort (by decide)

/-- a handler is called, or the answer is made, and the reply is completed -/
def completed (respond : List (Effect H) × Option Thrown) : List (Effect H) :=
  respond.1 ++ (respond.2.map fun thrown => .complete thrown.response).toList

section
variable {slots : List (Source H)} {sources : SourceMap H} {request : DomainRequest} {input : Json}
  {throws : H → List UInt8 → DomainRequest → Json → Option Thrown}

theorem deliver_addressed (h : Represents slots sources) {handler : H} {operation : List UInt8}
    (haddressed : Addressed sources request.target handler operation) :
    Host.deliver slots throws request input = ([.invoke handler operation request input],
      throws handler operation request input) := by
  have hstarts := addressed_starts haddressed
  obtain ⟨id, htarget, hslash, hsafe, hoperation, hlookup⟩ := haddressed
  have hroute : sourceRoute request.target = (id, operation) := by
    rw [htarget]
    exact sourceRoute_eq hslash
  have hunsafe : ¬ safeSourceIdentifier id = false := by simp [hsafe]
  have hreject : ¬ routePrefix.isPrefixOf request.target = false := by
    rw [List.isPrefixOf_iff_prefix.mpr hstarts]
    decide
  rw [Host.deliver, if_neg hreject, hroute]
  simp only
  rw [if_neg hoperation, if_neg hunsafe, h.find (ne_nil_of_safe hsafe), hlookup]
  rfl

theorem deliver_refused (h : Represents slots sources)
    (hnone : ∀ handler operation, ¬ Addressed sources request.target handler operation) :
    ∃ response : HostResponse, completed (Host.deliver slots throws request input) =
      [.complete response] ∧ (response.status = 400 ∨ response.status = 404) := by
  rw [Host.deliver]
  by_cases hroute : routePrefix.isPrefixOf request.target = false
  · rw [if_pos hroute]
    exact ⟨_, rfl, .inr rfl⟩
  rw [if_neg hroute]
  have hroute' : routePrefix <+: request.target :=
    List.isPrefixOf_iff_prefix.mp (by simpa using hroute)
  obtain ⟨tail, htail⟩ := hroute'
  rcases cut_or 47 tail with hslash | ⟨id, operation, rfl, hslash⟩
  · rw [← htail, sourceRoute_none hslash]
    exact ⟨_, rfl, .inr rfl⟩
  rw [show sourceRoute request.target = (id, operation) from htail ▸ sourceRoute_eq hslash]
  simp only
  by_cases hoperation : operation = []
  · rw [if_pos hoperation]
    exact ⟨_, rfl, .inr rfl⟩
  rw [if_neg hoperation]
  by_cases hunsafe : safeSourceIdentifier id = false
  · rw [if_pos hunsafe]
    exact ⟨_, rfl, .inl rfl⟩
  rw [if_neg hunsafe]
  have hsafe : safeSourceIdentifier id = true := by simpa using hunsafe
  cases hlookup : sources.lookup id with
  | none =>
    rw [h.find (ne_nil_of_safe hsafe), hlookup]
    exact ⟨_, rfl, .inr rfl⟩
  | some handler =>
    exact absurd ⟨id, htail.symm, hslash, hsafe, hoperation, hlookup⟩ (hnone handler operation)

theorem completed_dispatch {host : Host} {reader : List UInt8 → Option Json}
    (hbody : parseControlJSON reader request.body = .ok input) :
    host.dispatch slots reader throws request =
      completed (host.respond slots throws request input) := by
  rw [Host.dispatch, hbody]
  rfl

theorem respond_addressed {host : Host} {handler : H} {operation : List UInt8}
    (haddressed : Addressed sources request.target handler operation) :
    host.respond slots throws request input = Host.deliver slots throws request input := by
  have hroute := addressed_starts haddressed
  have hdiscovery : request.target ≠ discoveryPath := by
    intro heq
    rw [heq] at hroute
    exact absurd hroute (by decide)
  rw [Host.respond]
  cases hdescribes : Host.describes request with
  | error thrown => exact (not_both (describes_error hdescribes).2 hroute).elim
  | ok describe =>
    cases describe with
    | true => exact (not_both (describes_ok.mp hdescribes).2.starts hroute).elim
    | false =>
      simp only
      rw [if_neg (by simp [hdiscovery])]

theorem dispatch_delivers (h : Represents slots sources) {host : Host}
    {reader : List UInt8 → Option Json}
    (hbody : parseControlJSON reader request.body = .ok input) :
    Delivered host slots sources throws request input
      (host.dispatch slots reader throws request) := by
  rw [completed_dispatch hbody]
  have hdelivered : ∀ handler operation, Addressed sources request.target handler operation →
      completed (host.respond slots throws request input) =
        .invoke handler operation request input ::
          ((throws handler operation request input).map fun thrown =>
            .complete thrown.response).toList := by
    intro handler operation haddressed
    rw [respond_addressed haddressed, deliver_addressed h haddressed]
    rfl
  have hanswered : (∀ handler operation, ¬ Addressed sources request.target handler operation) →
      ∃ response, completed (host.respond slots throws request input) = [.complete response] ∧
        (Discovery request input →
          ∃ describe, response = .json (host.discovery slots describe) 200 ∧
            (describe = true ↔ request.target ≠ discoveryPath)) ∧
        (¬ Discovery request input → response.status = 400 ∨ response.status = 404) := by
    intro hnone
    rw [Host.respond]
    cases hdescribes : Host.describes request with
    | error thrown =>
      obtain ⟨⟨what, rfl⟩, hdescribe⟩ := describes_error hdescribes
      refine ⟨_, rfl, ?_, fun _ => .inl rfl⟩
      rintro ⟨hmethod, -, htarget | htarget⟩
      · rw [htarget] at hdescribe
        exact absurd hdescribe (by decide)
      · rw [describes_ok.mpr ⟨hmethod, htarget⟩] at hdescribes
        cases hdescribes
    | ok describe =>
      simp only
      by_cases hask : describe = true ∨ request.method = "GET" ∧ request.target = discoveryPath
      · rw [if_pos hask]
        have hmethod : request.method = "GET" := by
          rcases hask with rfl | hask
          · exact (describes_ok.mp hdescribes).1
          · exact hask.1
        have htarget : request.target = discoveryPath ∨ Described request.target := by
          rcases hask with rfl | hask
          · exact .inr (describes_ok.mp hdescribes).2
          · exact .inl hask.2
        by_cases hbody : input.fields = []
        · rw [if_neg (by simp [hbody])]
          refine ⟨_, rfl, fun _ => ⟨describe, rfl, ?_⟩, fun hno => ?_⟩
          · constructor
            · rintro rfl heq
              have hroute := (describes_ok.mp hdescribes).2.starts
              rw [heq] at hroute
              exact absurd hroute (by decide)
            · intro hne
              exact hask.resolve_right fun hask => hne hask.2
          · exact absurd ⟨hmethod, hbody, htarget⟩ hno
        · rw [if_pos hbody]
          refine ⟨_, rfl, ?_, fun _ => .inl rfl⟩
          rintro ⟨-, hempty, -⟩
          exact absurd hempty hbody
      · rw [if_neg hask]
        obtain ⟨response, heffects, hstatus⟩ := deliver_refused h hnone
        refine ⟨response, heffects, ?_, fun _ => hstatus⟩
        rintro ⟨hmethod, -, htarget | htarget⟩
        · exact absurd (.inr ⟨hmethod, htarget⟩) hask
        · rw [describes_ok.mpr ⟨hmethod, htarget⟩] at hdescribes
          exact absurd (.inl (Except.ok.inj hdescribes).symm) hask
  refine ⟨hdelivered, ?_, hanswered⟩
  intro handler operation request' input' hmem
  by_cases hnone : ∀ handler operation, ¬ Addressed sources request.target handler operation
  · obtain ⟨response, heffects, -⟩ := hanswered hnone
    rw [heffects, List.mem_singleton] at hmem
    cases hmem
  · simp only [not_forall, not_not] at hnone
    obtain ⟨handler', operation', haddressed⟩ := hnone
    rw [hdelivered handler' operation' haddressed, List.mem_cons] at hmem
    rcases hmem with heq | hmem
    · obtain ⟨rfl, rfl, -, -⟩ := Effect.invoke.inj heq
      exact haddressed
    · simp at hmem

end

/-! ## any sequence of calls, and any request -/

variable [Inhabited H]

/-- after these calls the roster is a finite map, and requests reach what it holds -/
structure RoutesExactly (calls : List (RosterCall H)) : Prop where
  bounded : (registered calls).keys.card ≤ 16
  safe : ∀ source_id ∈ registered calls, safeSourceIdentifier source_id = true
  held : Represents (roster calls) (registered calls)
  fails : ∀ source_id handler, (Host.register (roster calls) source_id handler).2 ≠ none ↔
    safeSourceIdentifier source_id = false ∨ source_id ∈ registered calls ∨
      (registered calls).keys.card = 16
  unchanged : ∀ source_id handler, (Host.register (roster calls) source_id handler).2 ≠ none →
    (Host.register (roster calls) source_id handler).1 = roster calls
  adds : ∀ source_id handler, (Host.register (roster calls) source_id handler).2 = none →
    registered (calls ++ [.register source_id handler]) =
      (registered calls).insert source_id handler
  removes : ∀ source_id, registered (calls ++ [.unregister source_id]) =
    (registered calls).erase source_id
  latest : ∀ source_id handler,
    (registered calls).lookup source_id = some handler ↔ Latest calls source_id handler
  delivers : ∀ (host : Host) (reader : List UInt8 → Option Json)
    (throws : H → List UInt8 → DomainRequest → Json → Option Thrown) (request : DomainRequest)
    (input : Json), parseControlJSON reader request.body = .ok input →
      Delivered host (roster calls) (registered calls) throws request input
        (host.dispatch (roster calls) reader throws request)

/-- **Routing** delivers to exactly the addressed registered source. -/
theorem routing (calls : List (RosterCall H)) : RoutesExactly calls := by
  have hheld := roster_represents calls
  have hfails : ∀ source_id handler, (Host.register (roster calls) source_id handler).2 ≠ none ↔
      ¬ Registrable (registered calls) source_id := by
    intro source_id handler
    constructor
    · intro hthrows hregistrable
      exact hthrows (hheld.register hregistrable).1
    · intro hregistrable
      exact (hheld.refused hregistrable).1
  constructor
  case bounded => exact hheld.card_le
  case safe => exact hheld.safe
  case held => exact hheld
  case fails =>
    intro source_id handler
    have hbounded := hheld.card_le
    rw [hfails, Registrable, kSources, not_and_or, not_and_or, not_not, Bool.not_eq_true]
    rw [kSources] at hbounded
    have hfull : ¬ (registered calls).keys.card < 16 ↔ (registered calls).keys.card = 16 := by
      omega
    rw [hfull]
  case unchanged =>
    intro source_id handler hthrows
    exact (hheld.refused ((hfails source_id handler).mp hthrows)).2
  case adds =>
    intro source_id handler hthrows
    have hregistrable : Registrable (registered calls) source_id := by
      by_contra hregistrable
      exact (hfails source_id handler).mpr hregistrable hthrows
    rw [registered_append]
    exact if_pos hregistrable
  case removes =>
    intro source_id
    exact registered_append calls _
  case latest =>
    intro source_id handler
    exact lookup_registered
  case delivers =>
    intro host reader throws request input hbody
    exact dispatch_delivers hheld hbody

end

example : (registered [.register (utf8Bytes "front".toList) 1,
    .register (utf8Bytes "front".toList) 2, .unregister (utf8Bytes "front".toList),
    .register (utf8Bytes "front".toList) 3]).lookup (utf8Bytes "front".toList) = some 3 := by
  decide

end MediaCamera
