import MediaCamera.Ros.Branch

/-!
# Request documents

JSON values as the control server hands them to `HandleControlRequest` (an object's fields in key
order, distinct names), with the accessors that the request handler uses, and the checks of the
two documents with content of their own:

* `requireFields`           unknown fields are refused by name;
* `jpegQuality`             the `jpeg_quality` of a configuration;
* `CalibrationDocument.parse`   the `calibration` of a configuration, and `record`, the native
                            record of an accepted document.

The checks stop at the first failure, in the order of the source, with the source's message.
-/

namespace MediaCamera

/-- the three numeric JSON types -/
inductive Number where
  | int (n : Int)
  | uint (n : Nat)
  | real (x : Double)
  deriving DecidableEq, Repr

inductive Json where
  | null
  | bool (b : Bool)
  | number (n : Number)
  | string (s : String)
  | array (l : List Json)
  | object (fields : List (String × Json))

/-- an integer from `2 ^ 53` on, rounded to 53 significant bits, ties to even -/
def roundMantissa (m : Nat) : Nat :=
  let shift := m.log2 + 1 - 53
  let q := m / 2 ^ shift
  let r := m % 2 ^ shift
  (if 2 ^ shift < 2 * r ∨ (2 ^ shift = 2 * r ∧ q % 2 = 1) then q + 1 else q) * 2 ^ shift

def Double.ofInt (n : Int) : Double :=
  if n.natAbs < 2 ^ 53 then .finite n else .finite (n.sign * (roundMantissa n.natAbs : Nat))

namespace Number

/-- `isUInt64` of a value of an integral type -/
def uint64? : Number → Option Nat
  | .int n => if 0 ≤ n then some n.toNat else none
  | .uint n => some n
  | .real _ => none

def uint32? (x : Number) : Option Nat := x.uint64?.filter (· < 2 ^ 32)

def int32? : Number → Option Int
  | .int n => if -2 ^ 31 ≤ n ∧ n < 2 ^ 31 then some n else none
  | .uint n => if n < 2 ^ 31 then some n else none
  | .real _ => none

def asDouble : Number → Double
  | .int n => .ofInt n
  | .uint n => .ofInt n
  | .real x => x

end Number

namespace Json

def fields : Json → List (String × Json)
  | object fields => fields
  | _ => []

def isObject : Json → Bool
  | object _ => true
  | _ => false

def get? (input : Json) (field : String) : Option Json := input.fields.lookup field

def isMember (input : Json) (field : String) : Bool := (input.get? field).isSome

def bool? : Json → Option Bool
  | bool b => some b
  | _ => none

def string? : Json → Option String
  | string s => some s
  | _ => none

def number? : Json → Option Number
  | number n => some n
  | _ => none

def array? : Json → Option (List Json)
  | array l => some l
  | _ => none

end Json

def requireFields (input : Json) (allowed : List String) : Except String Unit :=
  match input.fields.find? (fun field => field.1 ∉ allowed) with
  | some field => .error ("unknown camera request field: " ++ field.1)
  | none => .ok ()

def jpegQuality (value : Json) : Except String Int :=
  match value.number?.bind (·.int32?) with
  | some quality =>
    if 50 ≤ quality ∧ quality ≤ 100 then .ok quality else .error "jpeg_quality must be 50 through 100"
  | none => .error "jpeg_quality must be 50 through 100"

/-! ## calibration -/

/-- `calibration["model"]` with its coefficient count -/
def DistortionModel.parse : String → Option DistortionModel
  | "plumb_bob" => some .plumbBob
  | "rational_polynomial" => some .rationalPolynomial
  | "equidistant" => some .equidistant
  | _ => none

def DistortionModel.distortionCount : DistortionModel → Nat
  | plumbBob => 5
  | rationalPolynomial => 8
  | equidistant => 4

/-- a calibration object that passed the checks; its `scope` is always `calibration-metadata` -/
structure CalibrationDocument where
  model : DistortionModel
  width : Nat
  height : Nat
  camera_matrix : List Number
  distortion : List Number
  deriving DecidableEq, Repr

/-- the native record of a document, under the revision of the mutation that carries it -/
def CalibrationDocument.record (document : CalibrationDocument) (revision : Nat) :
    NativeCalibrationMetadata where
  revision := revision
  width := document.width
  height := document.height
  model := document.model
  matrix := document.camera_matrix.map (·.asDouble)
  distortion := document.distortion.map (·.asDouble)

def coefficient (value : Json) : Except String Number :=
  match value.number? with
  | some n =>
    match n.asDouble with
    | .finite _ => .ok n
    | .nonfinite => .error "calibration coefficients must be finite numbers"
  | none => .error "calibration coefficients must be finite numbers"

/-- positive focal lengths and a homogeneous bottom row -/
def cameraMatrixOk (matrix : List Double) : Bool :=
  match matrix with
  | [.finite fx, _, _, _, .finite fy, _, .finite h0, .finite h1, .finite h2] =>
    decide (0 < fx ∧ 0 < fy ∧ h0 = 0 ∧ h1 = 0 ∧ h2 = 1)
  | _ => false

/-- the calibration checks of `PATCH /config` on a stream of `streamWidth` x `streamHeight` -/
def CalibrationDocument.parse (streamWidth streamHeight : Nat) (calibration : Json) :
    Except String CalibrationDocument := do
  if !calibration.isObject then throw "calibration must be an object"
  requireFields calibration ["scope", "model", "width", "height", "camera_matrix", "distortion"]
  let some scope := (calibration.get? "scope").bind (·.string?)
    | throw "calibration scope/size must match the native source"
  let some modelName := (calibration.get? "model").bind (·.string?)
    | throw "calibration scope/size must match the native source"
  let some width := (calibration.get? "width").bind (·.number?) |>.bind (·.uint32?)
    | throw "calibration scope/size must match the native source"
  let some height := (calibration.get? "height").bind (·.number?) |>.bind (·.uint32?)
    | throw "calibration scope/size must match the native source"
  if scope ≠ "calibration-metadata" ∨ width ≠ streamWidth ∨ height ≠ streamHeight then
    throw "calibration scope/size must match the native source"
  let some model := DistortionModel.parse modelName
    | throw "unsupported calibration distortion model"
  let some matrix := (calibration.get? "camera_matrix").bind (·.array?)
    | throw "calibration matrix/distortion dimensions differ from its model"
  let some distortion := (calibration.get? "distortion").bind (·.array?)
    | throw "calibration matrix/distortion dimensions differ from its model"
  if matrix.length ≠ 9 ∨ distortion.length ≠ model.distortionCount then
    throw "calibration matrix/distortion dimensions differ from its model"
  let matrix ← matrix.mapM coefficient
  let distortion ← distortion.mapM coefficient
  if !cameraMatrixOk (matrix.map (·.asDouble)) then
    throw "calibration camera matrix must have positive focal lengths and homogeneous bottom row"
  return ⟨model, width, height, matrix, distortion⟩

/-! ## equality of documents -/

mutual

def Json.decEq : (x y : Json) → Decidable (x = y)
  | .null, .null => .isTrue rfl
  | .bool b, .bool c => decidable_of_iff (b = c) (by simp)
  | .number m, .number n => decidable_of_iff (m = n) (by simp)
  | .string s, .string t => decidable_of_iff (s = t) (by simp)
  | .array l, .array m =>
    have := Json.decEqList l m
    decidable_of_iff (l = m) (by simp)
  | .object l, .object m =>
    have := Json.decEqFields l m
    decidable_of_iff (l = m) (by simp)
  | .null, .bool _ | .null, .number _ | .null, .string _ | .null, .array _ | .null, .object _
  | .bool _, .null | .bool _, .number _ | .bool _, .string _ | .bool _, .array _
  | .bool _, .object _
  | .number _, .null | .number _, .bool _ | .number _, .string _ | .number _, .array _
  | .number _, .object _
  | .string _, .null | .string _, .bool _ | .string _, .number _ | .string _, .array _
  | .string _, .object _
  | .array _, .null | .array _, .bool _ | .array _, .number _ | .array _, .string _
  | .array _, .object _
  | .object _, .null | .object _, .bool _ | .object _, .number _ | .object _, .string _
  | .object _, .array _ => .isFalse (by simp)

def Json.decEqList : (l m : List Json) → Decidable (l = m)
  | [], [] => .isTrue rfl
  | x :: l, y :: m =>
    have := Json.decEq x y
    have := Json.decEqList l m
    decidable_of_iff (x = y ∧ l = m) (by simp)
  | [], _ :: _ | _ :: _, [] => .isFalse (by simp)

def Json.decEqFields : (l m : List (String × Json)) → Decidable (l = m)
  | [], [] => .isTrue rfl
  | (s, x) :: l, (t, y) :: m =>
    have := Json.decEq x y
    have := Json.decEqFields l m
    decidable_of_iff (s = t ∧ x = y ∧ l = m) (by simp [and_assoc])
  | [], _ :: _ | _ :: _, [] => .isFalse (by simp)

end

instance : DecidableEq Json := Json.decEq

end MediaCamera
