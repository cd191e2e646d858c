import MediaCamera.Client.SourceIdentity
import MediaCamera.Control.Json

/-!
# Intrinsics of the publisher

The metadata publisher checks its parameters and the frozen intrinsic document once, at startup, and
then sends the result to the source until the source accepts it.

* `Python`                 the conversions and the float arithmetic that are not modelled further;
* `configuredIntrinsics`   the checks at startup; `none` where they raise;
* `calibrationRequest`      what `_apply_camera_info_metadata` sends;
* `intrinsics_accepted`    the source accepts it iff the bottom row is homogeneous and the focal
                           length finite: two checks that the publisher leaves out.
-/

namespace MediaCamera

def mathPi : ℚ := 884279719003555 / 281474976710656

/-- conversions and float arithmetic; `none` where Python raises -/
structure Python where
  float : Json → Option Double
  int : Json → Option Int
  radians : Double → Double
  /-- `width / (2.0 * math.tan(horizontal_fov / 2.0))` -/
  focalLength : Int → ℚ → Option Double
  /-- `(size - 1.0) / 2.0` -/
  center : Int → Option Double
  focal_pos : ∀ width fov x, 0 < width → 0 < fov → fov < mathPi →
    focalLength width fov = some (.finite x) → 0 < x
  center_exact : ∀ size, 0 < size → size < 2 ^ 32 →
    center size = some (.finite ((size - 1) / 2))

/-- the parameters of the node, the values of its profile, and the document in `~intrinsic_json` -/
structure CameraParameters where
  width : Json
  height : Json
  hfov_degrees : Json
  width_px : Json
  height_px : Json
  horizontal_fov_degrees : Json
  camera_name : String
  intrinsic : Option Json

structure Intrinsics where
  width : Int
  height : Int
  camera_matrix : List Double
  distortion : List Double
  model : String
  deriving DecidableEq

/-! ## the checks at startup -/

def ensure (c : Prop) [Decidable c] : Option Unit := if c then some () else none

theorem ensure_some {c : Prop} [Decidable c] {u : Unit} : ensure c = some u ↔ c := by
  simp [ensure]

def pyEquals (value : Option Json) (n : Int) : Bool :=
  match value with
  | some (.number (.int k)) => k == n
  | some (.number (.uint k)) => (k : Int) == n
  | some (.number (.real (.finite q))) => q == n
  | some (.bool b) => (if b then 1 else 0) == n
  | _ => false

/-- the value of an instance of `int` -/
def pyInt : Json → Option Int
  | .number (.int k) => some k
  | .number (.uint k) => some k
  | .bool b => some (if b then 1 else 0)
  | _ => none

/-- `expected_cols` or `minimum_cols` -/
inductive Columns where
  | expected (cols : Nat)
  | minimum (cols : Nat)

def Columns.check (columns : Columns) (cols : Option Json) : Option Int :=
  match columns with
  | .expected n => if pyEquals cols n then some n else none
  | .minimum n => (cols.bind pyInt).filter (fun k => decide ((n : Int) ≤ k))

def matrixData (py : Python) (document : Json) (field : String) (expectedRows : Nat)
    (columns : Columns) : Option (List Double) := do
  let matrix ← (document.get? field).filter (·.isObject)
  ensure (pyEquals (matrix.get? "rows") expectedRows = true)
  let cols ← columns.check (matrix.get? "cols")
  let data ← (matrix.get? "data").bind (·.array?)
  ensure ((data.length : Int) = expectedRows * cols)
  let values ← data.mapM py.float
  ensure (.nonfinite ∉ values)
  return values

/-- `_profile_value`: the argument, or the value of the profile -/
def profileValue (argument fallback : Json) : Json :=
  if argument.string? = some "profile" then fallback else argument

/-- the coefficients of a model -/
def counts : String → Option Nat
  | "plumb_bob" => some 5
  | "rational_polynomial" => some 8
  | "equidistant" => some 4
  | _ => none

def focalPositive (matrix : List Double) : Bool :=
  match matrix.getD 0 .nonfinite, matrix.getD 4 .nonfinite with
  | .finite fx, .finite fy => decide (0 < fx ∧ 0 < fy)
  | _, _ => false

def frozenIntrinsics (py : Python) (document : Json) (width height : Int) (cameraName : String) :
    Option Intrinsics := do
  ensure (document.isObject = true)
  ensure ((document.get? "camera_name").bind (·.string?) = some cameraName)
  ensure (pyEquals (document.get? "image_width") width = true ∧
    pyEquals (document.get? "image_height") height = true)
  let matrix ← matrixData py document "camera_matrix" 3 (.expected 3)
  let distortion ← matrixData py document "distortion_coefficients" 1 (.minimum 4)
  let model ← (document.get? "distortion_model").bind (·.string?)
  let count ← counts model
  ensure (distortion.length = count ∧ focalPositive matrix = true)
  return ⟨width, height, matrix, distortion, model⟩

/-- the focal length of the field of view; `none` where the sizes or the field of view are refused -/
def profileFocalLength (py : Python) (params : CameraParameters) : Option (Int × Int × Double) := do
  let width ← py.int (profileValue params.width params.width_px)
  let height ← py.int (profileValue params.height params.height_px)
  let degrees ← py.float (profileValue params.hfov_degrees params.horizontal_fov_degrees)
  ensure (0 < width ∧ 0 < height)
  match py.radians degrees with
  | .nonfinite => none
  | .finite fov =>
    ensure (0 < fov ∧ fov < mathPi)
    return (width, height, ← py.focalLength width fov)

def configuredIntrinsics (py : Python) (params : CameraParameters) : Option Intrinsics := do
  let (width, height, focal) ← profileFocalLength py params
  let cx ← py.center width
  let cy ← py.center height
  let cameraName ← stableCameraName params.camera_name.toList
  match params.intrinsic with
  | some document => frozenIntrinsics py document width height (String.ofList cameraName)
  | none => return ⟨width, height,
      [focal, .finite 0, cx, .finite 0, focal, cy, .finite 0, .finite 0, .finite 1],
      List.replicate 5 (.finite 0), "plumb_bob"⟩

/-- the `calibration` of the request; an infinite number is no JSON, and refused as well -/
def calibrationRequest (intrinsics : Intrinsics) : Json :=
  let reals (values : List Double) : Json := .array (values.map fun x => .number (.real x))
  .object [("camera_matrix", reals intrinsics.camera_matrix),
    ("distortion", reals intrinsics.distortion), ("height", .number (.int intrinsics.height)),
    ("model", .string intrinsics.model), ("scope", .string "calibration-metadata"),
    ("width", .number (.int intrinsics.width))]

/-! ## what the source makes of it -/

def realNumbers (values : List Double) : List Json := values.map fun x => .number (.real x)

theorem coefficients_finite {values : List Double} (h : .nonfinite ∉ values) :
    (realNumbers values).mapM coefficient = .ok (values.map .real) := by
  induction values with
  | nil => rfl
  | cons x values ih =>
    cases x with
    | nonfinite => exact absurd (List.mem_cons_self ..) h
    | finite q =>
      have hrest := ih fun hmem => h (List.mem_cons_of_mem _ hmem)
      have hcons : realNumbers (.finite q :: values) =
          .number (.real (.finite q)) :: realNumbers values := rfl
      rw [hcons, List.mapM_cons, hrest]
      rfl

theorem coefficients_nonfinite {values : List Double} (h : .nonfinite ∈ values) :
    (realNumbers values).mapM coefficient =
      .error "calibration coefficients must be finite numbers" := by
  induction values with
  | nil => cases h
  | cons x values ih =>
    have hcons : realNumbers (x :: values) = .number (.real x) :: realNumbers values := rfl
    rw [hcons, List.mapM_cons]
    cases x with
    | nonfinite => rfl
    | finite q =>
      rcases List.mem_cons.mp h with h | h
      · cases h
      · rw [ih h]
        rfl

section
variable {i : Intrinsics} {streamWidth streamHeight : Nat} {model : DistortionModel}

theorem uint32_size {size : Int} {n : Nat} (h : size = n) (hlt : n < 2 ^ 32) :
    (Number.int size).uint32? = some n := by
  subst h
  have hlt : n < 4294967296 := hlt
  simp [Number.uint32?, Number.uint64?, hlt]

theorem parse_calibrationRequest (hwidth : i.width = streamWidth) (hheight : i.height = streamHeight)
    (hsize : streamWidth < 2 ^ 32 ∧ streamHeight < 2 ^ 32)
    (hmodel : DistortionModel.parse i.model = some model) (hmatrix : i.camera_matrix.length = 9)
    (hcount : i.distortion.length = model.distortionCount) (hfinite : .nonfinite ∉ i.distortion) :
    (∃ document, CalibrationDocument.parse streamWidth streamHeight (calibrationRequest i) =
        .ok document) ↔
      .nonfinite ∉ i.camera_matrix ∧ cameraMatrixOk i.camera_matrix = true := by
  have hfields : CalibrationDocument.parse streamWidth streamHeight (calibrationRequest i) = do
      let matrix ← (realNumbers i.camera_matrix).mapM coefficient
      let distortion ← (realNumbers i.distortion).mapM coefficient
      if !cameraMatrixOk (matrix.map (·.asDouble)) then
        throw "calibration camera matrix must have positive focal lengths and homogeneous bottom row"
      return ⟨model, streamWidth, streamHeight, matrix, distortion⟩ := by
    have hw := uint32_size hwidth hsize.1
    have hh := uint32_size hheight hsize.2
    have hlengths : ¬ ((realNumbers i.camera_matrix).length ≠ 9 ∨
        (realNumbers i.distortion).length ≠ model.distortionCount) := by
      simp [realNumbers, hmatrix, hcount]
    have hsame : ¬ ("calibration-metadata" ≠ "calibration-metadata" ∨ streamWidth ≠ streamWidth ∨
        streamHeight ≠ streamHeight) := by simp
    have hobject : (calibrationRequest i).isObject = true := rfl
    have hallowed : requireFields (calibrationRequest i)
        ["scope", "model", "width", "height", "camera_matrix", "distortion"] = .ok () := rfl
    have hscope : (calibrationRequest i).get? "scope" = some (.string "calibration-metadata") := rfl
    have hname : (calibrationRequest i).get? "model" = some (.string i.model) := rfl
    have hwidthField : (calibrationRequest i).get? "width" = some (.number (.int i.width)) := rfl
    have hheightField : (calibrationRequest i).get? "height" = some (.number (.int i.height)) := rfl
    have hmatrixField : (calibrationRequest i).get? "camera_matrix" =
        some (.array (realNumbers i.camera_matrix)) := rfl
    have hdistortionField : (calibrationRequest i).get? "distortion" =
        some (.array (realNumbers i.distortion)) := rfl
    unfold CalibrationDocument.parse
    simp only [hobject, hallowed, hscope, hname, hwidthField, hheightField, hmatrixField,
      hdistortionField, Option.bind_some, Json.string?, Json.number?, Json.array?, hw, hh, hmodel,
      if_neg hlengths, if_neg hsame]
    rfl
  have hasDouble : (i.camera_matrix.map Number.real).map (·.asDouble) = i.camera_matrix := by
    rw [List.map_map]
    exact List.map_id _
  rw [hfields, coefficients_finite hfinite]
  by_cases hnumbers : Double.nonfinite ∈ i.camera_matrix
  · rw [coefficients_nonfinite hnumbers]
    exact ⟨fun ⟨_, h⟩ => (by cases h), fun h => absurd hnumbers h.1⟩
  · rw [coefficients_finite hnumbers]
    show (∃ document, (if (!cameraMatrixOk ((i.camera_matrix.map Number.real).map (·.asDouble))) =
      true then _ else _) = Except.ok document) ↔ _
    rw [hasDouble]
    cases hok : cameraMatrixOk i.camera_matrix with
    | true => exact ⟨fun _ => ⟨hnumbers, rfl⟩, fun _ => ⟨_, rfl⟩⟩
    | false => exact ⟨fun ⟨_, h⟩ => (by cases h), fun h => (by cases h.2)⟩

end

/-! ## what the publisher lets pass -/

section
variable {py : Python} {params : CameraParameters} {document : Json} {i : Intrinsics}

theorem mapM_drop {α β : Type} {f : α → Option β} {l : List α} {l' : List β}
    (h : l.mapM f = some l') : l'.length = l.length ∧ ∀ n, (l.drop n).mapM f = some (l'.drop n) := by
  induction l generalizing l' with
  | nil =>
    obtain rfl := Option.some.inj h
    exact ⟨rfl, fun n => by simp⟩
  | cons a l ih =>
    rw [List.mapM_cons] at h
    obtain ⟨b, hb, h⟩ := Option.bind_eq_some_iff.mp h
    obtain ⟨rest, hrest, h⟩ := Option.bind_eq_some_iff.mp h
    obtain rfl := Option.some.inj h
    obtain ⟨hlength, hdrop⟩ := ih hrest
    refine ⟨congrArg (· + 1) hlength, fun n => ?_⟩
    cases n with
    | zero =>
      rw [List.drop_zero, List.mapM_cons, hb, hrest]
      rfl
    | succ n => exact hdrop n

def matrixEntries (document : Json) (field : String) : Option (List Json) :=
  ((document.get? field).bind (·.get? "data")).bind (·.array?)

theorem matrixData_some {field : String} {rows : Nat} {columns : Columns} {values : List Double}
    (h : matrixData py document field rows columns = some values) :
    ∃ data cols matrix, matrixEntries document field = some data ∧ data.mapM py.float = some values ∧
      .nonfinite ∉ values ∧ columns.check (Json.get? matrix "cols") = some cols ∧
      (data.length : Int) = rows * cols := by
  unfold matrixData at h
  obtain ⟨matrix, hmatrix, h⟩ := Option.bind_eq_some_iff.mp h
  obtain ⟨_, hrows, h⟩ := Option.bind_eq_some_iff.mp h
  obtain ⟨cols, hcols, h⟩ := Option.bind_eq_some_iff.mp h
  obtain ⟨data, hdata, h⟩ := Option.bind_eq_some_iff.mp h
  obtain ⟨_, hlength, h⟩ := Option.bind_eq_some_iff.mp h
  obtain ⟨values', hvalues, h⟩ := Option.bind_eq_some_iff.mp h
  obtain ⟨_, hfinite, h⟩ := Option.bind_eq_some_iff.mp h
  obtain rfl := Option.some.inj h
  refine ⟨data, cols, matrix, ?_, hvalues, ensure_some.mp hfinite, hcols, ensure_some.mp hlength⟩
  rw [matrixEntries, (Option.filter_eq_some_iff.mp hmatrix).1]
  exact hdata

def bottomRow (py : Python) (document : Json) : Option (List Double) :=
  (matrixEntries document "camera_matrix").bind fun data => (data.drop 6).mapM py.float

theorem counts_model {name : String} {n : Nat} (h : counts name = some n) :
    ∃ model, DistortionModel.parse name = some model ∧ model.distortionCount = n := by
  unfold counts at h
  split at h <;> cases h
  · exact ⟨.plumbBob, rfl, rfl⟩
  · exact ⟨.rationalPolynomial, rfl, rfl⟩
  · exact ⟨.equidistant, rfl, rfl⟩

/-- with positive focal lengths, what is left to check is the bottom row -/
theorem cameraMatrixOk_iff {matrix : List Double} (hlength : matrix.length = 9)
    (hfocal : focalPositive matrix = true) :
    cameraMatrixOk matrix = true ↔ matrix.drop 6 = [.finite 0, .finite 0, .finite 1] := by
  obtain ⟨m0, m1, m2, m3, m4, m5, m6, m7, m8, rfl⟩ :
      ∃ m0 m1 m2 m3 m4 m5 m6 m7 m8, matrix = [m0, m1, m2, m3, m4, m5, m6, m7, m8] := by
    match matrix, hlength with
    | [m0, m1, m2, m3, m4, m5, m6, m7, m8], _ => exact ⟨m0, m1, m2, m3, m4, m5, m6, m7, m8, rfl⟩
  cases m0 with
  | nonfinite => cases hfocal
  | finite fx =>
    cases m4 with
    | nonfinite => cases hfocal
    | finite fy =>
      have hpos : 0 < fx ∧ 0 < fy := of_decide_eq_true hfocal
      cases m6 <;> cases m7 <;> cases m8 <;> simp [cameraMatrixOk, hpos]

theorem frozenIntrinsics_some {width height : Int} {name : String}
    (h : frozenIntrinsics py document width height name = some i) :
    i.width = width ∧ i.height = height ∧ .nonfinite ∉ i.camera_matrix ∧
      .nonfinite ∉ i.distortion ∧ i.camera_matrix.length = 9 ∧
      focalPositive i.camera_matrix = true ∧
      bottomRow py document = some (i.camera_matrix.drop 6) ∧
      ∃ model, DistortionModel.parse i.model = some model ∧
        i.distortion.length = model.distortionCount := by
  unfold frozenIntrinsics at h
  obtain ⟨_, hobject, h⟩ := Option.bind_eq_some_iff.mp h
  obtain ⟨_, hsame, h⟩ := Option.bind_eq_some_iff.mp h
  obtain ⟨_, hdimensions, h⟩ := Option.bind_eq_some_iff.mp h
  obtain ⟨matrix, hmatrix, h⟩ := Option.bind_eq_some_iff.mp h
  obtain ⟨distortion, hdistortion, h⟩ := Option.bind_eq_some_iff.mp h
  obtain ⟨model, hmodel, h⟩ := Option.bind_eq_some_iff.mp h
  obtain ⟨count, hcount, h⟩ := Option.bind_eq_some_iff.mp h
  obtain ⟨_, hchecked, h⟩ := Option.bind_eq_some_iff.mp h
  obtain rfl := Option.some.inj h
  obtain ⟨hlength, hfocal⟩ := ensure_some.mp hchecked
  obtain ⟨data, cols, object, hdata, hvalues, hfinite, hcols, hsize⟩ := matrixData_some hmatrix
  obtain ⟨-, -, -, -, -, hdistortionFinite, -, -⟩ := matrixData_some hdistortion
  obtain ⟨hlengths, hdrop⟩ := mapM_drop hvalues
  refine ⟨rfl, rfl, hfinite, hdistortionFinite, ?_, hfocal, ?_, ?_⟩
  · have hthree : cols = 3 := by
      unfold Columns.check at hcols
      exact (Option.some.inj (Option.ite_none_right_eq_some.mp hcols).2).symm
    subst hthree
    show matrix.length = 9
    omega
  · rw [bottomRow, hdata]
    exact hdrop 6
  · obtain ⟨distortionModel, hparse, hn⟩ := counts_model hcount
    exact ⟨distortionModel, hparse, hlength.trans hn.symm⟩

/-- the bottom row of a frozen document is homogeneous; without a document, the focal length of the
field of view is finite -/
def Homogeneous (py : Python) (params : CameraParameters) : Prop :=
  match params.intrinsic with
  | some document => bottomRow py document = some [.finite 0, .finite 0, .finite 1]
  | none => ∀ width height focal, profileFocalLength py params = some (width, height, focal) →
      focal ≠ .nonfinite

theorem profileFocalLength_some {width height : Int} {focal : Double}
    (h : profileFocalLength py params = some (width, height, focal)) :
    0 < width ∧ 0 < height ∧ ∀ x, focal = .finite x → 0 < x := by
  unfold profileFocalLength at h
  obtain ⟨width', hwidth, h⟩ := Option.bind_eq_some_iff.mp h
  obtain ⟨height', hheight, h⟩ := Option.bind_eq_some_iff.mp h
  obtain ⟨degrees, hdegrees, h⟩ := Option.bind_eq_some_iff.mp h
  obtain ⟨_, hpos, h⟩ := Option.bind_eq_some_iff.mp h
  have hpos := ensure_some.mp hpos
  split at h
  · cases h
  obtain ⟨_, hfov, h⟩ := Option.bind_eq_some_iff.mp h
  obtain ⟨focal', hfocal, h⟩ := Option.bind_eq_some_iff.mp h
  have hfov := ensure_some.mp hfov
  cases h
  refine ⟨hpos.1, hpos.2, fun x hx => ?_⟩
  subst hx
  exact py.focal_pos _ _ _ hpos.1 hfov.1 hfov.2 hfocal

/-- **Intrinsics.**  What the publisher accepts at startup is accepted by the source of that size iff
the camera matrix is homogeneous and its focal length finite. -/
theorem intrinsics_accepted (py : Python) (params : CameraParameters) {i : Intrinsics}
    (h : configuredIntrinsics py params = some i) {streamWidth streamHeight : Nat}
    (hwidth : i.width = streamWidth) (hheight : i.height = streamHeight)
    (hsize : streamWidth < 2 ^ 32 ∧ streamHeight < 2 ^ 32) :
    (∃ document, CalibrationDocument.parse streamWidth streamHeight (calibrationRequest i) =
        .ok document) ↔ Homogeneous py params := by
  unfold configuredIntrinsics at h
  obtain ⟨⟨width, height, focal⟩, hfocal, h⟩ := Option.bind_eq_some_iff.mp h
  obtain ⟨cx, hcx, h⟩ := Option.bind_eq_some_iff.mp h
  obtain ⟨cy, hcy, h⟩ := Option.bind_eq_some_iff.mp h
  obtain ⟨cameraName, hname, h⟩ := Option.bind_eq_some_iff.mp h
  unfold Homogeneous
  split at h
  · rename_i document hdocument
    obtain ⟨-, -, hfinite, hdistortion, hlength, hpos, hrow, model, hmodel, hcount⟩ :=
      frozenIntrinsics_some h
    rw [parse_calibrationRequest hwidth hheight hsize hmodel hlength hcount hdistortion,
      cameraMatrixOk_iff hlength hpos]
    simp only [hrow, Option.some.injEq]
    exact and_iff_right hfinite
  · rename_i hdocument
    obtain rfl := Option.some.inj h
    obtain ⟨hw, hh, hpos⟩ := profileFocalLength_some hfocal
    have hwidth : width = streamWidth := hwidth
    have hheight : height = streamHeight := hheight
    rw [py.center_exact width hw (by omega)] at hcx
    rw [py.center_exact height hh (by omega)] at hcy
    cases hcx
    cases hcy
    rw [@parse_calibrationRequest _ _ _ .plumbBob hwidth hheight hsize rfl rfl rfl (by simp)]
    cases focal with
    | nonfinite =>
      exact ⟨fun ⟨hfinite, _⟩ => absurd (List.mem_cons_self ..) hfinite,
        fun hall => absurd rfl (hall _ _ _ hfocal)⟩
    | finite x =>
      refine ⟨fun _ width' height' focal' hsame => ?_, fun _ => ⟨by simp, ?_⟩⟩
      · rw [hfocal] at hsame
        cases hsame
        exact fun hnon => by cases hnon
      · simp [cameraMatrixOk, hpos x rfl]

end

/-! ## a fixed camera -/

/-- Python on integers and reals, and on a horizontal field of view of a right angle -/
def Python.sample : Python where
  float
    | .number n => some n.asDouble
    | .bool b => some (.finite (if b then 1 else 0))
    | _ => none
  int := pyInt
  radians
    | .finite degrees => .finite (degrees * mathPi / 180)
    | .nonfinite => .nonfinite
  focalLength width _ := some (.finite (width / 640 * (320 + 1 / 2 ^ 44)))
  center size := some (.finite ((size - 1) / 2))
  focal_pos width fov x hwidth _ _ h := by
    obtain rfl := Double.finite.inj (Option.some.inj h)
    have hpos : (0 : ℚ) < width := by exact_mod_cast hwidth
    positivity
  center_exact _ _ _ := rfl

/-- a frozen document whose camera matrix ends in the scale -/
def frozenDocument (scale : Int) : Json :=
  let ints (values : List Int) : Json := .array (values.map fun n => .number (.int n))
  let matrix (rows cols : Int) (values : List Int) : Json :=
    .object [("cols", .number (.int cols)), ("data", ints values), ("rows", .number (.int rows))]
  .object [("camera_matrix", matrix 3 3 [320, 0, 320, 0, 320, 240, 0, 0, scale]),
    ("camera_name", .string "usb_cam"), ("distortion_coefficients", matrix 1 5 [0, 0, 0, 0, 0]),
    ("distortion_model", .string "plumb_bob"), ("image_height", .number (.int 480)),
    ("image_width", .number (.int 640))]

def CameraParameters.frozen (scale : Int) : CameraParameters where
  width := .string "profile"
  height := .string "profile"
  hfov_degrees := .string "profile"
  width_px := .number (.int 640)
  height_px := .number (.int 480)
  horizontal_fov_degrees := .number (.int 90)
  camera_name := "usb_cam"
  intrinsic := some (frozenDocument scale)

def Intrinsics.frozen (scale : Int) : Intrinsics where
  width := 640
  height := 480
  camera_matrix := [.finite 320, .finite 0, .finite 320, .finite 0, .finite 320, .finite 240,
    .finite 0, .finite 0, .finite scale]
  distortion := List.replicate 5 (.finite 0)
  model := "plumb_bob"

theorem intrinsics_accepted_frozen : ∃ document,
    CalibrationDocument.parse 640 480 (calibrationRequest (.frozen 1)) = .ok document := by
  have hconfigured : configuredIntrinsics .sample (.frozen 1) = some (.frozen 1) := by decide +kernel
  refine (intrinsics_accepted .sample (.frozen 1) hconfigured rfl rfl ⟨by decide, by decide⟩).mpr ?_
  show bottomRow .sample (frozenDocument 1) = _
  decide +kernel

/-- a matrix whose last entry is two passes the checks at startup, and the source refuses it -/
theorem intrinsics_refused : configuredIntrinsics .sample (.frozen 2) = some (.frozen 2) ∧
    CalibrationDocument.parse 640 480 (calibrationRequest (.frozen 2)) =
      .error "calibration camera matrix must have positive focal lengths and homogeneous bottom row" :=
  ⟨by decide +kernel, by decide +kernel⟩

end MediaCamera
