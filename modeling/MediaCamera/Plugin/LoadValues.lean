import MediaCamera.Client.SourceIdentity
import MediaCamera.Machine.Checked
import MediaCamera.Plugin.JpegPolicy

/-!
# The values of `Load`

What `Load` reads from its SDF element, the checks that it makes on these values, and the integer
arithmetic on them, in the integer types of the source.

* `loadValues`        the reads, the checks and the conversions of `Load`; the sockets, threads and
                      preflights between them are left out;
* `encoderRates`      the arithmetic of `EnsureEncoder`;
* `MediaValues.maximumPacedAccessUnitBytes`   the bound of the pacer;
* `LoadsSafely`       all of them come to an end without a refusal and without a fault.

The rates are rationals (`double` in the source).
-/

namespace MediaCamera

abbrev Bytes : Type := List UInt8

def bytesOf (text : String) : Bytes := utf8Bytes text.toList

/-- the SDF element of the plugin; `none` where a child is missing -/
structure PluginSdf where
  sourceId : Option Bytes
  frameId : Option Bytes
  snapshotPoseFrameId : Option Bytes
  rtpHost : Option Bytes
  rtpPort : Option Int
  controlEndpoint : Option Bytes
  controlTargetId : Option Bytes
  bitrate : Option Int
  maxBitrate : Option Int
  pacingBitrate : Option Int
  vbvBufferMilliseconds : Option Int
  jpegQuality : Option Int
  snapshotJpegBackend : Option String
  rosPublishEnabled : Option Bool
  rosVideoTopic : Option Bytes
  rosFrameTimingTopic : Option Bytes
  rosStreamInfoTopic : Option Bytes
  rosPublisherQueueCapacity : Option Int

structure CameraSensor where
  imageWidth : Int
  imageHeight : Int
  updateRate : ℚ

inductive LoadEnd where
  | fault (fault : ArithmeticFault)
  | refused (message : String)
  deriving DecidableEq

def arithmetic {α : Type} : Except ArithmeticFault α → Except LoadEnd α
  | .ok a => .ok a
  | .error fault => .error (.fault fault)

/-- the members that `Load` fills from the SDF element -/
structure MediaValues where
  sourceID : Bytes
  frameID : Bytes
  snapshotPoseFrameID : Bytes
  rtpHost : Bytes
  rtpPort : Int
  controlSocketPath : Bytes
  controlTargetID : Bytes
  bitrate : Int
  maxBitrate : Int
  pacingBitrate : Int
  vbvBufferMilliseconds : Int
  jpegQuality : Int
  snapshotJpegPolicy : SnapshotJpegPolicy
  rosPublishingEnabled : Bool
  rosVideoTopic : Bytes
  rosFrameTimingTopic : Bytes
  rosStreamInfoTopic : Bytes
  rosPublisherQueueCapacity : Int

/-- the fallback of `maxBitrate`; it is an argument, and so evaluated where it is not used -/
def maxBitrateFallback (bitrate : Int) : Except ArithmeticFault Int := do
  let half ← IntType.int.div bitrate 2
  IntType.int.add bitrate half

def clamp (value low high : Int) : Int := max low (min high value)

def readValues (sdf : PluginSdf) : Except LoadEnd MediaValues := do
  let rtpPort ← match sdf.rtpPort with
    | none => .error (.refused "xgc_media_camera requires the allocated RTP port")
    | some port => .ok port
  let bitrate := sdf.bitrate.getD 6000000
  let fallback ← arithmetic (maxBitrateFallback bitrate)
  let maxBitrate := sdf.maxBitrate.getD fallback
  let policy ← match parseSnapshotJpegPolicy (sdf.snapshotJpegBackend.getD "auto") with
    | none => .error (.refused
        "xgc_media_camera snapshotJpegBackend must be auto, hardware, or cpu")
    | some policy => .ok policy
  let capacity ← arithmetic
    (IntType.uint64.cast (clamp (sdf.rosPublisherQueueCapacity.getD 8) 1 128))
  return {
    sourceID := sdf.sourceId.getD (bytesOf "usb_cam")
    frameID := sdf.frameId.getD (bytesOf "usb_cam_optical_frame")
    snapshotPoseFrameID := sdf.snapshotPoseFrameId.getD (bytesOf "world")
    rtpHost := sdf.rtpHost.getD (bytesOf "127.0.0.1")
    rtpPort := rtpPort
    controlSocketPath := sdf.controlEndpoint.getD []
    controlTargetID := sdf.controlTargetId.getD []
    bitrate := bitrate
    maxBitrate := maxBitrate
    pacingBitrate := sdf.pacingBitrate.getD maxBitrate
    vbvBufferMilliseconds := clamp (sdf.vbvBufferMilliseconds.getD 500) 50 2000
    jpegQuality := sdf.jpegQuality.getD 90
    snapshotJpegPolicy := policy
    rosPublishingEnabled := sdf.rosPublishEnabled.getD true
    rosVideoTopic := sdf.rosVideoTopic.getD (bytesOf "/xgc/camera/world/video_h264")
    rosFrameTimingTopic := sdf.rosFrameTimingTopic.getD (bytesOf "/xgc/camera/world/frame_timing")
    rosStreamInfoTopic := sdf.rosStreamInfoTopic.getD (bytesOf "/xgc/camera/world/stream_info")
    rosPublisherQueueCapacity := capacity }

/-- the condition under which `Load` refuses the configuration -/
def MediaValues.invalid (v : MediaValues) (sensor : CameraSensor) : Bool :=
  !isSafeIdentifier v.sourceID || !isSafeIdentifier v.controlTargetID ||
    v.controlSocketPath.isEmpty || v.frameID.isEmpty || v.snapshotPoseFrameID.isEmpty ||
    decide (v.jpegQuality < 50) || decide (100 < v.jpegQuality) ||
    decide (4096 < sensor.imageWidth) || decide (2160 < sensor.imageHeight) ||
    decide (sensor.imageWidth < 16) || decide (sensor.imageHeight < 16) ||
    decide (v.rtpPort < 1) || decide (65535 < v.rtpPort) ||
    (v.rtpHost != bytesOf "127.0.0.1" && v.rtpHost != bytesOf "localhost") ||
    decide (v.bitrate < 128000) ||
    (v.rosPublishingEnabled &&
      (v.rosVideoTopic.isEmpty || v.rosFrameTimingTopic.isEmpty || v.rosStreamInfoTopic.isEmpty))

/-- frames between two keyframes, also the GOP length of the encoder -/
def keyframeIntervalFrames (rate : ℚ) : Except ArithmeticFault Int := do
  let rounded ← IntType.int64.result (llround (updateRate rate * 2))
  let frames ← IntType.uint32.cast rounded
  return max 1 frames

structure LoadedValues where
  values : MediaValues
  destinationPort : Int
  streamKeyframeIntervalFrames : Int

def loadValues (sensor : CameraSensor) (sdf : PluginSdf) : Except LoadEnd LoadedValues := do
  let v ← readValues sdf
  if v.invalid sensor then
    .error (.refused "xgc_media_camera has invalid private media source configuration")
  else if v.maxBitrate < v.bitrate ∨ v.pacingBitrate < v.maxBitrate then
    .error (.refused "xgc_media_camera requires bitrate <= maxBitrate <= pacingBitrate")
  else
    let port ← arithmetic (IntType.uint16.cast v.rtpPort)
    let frames ← arithmetic (keyframeIntervalFrames sensor.updateRate)
    return ⟨v, port, frames⟩

/-- the rates of the encoder configuration, and the pitch of the registered texture -/
structure EncoderRates where
  gopLength : Int
  averageBitRate : Int
  maxBitRate : Int
  vbvBufferSize : Int
  frameRateNum : Int
  frameRateDen : Int
  pitch : Int

/-- the arithmetic of `EnsureEncoder` -/
def encoderRates (v : MediaValues) (sensor : CameraSensor) :
    Except ArithmeticFault EncoderRates := do
  let rounded ← IntType.int64.result (llround (updateRate sensor.updateRate * 1000))
  let fpsNumerator ← IntType.uint32.cast rounded
  let gopLength ← keyframeIntervalFrames sensor.updateRate
  let averageBitRate ← IntType.uint32.cast v.bitrate
  let maxBitRate ← IntType.uint32.cast v.maxBitrate
  let maxBitrate ← IntType.uint64.cast v.maxBitrate
  let milliseconds ← IntType.uint64.cast v.vbvBufferMilliseconds
  let product ← IntType.uint64.mul maxBitrate milliseconds
  let vbvBits ← IntType.uint64.div product 1000
  let vbvBufferSize ← IntType.uint32.cast (min IntType.uint32.greatest (max 1 vbvBits))
  let pitch ← IntType.uint32.mul sensor.imageWidth 4
  return ⟨gopLength, averageBitRate, maxBitRate, vbvBufferSize, max 1 fpsNumerator, 1000, pitch⟩

def MediaValues.maximumPacedAccessUnitBytes (v : MediaValues) : Except ArithmeticFault Int := do
  let quotient ← IntType.int.div v.pacingBitrate 8
  let bytes ← IntType.uint64.cast quotient
  return max kMinimumPacedQueueBytes bytes

/-- `Load` accepts the values, and every computation on them stays in its type -/
def LoadsSafely (sensor : CameraSensor) (sdf : PluginSdf) : Prop :=
  ∃ loaded rates bytes, loadValues sensor sdf = .ok loaded ∧
    encoderRates loaded.values sensor = .ok rates ∧
    loaded.values.maximumPacedAccessUnitBytes = .ok bytes

/-! ## the fallback -/

/-- the fallback is evaluated, and overflows from `1431655766` on -/
theorem maxBitrateFallback_eq {bitrate : Int} (hpos : 0 ≤ bitrate)
    (hint : bitrate ≤ 2147483647) :
    maxBitrateFallback bitrate = IntType.int.result (bitrate + bitrate / 2) := by
  unfold maxBitrateFallback
  rw [IntType.div_of_pos (by decide) hpos hint (by decide)]
  rfl

theorem maxBitrateFallback_ok {bitrate : Int} (hpos : 0 ≤ bitrate)
    (hsmall : bitrate ≤ 1431655765) :
    maxBitrateFallback bitrate = .ok (bitrate + bitrate / 2) := by
  rw [maxBitrateFallback_eq hpos (by omega)]
  apply IntType.result_of
  rw [IntType.int_holds]
  omega

theorem maxBitrateFallback_overflow {bitrate : Int} (hlarge : 1431655765 < bitrate)
    (hint : bitrate ≤ 2147483647) : maxBitrateFallback bitrate = .error .overflow := by
  rw [maxBitrateFallback_eq (by omega) hint]
  apply IntType.result_not
  rw [IntType.int_holds]
  omega

/-! ## the conversions -/

theorem llround_bounds {q : ℚ} {n : Int} (hpos : 0 ≤ q) (hle : q ≤ n) :
    0 ≤ llround q ∧ llround q ≤ n := by
  unfold llround
  rw [if_pos hpos]
  constructor
  · rw [Rat.le_floor_iff]
    push_cast
    linarith
  · apply Int.le_of_lt_add_one
    rw [Rat.floor_lt_iff]
    push_cast
    linarith

theorem updateRate_le {rate : ℚ} (h : rate ≤ 240) : updateRate rate ≤ 240 :=
  max_le (by norm_num) h

theorem keyframeIntervalFrames_ok {rate : ℚ} (h : rate ≤ 240) :
    ∃ frames, keyframeIntervalFrames rate = .ok frames := by
  have hle := updateRate_le h
  have hge : 1 / 10 ≤ updateRate rate := le_max_left _ _
  obtain ⟨hlow, hhigh⟩ := llround_bounds (q := updateRate rate * 2) (n := 480) (by linarith)
    (by push_cast; linarith)
  have hrounded : IntType.int64.result (llround (updateRate rate * 2)) =
      .ok (llround (updateRate rate * 2)) := by
    apply IntType.result_of
    rw [IntType.int64_holds]
    omega
  have hframes : IntType.uint32.cast (llround (updateRate rate * 2)) =
      .ok (llround (updateRate rate * 2)) := by
    apply IntType.cast_of
    rw [IntType.uint32_holds]
    omega
  unfold keyframeIntervalFrames
  rw [hrounded]
  show ∃ frames, (IntType.uint32.cast _ >>= fun frames => pure (max 1 frames)) = Except.ok frames
  rw [hframes]
  exact ⟨_, rfl⟩

structure MediaValues.Bounded (v : MediaValues) : Prop where
  bitrate_pos : 0 ≤ v.bitrate
  bitrate_le : v.bitrate ≤ v.maxBitrate
  maxBitrate_le : v.maxBitrate ≤ v.pacingBitrate
  pacingBitrate_le : v.pacingBitrate ≤ 2147483647
  vbv_pos : 50 ≤ v.vbvBufferMilliseconds
  vbv_le : v.vbvBufferMilliseconds ≤ 2000

theorem encoderRates_ok {v : MediaValues} (hv : v.Bounded) {sensor : CameraSensor}
    (hwidth : 0 ≤ sensor.imageWidth ∧ sensor.imageWidth ≤ 4096) (h : sensor.updateRate ≤ 240) :
    ∃ rates, encoderRates v sensor = .ok rates := by
  obtain ⟨hpos, hmax, hpacing, hint, hlow, hhigh⟩ := hv
  have hle := updateRate_le h
  have hge : 1 / 10 ≤ updateRate sensor.updateRate := le_max_left _ _
  obtain ⟨hfps, hfps'⟩ := llround_bounds (q := updateRate sensor.updateRate * 1000) (n := 240000)
    (by linarith) (by push_cast; linarith)
  obtain ⟨frames, hframes⟩ := keyframeIntervalFrames_ok h
  -- two seconds at the greatest bitrate are just below 2 ^ 32 bits
  have hproduct : 0 ≤ v.maxBitrate * v.vbvBufferMilliseconds ∧
      v.maxBitrate * v.vbvBufferMilliseconds ≤ 2147483647 * 2000 := by
    constructor
    · apply Int.mul_nonneg
      · omega
      · omega
    · apply Int.mul_le_mul
      · omega
      · omega
      · omega
      · decide
  have hproduct' : IntType.uint64.mul v.maxBitrate v.vbvBufferMilliseconds =
      .ok (v.maxBitrate * v.vbvBufferMilliseconds) := by
    apply IntType.mul_of
    rw [IntType.uint64_holds]
    omega
  have hbits : IntType.uint64.div (v.maxBitrate * v.vbvBufferMilliseconds) 1000 =
      .ok (v.maxBitrate * v.vbvBufferMilliseconds / 1000) := by
    apply IntType.div_of_pos (by decide) hproduct.1 _ (by decide)
    have := (IntType.uint64_holds (x := v.maxBitrate * v.vbvBufferMilliseconds)).2 (by omega)
    exact this.2
  have hsize : IntType.uint32.cast (min IntType.uint32.greatest
      (max 1 (v.maxBitrate * v.vbvBufferMilliseconds / 1000))) =
      .ok (min IntType.uint32.greatest
        (max 1 (v.maxBitrate * v.vbvBufferMilliseconds / 1000))) := by
    apply IntType.cast_of
    refine ⟨?_, min_le_left _ _⟩
    apply le_min (by decide)
    exact (Int.zero_le_ofNat 1).trans (le_max_left _ _)
  have hrounded : IntType.int64.result (llround (updateRate sensor.updateRate * 1000)) =
      .ok (llround (updateRate sensor.updateRate * 1000)) := by
    apply IntType.result_of
    rw [IntType.int64_holds]
    omega
  have hpitch : IntType.uint32.mul sensor.imageWidth 4 = .ok (sensor.imageWidth * 4) := by
    apply IntType.mul_of
    rw [IntType.uint32_holds]
    omega
  have hcast : ∀ x : Int, 0 ≤ x → x ≤ 2147483647 →
      IntType.uint32.cast x = .ok x ∧ IntType.uint64.cast x = .ok x := by
    intro x hx hx'
    constructor
    · apply IntType.cast_of
      rw [IntType.uint32_holds]
      omega
    · apply IntType.cast_of
      rw [IntType.uint64_holds]
      omega
  simp only [encoderRates, hrounded, (hcast _ hfps (by omega)).1, hframes,
    (hcast v.bitrate hpos (by omega)).1, (hcast v.maxBitrate (by omega) (by omega)).1,
    (hcast v.maxBitrate (by omega) (by omega)).2,
    (hcast v.vbvBufferMilliseconds (by omega) (by omega)).2, hproduct', hbits, hsize, hpitch,
    bind, Except.bind]
  exact ⟨_, rfl⟩

theorem maximumPacedAccessUnitBytes_ok {v : MediaValues} (hv : v.Bounded) :
    ∃ bytes, v.maximumPacedAccessUnitBytes = .ok bytes := by
  obtain ⟨hpos, hmax, hpacing, hint, -, -⟩ := hv
  have hquotient : IntType.int.div v.pacingBitrate 8 = .ok (v.pacingBitrate / 8) :=
    IntType.div_of_pos (by decide) (by omega) hint (by decide)
  have hbytes : IntType.uint64.cast (v.pacingBitrate / 8) = .ok (v.pacingBitrate / 8) := by
    apply IntType.cast_of
    rw [IntType.uint64_holds]
    omega
  simp only [MediaValues.maximumPacedAccessUnitBytes, hquotient, hbytes, bind, Except.bind]
  exact ⟨_, rfl⟩

/-! ## the reads and the checks -/

structure MediaValues.Valid (v : MediaValues) (sensor : CameraSensor) : Prop where
  sourceID : isSafeIdentifier v.sourceID = true
  controlTargetID : isSafeIdentifier v.controlTargetID = true
  controlSocketPath : v.controlSocketPath ≠ []
  frameID : v.frameID ≠ []
  snapshotPoseFrameID : v.snapshotPoseFrameID ≠ []
  jpegQuality : 50 ≤ v.jpegQuality ∧ v.jpegQuality ≤ 100
  imageWidth : 16 ≤ sensor.imageWidth ∧ sensor.imageWidth ≤ 4096
  imageHeight : 16 ≤ sensor.imageHeight ∧ sensor.imageHeight ≤ 2160
  rtpPort : 1 ≤ v.rtpPort ∧ v.rtpPort ≤ 65535
  rtpHost : v.rtpHost = bytesOf "127.0.0.1" ∨ v.rtpHost = bytesOf "localhost"
  bitrate : 128000 ≤ v.bitrate
  topics : v.rosPublishingEnabled = true →
    v.rosVideoTopic ≠ [] ∧ v.rosFrameTimingTopic ≠ [] ∧ v.rosStreamInfoTopic ≠ []

/-- the check refuses exactly the values that are not valid -/
theorem MediaValues.invalid_eq_false (v : MediaValues) (sensor : CameraSensor) :
    v.invalid sensor = false ↔ v.Valid sensor := by
  constructor
  · intro h
    simp only [MediaValues.invalid, Bool.or_eq_false_iff, Bool.and_eq_false_iff,
      Bool.not_eq_false', decide_eq_false_iff_not, bne_eq_false_iff_eq,
      List.isEmpty_eq_false_iff] at h
    obtain ⟨⟨⟨⟨⟨⟨⟨⟨⟨⟨⟨⟨⟨⟨⟨hsource, htarget⟩, hpath⟩, hframe⟩, hpose⟩, hlow⟩, hhigh⟩, hwide⟩, htall⟩,
      hnarrow⟩, hshort⟩, hport⟩, hport'⟩, hhost⟩, hbitrate⟩, htopics⟩ := h
    refine ⟨hsource, htarget, hpath, hframe, hpose, by omega, by omega, by omega, by omega, hhost,
      by omega, ?_⟩
    intro hros
    rcases htopics with h | ⟨⟨hvideo, htiming⟩, hinfo⟩
    · rw [hros] at h
      cases h
    · exact ⟨hvideo, htiming, hinfo⟩
  · intro h
    obtain ⟨hsource, htarget, hpath, hframe, hpose, hquality, hwidth, hheight, hport, hhost, hbitrate,
      htopics⟩ := h
    simp only [MediaValues.invalid, Bool.or_eq_false_iff, Bool.and_eq_false_iff,
      Bool.not_eq_false', decide_eq_false_iff_not, bne_eq_false_iff_eq,
      List.isEmpty_eq_false_iff]
    refine ⟨⟨⟨⟨⟨⟨⟨⟨⟨⟨⟨⟨⟨⟨⟨hsource, htarget⟩, hpath⟩, hframe⟩, hpose⟩, by omega⟩, by omega⟩, by omega⟩,
      by omega⟩, by omega⟩, by omega⟩, by omega⟩, by omega⟩, hhost⟩, by omega⟩, ?_⟩
    cases hros : v.rosPublishingEnabled with
    | false => exact .inl rfl
    | true =>
      obtain ⟨hvideo, htiming, hinfo⟩ := htopics hros
      exact .inr ⟨⟨hvideo, htiming⟩, hinfo⟩

section
variable {sensor : CameraSensor} {sdf : PluginSdf}

theorem loadValues_overflow {port : Int} (hport : sdf.rtpPort = some port)
    (hfallback : maxBitrateFallback (sdf.bitrate.getD 6000000) = .error .overflow) :
    loadValues sensor sdf = .error (.fault .overflow) := by
  simp only [loadValues, readValues, hport, hfallback, arithmetic, bind, Except.bind]

theorem loadValues_ok {v : MediaValues} (hread : readValues sdf = .ok v)
    (hvalid : v.Valid sensor) (hv : v.Bounded) (hrate : sensor.updateRate ≤ 240) :
    ∃ loaded, loadValues sensor sdf = .ok loaded ∧ loaded.values = v := by
  obtain ⟨frames, hframes⟩ := keyframeIntervalFrames_ok hrate
  have hinvalid := (v.invalid_eq_false sensor).2 hvalid
  have hport := hvalid.rtpPort
  have hcast : IntType.uint16.cast v.rtpPort = .ok v.rtpPort := by
    apply IntType.cast_of
    rw [IntType.uint16_holds]
    omega
  have hordered : ¬ (v.maxBitrate < v.bitrate ∨ v.pacingBitrate < v.maxBitrate) := by
    have := hv.bitrate_le
    have := hv.maxBitrate_le
    omega
  refine ⟨⟨v, v.rtpPort, frames⟩, ?_, rfl⟩
  simp only [loadValues, hread, hinvalid, hcast, hframes, if_neg hordered, arithmetic, bind,
    Except.bind]
  rfl

end

end MediaCamera
