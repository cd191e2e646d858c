import MediaCamera.Client.Intrinsics
import MediaCamera.Client.Placement
import MediaCamera.Plugin.LoadValues

/-!
# The arguments of `place_world_camera`

The checks of `parse_arguments` behind `argparse`, those of `render_camera` on the rendered
values, and the SDF that carries these values to the plugin.

* `CameraArguments.checks`, `parseArguments`    the checks on the arguments, in their order;
* `RenderedCamera.checks`, `renderCamera`       the checks on the rendered camera;
* `carriedSdf`, `carriedSensor`                 what the plugin is loaded with;
* `placement_loads_iff`                         when it loads safely.

A check is its condition beside the message of the `UsageError`; the first one that fails is
raised.  A text that is no number does not get past `convert`.
-/

namespace MediaCamera

/-! ## checks -/

/-- the first check that fails is raised -/
def checkAll : List (Bool × String) → Except String Unit
  | [] => .ok ()
  | (holds, message) :: checks => if holds then checkAll checks else .error message

theorem checkAll_ok {checks : List (Bool × String)} :
    checkAll checks = .ok () ↔ ∀ check ∈ checks, check.1 = true := by
  induction checks with
  | nil =>
    constructor
    · intro _ check h
      cases h
    · intro _
      rfl
  | cons check checks ih =>
    obtain ⟨holds, message⟩ := check
    rw [List.forall_mem_cons, ← ih]
    cases holds with
    | true => exact ⟨fun h => ⟨rfl, h⟩, fun h => h.2⟩
    | false =>
      constructor
      · intro h
        cases h
      · intro h
        cases h.1

/-- a Python `float` -/
inductive PyFloat where
  | finite (q : ℚ)
  | infinite
  | nan
  deriving DecidableEq

/-- `math.isfinite(value) and minimum <= value <= maximum`; `none` is `float("inf")` -/
def PyFloat.between (minimum : ℚ) (maximum : Option ℚ) : PyFloat → Bool
  | .finite q => decide (minimum ≤ q ∧ ∀ m ∈ maximum, q ≤ m)
  | _ => false

def PyFloat.isFinite : PyFloat → Bool
  | .finite _ => true
  | _ => false

/-- `low < value < high`, on finite values -/
def PyFloat.strictly (low high : ℚ) : PyFloat → Bool
  | .finite q => decide (low < q ∧ q < high)
  | _ => false

/-! ## parse_arguments -/

structure CameraArguments where
  world_endpoint : List Char
  target_id : List Char
  media_control_endpoint : List Char
  media_control_target_id : List Char
  media_rtp_port : Int
  receipt_file : List Char
  model_name : List Char
  camera_link_frame : List Char
  optical_frame : List Char
  camera_profile : List Char
  media_plugin_filename : List Char
  media_source_id : List Char
  media_rtp_host : List Char
  snapshot_pose_frame_id : List Char
  encoded_video_topic : List Char
  frame_timing_topic : List Char
  stream_info_topic : List Char
  xgc_camera_info_topic : List Char
  publish_encoded_video : Bool
  snapshot_jpeg_backend : SnapshotJpegPolicy
  encoded_publisher_queue_capacity : Int
  x : PyFloat
  y : PyFloat
  z : PyFloat
  roll : PyFloat
  pitch : PyFloat
  yaw : PyFloat
  timeout : PyFloat

/-- a canonical absolute path -/
def canonicalAbsolute (path : List Char) : Bool :=
  Placement.canonical path && !path.contains (Char.ofNat 0)

/-- a canonical absolute Unix socket path -/
def endpointValid (path : List Char) : Bool :=
  canonicalAbsolute path && !(path.take 2 == ['/', '/']) && decide ((utf8Bytes path).length ≤ 107)

def optionName (name : String) : String := "--" ++ name

def CameraArguments.checks (a : CameraArguments) : List (Bool × String) :=
  [(a.receipt_file.isEmpty || canonicalAbsolute a.receipt_file,
    "receipt file must be a canonical absolute path")] ++
  [("world-endpoint", a.world_endpoint), ("media-control-endpoint", a.media_control_endpoint)].map
    (fun e => (endpointValid e.2,
      optionName e.1 ++ " must be a canonical absolute Unix socket path (at most 107 bytes)")) ++
  [("model-name", a.model_name), ("media-source-id", a.media_source_id),
    ("media-control-target-id", a.media_control_target_id)].map
    (fun e => (parseIdentifier e.2, optionName e.1 ++ " must be a bounded identifier")) ++
  [(!a.target_id.isEmpty && strip a.target_id == a.target_id &&
      a.target_id.all (fun c => decide (32 ≤ c.toNat)),
      "--target-id must be a nonempty canonical string"),
    (decide (1 ≤ a.media_rtp_port ∧ a.media_rtp_port ≤ 65535),
      "--media-rtp-port must be in 1-65535"),
    (a.media_rtp_host == "127.0.0.1".toList || a.media_rtp_host == "localhost".toList,
      "--media-rtp-host must be 127.0.0.1 or localhost"),
    (decide (1 ≤ a.encoded_publisher_queue_capacity ∧ a.encoded_publisher_queue_capacity ≤ 128),
      "--encoded-publisher-queue-capacity must be in 1-128"),
    (match a.timeout with
      | .finite q => decide (0 < q ∧ q ≤ 55)
      | _ => false, "--timeout must be in (0, 55] seconds"),
    ([a.x, a.y, a.z, a.roll, a.pitch, a.yaw].all (·.isFinite),
      "camera pose must contain finite values")] ++
  [("camera-link-frame", a.camera_link_frame), ("optical-frame", a.optical_frame),
    ("snapshot-pose-frame-id", a.snapshot_pose_frame_id),
    ("media-plugin-filename", a.media_plugin_filename), ("camera-profile", a.camera_profile),
    ("encoded-video-topic", a.encoded_video_topic), ("frame-timing-topic", a.frame_timing_topic),
    ("stream-info-topic", a.stream_info_topic),
    ("xgc-camera-info-topic", a.xgc_camera_info_topic)].map
    (fun e => (!(strip e.2).isEmpty, optionName e.1 ++ " must be nonempty"))

/-- the checks of `parse_arguments` -/
def parseArguments (a : CameraArguments) : Except String Unit := checkAll a.checks

/-! ## render_camera -/

/-- the values of the rendered document that `render_camera` reads -/
structure RenderedCamera where
  width : Int
  height : Int
  update_rate : PyFloat
  stddev : PyFloat
  bitrate : Int
  maxBitrate : Int
  pacingBitrate : Int
  vbvBufferMilliseconds : Int
  jpegQuality : Int
  horizontal_fov : PyFloat
  near : PyFloat
  far : PyFloat
  /-- `len(document.encode())` -/
  documentBytes : Nat

def RenderedCamera.bounds (r : RenderedCamera) : List (String × PyFloat × ℚ × Option ℚ) :=
  [("width", .finite r.width, 16, some 4096),
    ("height", .finite r.height, 16, some 2160),
    ("fps", r.update_rate, 1 / 10, some 240),
    ("noise-stddev", r.stddev, 0, none),
    ("media-bitrate", .finite r.bitrate, 128000, some 2147483647),
    ("media-max-bitrate", .finite r.maxBitrate, 128000, some 2147483647),
    ("media-pacing-bitrate", .finite r.pacingBitrate, 128000, some 2147483647),
    ("media-vbv-buffer-milliseconds", .finite r.vbvBufferMilliseconds, 50, some 2000),
    ("snapshot-jpeg-quality", .finite r.jpegQuality, 50, some 100)]

def clipsOrdered : PyFloat → PyFloat → Bool
  | .finite near, .finite far => decide (0 < near ∧ near < far)
  | _, _ => false

def RenderedCamera.checks (r : RenderedCamera) : List (Bool × String) :=
  r.bounds.map (fun b => (b.2.1.between b.2.2.1 b.2.2.2,
    optionName b.1 ++ " is outside the supported range")) ++
  [(r.horizontal_fov.strictly 0 mathPi, "--hfov-degrees must be in (0, 180)"),
    (clipsOrdered r.near r.far, "clip distances must satisfy 0 < near-clip < far-clip"),
    (decide (r.bitrate ≤ r.maxBitrate ∧ r.maxBitrate ≤ r.pacingBitrate),
      "encoder budgets must satisfy media-bitrate <= media-max-bitrate <= media-pacing-bitrate"),
    (decide (r.documentBytes ≤ 65536), "camera definition must be a bounded URDF document")]

/-- the checks of `render_camera` -/
def renderCamera (r : RenderedCamera) : Except String Unit := checkAll r.checks

/-! ## the SDF -/

def SnapshotJpegPolicy.name : SnapshotJpegPolicy → String
  | .auto => "auto"
  | .hardware => "hardware"
  | .cpu => "cpu"

/-- the plugin element of the rendered document -/
def carriedSdf (a : CameraArguments) (r : RenderedCamera) : PluginSdf where
  sourceId := some (utf8Bytes a.media_source_id)
  frameId := some (utf8Bytes a.optical_frame)
  snapshotPoseFrameId := some (utf8Bytes a.snapshot_pose_frame_id)
  rtpHost := some (utf8Bytes a.media_rtp_host)
  rtpPort := some a.media_rtp_port
  controlEndpoint := some (utf8Bytes a.media_control_endpoint)
  controlTargetId := some (utf8Bytes a.media_control_target_id)
  bitrate := some r.bitrate
  maxBitrate := some r.maxBitrate
  pacingBitrate := some r.pacingBitrate
  vbvBufferMilliseconds := some r.vbvBufferMilliseconds
  jpegQuality := some r.jpegQuality
  snapshotJpegBackend := some a.snapshot_jpeg_backend.name
  rosPublishEnabled := some a.publish_encoded_video
  rosVideoTopic := some (utf8Bytes a.encoded_video_topic)
  rosFrameTimingTopic := some (utf8Bytes a.frame_timing_topic)
  rosStreamInfoTopic := some (utf8Bytes a.stream_info_topic)
  rosPublisherQueueCapacity := some a.encoded_publisher_queue_capacity

def carriedSensor (r : RenderedCamera) : CameraSensor where
  imageWidth := r.width
  imageHeight := r.height
  updateRate :=
    match r.update_rate with
    | .finite q => q
    | _ => 0

/-! ## what the checks say -/

/-- what `Load` needs of the arguments -/
structure CameraArguments.Admitted (a : CameraArguments) : Prop where
  source : parseIdentifier a.media_source_id = true
  target : parseIdentifier a.media_control_target_id = true
  endpoint : a.media_control_endpoint ≠ []
  port : 1 ≤ a.media_rtp_port ∧ a.media_rtp_port ≤ 65535
  host : a.media_rtp_host = "127.0.0.1".toList ∨ a.media_rtp_host = "localhost".toList
  optical_frame : a.optical_frame ≠ []
  snapshot_pose_frame_id : a.snapshot_pose_frame_id ≠ []
  encoded_video_topic : a.encoded_video_topic ≠ []
  frame_timing_topic : a.frame_timing_topic ≠ []
  stream_info_topic : a.stream_info_topic ≠ []

theorem ne_nil_of_strip {s : List Char} (h : (!(strip s).isEmpty) = true) : s ≠ [] := by
  rintro rfl
  exact absurd h (by decide)

theorem ne_nil_of_endpoint {s : List Char} (h : endpointValid s = true) : s ≠ [] := by
  rintro rfl
  exact absurd h (by decide)

theorem utf8Bytes_ne_nil {s : List Char} (h : s ≠ []) : utf8Bytes s ≠ [] := by
  cases s with
  | nil => exact absurd rfl h
  | cons c s =>
    have hpos : 0 < (String.utf8EncodeChar c).length := by
      rw [String.length_utf8EncodeChar]
      exact c.utf8Size_pos
    rw [utf8Bytes, List.flatMap_cons]
    intro hnil
    rw [(List.append_eq_nil_iff.1 hnil).1] at hpos
    exact absurd hpos (by decide)

theorem parseArguments_admitted {a : CameraArguments} (h : parseArguments a = .ok ()) :
    a.Admitted := by
  have hcheck : ∀ check ∈ a.checks, check.1 = true := checkAll_ok.1 h
  simp only [CameraArguments.checks, List.mem_append, List.map_cons, List.map_nil, or_imp,
    forall_and, List.forall_mem_cons] at hcheck
  obtain ⟨⟨⟨⟨_, _, hendpoint, _⟩, _, hsource, htarget, _⟩, _, hport, hhost, _, _, _, _⟩, _, hoptical,
    hpose, _, _, hvideo, htiming, hinfo, _, _⟩ := hcheck
  exact {
    source := hsource
    target := htarget
    endpoint := ne_nil_of_endpoint hendpoint
    port := of_decide_eq_true hport
    host := by simpa using hhost
    optical_frame := ne_nil_of_strip hoptical
    snapshot_pose_frame_id := ne_nil_of_strip hpose
    encoded_video_topic := ne_nil_of_strip hvideo
    frame_timing_topic := ne_nil_of_strip htiming
    stream_info_topic := ne_nil_of_strip hinfo }

/-- what `Load` needs of the rendered values -/
structure RenderedCamera.Admitted (r : RenderedCamera) : Prop where
  width : 16 ≤ r.width ∧ r.width ≤ 4096
  height : 16 ≤ r.height ∧ r.height ≤ 2160
  rate : (carriedSensor r).updateRate ≤ 240
  bitrate : 128000 ≤ r.bitrate
  maxBitrate : r.bitrate ≤ r.maxBitrate
  pacingBitrate : r.maxBitrate ≤ r.pacingBitrate
  greatest : r.pacingBitrate ≤ 2147483647
  jpegQuality : 50 ≤ r.jpegQuality ∧ r.jpegQuality ≤ 100

theorem between_int {value minimum maximum : Int}
    (h : (PyFloat.finite value).between minimum (some (maximum : ℚ)) = true) :
    minimum ≤ value ∧ value ≤ maximum := by
  have hbounds := of_decide_eq_true h
  exact ⟨by exact_mod_cast hbounds.1, by exact_mod_cast hbounds.2 _ rfl⟩

theorem renderCamera_admitted {r : RenderedCamera} (h : renderCamera r = .ok ()) : r.Admitted := by
  have hcheck : ∀ check ∈ r.checks, check.1 = true := checkAll_ok.1 h
  simp only [RenderedCamera.checks, RenderedCamera.bounds, List.mem_append, List.map_cons,
    List.map_nil, or_imp, forall_and, List.forall_mem_cons] at hcheck
  obtain ⟨⟨hwidth, hheight, hrate, _, hbitrate, _, hpacing, _, hquality, _⟩, _, _, hordered, _⟩ :=
    hcheck
  have hordered := of_decide_eq_true hordered
  exact {
    width := between_int (by exact_mod_cast hwidth)
    height := between_int (by exact_mod_cast hheight)
    rate := by
      unfold carriedSensor
      cases hfps : r.update_rate with
      | finite q =>
        rw [hfps] at hrate
        exact (of_decide_eq_true hrate).2 _ rfl
      | infinite => norm_num
      | nan => norm_num
    bitrate := (between_int (by exact_mod_cast hbitrate)).1
    maxBitrate := hordered.1
    pacingBitrate := hordered.2
    greatest := (between_int (by exact_mod_cast hpacing)).2
    jpegQuality := between_int (by exact_mod_cast hquality) }

/-! ## the main result -/

/-- the members that `Load` fills from the carried values -/
def carriedValues (a : CameraArguments) (r : RenderedCamera) : MediaValues where
  sourceID := utf8Bytes a.media_source_id
  frameID := utf8Bytes a.optical_frame
  snapshotPoseFrameID := utf8Bytes a.snapshot_pose_frame_id
  rtpHost := utf8Bytes a.media_rtp_host
  rtpPort := a.media_rtp_port
  controlSocketPath := utf8Bytes a.media_control_endpoint
  controlTargetID := utf8Bytes a.media_control_target_id
  bitrate := r.bitrate
  maxBitrate := r.maxBitrate
  pacingBitrate := r.pacingBitrate
  vbvBufferMilliseconds := clamp r.vbvBufferMilliseconds 50 2000
  jpegQuality := r.jpegQuality
  snapshotJpegPolicy := a.snapshot_jpeg_backend
  rosPublishingEnabled := a.publish_encoded_video
  rosVideoTopic := utf8Bytes a.encoded_video_topic
  rosFrameTimingTopic := utf8Bytes a.frame_timing_topic
  rosStreamInfoTopic := utf8Bytes a.stream_info_topic
  rosPublisherQueueCapacity := clamp a.encoded_publisher_queue_capacity 1 128

theorem clamp_bounds (value : Int) {low high : Int} (h : low ≤ high) :
    low ≤ clamp value low high ∧ clamp value low high ≤ high :=
  ⟨le_max_left _ _, max_le h (min_le_left _ _)⟩

section
variable {a : CameraArguments} {r : RenderedCamera}

/-- `Load` reads what is carried, if the fallback of `maxBitrate` does not overflow -/
theorem readValues_carried (hr : r.Admitted) (hsmall : r.bitrate ≤ 1431655765) :
    readValues (carriedSdf a r) = .ok (carriedValues a r) := by
  have hbitrate := hr.bitrate
  have hfallback : maxBitrateFallback r.bitrate = .ok (r.bitrate + r.bitrate / 2) :=
    maxBitrateFallback_ok (by omega) hsmall
  have hpolicy : parseSnapshotJpegPolicy a.snapshot_jpeg_backend.name =
      some a.snapshot_jpeg_backend := by
    cases a.snapshot_jpeg_backend with
    | auto => rfl
    | hardware => rfl
    | cpu => rfl
  have hcapacity : IntType.uint64.cast (clamp a.encoded_publisher_queue_capacity 1 128) =
      .ok (clamp a.encoded_publisher_queue_capacity 1 128) := by
    have := clamp_bounds a.encoded_publisher_queue_capacity (by decide : (1 : Int) ≤ 128)
    apply IntType.cast_of
    rw [IntType.uint64_holds]
    omega
  simp only [readValues, carriedSdf, Option.getD_some, hfallback, hpolicy, hcapacity, arithmetic,
    bind, Except.bind]
  rfl

theorem carriedValues_bounded (hr : r.Admitted) : (carriedValues a r).Bounded := by
  have hvbv := clamp_bounds r.vbvBufferMilliseconds (by decide : (50 : Int) ≤ 2000)
  have hbitrate := hr.bitrate
  exact {
    bitrate_pos := by show 0 ≤ r.bitrate; omega
    bitrate_le := hr.maxBitrate
    maxBitrate_le := hr.pacingBitrate
    pacingBitrate_le := hr.greatest
    vbv_pos := hvbv.1
    vbv_le := hvbv.2 }

theorem carriedValues_valid (ha : a.Admitted) (hr : r.Admitted) :
    (carriedValues a r).Valid (carriedSensor r) where
  sourceID := (parseIdentifier_safe ha.source).1
  controlTargetID := (parseIdentifier_safe ha.target).1
  controlSocketPath := utf8Bytes_ne_nil ha.endpoint
  frameID := utf8Bytes_ne_nil ha.optical_frame
  snapshotPoseFrameID := utf8Bytes_ne_nil ha.snapshot_pose_frame_id
  jpegQuality := hr.jpegQuality
  imageWidth := hr.width
  imageHeight := hr.height
  rtpPort := ha.port
  rtpHost := ha.host.imp (congrArg utf8Bytes) (congrArg utf8Bytes)
  bitrate := hr.bitrate
  topics _ := ⟨utf8Bytes_ne_nil ha.encoded_video_topic, utf8Bytes_ne_nil ha.frame_timing_topic,
    utf8Bytes_ne_nil ha.stream_info_topic⟩

end

/-- what the placement tool lets through is safe for the plugin iff the fallback of `maxBitrate`,
which `Load` evaluates although it has a value, does not overflow -/
theorem placement_loads_iff (a : CameraArguments) (r : RenderedCamera)
    (hparse : parseArguments a = .ok ()) (hrender : renderCamera r = .ok ()) :
    LoadsSafely (carriedSensor r) (carriedSdf a r) ↔ r.bitrate ≤ 1431655765 := by
  have ha := parseArguments_admitted hparse
  have hr := renderCamera_admitted hrender
  constructor
  · rintro ⟨loaded, _, _, hload, _, _⟩
    by_contra hsmall
    have hlarge : 1431655765 < r.bitrate := by omega
    have hint : r.bitrate ≤ 2147483647 := by
      have := hr.maxBitrate
      have := hr.pacingBitrate
      have := hr.greatest
      omega
    have hoverflow : loadValues (carriedSensor r) (carriedSdf a r) = .error (.fault .overflow) :=
      loadValues_overflow rfl (maxBitrateFallback_overflow hlarge hint)
    rw [hoverflow] at hload
    cases hload
  · intro hsmall
    have hbounded : (carriedValues a r).Bounded := carriedValues_bounded hr
    obtain ⟨loaded, hload, hvalues⟩ := loadValues_ok (readValues_carried hr hsmall)
      (carriedValues_valid ha hr) hbounded hr.rate
    have hwidth : 16 ≤ (carriedSensor r).imageWidth ∧ (carriedSensor r).imageWidth ≤ 4096 := hr.width
    have hpositive : 0 ≤ (carriedSensor r).imageWidth := by omega
    obtain ⟨rates, hrates⟩ := encoderRates_ok hbounded ⟨hpositive, hwidth.2⟩ hr.rate
    obtain ⟨bytes, hbytes⟩ := maximumPacedAccessUnitBytes_ok hbounded
    rw [← hvalues] at hrates hbytes
    exact ⟨loaded, rates, bytes, hload, hrates, hbytes⟩

/-! ## concrete placements -/

def CameraArguments.sample : CameraArguments where
  world_endpoint := "/run/world.sock".toList
  target_id := "world".toList
  media_control_endpoint := "/run/camera.sock".toList
  media_control_target_id := "cameras".toList
  media_rtp_port := 5004
  receipt_file := []
  model_name := "gazebo_static_camera".toList
  camera_link_frame := "usb_cam_link".toList
  optical_frame := "usb_cam_optical_frame".toList
  camera_profile := "world_wide_4k30_110".toList
  media_plugin_filename := "libxgc_gazebo_media_camera.so".toList
  media_source_id := "usb_cam".toList
  media_rtp_host := "127.0.0.1".toList
  snapshot_pose_frame_id := "world".toList
  encoded_video_topic := "/xgc/camera/world/video_h264".toList
  frame_timing_topic := "/xgc/camera/world/frame_timing".toList
  stream_info_topic := "/xgc/camera/world/stream_info".toList
  xgc_camera_info_topic := "/xgc/camera/world/camera_info".toList
  publish_encoded_video := true
  snapshot_jpeg_backend := .auto
  encoded_publisher_queue_capacity := 8
  x := .finite (-4)
  y := .finite 0
  z := .finite (3 / 2)
  roll := .finite 0
  pitch := .finite 0
  yaw := .finite 0
  timeout := .finite 50

/-- the profile `world_wide_4k30_110`, at these bitrates -/
def RenderedCamera.sample (bitrate maxBitrate pacingBitrate : Int) : RenderedCamera where
  width := 3840
  height := 2160
  update_rate := .finite 30
  stddev := .finite 0
  bitrate := bitrate
  maxBitrate := maxBitrate
  pacingBitrate := pacingBitrate
  vbvBufferMilliseconds := 500
  jpegQuality := 90
  horizontal_fov := .finite (19 / 10)
  near := .finite (1 / 10)
  far := .finite 100
  documentBytes := 9000

theorem placement_loads_iff_profile :
    LoadsSafely (carriedSensor (.sample 24000000 36000000 72000000))
      (carriedSdf .sample (.sample 24000000 36000000 72000000)) :=
  (placement_loads_iff .sample (.sample 24000000 36000000 72000000) (by decide +kernel)
    (by decide +kernel)).2 (by decide)

/-- the greatest bitrate of the table is let through, and overflows in `Load` -/
theorem placement_overflows :
    parseArguments .sample = .ok () ∧
      renderCamera (.sample 2147483647 2147483647 2147483647) = .ok () ∧
      ¬ LoadsSafely (carriedSensor (.sample 2147483647 2147483647 2147483647))
        (carriedSdf .sample (.sample 2147483647 2147483647 2147483647)) := by
  refine ⟨by decide +kernel, by decide +kernel, ?_⟩
  rintro ⟨loaded, _, _, hload, _, _⟩
  have hoverflow : loadValues (carriedSensor (.sample 2147483647 2147483647 2147483647))
      (carriedSdf .sample (.sample 2147483647 2147483647 2147483647)) =
        .error (.fault .overflow) := loadValues_overflow rfl (by decide)
  rw [hoverflow] at hload
  cases hload

end MediaCamera
