import MediaCamera.Machine.Multipart
import MediaCamera.Plugin.System

/-!
# The response to a capture

`FlushCapture` writes a finished capture as a multipart body: the metadata document, the JPEG, and
the RGB bytes if there are any.

* `captureMetadata`, `captureResponse`   the document and the response, as the source builds them;
                      the bytes of a JSON document are a parameter;
* `capture_decodable` a reader of multipart bodies gets the parts back, byte for byte.
-/

namespace MediaCamera

open Multipart

/-! ## the metadata document -/

def Operation.name : Operation → String
  | .mutation .config => "config"
  | .mutation .start => "start"
  | .mutation .stop => "stop"
  | .mutation .requestKeyframe => "request-keyframe"
  | .capture => "capture"

def ReceiptStage.name : ReceiptStage → String
  | .completed => "completed"
  | .failed => "failed"

def Receipt.json (receipt : Receipt) : Json :=
  let onError (field : String × Json) := if receipt.error = "" then [] else [field]
  .object <| List.flatten [
    [("applied_revision", .number (.uint receipt.applied_revision)),
      ("desired_revision", .number (.uint receipt.desired_revision)),
      ("effects", .object [("applied", .bool (receipt.stage == .completed))])],
    onError ("error", .string receipt.error),
    [("event_revision", .number (.uint receipt.event_revision))],
    onError ("failure_stage",
      .string (if receipt.operation = .capture then "capture" else "apply")),
    [("operation", .string receipt.operation.name), ("operation_id", .string receipt.request_id),
      ("persisted_revision", .null), ("request_id", .string receipt.request_id),
      ("stage", .string receipt.stage.name)]]

/-- what the document says besides the result and the receipt: the names of the source, and three
members of `SnapshotResult` that nothing else reads -/
structure CaptureContext where
  sourceID : String
  frameID : String
  poseFrameID : String
  jpegReadbackMilliseconds : Double
  jpegEncodeMilliseconds : Double

/-- the axes of a position; an orientation has `w` too -/
def axes (values : List Double) : Json :=
  let axis (i : Nat) : Json := .number (.real (values.getD i (.finite 0)))
  let xyz := [("x", axis 0), ("y", axis 1), ("z", axis 2)]
  .object (if values.length = 4 then ("w", axis 3) :: xyz else xyz)

def reals (values : List Double) : Json := .array (values.map fun x => .number (.real x))

def captureMetadata (context : CaptureContext) (response : SnapshotResult) (receipt : Receipt) :
    Json :=
  let available (field : String × Json) := if response.calibrationValid then [field] else []
  let posed (field : String × Json) := if response.renderPoseValid then [field] else []
  let state := if response.calibrationValid then "available" else "unavailable"
  .object <| List.flatten [
    available ("calibrationSource", .string "native-projection"),
    [("calibrationState", .string state)],
    available ("cameraMatrix", reals response.cameraMatrix),
    available ("distortion", reals response.distortion),
    [("frameId", .string context.frameID),
      ("frameSequence", .number (.uint response.frameSequence)),
      ("height", .number (.uint response.height)),
      ("jpegBackend", .string response.jpegBackend),
      ("jpegBytes", .number (.uint response.jpeg.length)),
      ("jpegEncodeMilliseconds", .number (.real context.jpegEncodeMilliseconds))],
    if response.jpegFallbackReason = "" then []
      else [("jpegFallbackReason", .string response.jpegFallbackReason)],
    [("jpegReadback", .string response.jpegReadback),
      ("jpegReadbackMilliseconds", .number (.real context.jpegReadbackMilliseconds)),
      ("ok", .bool true), ("pixelFormat", .string "rgb8")],
    posed ("poseFrameId", .string context.poseFrameID),
    [("receipt", receipt.json)],
    posed ("renderPose", .object [("orientation", axes response.renderOrientation),
      ("position", axes response.renderPosition)]),
    [("rgbBytes", .number (.uint response.rgb.length)), ("snapshotId", .string response.id),
      ("sourceId", .string context.sourceID), ("timestampClockDomain", .string "simulation"),
      ("timestampNanoseconds", .number (.int response.timestampNanoseconds)),
      ("width", .number (.uint response.width))]]

/-! ## the body -/

/-- the boundary, with the identifier that `NewControlIdentifier` returns -/
def captureBoundary (identifier : List UInt8) : List UInt8 := utf8 "xgc-capture-" ++ identifier

/-- the lambda `appendPart` -/
def appendPart (boundary : List UInt8) (name type : String) (bytes body : List UInt8) :
    List UInt8 :=
  body ++ (utf8 "--" ++ boundary ++ utf8 "\r\nContent-Type: " ++ utf8 type ++
    utf8 "\r\nContent-Disposition: inline; name=\"" ++ utf8 name ++ utf8 "\"\r\n\r\n") ++ bytes ++
    utf8 "\r\n"

structure HttpResponse where
  contentType : List UInt8
  body : List UInt8

/-- the response of a capture that neither failed nor is oversized -/
def captureResponse (controlJSON : Json → List UInt8) (context : CaptureContext)
    (identifier : List UInt8) (response : SnapshotResult) (receipt : Receipt) : HttpResponse :=
  let boundary := captureBoundary identifier
  let json := controlJSON (captureMetadata context response receipt)
  let body := appendPart boundary "metadata" "application/json" json []
  let body := appendPart boundary "jpeg" "image/jpeg" response.jpeg body
  let body := if response.rgb = [] then body
    else appendPart boundary "rgb" "application/octet-stream" response.rgb body
  { contentType := utf8 "multipart/mixed; boundary=" ++ boundary
    body := body ++ (utf8 "--" ++ boundary ++ utf8 "--\r\n") }

/-! ## reading it back -/

def partLines (name type : String) : List UInt8 × List UInt8 :=
  (utf8 "Content-Type: " ++ utf8 type,
    utf8 "Content-Disposition: inline; name=\"" ++ utf8 name ++ utf8 "\"")

def partText (name type : String) (bytes : List UInt8) : List UInt8 :=
  (partLines name type).1 ++ (CRLF ++ ((partLines name type).2 ++ (CRLF ++ (CRLF ++ bytes))))

def inlinePart (name type : String) (bytes : List UInt8) : Part where
  contentType := utf8 type
  disposition := utf8 "inline"
  name := utf8 name
  content := bytes

inductive CapturePart : String → String → Prop
  | metadata : CapturePart "metadata" "application/json"
  | jpeg : CapturePart "jpeg" "image/jpeg"
  | rgb : CapturePart "rgb" "application/octet-stream"

section
variable {name type : String}

theorem appendPart_eq (boundary : List UInt8) (name type : String) (bytes body : List UInt8) :
    appendPart boundary name type bytes body =
      body ++ (dashBoundary boundary ++ (CRLF ++ (partText name type bytes ++ CRLF))) := by
  have hdashes : utf8 "--" ++ boundary = dashBoundary boundary := rfl
  have htype : utf8 "\r\nContent-Type: " = CRLF ++ utf8 "Content-Type: " := by decide
  have hdisposition : utf8 "\r\nContent-Disposition: inline; name=\"" =
      CRLF ++ utf8 "Content-Disposition: inline; name=\"" := by decide
  have hempty : utf8 "\"\r\n\r\n" = utf8 "\"" ++ (CRLF ++ CRLF) := by decide
  have hbreak : utf8 "\r\n" = CRLF := by decide
  rw [appendPart, hdashes, htype, hdisposition, hempty, hbreak, partText, partLines]
  simp only [List.append_assoc]

theorem bodyPart_partText (h : CapturePart name type) (bytes : List UInt8) (fuel : Nat) :
    (bodyPart (fuel + 3) (partText name type bytes)).bind (·.part) =
      some (inlinePart name type bytes) := by
  have hbreaks : (13 : UInt8) ∉ (partLines name type).1 ∧ (13 : UInt8) ∉ (partLines name type).2 := by
    cases h <;> decide
  have hne : (partLines name type).1 ≠ [] ∧ (partLines name type).2 ≠ [] := by cases h <;> decide
  have htype : headerField (partLines name type).1 = some (utf8 "Content-Type", utf8 type) := by
    cases h <;> decide
  have hdisposition : headerField (partLines name type).2 =
      some (utf8 "Content-Disposition", utf8 "inline; name=\"" ++ utf8 name ++ utf8 "\"") := by
    cases h <;> decide
  rw [partText, bodyPart_field _ _ hbreaks.1 hne.1, bodyPart_field _ _ hbreaks.2 hne.2, htype,
    hdisposition]
  cases h <;> rfl

theorem partText_free (h : CapturePart name type) {boundary bytes : List UInt8}
    (hbytes : ¬ dashBoundary boundary <:+: bytes) :
    ¬ delimiter boundary <:+: partText name type bytes := by
  have hlines : FreeOf ([13, 10, 45] <+: ·)
      ((partLines name type).1 ++ (CRLF ++ ((partLines name type).2 ++ CRLF))) CRLF := by
    unfold FreeOf
    cases h <;> decide
  have htext := not_delimiter hlines hbytes
  simp only [List.append_assoc] at htext
  exact htext

end

def captureParts (json jpeg rgb : List UInt8) : List (String × String × List UInt8) :=
  [("metadata", "application/json", json), ("jpeg", "image/jpeg", jpeg)] ++
    if rgb = [] then [] else [("rgb", "application/octet-stream", rgb)]

theorem captureResponse_body (controlJSON : Json → List UInt8) (context : CaptureContext)
    (identifier : List UInt8) (response : SnapshotResult) (receipt : Receipt) :
    (captureResponse controlJSON context identifier response receipt).body =
      encode (captureBoundary identifier)
        ((captureParts (controlJSON (captureMetadata context response receipt)) response.jpeg
          response.rgb).map fun part => partText part.1 part.2.1 part.2.2) := by
  have hdashes : utf8 "--" ++ captureBoundary identifier =
      dashBoundary (captureBoundary identifier) := rfl
  have hclose : utf8 "--\r\n" = [45, 45] ++ CRLF := by decide
  rw [encode_eq]
  simp only [captureResponse, appendPart_eq, captureParts, hdashes, hclose]
  split <;> simp [*]

theorem mem_captureParts {json jpeg rgb : List UInt8} {part : String × String × List UInt8}
    (h : part ∈ captureParts json jpeg rgb) :
    CapturePart part.1 part.2.1 ∧ part.2.2 ∈ [json, jpeg, rgb] := by
  rcases List.mem_append.mp h with h | h
  · rcases List.mem_cons.mp h with rfl | h
    · exact ⟨.metadata, by simp⟩
    · obtain rfl := List.mem_singleton.mp h
      exact ⟨.jpeg, by simp⟩
  · split at h
    · cases h
    · obtain rfl := List.mem_singleton.mp h
      exact ⟨.rgb, by simp⟩

/-- the reader gets all parts back, in order -/
theorem parse_captureParts {boundary json jpeg rgb : List UInt8} (h : (13 : UInt8) ∉ boundary)
    (hfree : ∀ payload ∈ [json, jpeg, rgb], ¬ dashBoundary boundary <:+: payload) :
    parse boundary (encode boundary
        ((captureParts json jpeg rgb).map fun part => partText part.1 part.2.1 part.2.2)) =
      some ((captureParts json jpeg rgb).map fun part => inlinePart part.1 part.2.1 part.2.2) := by
  refine parse_encode h (fun part hpart => ?_) fun part hpart => ?_
  · obtain ⟨hkind, hmem⟩ := mem_captureParts hpart
    exact partText_free hkind (hfree _ hmem)
  · obtain ⟨hkind, -⟩ := mem_captureParts hpart
    have hfuel : ∃ fuel, (partText part.1 part.2.1 part.2.2).length + 1 = fuel + 3 :=
      ⟨(partText part.1 part.2.1 part.2.2).length - 2, by
        have hbreak : CRLF.length = 2 := rfl
        simp only [partText, List.length_append]
        omega⟩
    obtain ⟨fuel, hfuel⟩ := hfuel
    rw [hfuel]
    exact bodyPart_partText hkind _ fuel

theorem captureMetadata_lengths (context : CaptureContext) (response : SnapshotResult)
    (receipt : Receipt) :
    (captureMetadata context response receipt).get? "jpegBytes" =
        some (.number (.uint response.jpeg.length)) ∧
      (captureMetadata context response receipt).get? "rgbBytes" =
        some (.number (.uint response.rgb.length)) := by
  cases hcalibration : response.calibrationValid <;> cases hpose : response.renderPoseValid <;>
    by_cases hreason : response.jpegFallbackReason = "" <;>
    simp [captureMetadata, Json.get?, Json.fields, List.lookup_cons, hcalibration, hpose, hreason]

/-- **The capture response is decodable.**  The answer to a finished capture within the limits is
written so that a reader of multipart bodies gets the metadata, the JPEG and the RGB bytes back,
unless two dashes and the boundary occur in one of them. -/
theorem capture_decodable (controlJSON : Json → List UInt8) (context : CaptureContext)
    (identifier : List UInt8) (s : State) (handle : Nat) (response : SnapshotResult)
    (hidentifier : (13 : UInt8) ∉ identifier ∧ (10 : UInt8) ∉ identifier)
    (hdone : response.failed = false) (hlimits : oversized response = false) :
    ∃ receipt, (s.answerCapture handle response).log =
        .replied handle (.capture response receipt) :: .recorded none receipt :: s.log ∧
      let metadata := captureMetadata context response receipt
      let written := captureResponse controlJSON context identifier response receipt
      let boundary := captureBoundary identifier
      written.contentType = utf8 "multipart/mixed; boundary=" ++ boundary ∧
      metadata.get? "jpegBytes" = some (.number (.uint response.jpeg.length)) ∧
      metadata.get? "rgbBytes" = some (.number (.uint response.rgb.length)) ∧
      ((∀ payload ∈ [controlJSON metadata, response.jpeg, response.rgb],
          ¬ dashBoundary boundary <:+: payload) →
        parse boundary written.body = some
          ([inlinePart "metadata" "application/json" (controlJSON metadata),
              inlinePart "jpeg" "image/jpeg" response.jpeg] ++
            if response.rgb = [] then []
            else [inlinePart "rgb" "application/octet-stream" response.rgb])) := by
  have hboundary : (13 : UInt8) ∉ captureBoundary identifier := by
    have hprefix : (13 : UInt8) ∉ utf8 "xgc-capture-" := by decide
    exact fun h => (List.mem_append.mp h).elim hprefix hidentifier.1
  let receipt := s.ctl.newReceipt s.ctl.captureRequestID .capture .completed response.error
  obtain ⟨hjpeg, hrgb⟩ := captureMetadata_lengths context response receipt
  refine ⟨receipt, ?_, rfl, hjpeg, hrgb, fun hfree => ?_⟩
  · simp only [State.answerCapture, hdone, hlimits, Bool.or_self, Bool.false_eq_true, if_false]
    rfl
  · rw [captureResponse_body, parse_captureParts hboundary hfree, captureParts]
    split <;> rfl

/-! ## a fixed response -/

/-- a JPEG that ends in a line break, and no RGB bytes -/
def SnapshotResult.sample : SnapshotResult :=
  { SnapshotResult.empty with
    completed := true
    id := "s1"
    jpeg := [0xff, 0xd8, 0xff, 0xd9, 13, 10] }

def sampleMetadata : List UInt8 :=
  utf8 "\x7b\"calibrationState\":\"unavailable\",\"frameId\":\"front\",\"frameSequence\":0," ++
    utf8 "\"height\":0,\"jpegBackend\":\"\",\"jpegBytes\":6,\"jpegEncodeMilliseconds\":0.0," ++
    utf8 "\"jpegReadback\":\"\",\"jpegReadbackMilliseconds\":0.0,\"ok\":true,\"pixelFormat\":\"rgb8\"," ++
    utf8 "\"receipt\":\x7b\"applied_revision\":1,\"desired_revision\":1,\"effects\":\x7b\"applied\":true\x7d," ++
    utf8 "\"event_revision\":1,\"operation\":\"capture\",\"operation_id\":\"\"," ++
    utf8 "\"persisted_revision\":null,\"request_id\":\"\",\"stage\":\"completed\"\x7d,\"rgbBytes\":0," ++
    utf8 "\"snapshotId\":\"s1\",\"sourceId\":\"camera\",\"timestampClockDomain\":\"simulation\"," ++
    utf8 "\"timestampNanoseconds\":0,\"width\":0\x7d"

def CaptureContext.sample : CaptureContext := ⟨"camera", "front", "", .finite 0, .finite 0⟩

theorem capture_decodable_sample : ∃ receipt,
    parse (captureBoundary (utf8 "7f3a")) (captureResponse (fun _ => sampleMetadata) .sample
        (utf8 "7f3a") .sample receipt).body =
      some [inlinePart "metadata" "application/json" sampleMetadata,
        inlinePart "jpeg" "image/jpeg" [0xff, 0xd8, 0xff, 0xd9, 13, 10]] := by
  obtain ⟨receipt, -, -, -, -, hparse⟩ := capture_decodable (fun _ => sampleMetadata) .sample
    (utf8 "7f3a") (.load .sample .sample) 0 .sample ⟨by decide, by decide⟩ rfl (by decide)
  have hdash : ∀ payload ∈ [sampleMetadata, [0xff, 0xd8, 0xff, 0xd9, 13, 10], []],
      (45 : UInt8) ∉ payload := by decide +kernel
  exact ⟨receipt, hparse fun payload hpayload hin =>
    hdash payload hpayload (hin.subset (List.mem_cons_self ..))⟩

end MediaCamera
