import Plank.Wire.Json

/-!
# Media features

`media-features.h` selects a profile for each media feature that a client offers, and validates the
launch request that the client then builds from them. A request is parsed JSON; nothing but its
values is trusted.
-/

namespace Plank.Control

open Wire (Json JsonFields)

/-- `PLANKMacMediaNames`. -/
def mediaNames : List String := ["desktop", "audio", "input", "clipboard", "microphone", "camera"]

/-- The modes of `plank_encoding_profiles` whose encoder is `PLANK_ENCODER_APPLE`. -/
def appleModes : List String := ["hevc-10-420-videotoolbox", "hevc-10-444-videotoolbox"]

/-- Whether `PLANKMacEncodingProfile` finds a profile. -/
def encodingProfile : Option Json → Bool
  | some (.string mode) => appleModes.contains mode
  | _ => false

/-- `PLANKMacMediaInteger`. -/
def mediaInteger (value : Option Json) (minimum maximum : Nat) : Bool :=
  match value with
  | some (.number number) =>
    match number.double with
    | some double => minimum ≤ double && double ≤ maximum && double = (Rat.floor double : ℚ)
    | none => false
  | _ => false

/-- The profile of a desktop. -/
def desktopProfile (mode : Json) : JsonFields :=
  [("schema_version", .int 1), ("encoding_mode", mode)]

/-- The profile of audio. -/
def audioProfile : JsonFields :=
  [("schema_version", .int 1), ("codec", .string "opus"), ("sample_rate", .int 48000),
    ("channels", .int 2), ("packet_duration_ms", .int 5)]

/-- The profile of input. -/
def inputProfile : JsonFields :=
  [("schema_version", .int 1), ("keyboard", .bool true), ("mouse", .string "absolute"),
    ("pen", .string "normalized")]

/-- The profile of the clipboard. -/
def clipboardProfile : JsonFields := [("schema_version", .int 1)]

/-- The profile of a camera. -/
def cameraProfile : JsonFields :=
  [("schema_version", .int 1), ("codecs", .array [.string "h264-annex-b", .string "mjpeg"])]

/-- The profile of a microphone without capture times. -/
def microphoneProfile : JsonFields :=
  [("schema_version", .int 2), ("codec", .string "opus"), ("sample_rate", .int 48000),
    ("channels", .int 2), ("packet_duration_ms", .int 10)]

/-- The profile of a microphone with capture times. -/
def timedMicrophoneProfile : JsonFields :=
  [("schema_version", .int 3), ("codec", .string "opus"), ("sample_rate", .int 48000),
    ("channels", .int 2), ("packet_duration_ms", .int 10),
    ("capture_clock", .string "monotonic-ns")]

/-- `PLANKMacMediaProfile`. -/
def mediaProfile (name : String) (mode : Option Json) : Option JsonFields :=
  if name = "desktop" then some (desktopProfile (mode.getD (.string "")))
  else if name = "audio" then some audioProfile
  else if name = "input" then some inputProfile
  else if name = "clipboard" then some clipboardProfile
  else if name = "microphone" then some microphoneProfile
  else if name = "camera" then some cameraProfile
  else none

/-- Whether a choice is of schema 3. -/
def isTimed : Option Json → Bool
  | some (.object fields) =>
    match fields.lookup "schema_version" with
    | some version => version.isEqual (.int 3)
    | none => false
  | _ => false

/-- `PLANKMacMediaSelectedProfile`. -/
def mediaSelectedProfile (name : String) (mode choice : Option Json) : Option JsonFields :=
  if name = "microphone" && isTimed choice then some timedMicrophoneProfile
  else mediaProfile name mode

/-- Whether a field of an object is what a profile wants: numbers and Booleans stay apart. -/
def containsField (fields : JsonFields) (key : String) (wanted : Json) : Bool :=
  match fields.lookup key with
  | none => false
  | some actual =>
    (!wanted.isNumeric || (actual.isNumeric && actual.isBool == wanted.isBool)) &&
      actual.isEqual wanted

/-- `PLANKMacMediaContainsProfile`. -/
def mediaContainsProfile (value : Option Json) (expected : Option JsonFields) : Bool :=
  match value, expected with
  | some (.object fields), some expected =>
    fields.length ≤ 32 && !expected.isEmpty &&
      expected.all fun field => containsField fields field.1 field.2
  | _, _ => false

/-- Whether an array has an element equal to a string. -/
def containsName (names : List Json) (name : String) : Bool :=
  names.any fun value => value.isEqual (.string name)

/-- The loop of `PLANKMacMediaRequired`: the names seen, unless one is unknown or seen twice. -/
def seeNames : List Json → List String → Option (List String)
  | [], seen => some seen
  | .string name :: rest, seen =>
    if !mediaNames.contains name || seen.contains name then none else seeNames rest (name :: seen)
  | _ :: _, _ => none

/-- `PLANKMacMediaRequired`. -/
def mediaRequired : Option Json → Bool
  | some (.array names) =>
    names.length ≤ 16 && match seeNames names [] with
      | some seen => seen.contains "desktop" && seen.contains "audio" && seen.contains "input"
      | none => false
  | _ => false

/-- The elements of an array, if it is one. -/
def arrayValues : Option Json → List Json
  | some (.array values) => values
  | _ => []

/-- The loop over the choices for a feature: the chosen profile, and the mode after it. -/
def chooseProfile (name : String) :
    List Json → Option JsonFields → Option Json → Except Nat (Option JsonFields × Option Json)
  | [], chosen, mode => .ok (chosen, mode)
  | .object fields :: choices, chosen, mode =>
    if fields.length > 32 || !mediaInteger (fields.lookup "schema_version") 1 65535 then .error 400
    else
      let candidateMode := if name = "desktop" then fields.lookup "encoding_mode" else mode
      if name = "desktop" && !encodingProfile candidateMode then chooseProfile name choices chosen mode
      else
        let profile := mediaSelectedProfile name candidateMode (some (.object fields))
        if chosen.isNone && mediaContainsProfile (some (.object fields)) profile then
          chooseProfile name choices profile (if name = "desktop" then candidateMode else mode)
        else chooseProfile name choices chosen mode
  | _ :: _, _, _ => .error 400

/-- The loop over the features: what is selected of each. -/
def selectFeatures (offers : JsonFields) (required : List Json) :
    List String → Option Json → Except Nat JsonFields
  | [], _ => .ok []
  | name :: names, mode =>
    match (offers.lookup name).getD (.array []) with
    | .array choices =>
      if choices.length > 8 then .error 400
      else do
        let (chosen, mode) ← chooseProfile name choices none mode
        if chosen.isNone && containsName required name then .error 426
        else
          let rest ← selectFeatures offers required names mode
          return (name, (chosen.map Json.object).getD .null) :: rest
    | _ => .error 400

/-- `PLANKMacNegotiateMedia`: the reply, or the status of the refusal. -/
def negotiateMedia : Option Json → Except Nat JsonFields
  | some (.object request) =>
    match request.lookup "transport", request.lookup "features" with
    | some (.string transport), some (.object offers) =>
      if request.length > 16 || !mediaInteger (request.lookup "schema_version") 1 65535 ||
          offers.length > 32 then .error 400
      else if !((request.lookup "schema_version").any (Json.isEqual · (.int 1))) ||
          transport ≠ "plank-native/2" || !mediaRequired (request.lookup "required_features") then
        .error 426
      else do
        let required := request.lookup "required_features"
        let selected ← selectFeatures offers (arrayValues required) mediaNames none
        return [("schema_version", .int 1), ("launch_schema", .int 7),
          ("transport", .string "plank-native/2"),
          ("required_features", required.getD .null), ("features", .object selected)]
    | _, _ => .error 400
  | _ => .error 400

/-- Whether a value is an object. -/
def isObject : Option Json → Bool
  | some (.object _) => true
  | _ => false

/-- The fields of an object, if it is one. -/
def objectFields : Option Json → JsonFields
  | some (.object fields) => fields
  | _ => []

/-- The fields of these names that are there. -/
def copyFields (keys : List String) (source : JsonFields) : JsonFields :=
  keys.filterMap fun key => (source.lookup key).map fun value => (key, value)

/-- A turn of the loop in `PLANKMacNormalizeMediaLaunch`: whether a feature may be launched. -/
def launchable (features : JsonFields) (required : List Json) (mode : Option Json) (name : String) :
    Bool :=
  let value := features.lookup name
  let missing := match value with
    | none | some .null => true
    | _ => false
  (missing && !containsName required name) ||
    mediaContainsProfile value (mediaSelectedProfile name mode value)

/-- `PLANKMacNormalizeMediaLaunch`. -/
def normalizeMediaLaunch : Option Json → Option JsonFields
  | some (.object request) =>
    if !mediaInteger (request.lookup "schema_version") 7 7 || request.length > 16 ||
        !((request.lookup "transport").any (Json.isEqual · (.string "plank-native/2"))) ||
        !mediaRequired (request.lookup "required_features") ||
        !isObject (request.lookup "features") ||
        (objectFields (request.lookup "features")).length > 32 then none
    else
      let features := objectFields (request.lookup "features")
      let desktop := objectFields (features.lookup "desktop")
      if !isObject (features.lookup "desktop") ||
          !encodingProfile (desktop.lookup "encoding_mode") then none
      else
        let required := arrayValues (request.lookup "required_features")
        if !mediaNames.all (launchable features required (desktop.lookup "encoding_mode")) then none
        else
          let normalized :=
            [("schema_version", .int 7),
              ("clipboard", .bool (isObject (features.lookup "clipboard"))),
              ("microphone", .bool (isObject (features.lookup "microphone"))),
              ("camera", .bool (isObject (features.lookup "camera")))] ++
            copyFields ["capture_generation", "capture_id", "max_udp_payload_size"] request ++
            copyFields ["width", "height", "encoding_mode", "frame_rate", "bitrate_kbps"] desktop
          if normalized.length = 12 then some normalized else none
  | _ => none

/-- Whether a feature is one that is always there, or a device that is enabled. -/
def featureEnabled (clipboard microphone camera : Bool) (name : String) : Bool :=
  !(name = "clipboard" && !clipboard) && !(name = "microphone" && !microphone) &&
    !(name = "camera" && !camera)

/-- `PLANKMacMediaReplyFeatures`. -/
def mediaReplyFeatures (request : Option Json) (clipboard microphone camera : Bool) :
    Option JsonFields :=
  (normalizeMediaLaunch request).map fun normalized =>
    let requested := objectFields ((objectFields request).lookup "features")
    mediaNames.map fun name =>
      let profile := (mediaSelectedProfile name (normalized.lookup "encoding_mode")
        (requested.lookup name)).getD []
      (name, if name = "desktop" then
          .object (profile ++ copyFields ["width", "height", "frame_rate", "bitrate_kbps"] normalized)
        else if featureEnabled clipboard microphone camera name then .object profile
        else .null)

end Plank.Control
