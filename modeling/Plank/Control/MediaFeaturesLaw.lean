import Plank.Control.MediaFeatures
import Plank.Transport.Result

/-!
# A negotiated launch is accepted

There are seven profiles that may be selected, one of them for each mode. Whatever contains a
selected profile is given the same profile again, so the launch that a client builds from a reply
passes the second validator, and reports what was selected.
-/

namespace Plank.Control

open Wire (Json JsonFields)

/-- The profiles that may be selected for a feature. -/
inductive Selectable : String → JsonFields → Prop
  /-- A desktop in a mode of the encoder. -/
  | desktop (mode : String) (apple : mode ∈ appleModes) :
    Selectable "desktop" (desktopProfile (.string mode))
  /-- Audio. -/
  | audio : Selectable "audio" audioProfile
  /-- Input. -/
  | input : Selectable "input" inputProfile
  /-- The clipboard. -/
  | clipboard : Selectable "clipboard" clipboardProfile
  /-- A microphone. -/
  | microphone : Selectable "microphone" microphoneProfile
  /-- A microphone with capture times. -/
  | timedMicrophone : Selectable "microphone" timedMicrophoneProfile
  /-- A camera. -/
  | camera : Selectable "camera" cameraProfile

/-- A mode with an encoding profile. -/
theorem encodingProfile_iff {mode : Option Json} :
    encodingProfile mode = true ↔ ∃ text ∈ appleModes, mode = some (.string text) := by
  constructor
  · intro found
    unfold encodingProfile at found
    split at found
    · next text => exact ⟨text, List.contains_iff_mem.mp found, rfl⟩
    · exact absurd found Bool.false_ne_true
  · rintro ⟨text, apple, rfl⟩
    exact List.contains_iff_mem.mpr apple

/-- What is selected may be selected. -/
theorem selectable_of_selected {name : String} {mode choice : Option Json} {profile : JsonFields}
    (found : name = "desktop" → encodingProfile mode = true)
    (selected : mediaSelectedProfile name mode choice = some profile) :
    Selectable name profile := by
  unfold mediaSelectedProfile at selected
  split at selected
  · next timed =>
    simp only [Bool.and_eq_true, decide_eq_true_eq] at timed
    obtain rfl := Option.some.inj selected
    rw [timed.1]
    exact .timedMicrophone
  · unfold mediaProfile at selected
    split_ifs at selected with desktop audio input clipboard microphone camera
    · obtain ⟨text, apple, rfl⟩ := encodingProfile_iff.mp (found desktop)
      obtain rfl := Option.some.inj selected
      rw [desktop]
      exact .desktop text apple
    · obtain rfl := Option.some.inj selected
      rw [audio]
      exact .audio
    · obtain rfl := Option.some.inj selected
      rw [input]
      exact .input
    · obtain rfl := Option.some.inj selected
      rw [clipboard]
      exact .clipboard
    · obtain rfl := Option.some.inj selected
      rw [microphone]
      exact .microphone
    · obtain rfl := Option.some.inj selected
      rw [camera]
      exact .camera

/-- The profile of a desktop has a mode of the encoder. -/
theorem Selectable.mode {name : String} {profile : JsonFields}
    (selectable : Selectable name profile) (desktop : name = "desktop") :
    ∃ mode ∈ appleModes, profile = desktopProfile (.string mode) := by
  cases selectable with
  | desktop mode apple => exact ⟨mode, apple, rfl⟩
  | _ => exact absurd desktop (by decide)

/-- A profile contains itself. -/
theorem Selectable.contains_self {name : String} {profile : JsonFields}
    (selectable : Selectable name profile) :
    mediaContainsProfile (some (.object profile)) (some profile) = true := by
  cases selectable with
  | desktop mode apple =>
    simp [mediaContainsProfile, desktopProfile, containsField, List.lookup, Json.isEqual,
      Json.int, Json.isNumeric, Json.isBool]
  | audio | input | clipboard | microphone | timedMicrophone | camera => decide +kernel

/-- A field of what contains a profile is equal to the profile's. -/
theorem field_of_contains {value : Json} {profile : JsonFields}
    (contains : mediaContainsProfile (some value) (some profile) = true) {key : String}
    {wanted : Json} (member : (key, wanted) ∈ profile) :
    ∃ fields actual, value = .object fields ∧ fields.lookup key = some actual ∧
      actual.isEqual wanted = true := by
  cases value with
  | object fields =>
    simp only [mediaContainsProfile, Bool.and_eq_true, List.all_eq_true] at contains
    have field := contains.2 (key, wanted) member
    unfold containsField at field
    split at field
    · exact absurd field Bool.false_ne_true
    · next actual there =>
      exact ⟨fields, actual, rfl, there, (Bool.and_eq_true_iff.mp field).2⟩
  | _ => exact absurd contains Bool.false_ne_true

/-- Two numbers that one value is equal to are one. -/
theorem int_of_isEqual {value : Json} {left right : Nat} (first : value.isEqual (.int left) = true)
    (second : value.isEqual (.int right) = true) : left = right := by
  cases value with
  | number number =>
    have one : number.value = left := Json.isEqual_number.mp first
    have two : number.value = right := Json.isEqual_number.mp second
    exact_mod_cast one.symm.trans two
  | bool value =>
    simp only [Json.isEqual, Json.int, beq_iff_eq] at first second
    exact_mod_cast first.trans second.symm
  | _ => exact absurd first Bool.false_ne_true

/-- What contains a selected profile is given the same profile again. -/
theorem Selectable.again {name : String} {profile : JsonFields}
    (selectable : Selectable name profile) {value : Json}
    (contains : mediaContainsProfile (some value) (some profile) = true) {mode : Option Json}
    (same : name = "desktop" → ∀ fields, value = .object fields →
      mode = fields.lookup "encoding_mode") :
    mediaSelectedProfile name mode (some value) = some profile := by
  cases selectable with
  | desktop text apple =>
    obtain ⟨fields, actual, rfl, there, equal⟩ := field_of_contains contains
      (List.mem_cons_of_mem _ List.mem_cons_self)
    rw [same rfl fields rfl, there, Json.isEqual_string.mp equal]
    rfl
  | microphone =>
    obtain ⟨fields, actual, rfl, there, equal⟩ := field_of_contains contains List.mem_cons_self
    have untimed : isTimed (some (.object fields)) = false := by
      dsimp only [isTimed]
      rw [there]
      cases timed : actual.isEqual (.int 3)
      · exact timed
      · exact absurd (int_of_isEqual equal timed) (by decide)
    unfold mediaSelectedProfile
    rw [untimed]
    rfl
  | timedMicrophone =>
    obtain ⟨fields, actual, rfl, there, equal⟩ := field_of_contains contains List.mem_cons_self
    have timed : isTimed (some (.object fields)) = true := by
      dsimp only [isTimed]
      rw [there]
      exact equal
    unfold mediaSelectedProfile
    rw [timed]
    rfl
  | audio | input | clipboard | camera => rfl

/-- What the loop over the choices has chosen is contained in one of them. -/
theorem choose_spec {name : String} {choices : List Json} {chosen result : Option JsonFields}
    {mode after : Option Json}
    (ended : chooseProfile name choices chosen mode = .ok (result, after))
    {profile : JsonFields} (chose : result = some profile) :
    chosen = some profile ∨ Selectable name profile ∧
      ∃ choice ∈ choices, mediaContainsProfile (some choice) (some profile) = true := by
  induction choices generalizing chosen mode with
  | nil =>
    obtain ⟨rfl, -⟩ := Prod.mk.inj (Except.ok.inj ended)
    exact .inl chose
  | cons choice choices ih =>
    have later : chosen = some profile ∨ Selectable name profile ∧
        (∃ choice ∈ choices, mediaContainsProfile (some choice) (some profile) = true) →
        chosen = some profile ∨ Selectable name profile ∧
        ∃ other ∈ choice :: choices, mediaContainsProfile (some other) (some profile) = true := by
      rintro (before | ⟨selectable, other, member, contains⟩)
      · exact .inl before
      · exact .inr ⟨selectable, other, List.mem_cons_of_mem _ member, contains⟩
    cases choice with
    | object fields =>
      unfold chooseProfile at ended
      split at ended
      · exact absurd ended nofun
      · dsimp only at ended
        generalize (if name = "desktop" then fields.lookup "encoding_mode" else mode) =
          candidateMode at ended
        generalize (if name = "desktop" then candidateMode else mode) = nextMode at ended
        split at ended
        · exact later (ih ended)
        · next profiled =>
          split at ended
          · next fits =>
            obtain ⟨-, contains⟩ := Bool.and_eq_true_iff.mp fits
            cases ih ended with
            | inl now =>
              rw [now] at contains
              have found : name = "desktop" → encodingProfile candidateMode = true := by
                intro desktop
                simpa [desktop] using profiled
              exact .inr ⟨selectable_of_selected found now, _, List.mem_cons_self, contains⟩
            | inr afterwards =>
              obtain ⟨selectable, other, member, contains⟩ := afterwards
              exact .inr ⟨selectable, other, List.mem_cons_of_mem _ member, contains⟩
          · exact later (ih ended)
    | _ =>
      unfold chooseProfile at ended
      exact absurd ended nofun

/-- What is selected of a feature: nothing, when it is not required, or a profile that the client
offered. -/
def SelectedOf (offers : JsonFields) (required : List Json) (name : String) (value : Json) : Prop :=
  (value = .null ∧ containsName required name = false) ∨
    ∃ profile, value = .object profile ∧ Selectable name profile ∧ ∃ choices choice,
      offers.lookup name = some (.array choices) ∧ choice ∈ choices ∧
        mediaContainsProfile (some choice) (some profile) = true

/-- The loop over the features selects something of each. -/
theorem select_spec {offers : JsonFields} {required : List Json} {names : List String}
    {mode : Option Json} {selected : JsonFields}
    (ended : selectFeatures offers required names mode = .ok selected) :
    selected.map Prod.fst = names ∧
      ∀ name value, (name, value) ∈ selected → SelectedOf offers required name value := by
  induction names generalizing mode selected with
  | nil =>
    obtain rfl := Except.ok.inj ended
    exact ⟨rfl, fun _ _ member => absurd member List.not_mem_nil⟩
  | cons name names ih =>
    unfold selectFeatures at ended
    split at ended
    · next choices offered =>
      split at ended
      · exact absurd ended nofun
      · obtain ⟨⟨chosen, after⟩, loop, ended⟩ := Transport.bind_ok ended
        dsimp only at ended
        split at ended
        · exact absurd ended nofun
        · next kept =>
          obtain ⟨rest, others, ended⟩ := Transport.bind_ok ended
          obtain rfl := Except.ok.inj ended
          obtain ⟨keys, rest⟩ := ih others
          refine ⟨by rw [List.map_cons, keys], ?_⟩
          intro other value member
          cases List.mem_cons.mp member with
          | inl same =>
            obtain ⟨rfl, rfl⟩ := Prod.mk.inj same
            cases chosen with
            | none =>
              left
              refine ⟨rfl, ?_⟩
              simpa using kept
            | some profile =>
              right
              cases choose_spec loop rfl with
              | inl before => exact absurd before nofun
              | inr here =>
                obtain ⟨selectable, choice, member, contains⟩ := here
                refine ⟨profile, rfl, selectable, choices, choice, ?_, member, contains⟩
                cases there : offers.lookup other with
                | none =>
                  rw [there] at offered
                  obtain rfl := Json.array.inj offered
                  exact absurd member List.not_mem_nil
                | some found =>
                  rw [there] at offered
                  exact congrArg some offered
          | inr old => exact rest other value old
    · exact absurd ended nofun

/-- A name that was seen is an element of the array. -/
theorem seen_mem {names : List Json} {seen all : List String}
    (ended : seeNames names seen = some all)
    {name : String} (member : name ∈ all) : name ∈ seen ∨ Json.string name ∈ names := by
  induction names generalizing seen with
  | nil =>
    obtain rfl := Option.some.inj ended
    exact .inl member
  | cons value names ih =>
    cases value with
    | string other =>
      unfold seeNames at ended
      split at ended
      · exact absurd ended nofun
      · cases ih ended with
        | inl before =>
          cases List.mem_cons.mp before with
          | inl same => exact .inr (same ▸ List.mem_cons_self)
          | inr old => exact .inl old
        | inr later => exact .inr (List.mem_cons_of_mem _ later)
    | _ =>
      unfold seeNames at ended
      exact absurd ended nofun

/-- A string that is an element is found. -/
theorem containsName_iff {names : List Json} {name : String} :
    containsName names name = true ↔ Json.string name ∈ names := by
  unfold containsName
  rw [List.any_eq_true]
  constructor
  · rintro ⟨value, member, equal⟩
    rw [← Json.isEqual_string.mp equal]
    exact member
  · intro member
    exact ⟨_, member, Json.isEqual_string.mpr rfl⟩

/-- The features that a client must require, and nothing but an array requires them. -/
theorem required_names {value : Option Json} (required : mediaRequired value = true) :
    ∃ names, value = some (.array names) ∧
      ∀ name ∈ ["desktop", "audio", "input"], containsName names name = true := by
  unfold mediaRequired at required
  split at required
  · next names =>
    refine ⟨names, rfl, ?_⟩
    obtain ⟨-, required⟩ := Bool.and_eq_true_iff.mp required
    split at required
    · next seen ended =>
      simp only [Bool.and_eq_true, List.contains_iff_mem] at required
      intro name member
      rw [containsName_iff]
      have here : name ∈ seen := by
        simp only [List.mem_cons, List.not_mem_nil, or_false] at member
        rcases member with rfl | rfl | rfl
        · exact required.1.1
        · exact required.1.2
        · exact required.2
      exact (seen_mem ended here).resolve_left List.not_mem_nil
    · exact absurd required Bool.false_ne_true
  · exact absurd required Bool.false_ne_true

/-- The features of a reply. -/
def selectedFeatures (reply : JsonFields) : JsonFields := objectFields (reply.lookup "features")

/-- What a reply is made of. -/
structure Negotiated (request reply offers : JsonFields) (names : List Json) : Prop where
  /-- What the client offered. -/
  offered : request.lookup "features" = some (.object offers)
  /-- What it required. -/
  required : request.lookup "required_features" = some (.array names)
  /-- It required what it must. -/
  named : mediaRequired (some (.array names)) = true
  /-- The reply repeats what is required. -/
  repeated : reply.lookup "required_features" = some (.array names)
  /-- Something is selected of every feature. -/
  selected : ∀ name ∈ mediaNames, ∃ value, (selectedFeatures reply).lookup name = some value ∧
    SelectedOf offers names name value
  /-- Nothing else is. -/
  keys : (selectedFeatures reply).map Prod.fst = mediaNames

/-- What an accepted request leads to. -/
theorem negotiated_of_ok {request : Option Json} {reply : JsonFields}
    (accepted : negotiateMedia request = .ok reply) : ∃ fields offers required,
      request = some (.object fields) ∧ Negotiated fields reply offers required := by
  unfold negotiateMedia at accepted
  split at accepted
  · next fields =>
    split at accepted
    · next transport offers _ offered =>
      split at accepted
      · exact absurd accepted nofun
      · split at accepted
        · exact absurd accepted nofun
        · next checked =>
          simp only [Bool.or_eq_true, not_or, Bool.not_eq_true', Bool.not_eq_false] at checked
          obtain ⟨required, there, -⟩ := required_names checked.2
          obtain ⟨selected, loop, accepted⟩ := Transport.bind_ok accepted
          obtain rfl := Except.ok.inj accepted
          obtain ⟨keys, each⟩ := select_spec loop
          rw [there] at each
          have same : selectedFeatures [("schema_version", .int 1), ("launch_schema", .int 7),
              ("transport", .string "plank-native/2"),
              ("required_features", (fields.lookup "required_features").getD .null),
              ("features", .object selected)] = selected := rfl
          refine ⟨fields, offers, required, rfl, offered, there, there ▸ checked.2, ?_, ?_, ?_⟩
          · rw [there]
            rfl
          · intro name member
            rw [same]
            rw [← keys] at member
            obtain ⟨entry, inside, rfl⟩ := List.mem_map.mp member
            cases found : selected.lookup entry.1 with
            | none =>
              have apart := List.lookup_eq_none_iff.mp found entry inside
              simp at apart
            | some value =>
              obtain ⟨before, after, split, -⟩ := List.lookup_eq_some_iff.mp found
              exact ⟨value, rfl, each entry.1 value (by rw [split]; simp)⟩
          · rw [same]
            exact keys
    · exact absurd accepted nofun
  · exact absurd accepted nofun

/-- What is required is the name of a feature. -/
theorem seen_known {names : List Json} {seen all : List String}
    (ended : seeNames names seen = some all)
    {value : Json} (member : value ∈ names) : ∃ name ∈ mediaNames, value = .string name := by
  induction names generalizing seen with
  | nil => exact absurd member List.not_mem_nil
  | cons first names ih =>
    cases first with
    | string other =>
      unfold seeNames at ended
      split at ended
      · exact absurd ended nofun
      · next known =>
        cases List.mem_cons.mp member with
        | inl same =>
          simp only [Bool.or_eq_true, not_or, Bool.not_eq_true', Bool.not_eq_false] at known
          exact ⟨other, List.contains_iff_mem.mp known.1, same⟩
        | inr later => exact ih ended later
    | _ =>
      unfold seeNames at ended
      exact absurd ended nofun

/-- What a client required is the name of a feature. -/
theorem Negotiated.known {request reply offers : JsonFields} {names : List Json}
    (negotiated : Negotiated request reply offers names) {value : Json} (member : value ∈ names) :
    ∃ name ∈ mediaNames, value = .string name := by
  have named := negotiated.named
  unfold mediaRequired at named
  obtain ⟨-, named⟩ := Bool.and_eq_true_iff.mp named
  split at named
  · next ended => exact seen_known ended member
  · exact absurd named Bool.false_ne_true

/-- What is found among the selected features is selected. -/
theorem Negotiated.selectedOf {request reply offers : JsonFields} {names : List Json}
    (negotiated : Negotiated request reply offers names) {name : String} {value : Json}
    (there : (selectedFeatures reply).lookup name = some value) :
    SelectedOf offers names name value := by
  have member : name ∈ mediaNames := by
    obtain ⟨before, after, split, -⟩ := List.lookup_eq_some_iff.mp there
    rw [← negotiated.keys, split]
    simp
  obtain ⟨held, found, selected⟩ := negotiated.selected name member
  obtain rfl := Option.some.inj (found.symm.trans there)
  exact selected

/-- A launch request that a client builds from a reply: its features hold what is selected, and the
other fields are there. -/
structure LaunchFrom (reply launch features desktop : JsonFields) : Prop where
  /-- It has few fields. -/
  short : launch.length ≤ 16
  /-- It has the schema of the reply. -/
  schema : mediaInteger (launch.lookup "schema_version") 7 7 = true
  /-- And its transport. -/
  transport : launch.lookup "transport" = some (.string "plank-native/2")
  /-- And the required features. -/
  required : launch.lookup "required_features" = reply.lookup "required_features"
  /-- Its features. -/
  holds : launch.lookup "features" = some (.object features)
  /-- They are few. -/
  few : features.length ≤ 32
  /-- The desktop. -/
  shows : features.lookup "desktop" = some (.object desktop)
  /-- A selected profile is contained in the feature. -/
  selected : ∀ name profile, (selectedFeatures reply).lookup name = some (.object profile) →
    mediaContainsProfile (features.lookup name) (some profile) = true
  /-- A feature that is not selected is missing. -/
  others : ∀ name, (selectedFeatures reply).lookup name = some .null →
    features.lookup name = none ∨ features.lookup name = some .null
  /-- The capture is named. -/
  capture : ∀ key ∈ ["capture_generation", "capture_id", "max_udp_payload_size"],
    (launch.lookup key).isSome = true
  /-- The geometry of the desktop is given. -/
  geometry : ∀ key ∈ ["width", "height", "frame_rate", "bitrate_kbps"],
    (desktop.lookup key).isSome = true

section Launch

variable {request reply offers launch features desktop : JsonFields} {names : List Json}

/-- What is selected of a required feature. -/
theorem Negotiated.profile (negotiated : Negotiated request reply offers names) {name : String}
    (member : name ∈ mediaNames) (required : containsName names name = true) : ∃ profile,
      (selectedFeatures reply).lookup name = some (.object profile) ∧ Selectable name profile := by
  obtain ⟨value, found, selected⟩ := negotiated.selected name member
  rcases selected with ⟨-, optional⟩ | ⟨profile, rfl, selectable, -⟩
  · exact absurd (optional.symm.trans required) Bool.false_ne_true
  · exact ⟨profile, found, selectable⟩

/-- The mode of a launched desktop is the one that was selected. -/
theorem LaunchFrom.mode (launched : LaunchFrom reply launch features desktop)
    (negotiated : Negotiated request reply offers names) : ∃ mode ∈ appleModes,
      desktop.lookup "encoding_mode" = some (.string mode) := by
  obtain ⟨held, same, always⟩ := required_names negotiated.named
  obtain rfl : names = held := Json.array.inj (Option.some.inj same)
  obtain ⟨profile, found, selectable⟩ :=
    negotiated.profile (by decide) (always "desktop" List.mem_cons_self)
  have contains := launched.selected "desktop" profile found
  rw [launched.shows] at contains
  obtain ⟨mode, apple, rfl⟩ := selectable.mode rfl
  obtain ⟨fields, actual, held, there, equal⟩ := field_of_contains contains
    (List.mem_cons_of_mem _ List.mem_cons_self)
  rw [Json.object.inj held, there, Json.isEqual_string.mp equal]
  exact ⟨mode, apple, rfl⟩

/-- A selected feature is launched with the profile that was selected. -/
theorem LaunchFrom.again (launched : LaunchFrom reply launch features desktop) {name : String}
    {profile : JsonFields} (selectable : Selectable name profile)
    (found : (selectedFeatures reply).lookup name = some (.object profile)) :
    mediaSelectedProfile name (desktop.lookup "encoding_mode") (features.lookup name) =
      some profile := by
  have contains := launched.selected name profile found
  cases held : features.lookup name with
  | none =>
    rw [held] at contains
    exact absurd contains Bool.false_ne_true
  | some value =>
    rw [held] at contains
    refine selectable.again contains ?_
    rintro rfl fields rfl
    rw [launched.shows] at held
    rw [Json.object.inj (Option.some.inj held)]

/-- Whether a feature is launched is whether it was selected. -/
theorem LaunchFrom.isObject_iff (launched : LaunchFrom reply launch features desktop)
    (negotiated : Negotiated request reply offers names) {name : String}
    (member : name ∈ mediaNames) :
    isObject (features.lookup name) = isObject ((selectedFeatures reply).lookup name) := by
  obtain ⟨value, found, selected⟩ := negotiated.selected name member
  rw [found]
  rcases selected with ⟨rfl, -⟩ | ⟨profile, rfl, -⟩
  · cases launched.others name found with
    | inl missing => rw [missing]; rfl
    | inr null => rw [null]
  · have contains := launched.selected name profile found
    cases held : features.lookup name with
    | none =>
      rw [held] at contains
      exact absurd contains Bool.false_ne_true
    | some value =>
      rw [held] at contains
      cases value with
      | object fields => rfl
      | _ => exact absurd contains Bool.false_ne_true

/-- Every feature may be launched. -/
theorem LaunchFrom.launchable (launched : LaunchFrom reply launch features desktop)
    (negotiated : Negotiated request reply offers names) {name : String}
    (member : name ∈ mediaNames) :
    launchable features names (desktop.lookup "encoding_mode") name = true := by
  obtain ⟨value, found, selected⟩ := negotiated.selected name member
  unfold Control.launchable
  rcases selected with ⟨rfl, optional⟩ | ⟨profile, rfl, selectable, -⟩
  · cases launched.others name found with
    | inl missing => rw [missing, optional]; rfl
    | inr null => rw [null, optional]; rfl
  · dsimp only
    rw [launched.again selectable found, launched.selected name profile found, Bool.or_true]

/-- The twelve fields of a normalized launch. -/
def normalizedFields (reply launch desktop : JsonFields) : JsonFields :=
  [("schema_version", .int 7),
    ("clipboard", .bool (isObject ((selectedFeatures reply).lookup "clipboard"))),
    ("microphone", .bool (isObject ((selectedFeatures reply).lookup "microphone"))),
    ("camera", .bool (isObject ((selectedFeatures reply).lookup "camera")))] ++
  copyFields ["capture_generation", "capture_id", "max_udp_payload_size"] launch ++
  copyFields ["width", "height", "encoding_mode", "frame_rate", "bitrate_kbps"] desktop

/-- They are twelve, and those of the desktop are found among them. -/
theorem LaunchFrom.copied (launched : LaunchFrom reply launch features desktop)
    (negotiated : Negotiated request reply offers names) :
    (normalizedFields reply launch desktop).length = 12 ∧
      ∀ key ∈ ["width", "height", "encoding_mode", "frame_rate", "bitrate_kbps"],
        (normalizedFields reply launch desktop).lookup key = desktop.lookup key := by
  obtain ⟨mode, -, there⟩ := launched.mode negotiated
  obtain ⟨generation, generated⟩ :=
    Option.isSome_iff_exists.mp (launched.capture "capture_generation" (by decide))
  obtain ⟨identifier, identified⟩ :=
    Option.isSome_iff_exists.mp (launched.capture "capture_id" (by decide))
  obtain ⟨payload, sized⟩ :=
    Option.isSome_iff_exists.mp (launched.capture "max_udp_payload_size" (by decide))
  obtain ⟨width, wide⟩ := Option.isSome_iff_exists.mp (launched.geometry "width" (by decide))
  obtain ⟨height, high⟩ := Option.isSome_iff_exists.mp (launched.geometry "height" (by decide))
  obtain ⟨rate, rated⟩ := Option.isSome_iff_exists.mp (launched.geometry "frame_rate" (by decide))
  obtain ⟨bitrate, fast⟩ :=
    Option.isSome_iff_exists.mp (launched.geometry "bitrate_kbps" (by decide))
  unfold normalizedFields
  constructor
  · simp [copyFields, generated, identified, sized, wide, high, there, rated, fast]
  · intro key member
    simp only [List.mem_cons, List.not_mem_nil, or_false] at member
    rcases member with rfl | rfl | rfl | rfl | rfl <;>
      simp [copyFields, List.lookup, generated, identified, sized, wide, high, there, rated, fast]

/-- The launch is accepted, and normalized to its twelve fields. -/
theorem LaunchFrom.normalized (launched : LaunchFrom reply launch features desktop)
    (negotiated : Negotiated request reply offers names) :
    normalizeMediaLaunch (some (.object launch)) =
      some (normalizedFields reply launch desktop) := by
  obtain ⟨mode, apple, there⟩ := launched.mode negotiated
  have profiled : encodingProfile (desktop.lookup "encoding_mode") = true :=
    encodingProfile_iff.mpr ⟨mode, apple, there⟩
  have all : mediaNames.all (Control.launchable features names (desktop.lookup "encoding_mode")) =
      true := List.all_eq_true.mpr fun _ member => launched.launchable negotiated member
  have clipboard := launched.isObject_iff negotiated (show "clipboard" ∈ mediaNames by decide)
  have microphone := launched.isObject_iff negotiated (show "microphone" ∈ mediaNames by decide)
  have camera := launched.isObject_iff negotiated (show "camera" ∈ mediaNames by decide)
  have transport : (launch.lookup "transport").any (Json.isEqual · (.string "plank-native/2")) =
      true := by
    rw [launched.transport]
    exact Json.isEqual_string.mpr rfl
  have required : launch.lookup "required_features" = some (.array names) :=
    launched.required.trans negotiated.repeated
  have given : isObject (launch.lookup "features") = true ∧
      objectFields (launch.lookup "features") = features := by
    rw [launched.holds]
    exact ⟨rfl, rfl⟩
  have shown : isObject (features.lookup "desktop") = true ∧
      objectFields (features.lookup "desktop") = desktop := by
    rw [launched.shows]
    exact ⟨rfl, rfl⟩
  have values : arrayValues (launch.lookup "required_features") = names := by
    rw [required]
    rfl
  have named : mediaRequired (launch.lookup "required_features") = true := by
    rw [required]
    exact negotiated.named
  unfold normalizeMediaLaunch
  dsimp only
  rw [launched.schema, transport, named, given.1, given.2, shown.1, shown.2, values, profiled, all,
    clipboard, microphone, camera]
  rw [if_neg (by simp [launched.short, launched.few]), if_neg (by simp), if_neg (by simp)]
  exact if_pos (launched.copied negotiated).1

/-- What is reported of a feature: what was selected, for a device that is enabled, and the geometry
with the desktop. -/
def reported (selected desktop : JsonFields) (enabled : Bool) (name : String) : Json :=
  if name = "desktop" then
    .object (objectFields (selected.lookup name) ++
      copyFields ["width", "height", "frame_rate", "bitrate_kbps"] desktop)
  else if enabled then (selected.lookup name).getD .null
  else .null

/-- The features that are reported. -/
theorem LaunchFrom.reported (launched : LaunchFrom reply launch features desktop)
    (negotiated : Negotiated request reply offers names) (clipboard microphone camera : Bool)
    (clipboards : clipboard = true →
      isObject ((selectedFeatures reply).lookup "clipboard") = true)
    (microphones : microphone = true →
      isObject ((selectedFeatures reply).lookup "microphone") = true)
    (cameras : camera = true → isObject ((selectedFeatures reply).lookup "camera") = true) :
    mediaReplyFeatures (some (.object launch)) clipboard microphone camera =
      some (mediaNames.map fun name => (name, Control.reported (selectedFeatures reply) desktop
        (featureEnabled clipboard microphone camera name) name)) := by
  have enabled : ∀ name ∈ mediaNames, featureEnabled clipboard microphone camera name = true →
      isObject ((selectedFeatures reply).lookup name) = true := by
    obtain ⟨held, same, always⟩ := required_names negotiated.named
    obtain rfl : names = held := Json.array.inj (Option.some.inj same)
    have needed : ∀ name ∈ ["desktop", "audio", "input"],
        isObject ((selectedFeatures reply).lookup name) = true := by
      intro name member
      obtain ⟨profile, there, -⟩ :=
        negotiated.profile (by revert name; decide) (always name member)
      rw [there]
      rfl
    intro name member on
    simp only [mediaNames, List.mem_cons, List.not_mem_nil, or_false] at member
    rcases member with rfl | rfl | rfl | rfl | rfl | rfl
    · exact needed _ (by decide)
    · exact needed _ (by decide)
    · exact needed _ (by decide)
    · exact clipboards (by simpa [featureEnabled] using on)
    · exact microphones (by simpa [featureEnabled] using on)
    · exact cameras (by simpa [featureEnabled] using on)
  obtain ⟨-, found⟩ := launched.copied negotiated
  have geometry : copyFields ["width", "height", "frame_rate", "bitrate_kbps"]
      (normalizedFields reply launch desktop) =
        copyFields ["width", "height", "frame_rate", "bitrate_kbps"] desktop := by
    unfold copyFields
    simp only [List.filterMap_cons, List.filterMap_nil]
    rw [found "width" (by decide), found "height" (by decide), found "frame_rate" (by decide),
      found "bitrate_kbps" (by decide)]
  unfold mediaReplyFeatures
  rw [launched.normalized negotiated, Option.map_some, found "encoding_mode" (by decide), geometry]
  congr 1
  apply List.map_congr_left
  intro name member
  have fields : objectFields ((objectFields (some (.object launch))).lookup "features") =
      features := by
    show objectFields (launch.lookup "features") = features
    rw [launched.holds]
    rfl
  rw [fields]
  have profiled : isObject ((selectedFeatures reply).lookup name) = true →
      ∃ profile, (selectedFeatures reply).lookup name = some (.object profile) ∧
        mediaSelectedProfile name (desktop.lookup "encoding_mode") (features.lookup name) =
          some profile := by
    intro object
    obtain ⟨value, there, selected⟩ := negotiated.selected name member
    rcases selected with ⟨rfl, -⟩ | ⟨profile, rfl, selectable, -⟩
    · rw [there] at object
      exact absurd object Bool.false_ne_true
    · exact ⟨profile, there, launched.again selectable there⟩
  unfold Control.reported
  dsimp only
  by_cases desktop' : name = "desktop"
  · have always : featureEnabled clipboard microphone camera name = true := by
      rw [desktop']
      rfl
    obtain ⟨profile, there, again⟩ := profiled (enabled name member always)
    rw [if_pos desktop', if_pos desktop', again, there]
    rfl
  · rw [if_neg desktop', if_neg desktop']
    by_cases on : featureEnabled clipboard microphone camera name = true
    · obtain ⟨profile, there, again⟩ := profiled (enabled name member on)
      rw [if_pos on, if_pos on, again, there]
      rfl
    · rw [if_neg on, if_neg on]

/-- The features of a launch that copies those of a reply, with the geometry of its desktop. -/
def copiedFeatures (reply geometry : JsonFields) : JsonFields :=
  (selectedFeatures reply).map fun field =>
    (field.1, if field.1 = "desktop" then .object (objectFields (some field.2) ++ geometry)
      else field.2)

/-- A launch that copies the features of a reply. -/
def copiedLaunch (reply capture geometry : JsonFields) : JsonFields :=
  [("schema_version", .int 7), ("transport", .string "plank-native/2"),
    ("required_features", (reply.lookup "required_features").getD .null),
    ("features", .object (copiedFeatures reply geometry))] ++ capture

/-- A copy is a launch built from the reply. -/
theorem Negotiated.copied {capture geometry : JsonFields}
    (negotiated : Negotiated request reply offers names) (short : capture.length ≤ 12)
    (few : geometry.length ≤ 30)
    (captured : ∀ key ∈ ["capture_generation", "capture_id", "max_udp_payload_size"],
      (capture.lookup key).isSome = true)
    (sized : ∀ key ∈ ["width", "height", "frame_rate", "bitrate_kbps"],
      (geometry.lookup key).isSome = true) :
    ∃ mode ∈ appleModes, LaunchFrom reply (copiedLaunch reply capture geometry)
      (copiedFeatures reply geometry) (desktopProfile (.string mode) ++ geometry) := by
  obtain ⟨held, same, always⟩ := required_names negotiated.named
  obtain rfl : names = held := Json.array.inj (Option.some.inj same)
  obtain ⟨profile, found, selectable⟩ :=
    negotiated.profile (by decide) (always "desktop" List.mem_cons_self)
  obtain ⟨mode, apple, rfl⟩ := selectable.mode rfl
  have features : ∀ name, (copiedFeatures reply geometry).lookup name =
      ((selectedFeatures reply).lookup name).map fun value =>
        if name = "desktop" then .object (objectFields (some value) ++ geometry) else value :=
    Json.lookup_map (fun name value =>
      if name = "desktop" then .object (objectFields (some value) ++ geometry) else value) _
  have other : ∀ name value, name ≠ "desktop" → (selectedFeatures reply).lookup name = some value →
      (copiedFeatures reply geometry).lookup name = some value := by
    intro name value apart there
    rw [features, there, Option.map_some, if_neg apart]
  have desktop : (copiedFeatures reply geometry).lookup "desktop" =
      some (.object (desktopProfile (.string mode) ++ geometry)) := by
    rw [features, found]
    rfl
  have version : mediaInteger (some (.int 7)) 7 7 = true := by decide +kernel
  refine ⟨mode, apple, ⟨?_, version, rfl, ?_, rfl, ?_, desktop, ?_, ?_, ?_, ?_⟩⟩
  · rw [copiedLaunch, List.length_append]
    simpa using Nat.add_le_add_left short 4
  · rw [negotiated.repeated]
    show some ((reply.lookup "required_features").getD .null) = _
    rw [negotiated.repeated, Option.getD_some]
  · rw [copiedFeatures, List.length_map, ← List.length_map Prod.fst, negotiated.keys]
    decide
  · intro name profile there
    by_cases shown : name = "desktop"
    · subst shown
      obtain rfl := Json.object.inj (Option.some.inj (found.symm.trans there))
      rw [desktop]
      have small : decide ((desktopProfile (.string mode) ++ geometry).length ≤ 32) = true := by
        rw [decide_eq_true_eq, List.length_append]
        exact Nat.add_le_add_left few 2
      unfold mediaContainsProfile
      dsimp only
      rw [small]
      simp [desktopProfile, containsField, List.lookup, Json.isEqual, Json.int, Json.isNumeric,
        Json.isBool]
    · rw [other name _ shown there]
      rcases negotiated.selectedOf there with ⟨null, -⟩ | ⟨kept, same, selectable, -⟩
      · cases null
      · obtain rfl := Json.object.inj same
        exact selectable.contains_self
  · intro name there
    right
    refine other name _ ?_ there
    rintro rfl
    cases found.symm.trans there
  · intro key member
    have there := captured key member
    simp only [List.mem_cons, List.not_mem_nil, or_false] at member
    rcases member with rfl | rfl | rfl <;> exact there
  · intro key member
    have there := sized key member
    simp only [List.mem_cons, List.not_mem_nil, or_false] at member
    rcases member with rfl | rfl | rfl | rfl <;> exact there

/-- What an accepted request promises a client. -/
structure NegotiationLaw (request reply : JsonFields) : Prop where
  /-- Something is selected of the features, and of nothing else. -/
  keys : (selectedFeatures reply).map Prod.fst = mediaNames
  /-- A feature is null, or a profile. -/
  profiles : ∀ name value, (selectedFeatures reply).lookup name = some value →
    value = .null ∨ ∃ profile, value = .object profile
  /-- A selected profile is contained in an alternative that was offered. -/
  contained : ∀ name profile, (selectedFeatures reply).lookup name = some (.object profile) →
    ∃ offers choices choice, request.lookup "features" = some (.object offers) ∧
      offers.lookup name = some (.array choices) ∧ choice ∈ choices ∧
      mediaContainsProfile (some choice) (some profile) = true
  /-- What is required is named once each, and selected. -/
  required : ∃ names, request.lookup "required_features" = some (.array names) ∧
    ∀ value ∈ names, ∃ name profile, value = .string name ∧
      (selectedFeatures reply).lookup name = some (.object profile)
  /-- A launch that copies the selected features is one built from them. -/
  copied : ∀ capture geometry : JsonFields, capture.length ≤ 12 → geometry.length ≤ 30 →
    (∀ key ∈ ["capture_generation", "capture_id", "max_udp_payload_size"],
      (capture.lookup key).isSome = true) →
    (∀ key ∈ ["width", "height", "frame_rate", "bitrate_kbps"],
      (geometry.lookup key).isSome = true) →
    ∃ desktop, LaunchFrom reply (copiedLaunch reply capture geometry)
      (copiedFeatures reply geometry) desktop
  /-- A launch built from them is accepted, and normalized to its twelve fields. -/
  accepted : ∀ launch features desktop, LaunchFrom reply launch features desktop →
    normalizeMediaLaunch (some (.object launch)) = some (normalizedFields reply launch desktop)
  /-- What it reports is what was selected, for the devices that are enabled. -/
  reported : ∀ launch features desktop, LaunchFrom reply launch features desktop →
    ∀ clipboard microphone camera : Bool,
    (clipboard = true → isObject ((selectedFeatures reply).lookup "clipboard") = true) →
    (microphone = true → isObject ((selectedFeatures reply).lookup "microphone") = true) →
    (camera = true → isObject ((selectedFeatures reply).lookup "camera") = true) →
    mediaReplyFeatures (some (.object launch)) clipboard microphone camera =
      some (mediaNames.map fun name => (name, Control.reported (selectedFeatures reply) desktop
        (featureEnabled clipboard microphone camera name) name))

end Launch

/-- Negotiation agrees with launch. -/
theorem negotiation_agrees {request : Option Json} {reply : JsonFields}
    (accepted : negotiateMedia request = .ok reply) :
    ∃ fields, request = some (.object fields) ∧ NegotiationLaw fields reply := by
  obtain ⟨fields, offers, names, rfl, negotiated⟩ := negotiated_of_ok accepted
  refine ⟨fields, rfl, ⟨negotiated.keys, ?_, ?_, ⟨names, negotiated.required, ?_⟩, ?_,
    fun launch features desktop launched => launched.normalized negotiated,
    fun launch features desktop launched => launched.reported negotiated⟩⟩
  · intro name value there
    rcases negotiated.selectedOf there with ⟨rfl, -⟩ | ⟨profile, rfl, -⟩
    · exact .inl rfl
    · exact .inr ⟨profile, rfl⟩
  · intro name profile there
    rcases negotiated.selectedOf there with ⟨null, -⟩ | ⟨held, same, -, found⟩
    · exact absurd null nofun
    · obtain ⟨choices, choice, offered, member, contains⟩ := found
      obtain rfl := Json.object.inj same
      exact ⟨offers, choices, choice, negotiated.offered, offered, member, contains⟩
  · intro value member
    obtain ⟨name, known, rfl⟩ := negotiated.known member
    obtain ⟨profile, found, -⟩ := negotiated.profile known (containsName_iff.mpr member)
    exact ⟨name, profile, rfl, found⟩
  · intro capture geometry short few captured sized
    obtain ⟨mode, -, launched⟩ := negotiated.copied short few captured sized
    exact ⟨_, launched⟩

/-- An offer of a desktop, audio, input and a microphone with capture times. -/
def sampleOffer : JsonFields :=
  [("schema_version", .int 1), ("transport", .string "plank-native/2"),
    ("required_features", .array [.string "desktop", .string "audio", .string "input"]),
    ("features", .object [
      ("desktop", .array [.object (desktopProfile (.string "hevc-10-420-videotoolbox"))]),
      ("audio", .array [.object audioProfile]), ("input", .array [.object inputProfile]),
      ("microphone", .array [.object timedMicrophoneProfile])])]

/-- The offer is accepted, and a launch may copy the reply to it. -/
theorem sample_agrees : ∃ reply, negotiateMedia (some (.object sampleOffer)) = .ok reply ∧
    NegotiationLaw sampleOffer reply := by
  have accepted : (negotiateMedia (some (.object sampleOffer))).isOk = true := by decide +kernel
  cases answered : negotiateMedia (some (.object sampleOffer)) with
  | error status =>
    rw [answered] at accepted
    exact absurd accepted Bool.false_ne_true
  | ok reply =>
    obtain ⟨fields, same, law⟩ := negotiation_agrees answered
    obtain rfl := Json.object.inj (Option.some.inj same)
    exact ⟨reply, rfl, law⟩

end Plank.Control
