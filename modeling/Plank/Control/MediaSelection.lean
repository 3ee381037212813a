import Plank.Control.MediaFeaturesLaw

/-!
# What negotiation selects

The loops of `PLANKMacNegotiateMedia` against what they are for: of each feature the first choice
that is acceptable by itself, and a refusal only where something is unreadable or required in vain.
-/

namespace Plank.Control

open Wire (Json JsonFields)

/-- Whether a choice can be read. -/
def readable : Json → Bool
  | .object fields =>
    !(fields.length > 32 || !mediaInteger (fields.lookup "schema_version") 1 65535)
  | _ => false

/-- The profile that a choice for a feature is selected with. -/
def acceptable (name : String) : Json → Option JsonFields
  | .object fields =>
    let mode := if name = "desktop" then fields.lookup "encoding_mode" else none
    let profile := mediaSelectedProfile name mode (some (.object fields))
    if !(name = "desktop" && !encodingProfile mode) &&
        mediaContainsProfile (some (.object fields)) profile then profile
    else none
  | _ => none

/-- What is offered of a feature. -/
def offered (offers : JsonFields) (name : String) : Json := (offers.lookup name).getD (.array [])

/-- What is to be selected of a feature. -/
def selection (offers : JsonFields) (name : String) : Option JsonFields :=
  (arrayValues (some (offered offers name))).findSome? (acceptable name)

/-- Whether the offer of a feature can be read, and has what is required. -/
def sufficient (offers : JsonFields) (required : List Json) (name : String) : Prop :=
  ∃ choices, offered offers name = .array choices ∧ choices.length ≤ 8 ∧
    choices.all readable = true ∧
    (containsName required name = true → (selection offers name).isSome = true)

/-- What is asked of a request besides its features. -/
def wellRequested (request : JsonFields) : Prop :=
  request.length ≤ 16 ∧ mediaInteger (request.lookup "schema_version") 1 65535 = true ∧
    (request.lookup "schema_version").any (Json.isEqual · (.int 1)) = true ∧
    request.lookup "transport" = some (.string "plank-native/2") ∧
    mediaRequired (request.lookup "required_features") = true

/-- The reply to a request with these features. -/
def negotiatedReply (request offers : JsonFields) : JsonFields :=
  [("schema_version", .int 1), ("launch_schema", .int 7), ("transport", .string "plank-native/2"),
    ("required_features", (request.lookup "required_features").getD .null),
    ("features", .object (mediaNames.map fun name =>
      (name, ((selection offers name).map Json.object).getD .null)))]

/-- Only a desktop has a mode. -/
theorem selectedProfile_mode {name : String} (other : name ≠ "desktop")
    (mode choice : Option Json) : mediaSelectedProfile name mode choice = mediaSelectedProfile name none choice := by
  unfold mediaSelectedProfile mediaProfile
  rw [if_neg other, if_neg other]

/-- A turn of the loop over the choices. -/
theorem choose_turn {name : String} {fields : JsonFields} (reads : readable (.object fields) = true)
    (choices : List Json) (chosen : Option JsonFields) (mode : Option Json) :
    ∃ next, chooseProfile name (.object fields :: choices) chosen mode =
      chooseProfile name choices (chosen.or (acceptable name (.object fields))) next := by
  have candidate : mediaSelectedProfile name
      (if name = "desktop" then fields.lookup "encoding_mode" else mode) (some (.object fields)) =
        mediaSelectedProfile name (if name = "desktop" then fields.lookup "encoding_mode" else none)
          (some (.object fields)) := by
    split
    · rfl
    · next other => exact selectedProfile_mode other ..
  have refused : (name = "desktop" && !encodingProfile
      (if name = "desktop" then fields.lookup "encoding_mode" else mode)) =
        (name = "desktop" && !encodingProfile
          (if name = "desktop" then fields.lookup "encoding_mode" else none)) := by
    by_cases desktop : name = "desktop" <;> simp [desktop]
  rw [readable, Bool.not_eq_true'] at reads
  rw [chooseProfile, if_neg (Bool.eq_false_iff.mp reads), acceptable]
  dsimp only
  rw [candidate, refused]
  generalize (name = "desktop" && !encodingProfile
    (if name = "desktop" then fields.lookup "encoding_mode" else none)) = wrong
  generalize mediaSelectedProfile name (if name = "desktop" then fields.lookup "encoding_mode"
    else none) (some (.object fields)) = profile
  cases wrong with
  | true => exact ⟨mode, by simp⟩
  | false =>
    cases chosen with
    | some _ => exact ⟨mode, rfl⟩
    | none =>
      cases fits : mediaContainsProfile (some (.object fields)) profile with
      | true => exact ⟨_, rfl⟩
      | false => exact ⟨mode, rfl⟩

/-- The loop over the choices takes the first that is acceptable. -/
theorem choose_eq (name : String) (choices : List Json) (chosen : Option JsonFields)
    (mode : Option Json) : (chooseProfile name choices chosen mode).map Prod.fst =
      if choices.all readable then .ok (chosen.or (choices.findSome? (acceptable name)))
      else .error 400 := by
  induction choices generalizing chosen mode with
  | nil => simp [chooseProfile, Except.map]
  | cons choice choices ih =>
    cases choice with
    | object fields =>
      cases reads : readable (.object fields) with
      | true =>
        obtain ⟨next, turned⟩ := choose_turn reads choices chosen mode
        rw [turned, ih, List.all_cons, reads, Bool.true_and, List.findSome?_cons, Option.or_assoc]
        cases acceptable name (.object fields) <;> rfl
      | false =>
        rw [List.all_cons, reads]
        unfold chooseProfile
        rw [if_pos]
        · rfl
        · simpa only [readable, Bool.not_eq_false'] using reads
    | _ => simp [chooseProfile, readable, Except.map]

/-- The loop over the choices ends well exactly where all can be read. -/
theorem choose_ok {name : String} {choices : List Json} {mode : Option Json}
    {chosen : Option JsonFields} : (∃ after, chooseProfile name choices none mode =
      .ok (chosen, after)) ↔ choices.all readable = true ∧
        chosen = choices.findSome? (acceptable name) := by
  have loop := choose_eq name choices none mode
  constructor
  · rintro ⟨after, ran⟩
    rw [ran] at loop
    split at loop
    · next reads => exact ⟨reads, Except.ok.inj loop⟩
    · contradiction
  · rintro ⟨reads, rfl⟩
    rw [if_pos reads] at loop
    cases ran : chooseProfile name choices none mode with
    | error code =>
      rw [ran] at loop
      contradiction
    | ok ended =>
      rw [ran] at loop
      obtain ⟨chosen, after⟩ := ended
      obtain rfl : chosen = choices.findSome? (acceptable name) := Except.ok.inj loop
      exact ⟨after, rfl⟩

/-- What is selected of the choices on offer. -/
theorem selection_eq {offers : JsonFields} {name : String} {choices : List Json}
    (here : offered offers name = .array choices) :
    selection offers name = choices.findSome? (acceptable name) := by
  rw [selection, here, arrayValues]

/-- The loop over the features selects of each what is to be selected. -/
theorem select_iff {offers : JsonFields} {required : List Json} {names : List String}
    {mode : Option Json} {selected : JsonFields} :
    selectFeatures offers required names mode = .ok selected ↔
      (∀ name ∈ names, sufficient offers required name) ∧ selected = names.map fun name =>
        (name, ((selection offers name).map Json.object).getD .null) := by
  induction names generalizing mode selected with
  | nil => simp [selectFeatures, eq_comm]
  | cons name names ih =>
    rw [List.forall_mem_cons, selectFeatures]
    constructor
    · intro accepted
      split at accepted
      · next choices here =>
        obtain ⟨few, accepted⟩ := Transport.ite_error_ok accepted
        obtain ⟨⟨chosen, after⟩, ran, accepted⟩ := Transport.bind_ok accepted
        obtain ⟨has, accepted⟩ := Transport.ite_error_ok accepted
        obtain ⟨rest, others, same⟩ := Transport.bind_ok accepted
        obtain ⟨each, rfl⟩ := ih.mp others
        obtain ⟨reads, rfl⟩ := choose_ok.mp ⟨after, ran⟩
        rw [← selection_eq here] at has same
        have enough (needed : containsName required name = true) :
            (selection offers name).isSome = true :=
          Option.isSome_iff_ne_none.mpr (by simpa [needed] using has)
        exact ⟨⟨⟨choices, here, Nat.not_lt.mp few, reads, enough⟩, each⟩,
          (Except.ok.inj same).symm⟩
      · contradiction
    · rintro ⟨⟨⟨choices, here, few, reads, has⟩, each⟩, rfl⟩
      obtain ⟨after, ran⟩ := choose_ok.mpr ⟨reads, selection_eq here⟩
      have picks : ¬((selection offers name).isNone && containsName required name) = true := by
        intro lacks
        obtain ⟨missing, needed⟩ := Bool.and_eq_true_iff.mp lacks
        rw [Option.isNone_iff_eq_none.mp missing] at has
        have some := has needed
        contradiction
      rw [show (offers.lookup name).getD (.array []) = .array choices from here]
      dsimp only
      rw [if_neg (Nat.not_lt.mpr few), ran]
      show (if (selection offers name).isNone && containsName required name then _ else _) = _
      rw [if_neg picks, ih.mpr ⟨each, rfl⟩]
      rfl

/-- A request is accepted exactly where it is well made and each feature has what is required; the
reply selects of each feature the first choice that is acceptable. -/
theorem negotiation_exact {request reply : JsonFields} :
    negotiateMedia (some (.object request)) = .ok reply ↔ wellRequested request ∧
      ∃ offers, request.lookup "features" = some (.object offers) ∧ offers.length ≤ 32 ∧
        (∀ name ∈ mediaNames, sufficient offers
          (arrayValues (request.lookup "required_features")) name) ∧
        reply = negotiatedReply request offers := by
  unfold negotiateMedia wellRequested
  dsimp only
  constructor
  · intro accepted
    split at accepted
    · next transport offers sent offered =>
      obtain ⟨bounds, accepted⟩ := Transport.ite_error_ok accepted
      obtain ⟨checks, accepted⟩ := Transport.ite_error_ok accepted
      obtain ⟨selected, ran, same⟩ := Transport.bind_ok accepted
      obtain ⟨each, rfl⟩ := select_iff.mp ran
      simp only [Bool.or_eq_true, decide_eq_true_eq, not_or, Nat.not_lt, Bool.not_eq_true',
        Bool.not_eq_false, not_not] at bounds checks
      obtain ⟨⟨short, integer⟩, few⟩ := bounds
      obtain ⟨⟨version, rfl⟩, named⟩ := checks
      exact ⟨⟨short, integer, version, sent, named⟩, offers, offered, few, each,
        (Except.ok.inj same).symm⟩
    · contradiction
  · rintro ⟨⟨short, integer, version, sent, named⟩, offers, there, few, each, rfl⟩
    rw [sent, there, integer, version, named]
    dsimp only
    rw [if_neg (by simp [short, few]), if_neg (by simp), select_iff.mpr ⟨each, rfl⟩]
    rfl

end Plank.Control
