import Plank.Media.AvcLaw
import Plank.Media.CameraSample
import Plank.Media.JpegLaw

/-!
# The chain of camera samples

Whatever is offered to the builder, a sample that depends on another directly follows it, what is
emitted increases, and a rejected record leaves everything but the need of a key frame.
-/

namespace Plank.Media

open Camera (h264 mjpeg keyFrame discontinuity headerBytes)
open Camera.Native (Header)

/-- The header and the payload that are read of a record. -/
structure Reads (record : List UInt8) (header : Header) (payload : CameraPayload) : Prop where
  /-- The header is decoded. -/
  decoded : Header.decode record = some header
  /-- The payload is parsed. -/
  parsed : cameraParsePayload header (record.drop headerBytes) = some (some payload)

/-! ### Reads inside the record -/

/-- The units of a payload that can be put behind their lengths are read. -/
theorem span_of_adapted {bytes data : List UInt8} {nals : List CameraNal}
    (adapted : adaptedOf bytes nals = some data) {nal : CameraNal} (member : nal ∈ nals) :
    ∃ unit, span bytes nal.offset nal.size = some unit := by
  induction nals generalizing data with
  | nil => exact nomatch member
  | cons first rest ih =>
    unfold adaptedOf at adapted
    obtain ⟨unit, here, adapted⟩ := Option.bind_eq_some_iff.mp adapted
    obtain ⟨more, there, -⟩ := Option.bind_eq_some_iff.mp adapted
    obtain _ | ⟨_, member⟩ := member
    · exact ⟨unit, here⟩
    · exact ih there member

/-- The payload of a record is parsed without a read outside it, and the units of an accepted one
can be put behind their lengths. -/
theorem cameraParsePayload_total (header : Header) (bytes : List UInt8) :
    ∃ result, cameraParsePayload header bytes = some result ∧
      ∀ payload, result = some payload → ∃ data, adaptedOf bytes payload.nals = some data := by
  unfold cameraParsePayload
  by_cases invalid : (!header.valid bytes.length) = true
  · exact ⟨none, if_pos invalid, nofun⟩
  rw [if_neg invalid]
  by_cases image : header.codec = mjpeg
  · obtain ⟨accepted, walked⟩ :=
      cameraParseJpeg_total bytes header.width.toNat header.height.toNat
    rw [if_pos image, walked]
    refine ⟨_, rfl, ?_⟩
    cases accepted
    · exact nofun
    · rintro payload ⟨⟩
      exact ⟨[], rfl⟩
  rw [if_neg image]
  obtain ⟨result, scanned, parsed⟩ := cameraParseAvc_spec bytes
  rw [scanned]
  cases result with
  | none => exact ⟨none, rfl, nofun⟩
  | some payload =>
    refine ⟨_, rfl, ?_⟩
    intro other same
    have chosen := (Option.ite_none_right_eq_some.mp same).2
    rw [← Option.some.inj chosen]
    obtain ⟨pieces, accepted⟩ := parsed
    have adapted := adaptedOf_positions [] pieces
    rw [List.nil_append, List.length_nil, ← accepted.ranges, ← accepted.bytes] at adapted
    exact ⟨_, adapted⟩

/-- A parameter set is read inside the payload. -/
theorem parameterSet_total {bytes data : List UInt8} {payload : CameraPayload}
    (adapted : adaptedOf bytes payload.nals = some data) (index : Nat)
    (held : Option (List UInt8)) :
    ∃ set, parameterSet bytes payload index held = some set := by
  unfold parameterSet
  by_cases inside : index < payload.nals.length
  · obtain ⟨unit, read⟩ := span_of_adapted adapted (List.getElem_mem inside)
    rw [if_pos inside, List.getElem?_eq_getElem inside]
    exact ⟨some unit, by simp only [Option.bind_eq_bind, Option.bind_some, read]⟩
  · exact ⟨held, if_neg inside⟩

namespace SampleBuilder

/-! ### What a record can do -/

/-- The format of a sample goes with its header and with what the builder holds. -/
def Fits (builder : SampleBuilder) (header : Header) (bytes : List UInt8) (payload : CameraPayload)
    (sps pps : Option (List UInt8)) : FormatDescription → Prop
  | .avc first second => header.codec = h264 ∧ sps = some first ∧ pps = some second ∧
    parameterSet bytes payload payload.sps builder.sps = some sps ∧
    parameterSet bytes payload payload.pps builder.pps = some pps ∧
    (builder.format ≠ none → builder.sps = sps ∧ builder.pps = pps)
  | .jpeg width height => header.codec ≠ h264 ∧ header.width = width ∧ header.height = height

/-- What is known of a record whose sample is made. -/
structure Accepts (builder : SampleBuilder) (offer : SampleOffer) (header : Header)
    (payload : CameraPayload) (candidate : FormatDescription) (sps pps : Option (List UInt8)) :
    Prop where
  /-- The record is read. -/
  reads : Reads offer.record header payload
  /-- It is later than those before. -/
  fresh : builder.stale header offer.hostTime = false
  /-- It has the metadata of those before. -/
  same : builder.format ≠ none → sameMetadata header builder.metadata = true
  /-- A dependent one follows those before. -/
  chained : payload.independent = false → builder.needsKeyframe = false ∧ builder.gap header = false
  /-- The format goes with it. -/
  formatted : builder.Fits header (offer.record.drop headerBytes) payload sps pps candidate

/-- What a record comes to: nothing but perhaps the need of a key frame, or its sample. -/
def Comes (builder : SampleBuilder) (offer : SampleOffer)
    (result : Option CameraSample × SampleBuilder) : Prop :=
  (result.1 = none ∧ (result.2 = builder ∨ result.2 = builder.dropped)) ∨
    ∃ header payload candidate sps pps data,
      builder.Accepts offer header payload candidate sps pps ∧ result =
        (some ⟨data, candidate, offer.hostTime, payload.independent⟩,
          builder.accept header candidate sps pps offer.hostTime)

/-- A record whose sample is made leaves no need of a key frame. -/
theorem accept_dropped (builder : SampleBuilder) (header : Header) (candidate : FormatDescription)
    (sps pps : Option (List UInt8)) (hostTime : UInt64) :
    builder.dropped.accept header candidate sps pps hostTime =
      builder.accept header candidate sps pps hostTime := by
  unfold accept dropped
  dsimp only
  by_cases first : builder.format = none
  · rw [if_pos first, if_pos first]
  · rw [if_neg first, if_neg first]

/-- A sample of a format is made, or its record refused. -/
theorem emit_cases (builder : SampleBuilder) (header : Header) {bytes data : List UInt8}
    {payload : CameraPayload} (adapted : adaptedOf bytes payload.nals = some data)
    (candidate : FormatDescription) (sps pps : Option (List UInt8)) (offer : SampleOffer) :
    builder.emit header bytes payload candidate sps pps offer = some (none, builder.dropped) ∨
      ∃ data, builder.emit header bytes payload candidate sps pps offer =
        some (some ⟨data, candidate, offer.hostTime, payload.independent⟩,
          builder.accept header candidate sps pps offer.hostTime) := by
  have sized : ∃ data, sampleData header bytes payload = some data := by
    unfold sampleData
    by_cases avc : header.codec = h264
    · exact ⟨data, (if_pos avc).trans adapted⟩
    · exact ⟨bytes, if_neg avc⟩
  obtain ⟨data, sized⟩ := sized
  unfold emit
  dsimp only
  rw [sized]
  simp only [Option.bind_eq_bind, Option.bind_some]
  by_cases refused : (!(decide (offer.answers.width = header.width.toNat) &&
      decide (offer.answers.height = header.height.toNat) &&
      (decide (builder.format = none) || offer.answers.equal))) = true
  · exact .inl (if_pos refused)
  rw [if_neg refused]
  by_cases failed : (!(offer.answers.block && offer.answers.filled && offer.answers.ready)) = true
  · exact .inl (if_pos failed)
  rw [if_neg failed]
  by_cases bare : (!offer.answers.attached) = true
  · exact .inl (if_pos bare)
  · exact .inr ⟨data, if_neg bare⟩

/-- A sample of a payload is made, or its record refused. -/
theorem assemble_cases (builder : SampleBuilder) (header : Header) {bytes data : List UInt8}
    {payload : CameraPayload} (adapted : adaptedOf bytes payload.nals = some data)
    (offer : SampleOffer) :
    (∃ after, builder.assemble header bytes payload offer = some (none, after) ∧
      (after = builder ∨ after = builder.dropped)) ∨
    ∃ candidate sps pps data, builder.Fits header bytes payload sps pps candidate ∧
      builder.assemble header bytes payload offer =
        some (some ⟨data, candidate, offer.hostTime, payload.independent⟩,
          builder.accept header candidate sps pps offer.hostTime) := by
  unfold assemble
  by_cases avc : header.codec = h264
  · obtain ⟨sps, first⟩ := parameterSet_total adapted payload.sps builder.sps
    obtain ⟨pps, second⟩ := parameterSet_total adapted payload.pps builder.pps
    rw [if_pos avc, first, second]
    simp only [Option.bind_eq_bind, Option.bind_some]
    match sps, pps, first, second with
    | none, _, _, _ | some _, none, _, _ => exact .inl ⟨_, rfl, .inr rfl⟩
    | some sps, some pps, first, second =>
      dsimp only
      by_cases changed : builder.format ≠ none ∧ (builder.sps ≠ some sps ∨ builder.pps ≠ some pps)
      · exact .inl ⟨_, if_pos changed, .inr rfl⟩
      rw [if_neg changed]
      by_cases uncreated : (!offer.answers.created) = true
      · exact .inl ⟨_, if_pos uncreated, .inr rfl⟩
      rw [if_neg uncreated]
      obtain refused | ⟨data, made⟩ := builder.emit_cases header adapted (.avc sps pps) (some sps)
        (some pps) offer
      · exact .inl ⟨_, refused, .inr rfl⟩
      · refine .inr ⟨.avc sps pps, some sps, some pps, data, ?_, made⟩
        refine ⟨avc, rfl, rfl, first, second, fun formatted => ?_⟩
        simp only [not_and, not_or, not_not] at changed
        exact changed formatted
  · rw [if_neg avc]
    by_cases uncreated : (!offer.answers.created) = true
    · exact .inl ⟨_, if_pos uncreated, .inl rfl⟩
    rw [if_neg uncreated]
    obtain refused | ⟨data, made⟩ := builder.emit_cases header adapted
      (.jpeg header.width header.height) builder.sps builder.pps offer
    · exact .inl ⟨_, refused, .inr rfl⟩
    · exact .inr ⟨.jpeg header.width header.height, builder.sps, builder.pps, data,
        ⟨avc, rfl, rfl⟩, made⟩

/-- A record is offered without a read outside it, and comes to nothing or to its sample. -/
theorem copySample_cases (builder : SampleBuilder) (offer : SampleOffer) :
    ∃ result, builder.copySample offer = some result ∧ builder.Comes offer result := by
  unfold copySample
  cases decoded : Header.decode offer.record with
  | none => exact ⟨_, rfl, .inl ⟨rfl, .inl rfl⟩⟩
  | some header =>
    dsimp only
    by_cases stale : builder.stale header offer.hostTime = true
    · exact ⟨_, if_pos stale, .inl ⟨rfl, .inl rfl⟩⟩
    rw [if_neg stale]
    by_cases changed : builder.format ≠ none ∧ (!sameMetadata header builder.metadata) = true
    · exact ⟨_, if_pos changed, .inl ⟨rfl, .inr rfl⟩⟩
    rw [if_neg changed]
    have same : builder.format ≠ none → sameMetadata header builder.metadata = true := by
      simpa only [not_and, Bool.not_eq_true', Bool.not_eq_false] using changed
    -- The builder behind the check for a gap is the one before or one that needs a key frame.
    obtain ⟨next, next_eq, kept⟩ : ∃ next,
        (if builder.gap header = true then builder.dropped else builder) = next ∧
        ((next = builder ∧ builder.gap header = false) ∨ next = builder.dropped) := by
      by_cases gap : builder.gap header = true
      · exact ⟨_, if_pos gap, .inr rfl⟩
      · exact ⟨_, if_neg gap, .inl ⟨rfl, Bool.eq_false_of_not_eq_true gap⟩⟩
    rw [next_eq]
    have fields : next.dropped = builder.dropped := by obtain ⟨rfl, -⟩ | rfl := kept <;> rfl
    have refused {after : SampleBuilder} (one : after = next ∨ after = next.dropped) :
        builder.Comes offer (none, after) := by
      obtain rfl | rfl := one
      · obtain ⟨rfl, -⟩ | rfl := kept
        · exact .inl ⟨rfl, .inl rfl⟩
        · exact .inl ⟨rfl, .inr rfl⟩
      · exact .inl ⟨rfl, .inr fields⟩
    obtain ⟨result, parsed, spans⟩ :=
      cameraParsePayload_total header (offer.record.drop headerBytes)
    rw [parsed, Option.bind_eq_bind, Option.bind_some]
    cases result with
    | none => exact ⟨_, rfl, refused (.inr rfl)⟩
    | some payload =>
      dsimp only
      by_cases dependent : next.needsKeyframe = true ∧ (!payload.independent) = true
      · exact ⟨_, if_pos dependent, refused (.inl rfl)⟩
      rw [if_neg dependent]
      obtain ⟨data, adapted⟩ := spans payload rfl
      obtain ⟨after, refuses, one⟩ | ⟨candidate, sps, pps, data, fits, made⟩ :=
        next.assemble_cases header adapted offer
      · exact ⟨_, refuses, refused one⟩
      · have accepted : next.accept header candidate sps pps offer.hostTime =
            builder.accept header candidate sps pps offer.hostTime := by
          rw [← accept_dropped next, fields, accept_dropped]
        have fits : builder.Fits header (offer.record.drop headerBytes) payload sps pps
            candidate := by
          obtain ⟨rfl, -⟩ | rfl := kept
          · exact fits
          · exact fits
        refine ⟨_, made, .inr ⟨header, payload, candidate, sps, pps, data,
          ⟨⟨decoded, parsed⟩, Bool.eq_false_of_not_eq_true stale, same, ?_, fits⟩, ?_⟩⟩
        · intro not_independent
          obtain ⟨rfl, whole⟩ | rfl := kept
          · refine ⟨Bool.eq_false_of_not_eq_true fun needs => dependent ⟨needs, ?_⟩, whole⟩
            rw [not_independent]
            rfl
          · exact (dependent ⟨rfl, by rw [not_independent]; rfl⟩).elim
        · rw [accepted]

/-! ### An independent record and the need of a key frame -/

/-- A reply up to the need of a key frame. -/
def settled (reply : Option CameraSample × SampleBuilder) : Option CameraSample × SampleBuilder :=
  (reply.1, reply.2.dropped)

/-- Making a sample does not depend on the need of a key frame. -/
theorem emit_settled (builder : SampleBuilder) (header : Header) (bytes : List UInt8)
    (payload : CameraPayload) (candidate : FormatDescription) (sps pps : Option (List UInt8))
    (offer : SampleOffer) :
    (builder.dropped.emit header bytes payload candidate sps pps offer).map settled =
      (builder.emit header bytes payload candidate sps pps offer).map settled := by
  have same : builder.dropped.format = builder.format := rfl
  have twice : builder.dropped.dropped = builder.dropped := rfl
  unfold emit
  simp only [accept_dropped, same, twice]

/-- Making a sample of a payload does not depend on the need of a key frame. -/
theorem assemble_settled (builder : SampleBuilder) (header : Header) (bytes : List UInt8)
    (payload : CameraPayload) (offer : SampleOffer) :
    (builder.dropped.assemble header bytes payload offer).map settled =
      (builder.assemble header bytes payload offer).map settled := by
  unfold assemble
  have format_same : builder.dropped.format = builder.format := rfl
  have sps_same : builder.dropped.sps = builder.sps := rfl
  have pps_same : builder.dropped.pps = builder.pps := rfl
  have twice : builder.dropped.dropped = builder.dropped := rfl
  simp only [format_same, sps_same, pps_same, twice]
  by_cases avc : header.codec = h264
  · rw [if_pos avc, if_pos avc]
    cases parameterSet bytes payload payload.sps builder.sps with
    | none => rfl
    | some sps =>
      cases parameterSet bytes payload payload.pps builder.pps with
      | none => rfl
      | some pps =>
        simp only [Option.bind_eq_bind, Option.bind_some]
        match sps, pps with
        | none, _ | some _, none => rfl
        | some sps, some pps =>
          dsimp only
          by_cases changed : builder.format ≠ none ∧
              (builder.sps ≠ some sps ∨ builder.pps ≠ some pps)
          · rw [if_pos changed, if_pos changed]
          rw [if_neg changed, if_neg changed]
          by_cases uncreated : (!offer.answers.created) = true
          · rw [if_pos uncreated, if_pos uncreated]
          rw [if_neg uncreated, if_neg uncreated]
          exact builder.emit_settled header bytes payload (.avc sps pps) (some sps) (some pps) offer
  · rw [if_neg avc, if_neg avc]
    by_cases uncreated : (!offer.answers.created) = true
    · rw [if_pos uncreated, if_pos uncreated]
      rfl
    rw [if_neg uncreated, if_neg uncreated]
    exact builder.emit_settled header bytes payload (.jpeg header.width header.height) builder.sps
      builder.pps offer

/-- What becomes of an independent record does not depend on the need of a key frame. -/
theorem copySample_settled (builder : SampleBuilder) {offer : SampleOffer} {header : Header}
    {payload : CameraPayload} (reads : Reads offer.record header payload)
    (independent : payload.independent = true) :
    (builder.dropped.copySample offer).map settled = (builder.copySample offer).map settled := by
  have format_same : builder.dropped.format = builder.format := rfl
  have metadata_same : builder.dropped.metadata = builder.metadata := rfl
  have stale_same : builder.dropped.stale header offer.hostTime =
    builder.stale header offer.hostTime := rfl
  have gap_same : builder.dropped.gap header = builder.gap header := rfl
  have twice : builder.dropped.dropped = builder.dropped := rfl
  -- Both builders are the same up to the need of a key frame where the payload is put together.
  have goes (next : SampleBuilder) :
      (if next.needsKeyframe = true ∧ (!payload.independent) = true then some (none, next)
      else next.assemble header (offer.record.drop headerBytes) payload offer) =
        next.assemble header (offer.record.drop headerBytes) payload offer :=
    if_neg fun both => by
      rw [independent] at both
      exact Bool.false_ne_true both.2
  unfold copySample
  rw [reads.decoded]
  simp only [format_same, metadata_same, stale_same, gap_same, twice, reads.parsed,
    Option.bind_eq_bind, Option.bind_some, goes]
  by_cases stale : builder.stale header offer.hostTime = true
  · rw [if_pos stale, if_pos stale]
    rfl
  rw [if_neg stale, if_neg stale]
  by_cases changed : builder.format ≠ none ∧ (!sameMetadata header builder.metadata) = true
  · rw [if_pos changed, if_pos changed]
  rw [if_neg changed, if_neg changed]
  by_cases gap : builder.gap header = true
  · rw [if_pos gap, if_pos gap]
  · rw [if_neg gap, if_neg gap]
    exact builder.assemble_settled header (offer.record.drop headerBytes) payload offer

end SampleBuilder

/-! ### Every run of the builder -/

/-- A sample that was emitted, and what was offered for it. -/
structure Emission where
  /-- The offer. -/
  offer : SampleOffer
  /-- The sample. -/
  sample : CameraSample

/-- Offers in order, to a builder that has emitted some samples, the latest first. -/
def offerAll (builder : SampleBuilder) (emissions : List Emission) :
    List SampleOffer → Option (SampleBuilder × List Emission)
  | [] => some (builder, emissions)
  | offer :: offers => do
    match ← builder.copySample offer with
    | (none, after) => offerAll after emissions offers
    | (some sample, after) => offerAll after (⟨offer, sample⟩ :: emissions) offers

/-- A sample is of the record that was offered for it, at its time, and its parameter sets are those
that the record carries. -/
structure Emission.Read (emission : Emission) (header : Header) (payload : CameraPayload) :
    Prop where
  /-- The record is read. -/
  reads : Reads emission.offer.record header payload
  /-- The sample is independent where the payload is. -/
  sync : emission.sample.sync = payload.independent
  /-- The sample has the time that was offered. -/
  time : emission.sample.time = emission.offer.hostTime
  /-- The sets that the payload carries are those of the sample. -/
  sets : ∀ sps pps, emission.sample.format = .avc sps pps → ∀ carried,
    (parameterSet (emission.offer.record.drop headerBytes) payload payload.sps none =
      some (some carried) → carried = sps) ∧
    (parameterSet (emission.offer.record.drop headerBytes) payload payload.pps none =
      some (some carried) → carried = pps)

/-- An emission comes before another one: in sequence, in capture time and in host time. -/
def Precedes (earlier later : Emission) : Prop :=
  ∃ header payload header' payload', earlier.Read header payload ∧ later.Read header' payload' ∧
    header.sequence < header'.sequence ∧ header.captureTimeUs < header'.captureTimeUs ∧
    earlier.offer.hostTime < later.offer.hostTime

/-- An emission goes on from another one: the next in sequence, without a discontinuity, and with
the same parameter sets. -/
def Continues (previous emission : Emission) : Prop :=
  ∃ header payload header' payload', previous.Read header payload ∧ emission.Read header' payload' ∧
    header'.sequence.toNat = header.sequence.toNat + 1 ∧ header'.flags &&& discontinuity = 0 ∧
    emission.sample.format = previous.sample.format

/-- What holds of the samples that were emitted, the latest first. -/
structure Chain (emissions : List Emission) : Prop where
  /-- Each is of its record. -/
  read : ∀ emission ∈ emissions, ∃ header payload, emission.Read header payload
  /-- They increase. -/
  increasing : emissions.Pairwise fun later earlier => Precedes earlier later
  /-- One that is not independent goes on from the one directly before it. -/
  dependent : ∀ later emission earlier, emissions = later ++ emission :: earlier →
    emission.sample.sync = false →
      ∃ previous before, earlier = previous :: before ∧ Continues previous emission

/-- The builder holds the parameter sets of a format, or its size. -/
def SampleBuilder.Holds (builder : SampleBuilder) : FormatDescription → Prop
  | .avc sps pps => builder.sps = some sps ∧ builder.pps = some pps ∧ builder.metadata.codec = h264
  | .jpeg width height => builder.metadata.codec ≠ h264 ∧ builder.metadata.width = width ∧
    builder.metadata.height = height

/-- What holds of a builder with the samples that it has emitted. -/
structure Built (builder : SampleBuilder) (emissions : List Emission) : Prop where
  /-- The samples are a chain. -/
  chain : Chain emissions
  /-- Before the first one there is no format. -/
  fresh : builder.hasFrame = false → emissions = [] ∧ builder.format = none
  /-- Without a need of a key frame there is one. -/
  keyed : builder.needsKeyframe = false → builder.hasFrame = true
  /-- The builder knows the latest one, and its format. -/
  latest : builder.hasFrame = true → ∃ last before header payload, emissions = last :: before ∧
    last.Read header payload ∧ header.sequence = builder.sequence ∧
    header.captureTimeUs = builder.captureTime ∧ last.offer.hostTime = builder.hostTime ∧
    builder.format = some last.sample.format ∧ builder.Holds last.sample.format

/-- Another need of a key frame changes nothing. -/
theorem Built.dropped {builder : SampleBuilder} {emissions : List Emission}
    (built : Built builder emissions) : Built builder.dropped emissions :=
  ⟨built.chain, built.fresh, nofun, built.latest⟩

/-- A builder without a sample is as it starts. -/
theorem built_start (generation : UInt64) :
    Built (SampleBuilder.initWithGeneration generation) [] := by
  refine ⟨⟨nofun, .nil, fun later emission earlier split => ?_⟩, fun _ => ⟨rfl, rfl⟩, nofun, nofun⟩
  exact absurd split.symm (by simp)

/-- The sets that a payload carries are read whatever sets are held. -/
theorem parameterSet_carried {bytes carried : List UInt8} {payload : CameraPayload} {index : Nat}
    {held set : Option (List UInt8)} (read : parameterSet bytes payload index held = some set)
    (carries : parameterSet bytes payload index none = some (some carried)) :
    set = some carried := by
  unfold parameterSet at read carries
  by_cases inside : index < payload.nals.length
  · rw [if_pos inside] at read carries
    exact Option.some.inj (read.symm.trans carries)
  · rw [if_neg inside] at carries
    exact nomatch carries

/-- What is not stale is later than what the builder knows. -/
theorem SampleBuilder.later {builder : SampleBuilder} {header : Header} {hostTime : UInt64}
    (fresh : builder.stale header hostTime = false) (framed : builder.hasFrame = true) :
    builder.sequence < header.sequence ∧ builder.captureTime < header.captureTimeUs ∧
      builder.hostTime < hostTime := by
  unfold SampleBuilder.stale at fresh
  simp only [framed, Bool.true_and, Bool.or_eq_false_iff, decide_eq_false_iff_not,
    UInt64.not_le] at fresh
  exact ⟨fresh.2.1.1, fresh.2.1.2, fresh.2.2⟩

/-- The sample of a record is read as the record is. -/
theorem SampleBuilder.Accepts.read {builder : SampleBuilder} {offer : SampleOffer} {header : Header}
    {payload : CameraPayload} {candidate : FormatDescription} {sps pps : Option (List UInt8)}
    (accepts : builder.Accepts offer header payload candidate sps pps) (data : List UInt8) :
    Emission.Read ⟨offer, ⟨data, candidate, offer.hostTime, payload.independent⟩⟩ header
      payload := by
  refine ⟨accepts.reads, rfl, rfl, ?_⟩
  rintro first second rfl carried
  obtain ⟨-, rfl, rfl, reads_first, reads_second, -⟩ := accepts.formatted
  exact ⟨fun carries => (Option.some.inj (parameterSet_carried reads_first carries)).symm,
    fun carries => (Option.some.inj (parameterSet_carried reads_second carries)).symm⟩

/-- The format of a sample is the one that the builder holds. -/
theorem SampleBuilder.Accepts.format_eq {builder : SampleBuilder} {offer : SampleOffer}
    {header : Header} {payload : CameraPayload} {candidate format : FormatDescription}
    {sps pps : Option (List UInt8)}
    (accepts : builder.Accepts offer header payload candidate sps pps)
    (held : builder.format = some format) (holds : builder.Holds format) : candidate = format := by
  have formatted : builder.format ≠ none := by rw [held]; nofun
  have same := accepts.same formatted
  simp only [sameMetadata, Bool.not_eq_true', Bool.or_eq_false_iff, decide_eq_false_iff_not,
    not_not] at same
  obtain ⟨⟨⟨⟨⟨⟨codec, width⟩, height⟩, -⟩, -⟩, -⟩, -⟩ := same
  have fits := accepts.formatted
  match candidate, format, fits, holds with
  | .avc first second, .avc sps' pps', fits, holds =>
    obtain ⟨-, rfl, rfl, -, -, unchanged⟩ := fits
    obtain ⟨sps_same, pps_same⟩ := unchanged formatted
    obtain ⟨sps_held, pps_held, -⟩ := holds
    rw [Option.some.inj (sps_same.symm.trans sps_held),
      Option.some.inj (pps_same.symm.trans pps_held)]
  | .avc _ _, .jpeg _ _, fits, holds => exact absurd (codec.symm.trans fits.1) holds.1
  | .jpeg _ _, .avc _ _, fits, holds => exact absurd (codec.trans holds.2.2) fits.1
  | .jpeg _ _, .jpeg _ _, fits, holds =>
    obtain ⟨-, rfl, rfl⟩ := fits
    obtain ⟨-, rfl, rfl⟩ := holds
    rw [width, height]

/-- A later sequence number that is the next one has not wrapped. -/
theorem next_sequence {sequence next : UInt64} (follows : next = sequence + 1)
    (later : sequence < next) : next.toNat = sequence.toNat + 1 := by
  have bound := sequence.toNat_lt
  have ordered := UInt64.lt_iff_toNat_lt.mp later
  rw [follows, UInt64.toNat_add, show (1 : UInt64).toNat = 1 from rfl] at ordered ⊢
  omega

/-- Another sample goes on with the chain. -/
theorem Built.accept {builder : SampleBuilder} {emissions : List Emission}
    (built : Built builder emissions) {offer : SampleOffer} {header : Header}
    {payload : CameraPayload} {candidate : FormatDescription} {sps pps : Option (List UInt8)}
    (accepts : builder.Accepts offer header payload candidate sps pps) (data : List UInt8) :
    Built (builder.accept header candidate sps pps offer.hostTime)
      (⟨offer, ⟨data, candidate, offer.hostTime, payload.independent⟩⟩ :: emissions) := by
  have read := accepts.read data
  generalize emission_eq : Emission.mk offer
    ⟨data, candidate, offer.hostTime, payload.independent⟩ = emission at read ⊢
  have time : emission.offer.hostTime = offer.hostTime := by rw [← emission_eq]
  have format : emission.sample.format = candidate := by rw [← emission_eq]
  have sync : emission.sample.sync = payload.independent := by rw [← emission_eq]
  -- What the builder holds behind the sample is its format.
  have holds : (builder.accept header candidate sps pps offer.hostTime).format = some candidate ∧
      (builder.accept header candidate sps pps offer.hostTime).Holds candidate := by
    unfold SampleBuilder.accept
    dsimp only
    by_cases first : builder.format = none
    · rw [if_pos first]
      refine ⟨rfl, ?_⟩
      match candidate, accepts.formatted with
      | .avc _ _, fits => exact ⟨fits.2.1, fits.2.2.1, fits.1⟩
      | .jpeg _ _, fits => exact ⟨fits.1, fits.2⟩
    · have framed : builder.hasFrame = true :=
        Bool.eq_true_of_not_eq_false fun none => first (built.fresh none).2
      obtain ⟨last, before, header', payload', -, -, -, -, -, held, holds⟩ := built.latest framed
      rw [if_neg first, accepts.format_eq held holds]
      refine ⟨held, ?_⟩
      match last.sample.format, holds with
      | .avc _ _, holds => exact holds
      | .jpeg _ _, holds => exact holds
  have fields : (builder.accept header candidate sps pps offer.hostTime).sequence =
      header.sequence ∧
      (builder.accept header candidate sps pps offer.hostTime).captureTime =
        header.captureTimeUs ∧
      (builder.accept header candidate sps pps offer.hostTime).hostTime = offer.hostTime ∧
      (builder.accept header candidate sps pps offer.hostTime).hasFrame = true :=
    ⟨rfl, rfl, rfl, rfl⟩
  generalize builder.accept header candidate sps pps offer.hostTime = after at holds fields ⊢
  obtain ⟨sequence, captureTime, hostTime, hasFrame⟩ := fields
  refine ⟨⟨?_, ?_, ?_⟩, fun none => absurd none (by rw [hasFrame]; decide), fun _ => hasFrame,
    fun _ => ⟨emission, emissions, header, payload, rfl, read, sequence.symm, captureTime.symm,
      time.trans hostTime.symm, by rw [holds.1, format], format ▸ holds.2⟩⟩
  · rintro other (_ | ⟨_, member⟩)
    · exact ⟨header, payload, read⟩
    · exact built.chain.read other member
  · refine List.Pairwise.cons (fun other member => ?_) built.chain.increasing
    have framed : builder.hasFrame = true :=
      Bool.eq_true_of_not_eq_false fun none => by
        rw [(built.fresh none).1] at member
        exact nomatch member
    obtain ⟨last, before, header', payload', rfl, read', sequence', capture', host', -⟩ :=
      built.latest framed
    obtain ⟨later_sequence, later_capture, later_host⟩ :=
      SampleBuilder.later accepts.fresh framed
    rw [← sequence'] at later_sequence
    rw [← capture'] at later_capture
    rw [← host', ← time] at later_host
    have last_precedes : Precedes last emission := ⟨header', payload', header, payload, read', read,
      later_sequence, later_capture, later_host⟩
    obtain _ | ⟨_, member⟩ := member
    · exact last_precedes
    · obtain ⟨header₀, payload₀, header₁, payload₁, read₀, read₁, sequence₀, capture₀, host₀⟩ :=
        List.rel_of_pairwise_cons built.chain.increasing member
      obtain rfl := Option.some.inj (read₁.reads.decoded.symm.trans read'.reads.decoded)
      exact ⟨header₀, payload₀, header, payload, read₀, read,
        UInt64.lt_trans sequence₀ later_sequence, UInt64.lt_trans capture₀ later_capture,
        UInt64.lt_trans host₀ later_host⟩
  · intro later other earlier split not_sync
    obtain _ | ⟨first, later⟩ := later
    · obtain ⟨rfl, rfl⟩ := List.cons.inj split
      obtain ⟨unneeded, whole⟩ := accepts.chained (sync ▸ not_sync)
      have framed := built.keyed unneeded
      obtain ⟨last, before, header', payload', split', read', sequence', -, -, held, holds'⟩ :=
        built.latest framed
      refine ⟨last, before, split', header', payload', header, payload, read', read, ?_, ?_, ?_⟩
      · simp only [SampleBuilder.gap, framed, Bool.true_and, Bool.or_eq_false_iff,
          decide_eq_false_iff_not, not_not] at whole
        have later_sequence := (SampleBuilder.later accepts.fresh framed).1
        exact next_sequence (whole.1.trans (by rw [sequence'])) (sequence' ▸ later_sequence)
      · simp only [SampleBuilder.gap, Bool.or_eq_false_iff, decide_eq_false_iff_not,
          not_not] at whole
        exact whole.2
      · rw [format, accepts.format_eq held holds']
    · exact built.chain.dependent later other earlier (List.cons.inj split).2 not_sync

/-- What was emitted behind an offer. -/
def emittedBy (emissions : List Emission) (offer : SampleOffer) : Option CameraSample →
    List Emission
  | none => emissions
  | some sample => ⟨offer, sample⟩ :: emissions

/-- An offer is answered and keeps the invariant. -/
theorem Built.offer {builder : SampleBuilder} {emissions : List Emission}
    (built : Built builder emissions) (offer : SampleOffer) :
    ∃ sample after, builder.copySample offer = some (sample, after) ∧
      Built after (emittedBy emissions offer sample) := by
  obtain ⟨⟨sample, after⟩, answered, comes⟩ := builder.copySample_cases offer
  refine ⟨sample, after, answered, ?_⟩
  obtain ⟨none, rfl | rfl⟩ | ⟨header, payload, candidate, sps, pps, data, accepts, made⟩ := comes
  · obtain rfl : sample = .none := none
    exact built
  · obtain rfl : sample = .none := none
    exact built.dropped
  · obtain ⟨rfl, rfl⟩ := Prod.mk.inj made
    exact built.accept accepts data

/-- Offers in order are answered and keep the invariant. -/
theorem Built.offerAll {builder : SampleBuilder} {emissions : List Emission}
    (built : Built builder emissions) (offers : List SampleOffer) :
    ∃ after emitted, Media.offerAll builder emissions offers = some (after, emitted) ∧
      Built after emitted := by
  induction offers generalizing builder emissions with
  | nil => exact ⟨builder, emissions, rfl, built⟩
  | cons offer offers ih =>
    obtain ⟨sample, next, answered, kept⟩ := built.offer offer
    obtain ⟨after, emitted, rest, done⟩ := ih kept
    refine ⟨after, emitted, ?_, done⟩
    unfold Media.offerAll
    rw [answered, Option.bind_eq_bind, Option.bind_some, ← rest]
    cases sample <;> rfl

/-- What holds of a builder with the samples that it has emitted, and of the next offers. -/
structure BuilderLaw (builder : SampleBuilder) (emissions : List Emission) : Prop where
  /-- The samples increase, and those that are not independent go on from the one before. -/
  chain : Chain emissions
  /-- Every offer is answered. -/
  answers : ∀ offer, ∃ reply, builder.copySample offer = some reply
  /-- A rejected record at most sets the need of a key frame. -/
  rejects : ∀ offer after, builder.copySample offer = some (none, after) →
    after = builder ∨ after = { builder with needsKeyframe := true }
  /-- What becomes of an independent record, and of the builder up to the need of a key frame, is
  the same without a record that was rejected before it. -/
  independent : ∀ offer after, builder.copySample offer = some (none, after) →
    ∀ other header payload, Reads other.record header payload → payload.independent = true →
      (after.copySample other).map SampleBuilder.settled =
        (builder.copySample other).map SampleBuilder.settled

/-- After every sequence of records that are offered, with any host times and any answers of the
framework, the builder and what it has emitted obey their law. -/
theorem reachable_samples (generation : UInt64) (offers : List SampleOffer) :
    ∃ builder emissions,
      offerAll (SampleBuilder.initWithGeneration generation) [] offers =
        some (builder, emissions) ∧ BuilderLaw builder emissions := by
  obtain ⟨builder, emissions, done, built⟩ := (built_start generation).offerAll offers
  have rejects (offer after) (rejected : builder.copySample offer = some (none, after)) :
      after = builder ∨ after = builder.dropped := by
    obtain ⟨reply, answered, comes⟩ := builder.copySample_cases offer
    obtain rfl := Option.some.inj (rejected.symm.trans answered)
    obtain ⟨-, one⟩ | ⟨_, _, _, _, _, _, -, made⟩ := comes
    · exact one
    · exact nomatch (Prod.mk.inj made).1
  refine ⟨builder, emissions, done, built.chain, fun offer => ?_, rejects, ?_⟩
  · obtain ⟨reply, answered, -⟩ := builder.copySample_cases offer
    exact ⟨reply, answered⟩
  · intro offer after rejected other header payload reads independent
    obtain rfl | rfl := rejects offer after rejected
    · rfl
    · exact builder.copySample_settled reads independent

end Plank.Media
