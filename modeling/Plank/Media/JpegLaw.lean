import Plank.Media.JpegScan

/-!
# What is a camera image

The walk over an image stays inside it, ends, and accepts exactly the images of the grammar: what is
left at each turn is an image with what is behind if and only if the whole is one.
-/

namespace Plank.Media

open Wire

/-- What is left of the bytes completes an image. -/
def JpegState.Completes (bytes : List UInt8) (width height : Nat) (state : JpegState) : Prop :=
  if state.scan then JpegEnd state.markers (bytes.drop state.position)
  else JpegBody width height state.ids state.markers (bytes.drop state.position)

/-- What completes an image starts with a marker: the last one behind the scan, and one of a segment
before it. -/
theorem JpegState.Completes.front {bytes : List UInt8} {width height : Nat} {state : JpegState}
    (completes : state.Completes bytes width height) :
    state.markers < jpegMaxMarkers ∧ ∃ fill marker rest,
      bytes.drop state.position = 0xff :: (List.replicate fill 0xff ++ marker :: rest) ∧
        marker ≠ 0xff ∧ ((state.scan = true ∧ marker = 0xd9 ∧ rest = []) ∨
          (state.scan = false ∧ (passedMarker marker = true ∨ marker = 0xc0 ∨ marker = 0xda) ∧
            ∃ payload more, payload.length + 2 < 65536 ∧
              rest = writeBe 2 (payload.length + 2) ++ (payload ++ more))) := by
  unfold JpegState.Completes at completes
  cases scanned : state.scan with
  | true =>
    rw [scanned, if_pos rfl] at completes
    obtain ⟨few, fill, here⟩ := completes
    exact ⟨few, fill, 0xd9, [], here, by decide, .inl ⟨rfl, rfl, rfl⟩⟩
  | false =>
    rw [scanned, if_neg (by decide)] at completes
    obtain ⟨few, fill, marker, payload, more, here, fits, sort⟩ := completes.front
    rw [segmentBytes_append] at here
    have other : marker ≠ 0xff := by
      obtain passes | rfl | rfl := sort
      · exact (passed_other passes).1
      · decide
      · decide
    exact ⟨few, fill, marker, _, here, other, .inr ⟨rfl, sort, payload, more, fits, rfl⟩⟩

/-- What is behind a marker that completes an image. -/
theorem JpegState.Completes.behind {bytes rest : List UInt8} {width height fill : Nat}
    {state : JpegState} {marker : UInt8} (completes : state.Completes bytes width height)
    (other : marker ≠ 0xff)
    (here : bytes.drop state.position = 0xff :: (List.replicate fill 0xff ++ marker :: rest)) :
    (state.scan = true ∧ marker = 0xd9 ∧ rest = []) ∨
      (state.scan = false ∧ (passedMarker marker = true ∨ marker = 0xc0 ∨ marker = 0xda) ∧
        ∃ payload more, payload.length + 2 < 65536 ∧
          rest = writeBe 2 (payload.length + 2) ++ (payload ++ more)) := by
  obtain ⟨-, fill', marker', rest', here', other', sort⟩ := completes.front
  obtain ⟨rfl, rfl⟩ := fill_unique other other' (List.cons.inj (here.symm.trans here')).2
  exact sort

/-- The marker of a segment is not one that stands alone. -/
theorem marker_not_bare {marker : UInt8}
    (sort : passedMarker marker = true ∨ marker = 0xc0 ∨ marker = 0xda) :
    ¬(marker = 0 ∨ marker = 1 ∨ (marker ≥ 0xd0 ∧ marker ≤ 0xd8)) := by
  rintro (rfl | rfl | ⟨low, high⟩)
  · exact absurd sort (by decide)
  · exact absurd sort (by decide)
  · have low : 0xd0 ≤ marker.toNat := low
    have high : marker.toNat ≤ 0xd8 := high
    simp only [passedMarker, Bool.not_eq_true', Bool.and_eq_false_iff, Bool.not_eq_false',
      Bool.and_eq_true, decide_eq_true_eq, decide_eq_false_iff_not, not_not, ge_iff_le,
      UInt8.le_iff_toNat_le, ← UInt8.toNat_inj, UInt8.reduceToNat] at sort
    omega

/-- What a turn of the walk is to do: to leave with the answer, or to go on nearer to the end with
the same answer. -/
def JpegState.Turns (bytes : List UInt8) (width height : Nat) (state : JpegState)
    (turn : Option (Turn JpegState Bool)) : Prop :=
  (∃ accepted, turn = some (.leave accepted) ∧
    (accepted = true ↔ state.Completes bytes width height)) ∨
  ∃ after, turn = some (.next after) ∧ after.position ≤ bytes.length ∧
    state.position < after.position ∧ after.ids.length < 256 ∧
    (after.Completes bytes width height ↔ state.Completes bytes width height)

/-- A turn that refuses what does not complete an image does what it is to do. -/
theorem JpegState.Turns.refuses {bytes : List UInt8} {width height : Nat} {state : JpegState}
    {turn : Option (Turn JpegState Bool)} (leaves : turn = some (.leave false))
    (absurd : ¬state.Completes bytes width height) : state.Turns bytes width height turn :=
  .inl ⟨false, leaves, nofun, fun completes => (absurd completes).elim⟩

/-- The data of a scan and the end of the image behind it, where the data ends. -/
theorem jpegEnd_iff {bytes data ending : List UInt8} {markers : Nat}
    (split : bytes = data ++ ending) (coded : Entropy data) (ends : Terminal ending) :
    (∃ data ending, bytes = data ++ ending ∧ Entropy data ∧ data ≠ [] ∧ JpegEnd markers ending) ↔
      data ≠ [] ∧ JpegEnd markers ending := by
  constructor
  · rintro ⟨data', ending', split', coded', nonempty, few, fill, rfl⟩
    have ends' : Terminal (markerBytes fill 0xd9) := by
      refine .inr (.inr ?_)
      cases fill with
      | zero => exact ⟨0xd9, [], rfl, by decide⟩
      | succ fill => exact ⟨0xff, List.replicate fill 0xff ++ [0xd9], rfl, by decide⟩
    obtain ⟨rfl, rfl⟩ := entropy_unique coded coded' ends ends' (split.symm.trans split')
    exact ⟨nonempty, few, fill, rfl⟩
  · rintro ⟨nonempty, end'⟩
    exact ⟨data, ending, split, coded, nonempty, end'⟩

/-- A turn over a segment does what it is to do. -/
theorem jpegSegment_turns {bytes payload rest : List UInt8} {width height fill stop : Nat}
    {state : JpegState} {marker : UInt8} (few : state.markers < jpegMaxMarkers)
    (small : state.ids.length < 256) (unscanned : state.scan = false) (other : marker ≠ 0xff)
    (fits : payload.length + 2 < 65536)
    (here : bytes.drop state.position = segmentBytes fill marker payload ++ rest)
    (inside : stop ≤ bytes.length) (onward : state.position < stop)
    (there : bytes.drop stop = rest) :
    state.Turns bytes width height (jpegSegment bytes width height state marker payload stop) := by
  have completes := @jpegBody_segment width height state.markers fill state.ids payload rest marker
    other fits
  have whole : state.Completes bytes width height = JpegBody width height state.ids state.markers
      (segmentBytes fill marker payload ++ rest) := by
    unfold JpegState.Completes
    rw [if_neg (by rw [unscanned]; decide), here]
  rw [← whole] at completes
  unfold jpegSegment
  by_cases frame : marker = 0xc0
  · subst frame
    have bodies : state.Completes bytes width height ↔ state.ids = [] ∧ ∃ components,
        JpegFrame width height payload components ∧
          JpegBody width height (components.map JpegComponent.id) (state.markers + 1) rest := by
      rw [completes]
      constructor
      · rintro ⟨-, ⟨passes, -⟩ | ⟨-, fresh, framed⟩ | ⟨scan, -⟩⟩
        · exact absurd passes (by decide)
        · exact ⟨fresh, framed⟩
        · exact absurd scan (by decide)
      · rintro ⟨fresh, framed⟩
        exact ⟨few, .inr (.inl ⟨rfl, fresh, framed⟩)⟩
    rw [if_pos rfl]
    by_cases again : state.ids.length ≠ 0
    · rw [if_pos again]
      refine .refuses rfl fun whole => again ?_
      rw [(bodies.mp whole).1, List.length_nil]
    rw [if_neg again]
    obtain ⟨result, reads, spec⟩ := frameIds_spec payload width height
    rw [reads, Option.bind_eq_bind, Option.bind_some]
    have fresh : state.ids = [] := List.eq_nil_of_length_eq_zero (not_not.mp again)
    cases result with
    | none =>
      refine .refuses rfl fun whole => ?_
      obtain ⟨-, components, is_frame, -⟩ := bodies.mp whole
      exact nomatch (spec _).mpr ⟨components, is_frame, rfl⟩
    | some ids =>
      obtain ⟨components, is_frame, rfl⟩ := (spec ids).mp rfl
      refine .inr ⟨_, rfl, inside, onward, ?_, ?_⟩
      · rw [List.length_map]
        obtain one | three := is_frame.count <;> omega
      · rw [bodies]
        unfold JpegState.Completes
        rw [if_neg Bool.false_ne_true]
        constructor
        · exact fun body => ⟨fresh, components, is_frame, there ▸ body⟩
        · rintro ⟨-, components', is_frame', body⟩
          have same := (spec _).mpr ⟨components', is_frame', rfl⟩
          rw [Option.some.inj same, there]
          exact body
  rw [if_neg frame]
  by_cases scan : marker = 0xda
  · subst scan
    have bodies : state.Completes bytes width height ↔ state.ids ≠ [] ∧
        (∃ entries, JpegScan state.ids payload entries) ∧ ∃ data ending, rest = data ++ ending ∧
          Entropy data ∧ data ≠ [] ∧ JpegEnd (state.markers + 1) ending := by
      rw [completes]
      constructor
      · rintro ⟨-, ⟨passes, -⟩ | ⟨frame, -⟩ | ⟨-, scanned⟩⟩
        · exact absurd passes (by decide)
        · exact absurd frame (by decide)
        · exact scanned
      · exact fun scanned => ⟨few, .inr (.inr ⟨rfl, scanned⟩)⟩
    rw [if_pos rfl]
    by_cases unframed : state.ids = []
    · have refused : scanHeader payload state.ids = some false := by
        unfold scanHeader
        rw [unframed]
        exact if_pos (.inl rfl)
      rw [refused]
      exact .refuses rfl fun whole => (bodies.mp whole).1 unframed
    obtain ⟨accepted, reads, spec⟩ := scanHeader_spec payload small unframed
    rw [reads, Option.bind_eq_bind, Option.bind_some]
    cases accepted with
    | false => exact .refuses rfl fun whole => nomatch spec.mpr (bodies.mp whole).2.1
    | true =>
      obtain ⟨result, loops, data, ending, split, coded, ends, rfl⟩ := entropyLoop_spec inside
      rw [there] at split
      rw [jpegEnd_iff split coded ends] at bodies
      rw [loops, if_neg (by decide), Option.bind_eq_bind, Option.bind_some]
      by_cases last : ending = [0xff]
      · rw [if_pos last]
        refine .refuses rfl fun whole => ?_
        obtain ⟨-, -, -, -, fill, ended⟩ := bodies.mp whole
        have size := congrArg List.length (last.symm.trans ended)
        simp [markerBytes] at size
      rw [if_neg last]
      dsimp only
      by_cases nothing : data = []
      · rw [if_pos (by rw [nothing, List.length_nil, Nat.add_zero])]
        exact .refuses rfl fun whole => (bodies.mp whole).2.2.1 nothing
      have positive := List.length_pos_iff.mpr nothing
      have size := congrArg List.length (there.trans split)
      rw [List.length_drop, List.length_append] at size
      have behind : bytes.drop (stop + data.length) = ending := by
        rw [← List.drop_drop, there, split, List.drop_left]
      rw [if_neg (by omega)]
      refine .inr ⟨_, rfl, show stop + data.length ≤ _ by omega,
        show _ < stop + data.length by omega, small, ?_⟩
      rw [bodies]
      unfold JpegState.Completes
      rw [if_pos rfl, behind]
      exact ⟨fun end' => ⟨unframed, spec.mp rfl, nothing, end'⟩, fun whole => whole.2.2.2⟩
  rw [if_neg scan]
  by_cases passes : passedMarker marker = true
  · rw [if_pos passes]
    refine .inr ⟨_, rfl, inside, onward, small, ?_⟩
    rw [completes]
    unfold JpegState.Completes
    rw [if_neg (by rw [unscanned]; decide), there]
    constructor
    · exact fun body => ⟨few, .inl ⟨passes, body⟩⟩
    · rintro ⟨-, ⟨-, body⟩ | ⟨is_frame, -⟩ | ⟨is_scan, -⟩⟩
      · exact body
      · exact absurd is_frame frame
      · exact absurd is_scan scan
  · rw [if_neg passes]
    refine .refuses rfl fun whole => ?_
    obtain ⟨-, ⟨passed, -⟩ | ⟨is_frame, -⟩ | ⟨is_scan, -⟩⟩ := completes.mp whole
    · exact passes passed
    · exact frame is_frame
    · exact scan is_scan

/-- A turn of the walk does what it is to do. -/
theorem jpegTurn_turns {bytes : List UInt8} {state : JpegState} (width height : Nat)
    (small : state.ids.length < 256) :
    state.Turns bytes width height (jpegTurn bytes width height state) := by
  unfold jpegTurn
  by_cases done : bytes.length ≤ state.position
  · rw [if_pos done]
    refine .refuses rfl fun whole => ?_
    obtain ⟨-, fill, marker, rest, here, -⟩ := whole.front
    rw [List.drop_eq_nil_of_le done] at here
    exact nomatch here
  have start : state.position < bytes.length := by omega
  have split := List.drop_eq_getElem_cons start
  rw [if_neg done]
  by_cases many : jpegMaxMarkers < state.markers + 1
  · rw [if_pos many]
    refine .refuses rfl fun whole => ?_
    have few := whole.front.1
    omega
  rw [if_neg many, List.getElem?_eq_getElem start]
  simp only [Option.bind_eq_bind, Option.bind_some]
  by_cases lead : bytes[state.position] ≠ 0xff
  · rw [if_pos lead]
    refine .refuses rfl fun whole => ?_
    obtain ⟨-, fill, marker, rest, here, -⟩ := whole.front
    exact lead (List.cons.inj (split.symm.trans here)).1
  rw [if_neg lead, fillLoop_eq start, Option.bind_some]
  rw [not_not.mp lead] at split
  obtain ⟨fill, tail, filled, counts, head⟩ := fill_split (bytes.drop (state.position + 1))
  rw [counts]
  have size := congrArg List.length filled
  rw [List.length_drop, List.length_append, List.length_replicate] at size
  cases tail with
  | nil =>
    rw [List.length_nil] at size
    rw [if_pos (by omega)]
    refine .refuses rfl fun whole => ?_
    obtain ⟨-, fill', marker, rest, here, other, -⟩ := whole.front
    have inner := (List.cons.inj (split.symm.trans here)).2
    rw [filled, List.append_nil] at inner
    have member : marker ∈ List.replicate fill (0xff : UInt8) := by
      rw [inner]
      exact List.mem_append_right _ List.mem_cons_self
    exact other (List.eq_of_mem_replicate member)
  | cons marker rest =>
    rw [List.length_cons] at size
    have other : marker ≠ 0xff := fun same => head (by rw [same]; rfl)
    have here : bytes.drop state.position =
        0xff :: (List.replicate fill 0xff ++ marker :: rest) := by rw [split, filled]
    have there : bytes.drop (state.position + 1 + fill + 1) = rest := by
      rw [Nat.add_assoc (state.position + 1), ← List.drop_drop, filled,
        ← List.drop_drop, List.drop_left' List.length_replicate]
      rfl
    have read : bytes[state.position + 1 + fill]? = some marker := by
      rw [← List.getElem?_drop, filled, List.getElem?_append_right (by simp)]
      simp
    rw [if_neg (by omega), read, Option.bind_some]
    by_cases last : marker = 0xd9
    · rw [if_pos last]
      refine .inl ⟨_, rfl, ?_⟩
      rw [Bool.and_eq_true, decide_eq_true_eq]
      constructor
      · rintro ⟨scanned, ends⟩
        unfold JpegState.Completes
        rw [if_pos scanned, here, last, List.eq_nil_of_length_eq_zero (by omega : rest.length = 0)]
        exact ⟨by omega, fill, rfl⟩
      · intro whole
        obtain ⟨scanned, -, rfl⟩ | ⟨-, sort, -⟩ := whole.behind other here
        · rw [List.length_nil] at size
          exact ⟨scanned, by omega⟩
        · subst last
          exact absurd sort (by decide)
    rw [if_neg last]
    by_cases stray : state.scan = true ∨ marker = 0 ∨ marker = 1 ∨ (marker ≥ 0xd0 ∧ marker ≤ 0xd8)
    · rw [if_pos stray]
      refine .refuses rfl fun whole => ?_
      obtain ⟨-, ends, -⟩ | ⟨unscanned, sort, -⟩ := whole.behind other here
      · exact last ends
      · obtain scanned | bare := stray
        · exact absurd scanned (by rw [unscanned]; decide)
        · exact marker_not_bare sort bare
    rw [if_neg stray, difference_eq (by omega), Option.bind_some,
      show bytes.length - (state.position + 1 + fill + 1) = rest.length by omega]
    have unscanned : state.scan = false := Bool.eq_false_of_not_eq_true (not_or.mp stray).1
    -- What is behind the marker has the length and the payload of a segment.
    have segment (whole : state.Completes bytes width height) : ∃ payload more,
        payload.length + 2 < 65536 ∧
          rest = writeBe 2 (payload.length + 2) ++ (payload ++ more) := by
      obtain ⟨-, ends, -⟩ | ⟨-, -, sized⟩ := whole.behind other here
      · exact absurd ends last
      · exact sized
    by_cases short : rest.length < 2
    · rw [if_pos short]
      refine .refuses rfl fun whole => ?_
      obtain ⟨payload, more, fits, rfl⟩ := segment whole
      rw [List.length_append, length_writeBe] at short
      omega
    obtain ⟨high, low, body, rfl⟩ : ∃ high low body, rest = high :: low :: body := by
      match rest, short with
      | [], short | [_], short => exact absurd (by simp) short
      | high :: low :: body, _ => exact ⟨high, low, body, rfl⟩
    have first : bytes[state.position + 1 + fill + 1]? = some high := by
      rw [← Nat.add_zero (state.position + 1 + fill + 1), ← List.getElem?_drop, there]
      rfl
    have second : bytes[state.position + 1 + fill + 2]? = some low := by
      rw [← Nat.add_assoc _ 1 1, ← List.getElem?_drop, there]
      rfl
    rw [if_neg short, first, second, Option.bind_some, Option.bind_some]
    obtain ⟨fits, written⟩ := jpegWord_iff.mp (rfl : jpegWord high low = jpegWord high low)
    by_cases long : jpegWord high low < 2 ∨ (high :: low :: body).length < jpegWord high low
    · rw [if_pos long]
      refine .refuses rfl fun whole => ?_
      obtain ⟨payload, more, fits', sized⟩ := segment whole
      obtain ⟨sizes, bodies⟩ := @List.append_inj _ [high, low] _ body _ sized
        (by rw [length_writeBe]; rfl)
      rw [jpegWord_iff.mpr ⟨fits', sizes.symm⟩, bodies] at long
      simp only [List.length_cons, List.length_append] at long
      omega
    rw [if_neg long]
    simp only [List.length_cons] at long size
    obtain ⟨payload, more, rfl, counted⟩ : ∃ payload more,
        body = payload ++ more ∧ payload.length = jpegWord high low - 2 :=
      ⟨body.take (jpegWord high low - 2), body.drop (jpegWord high low - 2),
        (List.take_append_drop _ _).symm, by rw [List.length_take]; omega⟩
    rw [List.length_append] at long size
    have body_here : bytes.drop (state.position + 1 + fill + 3) = payload ++ more := by
      rw [show state.position + 1 + fill + 3 = state.position + 1 + fill + 1 + 2 by omega,
        ← List.drop_drop, there]
      rfl
    have reads : span bytes (state.position + 1 + fill + 3) (jpegWord high low - 2) =
        some payload := by
      unfold span
      rw [if_pos (by omega), body_here, ← counted, List.take_left]
    rw [reads, Option.bind_some]
    have total : payload.length + 2 = jpegWord high low := by omega
    apply @jpegSegment_turns _ payload more width height fill _ _ marker (by omega) small unscanned
      other (by omega) _ (by omega) (by omega)
    · rw [← total, show state.position + 1 + fill + 1 + (payload.length + 2) =
        state.position + 1 + fill + 3 + payload.length by omega, ← List.drop_drop, body_here,
        List.drop_left]
    · rw [here, segmentBytes_append, total, written]
      rfl

/-- The walk from a place on ends without a read outside the bytes, and accepts what completes an
image from there on. -/
theorem jpegLoop_spec (bytes : List UInt8) (width height : Nat) {state : JpegState}
    (inside : state.position ≤ bytes.length) (small : state.ids.length < 256) :
    ∃ accepted, loop (jpegTurn bytes width height) (bytes.length + 1) state = some accepted ∧
      (accepted = true ↔ state.Completes bytes width height) := by
  apply loop_ends (fun other => other.position ≤ bytes.length ∧ other.ids.length < 256 ∧
      (other.Completes bytes width height ↔ state.Completes bytes width height))
    (fun other => bytes.length - other.position) _ _ ⟨inside, small, Iff.rfl⟩ (by omega)
  rintro other ⟨inside, small, same⟩
  obtain ⟨accepted, leaves, spec⟩ | ⟨after, goes, within, onward, still, kept⟩ :=
    jpegTurn_turns width height small
  · exact .inl ⟨accepted, leaves, spec.trans same⟩
  · exact .inr ⟨after, goes, ⟨within, still, kept.trans same⟩, by omega⟩

/-- The bytes start with the start of an image, or are refused. -/
theorem cameraParseJpeg_cases (bytes : List UInt8) (width height : Nat) :
    ((∃ body, bytes = 0xff :: 0xd8 :: body ∧ 2 ≤ body.length) ∧ cameraParseJpeg bytes width height =
      loop (jpegTurn bytes width height) (bytes.length + 1) ⟨2, [], 0, false⟩) ∨
    ((¬∃ body, bytes = 0xff :: 0xd8 :: body ∧ 2 ≤ body.length) ∧
      cameraParseJpeg bytes width height = some false) := by
  unfold cameraParseJpeg
  by_cases short : bytes.length < 4
  · refine .inr ⟨?_, if_pos short⟩
    rintro ⟨body, rfl, long⟩
    simp only [List.length_cons] at short
    omega
  rw [if_neg short]
  obtain ⟨first, second, body, rfl⟩ : ∃ first second body, bytes = first :: second :: body := by
    match bytes, short with
    | [], short | [_], short => exact absurd (by simp) short
    | first :: second :: body, _ => exact ⟨first, second, body, rfl⟩
  simp only [List.getElem?_cons_zero, List.getElem?_cons_succ, Option.bind_eq_bind,
    Option.bind_some]
  by_cases lead : first ≠ 0xff
  · refine .inr ⟨?_, if_pos lead⟩
    rintro ⟨inner, same, -⟩
    exact lead (List.cons.inj same).1
  rw [if_neg lead]
  by_cases soi : second ≠ 0xd8
  · refine .inr ⟨?_, if_pos soi⟩
    rintro ⟨inner, same, -⟩
    exact soi (List.cons.inj (List.cons.inj same).2).1
  rw [if_neg soi, not_not.mp lead, not_not.mp soi]
  simp only [List.length_cons] at short
  exact .inl ⟨⟨body, rfl, by omega⟩, rfl⟩

/-- The walk over an image ends without a read outside the bytes. -/
theorem cameraParseJpeg_total (bytes : List UInt8) (width height : Nat) :
    ∃ accepted, cameraParseJpeg bytes width height = some accepted := by
  obtain ⟨⟨body, rfl, -⟩, same⟩ | ⟨-, same⟩ := cameraParseJpeg_cases bytes width height
  · obtain ⟨accepted, ends, -⟩ := @jpegLoop_spec (0xff :: 0xd8 :: body) width height
      ⟨2, [], 0, false⟩ (by simp) (by simp)
    exact ⟨accepted, same.trans ends⟩
  · exact ⟨false, same⟩

/-- For all bytes and every announced size, the walk over an image ends without a read outside the
bytes, and accepts exactly the images of that size. -/
theorem jpeg_law (bytes : List UInt8) (width height : Nat) :
    ∃ accepted, cameraParseJpeg bytes width height = some accepted ∧
      (accepted = true ↔ JpegImage width height bytes) := by
  have long {body : List UInt8} (is_body : JpegBody width height [] 0 body) : 2 ≤ body.length := by
    obtain ⟨-, fill, marker, payload, rest, rfl, -⟩ := is_body.front
    rw [segmentBytes_append]
    simp only [List.length_cons, List.length_append]
    omega
  obtain ⟨⟨body, rfl, -⟩, same⟩ | ⟨other, same⟩ := cameraParseJpeg_cases bytes width height
  · obtain ⟨accepted, ends, spec⟩ := @jpegLoop_spec (0xff :: 0xd8 :: body) width height
      ⟨2, [], 0, false⟩ (by simp) (by simp)
    refine ⟨accepted, same.trans ends, spec.trans ?_⟩
    unfold JpegState.Completes JpegImage
    rw [if_neg Bool.false_ne_true]
    constructor
    · exact fun is_body => ⟨body, rfl, is_body⟩
    · rintro ⟨inner, wholes, is_body⟩
      rw [(List.cons.inj (List.cons.inj wholes).2).2]
      exact is_body
  · refine ⟨false, same, nofun, ?_⟩
    rintro ⟨body, rfl, is_body⟩
    exact (other ⟨body, rfl, long is_body⟩).elim

end Plank.Media
