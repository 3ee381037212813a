import Plank.Control.Request

/-!
# What the parser makes of a stream

The answer on some bytes does not contradict the answer on more of them: a refusal stays, a complete
request has no complete beginning, and with one byte more it is refused. What is accepted has one
reading: no line end but the pair, no name twice, and exactly the declared body.
-/

namespace Plank.Control.Http

open Wire

/-- Carriage returns and line feeds occur only as pairs. -/
structure Paired (text : List UInt8) : Prop where
  /-- A line feed follows each carriage return. -/
  fed : ∀ place, text[place]? = some cr → text[place + 1]? = some lf
  /-- A carriage return comes before each line feed. -/
  returned : ∀ place, text[place]? = some lf → ∃ earlier, place = earlier + 1 ∧
    text[earlier]? = some cr

/-- The name and the value of a header line. -/
def headerOf (line : List UInt8) : List UInt8 × List UInt8 :=
  ((line.takeWhile (· != 58)).map lowercase, trimmed ((line.dropWhile (· != 58)).drop 1))

/-- The names and values of the header lines of a head. -/
def headersOf (head : List UInt8) : Headers := (components lineEnd head).tail.map headerOf

/-- The number that decimal digits are. -/
def decimal (text : List UInt8) : Nat :=
  text.foldl (fun value byte => value * 10 + (byte.toNat - 48)) 0

/-- What is known of accepted bytes: how they are cut into head and body, and what the head has. -/
structure Accepted (bytes head body : List UInt8) (request : Request) : Prop where
  /-- The bytes are the head, its end and the body. -/
  whole : bytes = head ++ (headEnd ++ body)
  /-- The body range starts behind the end of the head. -/
  start : request.start = head.length + headEnd.length
  /-- The body range is the body. -/
  length : request.length = body.length
  /-- The head has no carriage return or line feed of its own. -/
  paired : Paired head
  /-- No two headers have the same name, in whatever case. -/
  names : ((headersOf head).map Prod.fst).Nodup
  /-- A length that is declared is that of the body range. -/
  declared : ∀ text, (ascii "content-length", text) ∈ headersOf head →
    (∀ byte ∈ text, 48 ≤ byte ∧ byte ≤ 57) ∧ decimal text = request.length
  /-- Where no length is declared there is no body. -/
  bodyless : (∀ text, (ascii "content-length", text) ∉ headersOf head) → request.length = 0

/-- A text without carriage return and line feed. -/
def Clean (text : List UInt8) : Prop := ∀ byte ∈ text, byte ≠ cr ∧ byte ≠ lf

/-- Whether a text is clean can be computed. -/
instance decidableClean : DecidablePred Clean :=
  fun text => inferInstanceAs (Decidable (∀ byte ∈ text, byte ≠ cr ∧ byte ≠ lf))

/-- A text without newlines is clean. -/
theorem clean_of_newlineless {text : List UInt8}
    (none : ∀ byte, newline byte = true → byte ∉ text) : Clean text := by
  intro byte member
  constructor
  · rintro rfl
    exact none cr rfl member
  · rintro rfl
    exact none lf rfl member

/-- Clean lines are joined to a text in which line ends are pairs. -/
theorem paired_join (lines : List (List UInt8)) (clean : ∀ line ∈ lines, Clean line) :
    Paired (join lineEnd lines) := by
  have nothing {text : List UInt8} (clear : Clean text) : Paired text := by
    constructor
    · intro place here
      exact absurd rfl (clear cr (List.mem_of_getElem? here)).1
    · intro place here
      exact absurd rfl (clear lf (List.mem_of_getElem? here)).2
  induction lines with
  | nil => exact nothing (by intro byte member; cases member)
  | cons line rest ih =>
    have first := clean line List.mem_cons_self
    cases rest with
    | nil => exact nothing first
    | cons second more =>
      have later := ih fun line member => clean line (List.mem_cons_of_mem _ member)
      show Paired (line ++ (cr :: lf :: join lineEnd (second :: more)))
      generalize join lineEnd (second :: more) = after at later
      have inLine (place : Nat) (below : place < line.length) :
          (line ++ cr :: lf :: after)[place]? = (line)[place]? :=
        List.getElem?_append_left below
      have behind (place : Nat) :
          (line ++ cr :: lf :: after)[line.length + place]? = (cr :: lf :: after)[place]? := by
        rw [List.getElem?_append_right (Nat.le_add_right _ _), Nat.add_sub_cancel_left]
      constructor
      · intro place here
        by_cases below : place < line.length
        · rw [inLine place below] at here
          exact absurd rfl (first cr (List.mem_of_getElem? here)).1
        · obtain ⟨offset, rfl⟩ := Nat.exists_eq_add_of_le (Nat.not_lt.mp below)
          rw [behind] at here
          rw [Nat.add_assoc, behind]
          match offset with
          | 0 => rfl
          | 1 => exact absurd (Option.some.inj here) (by decide)
          | offset + 2 => exact later.fed offset here
      · intro place here
        by_cases below : place < line.length
        · rw [inLine place below] at here
          exact absurd rfl (first lf (List.mem_of_getElem? here)).2
        · obtain ⟨offset, rfl⟩ := Nat.exists_eq_add_of_le (Nat.not_lt.mp below)
          rw [behind] at here
          match offset with
          | 0 => exact absurd (Option.some.inj here) (by decide)
          | 1 => exact ⟨line.length, rfl, behind 0⟩
          | offset + 2 =>
            obtain ⟨earlier, rfl, there⟩ := later.returned offset here
            refine ⟨line.length + (earlier + 2), rfl, ?_⟩
            rw [behind]
            exact there

/-- A byte that is not dropped from the front stays. -/
theorem mem_dropWhile {drops : UInt8 → Bool} {text : List UInt8} {byte : UInt8}
    (member : byte ∈ text) (stays : drops byte = false) : byte ∈ text.dropWhile drops := by
  rw [← List.takeWhile_append_dropWhile (p := drops) (l := text), List.mem_append] at member
  cases member with
  | inl front =>
    have dropped := List.mem_takeWhile_imp front
    rw [stays] at dropped
    cases dropped
  | inr back => exact back

/-- Trimming removes no newline. -/
theorem mem_trimmed {text : List UInt8} {byte : UInt8} (member : byte ∈ text)
    (line : newline byte = true) : byte ∈ trimmed text := by
  have stays : (byte == 32 || byte == 9) = false := by
    have bounds := Bool.and_eq_true_iff.mp line
    have low : 10 ≤ byte.toNat := UInt8.le_iff_toNat_le.mp (of_decide_eq_true bounds.1)
    have high : byte.toNat ≤ 13 := UInt8.le_iff_toNat_le.mp (of_decide_eq_true bounds.2)
    rw [Bool.or_eq_false_iff, beq_eq_false_iff_ne, beq_eq_false_iff_ne, ne_eq, ne_eq,
      ← UInt8.toNat_inj, ← UInt8.toNat_inj]
    exact ⟨fun same => absurd (same ▸ high) (by decide),
      fun same => absurd (same ▸ low) (by decide)⟩
  unfold trimmed
  rw [List.mem_reverse]
  apply mem_dropWhile _ stays
  rw [List.mem_reverse]
  exact mem_dropWhile member stays

/-- The first colon ends the name. -/
theorem search_colon {line : List UInt8} {colon : Nat} (found : search (ascii ":") line = some colon) :
    line.take colon = line.takeWhile (· != 58) ∧
      line.drop (colon + 1) = (line.dropWhile (· != 58)).drop 1 := by
  induction line generalizing colon with
  | nil => cases found
  | cons byte rest ih =>
    unfold search at found
    split at found
    case isTrue here =>
      obtain rfl := Option.some.inj found
      obtain rfl : 58 = byte := (List.cons_prefix_cons.mp (List.isPrefixOf_iff_prefix.mp here)).1
      exact ⟨rfl, rfl⟩
    case isFalse elsewhere =>
      obtain ⟨later, foundLater, rfl⟩ := Option.map_eq_some_iff.mp found
      have other : (byte != 58) = true := by
        apply bne_iff_ne.mpr
        rintro rfl
        exact elsewhere rfl
      obtain ⟨front, back⟩ := ih foundLater
      rw [List.takeWhile_cons, List.dropWhile_cons]
      simp only [other, if_true]
      exact ⟨congrArg (byte :: ·) front, back⟩

/-- The line ends are not token characters, in whatever case. -/
theorem clean_of_token {text : List UInt8} (good : token (text.map lowercase) = true) :
    Clean text := by
  intro byte member
  have each := List.all_eq_true.mp (Bool.and_eq_true_iff.mp good).2 (lowercase byte)
    (List.mem_map_of_mem member)
  constructor
  · rintro rfl
    exact absurd each (by decide)
  · rintro rfl
    exact absurd each (by decide)

/-- A text without newlines behind the blanks has no line end. -/
theorem clean_of_trimmed {text : List UInt8} (good : (trimmed text).any newline = false) :
    Clean text := by
  apply clean_of_newlineless
  intro byte line member
  exact absurd (List.any_eq_true.mpr ⟨byte, mem_trimmed member line, line⟩)
    (Bool.eq_false_iff.mp good)

/-- Clean texts one after the other are clean. -/
theorem Clean.append {left right : List UInt8} (before : Clean left) (after : Clean right) :
    Clean (left ++ right) := by
  intro byte member
  cases List.mem_append.mp member with
  | inl inside => exact before byte inside
  | inr inside => exact after byte inside

/-- An accepted request line is clean. -/
theorem readRequestLine_clean {line : List UInt8} {read : RequestLine}
    (accepted : readRequestLine line = some read) : Clean line := by
  have joined : join (ascii " ") (components (ascii " ") line) = line :=
    join_componentsAfter (by decide) 0 line
  unfold readRequestLine at accepted
  split at accepted
  case h_1 method target version parts =>
    rw [parts] at joined
    obtain ⟨checks, -⟩ := Option.ite_none_left_eq_some.mp accepted
    simp only [Bool.or_eq_true, Bool.and_eq_true, not_or, not_and, bne_iff_ne, ne_eq,
      decide_eq_true_eq, Bool.not_eq_true] at checks
    obtain ⟨⟨⟨⟨named, versioned⟩, -⟩, -⟩, blank⟩ := checks
    have first : Clean method := by
      by_cases post : method = ascii "POST"
      · rw [post]
        decide +kernel
      · rw [show method = ascii "GET" from Decidable.not_not.mp (named post)]
        decide +kernel
    have last : Clean version := by
      rw [Decidable.not_not.mp versioned]
      decide +kernel
    have middle : Clean target := by
      apply clean_of_newlineless
      intro byte newline_ member
      have space : whitespaceOrNewline byte = true := by
        unfold whitespaceOrNewline
        rw [newline_, Bool.or_true]
      exact absurd (List.any_eq_true.mpr ⟨byte, member, space⟩) (by rw [blank]; decide)
    rw [← joined]
    have gap : Clean (ascii " ") := by decide +kernel
    exact first.append (gap.append (middle.append (gap.append last)))
  case h_2 => cases accepted

/-- What the header lines are read into, in front of what is held. -/
theorem readHeaders_some {lines : List (List UInt8)} {held headers : Headers}
    (read : readHeaders held lines = some headers) :
    headers = (lines.map headerOf).reverse ++ held ∧ (∀ line ∈ lines, Clean line) ∧
      ((held.map Prod.fst).Nodup → (headers.map Prod.fst).Nodup) := by
  induction lines generalizing held with
  | nil =>
    obtain rfl := Option.some.inj read
    exact ⟨rfl, (by intro line member; cases member), id⟩
  | cons line rest ih =>
    unfold readHeaders at read
    split at read
    case h_1 => cases read
    case h_2 colon found =>
      obtain ⟨checks, later⟩ := Option.ite_none_left_eq_some.mp read
      simp only [Bool.or_eq_true, not_or, Bool.not_eq_true, Bool.not_eq_eq_eq_not, Bool.not_true,
        Bool.not_eq_false, Option.isSome_eq_false_iff, Option.isNone_iff_eq_none] at checks
      obtain ⟨⟨good, fresh⟩, single⟩ := checks
      obtain ⟨front, back⟩ := search_colon found
      obtain ⟨whole, clean, distinct⟩ := ih later
      have entry : (nameOf line colon, trimmed (line.drop (colon + 1))) = headerOf line := by
        unfold nameOf headerOf
        rw [front, back]
      have cleanLine : Clean line := by
        have name := clean_of_token good
        have value := clean_of_trimmed single
        obtain ⟨after, occurs⟩ := search_occurs found
        have colon_ : Clean (ascii ":") := by decide +kernel
        have behind : line.drop (colon + 1) = after := by
          rw [← List.drop_drop, ← occurs]
          rfl
        rw [behind] at value
        rw [← List.take_append_drop colon line, ← occurs]
        exact name.append (colon_.append value)
      refine ⟨?_, ?_, ?_⟩
      · rw [whole, entry, List.map_cons, List.reverse_cons, List.append_assoc]
        rfl
      · intro other member
        cases List.mem_cons.mp member with
        | inl same => exact same ▸ cleanLine
        | inr more => exact clean other more
      · intro unique
        apply distinct
        rw [List.map_cons, List.nodup_cons]
        refine ⟨?_, unique⟩
        intro member
        obtain ⟨old, there, same⟩ := List.mem_map.mp member
        have apart := List.lookup_eq_none_iff.mp fresh old there
        exact absurd same.symm (bne_iff_ne.mp apart)

/-- In a dictionary without a name twice, a name has the value that stands beside it. -/
theorem get_of_mem {headers : Headers} {name : String} {value : List UInt8}
    (distinct : (headers.map Prod.fst).Nodup) (member : (ascii name, value) ∈ headers) :
    headers.get name = some value := by
  unfold Headers.get
  cases found : headers.lookup (ascii name) with
  | none =>
    have apart := List.lookup_eq_none_iff.mp found _ member
    exact absurd rfl (bne_iff_ne.mp apart)
  | some other =>
    obtain ⟨before, after, rfl, -⟩ := List.lookup_eq_some_iff.mp found
    have there : (ascii name, other) ∈ before ++ (ascii name, other) :: after :=
      List.mem_append_right _ List.mem_cons_self
    have same := List.inj_on_of_nodup_map distinct there member rfl
    rw [(Prod.mk.inj same).2]

/-- A length that is read is the number of its digits. -/
theorem readLength_some {text : List UInt8} {before length : Nat}
    (read : readLength before text = some length) : (∀ byte ∈ text, 48 ≤ byte ∧ byte ≤ 57) ∧
      text.foldl (fun value byte => value * 10 + (byte.toNat - 48)) before = length := by
  induction text generalizing before with
  | nil => exact ⟨(by intro byte member; cases member), Option.some.inj read⟩
  | cons byte rest ih =>
    obtain ⟨checks, later⟩ := Option.ite_none_left_eq_some.mp read
    rw [Bool.or_eq_true, not_or, decide_eq_true_eq, decide_eq_true_eq, UInt8.not_lt,
      UInt8.not_lt] at checks
    obtain ⟨digits, value⟩ := ih later
    refine ⟨?_, value⟩
    intro other member
    cases List.mem_cons.mp member with
    | inl same => exact same ▸ checks
    | inr more => exact digits other more

/-- What an accepted head is known to have. -/
structure Sound (head : List UInt8) (read : Head) : Prop where
  /-- The length of the body is in its limit. -/
  limit : read.contentLength ≤ bodyLimit
  /-- Line ends are pairs. -/
  paired : Paired head
  /-- No name occurs twice. -/
  names : ((headersOf head).map Prod.fst).Nodup
  /-- The length of the body is the declared one. -/
  declared : ∀ text, (ascii "content-length", text) ∈ headersOf head →
    (∀ byte ∈ text, 48 ≤ byte ∧ byte ≤ 57) ∧ decimal text = read.contentLength
  /-- Where no length is declared there is no body. -/
  bodyless : (∀ text, (ascii "content-length", text) ∉ headersOf head) → read.contentLength = 0

/-- An accepted head has no line end of its own, no name twice and the declared length. -/
theorem readHead_sound {head : List UInt8} {read : Head} (accepted : readHead head = some read) :
    Sound head read := by
  obtain ⟨first, rest, parts⟩ := List.exists_cons_of_ne_nil
    (componentsAfter_ne_nil lineEnd 0 head)
  have joined : join lineEnd (first :: rest) = head := by
    rw [← parts]
    exact join_componentsAfter (by decide) 0 head
  have named : headersOf head = rest.map headerOf := by
    unfold headersOf components
    rw [parts]
    rfl
  unfold readHead components at accepted
  rw [parts] at accepted
  dsimp only [List.headD_cons, List.tail_cons] at accepted
  split at accepted
  case h_1 => cases accepted
  case h_2 line lineRead =>
    split at accepted
    case h_1 => cases accepted
    case h_2 headers headersRead =>
      obtain ⟨-, counted⟩ := Option.ite_none_left_eq_some.mp accepted
      split at counted
      case h_1 => cases counted
      case h_2 length lengthRead =>
        obtain ⟨limits, made⟩ := Option.ite_none_left_eq_some.mp counted
        obtain rfl := Option.some.inj made
        obtain ⟨whole, clean, distinct⟩ := readHeaders_some headersRead
        rw [List.append_nil] at whole
        have unique := distinct List.nodup_nil
        have member (entry : List UInt8 × List UInt8) : entry ∈ headers ↔ entry ∈ headersOf head := by
          rw [whole, named, List.mem_reverse]
        exact {
          limit := by
            rw [Bool.or_eq_true, not_or, decide_eq_true_eq] at limits
            exact Nat.not_lt.mp limits.2
          paired := by
            rw [← joined]
            apply paired_join
            intro text inside
            cases List.mem_cons.mp inside with
            | inl same => exact same ▸ readRequestLine_clean lineRead
            | inr more => exact clean text more
          names := by
            rw [whole, List.map_reverse, List.nodup_reverse] at unique
            rw [named]
            exact unique
          declared := by
            intro text inside
            rw [get_of_mem unique ((member _).mpr inside)] at lengthRead
            exact readLength_some lengthRead
          bodyless := by
            intro none
            have missing : headers.get "content-length" = Option.none := by
              apply List.lookup_eq_none_iff.mpr
              intro entry inside
              apply bne_iff_ne.mpr
              intro same
              apply none entry.2
              rw [same]
              exact (member entry).mp inside
            rw [missing] at lengthRead
            exact (Option.some.inj lengthRead).symm }

/-- What an accepted head is, as far as the length of the bytes matters. -/
def judged (head : List UInt8) : Option Head :=
  if head.any unprintable then none else readHead head

/-- The answer once the end of the head is there; the limit of the whole follows from the others. -/
theorem parse_found {bytes : List UInt8} {location : Nat}
    (found : search headEnd (bytes.take headerLimit) = some location) :
    parse bytes = match judged (bytes.take location) with
      | none => .invalid
      | some head =>
        if location + headEnd.length + head.contentLength < bytes.length then .invalid
        else if bytes.length < location + headEnd.length + head.contentLength then .incomplete
        else .complete { method := head.line.method, path := head.line.target,
                         authorization := head.headers.get "authorization",
                         start := location + headEnd.length, length := head.contentLength } := by
  have inside := search_inside found
  rw [List.length_take] at inside
  unfold parse judged
  rw [found]
  dsimp only
  split
  case isFalse =>
    split
    · rfl
    · rfl
  case isTrue long =>
    split
    case h_1 => rfl
    case h_2 head read =>
      obtain ⟨-, accepted⟩ := Option.ite_none_left_eq_some.mp read
      have limit := (readHead_sound accepted).limit
      rw [if_pos (by omega)]

/-- The answer before the end of the head is there. -/
theorem parse_headless {bytes : List UInt8}
    (missing : search headEnd (bytes.take headerLimit) = none) :
    parse bytes = if headerLimit ≤ bytes.length then .invalid else .incomplete := by
  unfold parse
  rw [missing]
  split
  case isTrue long => rw [if_pos (by omega)]
  case isFalse => rfl

/-- More bytes do not move the end of the head, nor change the head. -/
theorem found_append {bytes : List UInt8} {location : Nat} (more : List UInt8)
    (found : search headEnd (bytes.take headerLimit) = some location) :
    search headEnd ((bytes ++ more).take headerLimit) = some location ∧
      (bytes ++ more).take location = bytes.take location := by
  have inside := search_inside found
  rw [List.length_take] at inside
  constructor
  · rw [List.take_append]
    exact search_append _ found
  · exact List.take_append_of_le_length (by omega)


/-- A refusal stays when more bytes come. -/
theorem parse_invalid_append {bytes : List UInt8} (more : List UInt8)
    (refused : parse bytes = .invalid) : parse (bytes ++ more) = .invalid := by
  cases found : search headEnd (bytes.take headerLimit) with
  | none =>
    rw [parse_headless found] at refused
    by_cases long : headerLimit ≤ bytes.length
    · have same : (bytes ++ more).take headerLimit = bytes.take headerLimit :=
        List.take_append_of_le_length long
      rw [parse_headless (same ▸ found), if_pos]
      rw [List.length_append]
      omega
    · rw [if_neg long] at refused
      cases refused
  | some location =>
    obtain ⟨there, head⟩ := found_append more found
    rw [parse_found there, head]
    rw [parse_found found] at refused
    split at refused
    case h_1 => rfl
    case h_2 read =>
      rw [List.length_append]
      split at refused
      case isTrue long => rw [if_pos (by omega)]
      case isFalse => split at refused <;> cases refused

/-- What a complete request is: its head is accepted and its body is there, and nothing more. -/
theorem parse_complete {bytes : List UInt8} {request : Request}
    (complete : parse bytes = .complete request) : ∃ location head,
      search headEnd (bytes.take headerLimit) = some location ∧
      judged (bytes.take location) = some head ∧ request.start = location + headEnd.length ∧
      request.length = head.contentLength ∧
      bytes.length = location + headEnd.length + head.contentLength := by
  cases found : search headEnd (bytes.take headerLimit) with
  | none =>
    rw [parse_headless found] at complete
    split at complete <;> cases complete
  | some location =>
    rw [parse_found found] at complete
    cases read : judged (bytes.take location) with
    | none =>
      rw [read] at complete
      cases complete
    | some head =>
      rw [read] at complete
      dsimp only at complete
      split at complete
      case isTrue => cases complete
      case isFalse few =>
        split at complete
        case isTrue => cases complete
        case isFalse many =>
          obtain rfl := ParseResult.complete.inj complete
          exact ⟨location, head, rfl, read, rfl, rfl, by omega⟩

/-- A complete request with more bytes behind it is refused. -/
theorem parse_longer {bytes more : List UInt8} {request : Request}
    (complete : parse bytes = .complete request) (some_ : more ≠ []) :
    parse (bytes ++ more) = .invalid := by
  obtain ⟨location, head, found, read, -, -, exact_⟩ := parse_complete complete
  obtain ⟨there, same⟩ := found_append more found
  have longer := List.length_pos_iff.mpr some_
  rw [parse_found there, same, read]
  dsimp only
  rw [if_pos]
  rw [List.length_append]
  omega

/-- A complete request without its last bytes is incomplete. -/
theorem parse_shorter {bytes more : List UInt8} {request : Request}
    (complete : parse (bytes ++ more) = .complete request) (some_ : more ≠ []) :
    parse bytes = .incomplete := by
  obtain ⟨location, head, found, read, -, -, exact_⟩ := parse_complete complete
  have longer := List.length_pos_iff.mpr some_
  rw [List.length_append] at exact_
  cases early : search headEnd (bytes.take headerLimit) with
  | none =>
    rw [parse_headless early, if_neg]
    intro long
    rw [List.take_append_of_le_length long, early] at found
    cases found
  | some place =>
    obtain ⟨there, same⟩ := found_append more early
    obtain rfl := Option.some.inj (there.symm.trans found)
    rw [parse_found early, ← same, read]
    dsimp only
    rw [if_neg (by omega), if_pos (by omega)]

/-- Two complete beginnings of the same bytes are the same. -/
theorem parse_single {bytes first second : List UInt8} {one other : Request}
    (before : first <+: bytes) (after : second <+: bytes) (complete : parse first = .complete one)
    (again : parse second = .complete other) : first = second := by
  have apart {short long : List UInt8} {one other : Request} (extends_ : short <+: long)
      (complete : parse short = .complete one) (again : parse long = .complete other) :
      short = long := by
    obtain ⟨more, rfl⟩ := extends_
    by_contra differs
    have some_ : more ≠ [] := by
      rintro rfl
      exact differs (List.append_nil short).symm
    rw [parse_longer complete some_] at again
    cases again
  cases Nat.le_total first.length second.length with
  | inl shorter =>
    exact apart (List.prefix_of_prefix_length_le before after shorter) complete again
  | inr longer =>
    exact (apart (List.prefix_of_prefix_length_le after before longer) again complete).symm

/-- What is accepted has one reading. -/
theorem parse_accepted {bytes : List UInt8} {request : Request}
    (complete : parse bytes = .complete request) :
    ∃ head body, Accepted bytes head body request := by
  obtain ⟨location, head, found, read, start, length, exact_⟩ := parse_complete complete
  obtain ⟨-, accepted⟩ := Option.ite_none_left_eq_some.mp read
  have sound := readHead_sound accepted
  have inside := search_inside found
  rw [List.length_take] at inside
  have before : (bytes.take location).length = location := by
    rw [List.length_take]
    omega
  refine ⟨bytes.take location, bytes.drop (location + headEnd.length), ?_⟩
  exact {
    whole := by
      obtain ⟨after, occurs⟩ : headEnd <+: bytes.drop location := by
        have here := search_occurs found
        rw [List.drop_take] at here
        exact here.trans (List.take_prefix _ _)
      have behind : bytes.drop (location + headEnd.length) = after := by
        rw [← List.drop_drop, ← occurs, List.drop_left]
      rw [behind, occurs, List.take_append_drop]
    start := by rw [start, before]
    length := by
      rw [length, List.length_drop]
      omega
    paired := sound.paired
    names := sound.names
    declared := by
      rw [length]
      exact sound.declared
    bodyless := by
      rw [length]
      exact sound.bodyless }

/-- Chunks without an early request are answered as the bytes they make up. -/
theorem receive_whole {bytes : List UInt8} (chunks : List (List UInt8))
    (waiting : parse bytes = .incomplete)
    (early : ∀ start more request, start ++ more = bytes ++ chunks.flatten →
      parse start = .complete request → more = []) :
    receive bytes chunks = parse (bytes ++ chunks.flatten) := by
  induction chunks generalizing bytes with
  | nil =>
    rw [List.flatten_nil, List.append_nil, waiting]
    rfl
  | cons chunk rest ih =>
    have regroup : bytes ++ (chunk :: rest).flatten = bytes ++ chunk ++ rest.flatten := by
      rw [List.flatten_cons, List.append_assoc]
    rw [regroup] at early ⊢
    unfold receive
    cases answer : parse (bytes ++ chunk) with
    | incomplete => exact ih answer early
    | complete request =>
      rw [early _ _ request rfl answer, List.append_nil, answer]
    | invalid => exact (parse_invalid_append _ answer).symm

/-- A request that chunks are taken for is a complete beginning of the bytes they make up. -/
theorem receive_complete {bytes : List UInt8} {chunks : List (List UInt8)} {request : Request}
    (taken : receive bytes chunks = .complete request) :
    ∃ start, start <+: bytes ++ chunks.flatten ∧ parse start = .complete request := by
  induction chunks generalizing bytes with
  | nil => cases taken
  | cons chunk rest ih =>
    rw [List.flatten_cons, ← List.append_assoc]
    unfold receive at taken
    split at taken
    case h_1 => exact ih taken
    case h_2 other answer =>
      obtain rfl := ParseResult.complete.inj taken
      exact ⟨bytes ++ chunk, List.prefix_append _ _, answer⟩
    case h_3 => cases taken

/-- What is known of the parser on every byte string. -/
structure ParserLaw : Prop where
  /-- A refusal stays under every extension. -/
  refused : ∀ bytes more, parse bytes = .invalid → parse (bytes ++ more) = .invalid
  /-- At most one beginning of any bytes is complete. -/
  single : ∀ bytes first second one other, first <+: bytes → second <+: bytes →
    parse first = .complete one → parse second = .complete other → first = second
  /-- Every strict beginning of a complete request is incomplete. -/
  shorter : ∀ bytes more request, parse (bytes ++ more) = .complete request → more ≠ [] →
    parse bytes = .incomplete
  /-- Every strict extension of a complete request is refused. -/
  longer : ∀ bytes more request, parse bytes = .complete request → more ≠ [] →
    parse (bytes ++ more) = .invalid
  /-- However bytes are cut, they are answered as the whole, unless they go on behind a complete
  request. -/
  chunks : ∀ chunks, (∀ start more request, start ++ more = chunks.flatten →
    parse start = .complete request → more = []) → receive [] chunks = parse chunks.flatten
  /-- Bytes that go on behind a complete request are at most taken for that request. -/
  cut : ∀ chunks request, receive [] chunks = .complete request →
    ∃ start, start <+: chunks.flatten ∧ parse start = .complete request
  /-- What is accepted has one reading. -/
  accepted : ∀ bytes request, parse bytes = .complete request →
    ∃ head body, Accepted bytes head body request

/-- The parser is stable under extension, and what it accepts has one reading. -/
theorem parser_lawful : ParserLaw where
  refused _ more invalid := parse_invalid_append more invalid
  single _ _ _ _ _ before after complete again := parse_single before after complete again
  shorter _ _ _ complete some_ := parse_shorter complete some_
  longer _ _ _ complete some_ := parse_longer complete some_
  chunks chunks early := receive_whole chunks (by decide +kernel) early
  cut _ _ taken := receive_complete taken
  accepted _ _ complete := parse_accepted complete

end Plank.Control.Http
