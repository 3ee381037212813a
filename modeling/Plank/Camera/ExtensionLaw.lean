import Plank.Camera.Extension
import Plank.Camera.LinkBounds
import Plank.Media.CameraSampleLaw
import Plank.Trace.Law

/-!
# The law of the camera extension

At most one record is on its way, and the provider is busy as long as it is. A sample is sent only
directly behind the submission of its record, so nothing was admitted, changed, lost or refused in
between; and one that depends on another is submitted only directly behind the sample of the record
before it. What carries the proof is what a gap leaves behind: until a sample is handed on again,
either the flag of the gap is set, or the output waits for a key frame, or nobody reads, or the
lease is gone for good.
-/

namespace Plank.Camera

open Media (SampleBuilder CameraSample CameraOutput OutputAnswers OutputSample CameraPayload Reads)
open Camera.Native (Header)

/-! ### What is sent -/

/-- The last event is that the sample of the record before this one was sent. -/
def FollowsSent (log : List ExtensionEvent) (header : Header) : Prop :=
  ∃ delivery earlier, log = .sent delivery :: earlier ∧
    ∃ previous payload, Reads delivery.frame.record previous payload ∧
      header.sequence.toNat = previous.sequence.toNat + 1

/-- What holds of a sample when it is sent. -/
structure Sendable (earlier : List ExtensionEvent) (delivery : Delivery) : Prop where
  /-- Its record was submitted just before; one that depends on another, just behind the sample of
  the record before it. -/
  direct : ∃ before, earlier = .submitted delivery.frame :: before ∧
    ∃ header payload, Reads delivery.frame.record header payload ∧
      (payload.independent = false → FollowsSent before header)
  /-- The epoch goes on. -/
  epoch : delivery.frame.epoch = delivery.epoch
  /-- So does the activation. -/
  activation : delivery.frame.activation = delivery.activation
  /-- So does the revision. -/
  revision : delivery.frame.revision = delivery.revision
  /-- The lease is available. -/
  available : delivery.consumer.available delivery.now = true
  /-- The record is not too old. -/
  current : Current delivery.frame.arrived delivery.frame.time delivery.host

/-- What holds of an event behind those before it. -/
def ExtensionEvent.Lawful (earlier : List ExtensionEvent) : ExtensionEvent → Prop
  | .sent delivery => Sendable earlier delivery
  | _ => True

/-! ### What is on its way -/

/-- The record of a block on the media queue. -/
def MediaTask.carried : MediaTask → Option ExtensionFrame
  | .reset _ => none
  | .frame one => some one

/-- The records on their way. -/
def flying (tasks : List MediaTask) (finished : List MediaDone) : List ExtensionFrame :=
  tasks.filterMap MediaTask.carried ++ finished.map (·.frame)

/-- The output waits for a key frame, if there is one. -/
def Waits (output : Option CameraOutput) : Prop :=
  ∀ one, output = some one → one.needsKeyframe = true

/-- The sample of the builder's last record was sent last. -/
def Chained (builder : Option SampleBuilder) (log : List ExtensionEvent) : Prop :=
  ∃ one, builder = some one ∧ one.hasFrame = true ∧
    ∃ delivery earlier, log = .sent delivery :: earlier ∧
      ∃ header payload, Reads delivery.frame.record header payload ∧
        header.sequence = one.sequence

/-- Nothing that depends on a lost picture can be handed on. -/
def Ready (media : CameraMedia) (running : Bool) (log : List ExtensionEvent) : Prop :=
  running = true → Waits media.output ∨ Chained media.builder log

/-- What a record captured still holds. -/
structure Captured (provider : CameraProvider) (frame : ExtensionFrame) : Prop where
  /-- The epoch. -/
  epoch : provider.epoch = frame.epoch
  /-- The activation. -/
  activation : provider.activation = frame.activation
  /-- Nobody reads, if nobody did. -/
  clients : frame.running = false → provider.clients = 0

/-- What was handed on goes with the builder, and with what was sent before it. -/
def Made (media : CameraMedia) (done : MediaDone) (before : List ExtensionEvent) : Prop :=
  done.output.isSome = true → ∃ builder, media.builder = some builder ∧ builder.hasFrame = true ∧
    ∃ header payload, Reads done.frame.record header payload ∧
      header.sequence = builder.sequence ∧
      (payload.independent = false → FollowsSent before header)

/-- How far a record is. -/
inductive Flow (available : Bool) (provider : CameraProvider) (media : CameraMedia)
    (tasks : List MediaTask) (finished : List MediaDone) (log : List ExtensionEvent) : Prop where
  /-- What is on its way will not be sent, and a gap follows. -/
  | lossy (gap : provider.gap = true)
    (older : ∀ frame ∈ flying tasks finished, frame.revision < provider.revision)
  /-- Nothing is on its way. -/
  | idle (tasked : tasks = []) (empty : finished = [])
    (ready : available = true → Ready media (decide (0 < provider.clients)) log)
  /-- A record waits on the media queue. -/
  | queued (resets : List Nat) (frame : ExtensionFrame) (before : List ExtensionEvent)
    (tasked : tasks = resets.map .reset ++ [.frame frame]) (empty : finished = [])
    (logged : log = .submitted frame :: before) (captured : Captured provider frame)
    (ready : frame.gap = false → resets = [] ∧ Ready media frame.running before)
  /-- What became of a record waits on the main queue. -/
  | done (done : MediaDone) (before : List ExtensionEvent) (tasked : tasks = [])
    (ended : finished = [done]) (logged : log = .submitted done.frame :: before)
    (captured : Captured provider done.frame) (made : Made media done before)

/-- What holds between any two calls. -/
structure Base (provider : CameraProvider) (tasks : List MediaTask) (finished : List MediaDone)
    (former : List CameraStream) (log : List ExtensionEvent) : Prop where
  /-- The provider is busy while a record is on its way, and there is only one. -/
  one : (flying tasks finished).length = provider.busy.toNat
  /-- It was submitted before. -/
  older : ∀ frame ∈ flying tasks finished, frame.revision ≤ provider.revision
  /-- A retired stream has no clients. -/
  retired : ∀ stream ∈ former, stream.retired = true ∧ stream.clients = 0
  /-- The stream of the device is connected. -/
  connected : ∀ stream, provider.device = some stream → stream.connected = true
  /-- Every event is lawful. -/
  log : Trace.Each ExtensionEvent.Lawful log

/-- What holds between any two blocks, at a time of the monotonic clock. -/
structure Kept (clock : UInt64) (extension : CameraExtension) : Prop where
  /-- What always holds. -/
  base : Base extension.provider extension.tasks extension.finished extension.former extension.log
  /-- How far a record is. -/
  flow : Flow (extension.consumer.available clock) extension.provider extension.media
    extension.tasks extension.finished extension.log

/-- What holds of the lease. -/
structure Leased (extension : CameraExtension) : Prop where
  /-- Memory is mapped only under a lease. -/
  linked : extension.consumer.link.isSome = true → extension.consumer.lease ≠ 0
  /-- A lease has an activation. -/
  active : extension.consumer.lease ≠ 0 → extension.provider.activation ≠ 0
  /-- A consumer that was stopped has none. -/
  ended : extension.consumer.stopped = true → extension.consumer.lease = 0

/-- What holds behind a change: nothing on its way will be sent. -/
structure Lossy (provider : CameraProvider) (tasks : List MediaTask) (finished : List MediaDone)
    (former : List CameraStream) (log : List ExtensionEvent) : Prop
    extends Base provider tasks finished former log where
  /-- A gap follows. -/
  gap : provider.gap = true
  /-- What is on its way is of an older revision. -/
  behind : ∀ frame ∈ flying tasks finished, frame.revision < provider.revision

/-! ### The media queue -/

/-- An output that waits goes on waiting when it is made ready for a sample, and so does any behind
a gap. -/
theorem waits_prepare {output : Option CameraOutput} {frame : ExtensionFrame}
    (waits : frame.gap = false → Waits output) : Waits (CameraMedia.prepare output frame) := by
  intro one prepared
  unfold CameraMedia.prepare at prepared
  obtain ⟨marked, there, rfl⟩ := Option.map_eq_some_iff.mp prepared
  apply CameraOutput.setPixelOutput_waits
  cases gap : frame.gap with
  | true =>
    rw [gap, if_pos rfl] at there
    obtain ⟨before, -, rfl⟩ := Option.map_eq_some_iff.mp there
    rfl
  | false =>
    rw [gap, if_neg Bool.false_ne_true] at there
    exact waits gap marked there

/-- A new output waits. -/
theorem waits_outputFor {media : CameraMedia} (waits : Waits media.output)
    (native : Option CameraSample) (answers : MediaAnswers) :
    Waits (media.outputFor native answers) := by
  intro one made
  unfold CameraMedia.outputFor at made
  cases native with
  | none => exact waits one made
  | some sample =>
    cases held : media.output with
    | some before =>
      rw [held] at made
      exact waits one (held.trans made)
    | none =>
      rw [held] at made
      dsimp only at made
      unfold CameraOutput.initWithFormat at made
      obtain ⟨-, same⟩ := Option.ite_none_right_eq_some.mp made
      rw [← Option.some.inj same]

/-- A sample is handed on only to a reader, by an output that does not wait for another. -/
theorem copy_some {output : Option CameraOutput} {native : Option CameraSample} {running : Bool}
    {answers : OutputAnswers}
    (copied : (CameraMedia.copy output native running answers).1.isSome = true) :
    running = true ∧ ∃ sample, native = some sample ∧ (Waits output → sample.sync = true) := by
  unfold CameraMedia.copy at copied
  cases running with
  | false => exact absurd copied Bool.false_ne_true
  | true =>
    refine ⟨rfl, ?_⟩
    cases native with
    | none => exact absurd copied Bool.false_ne_true
    | some sample =>
      cases output with
      | none => exact absurd copied Bool.false_ne_true
      | some one =>
        dsimp only at copied
        obtain ⟨nothing, -⟩ | ⟨suited, -, -⟩ := one.copyOutput_yields sample answers
        · rw [nothing] at copied
          exact absurd copied Bool.false_ne_true
        · exact ⟨sample, rfl, fun waits => suited (waits one rfl)⟩

/-- What was ready is ready in its epoch. -/
theorem Ready.enter {media : CameraMedia} {running : Bool} {log : List ExtensionEvent}
    (ready : Ready media running log) (epoch : Nat) : Ready (media.enter epoch) running log := by
  unfold CameraMedia.enter
  by_cases other : media.epoch ≠ epoch
  · rw [if_pos other]
    exact fun _ => .inl fun _ none => nomatch none
  · rw [if_neg other]
    exact ready

/-- A record that depends on another is accepted only behind the builder's last one. -/
theorem continues_of_accepts {builder : SampleBuilder} {offer : Media.SampleOffer}
    {header : Header} {payload : CameraPayload} {candidate : Media.FormatDescription}
    {sps pps : Option (List UInt8)} {log : List ExtensionEvent}
    (accepts : builder.Accepts offer header payload candidate sps pps)
    (chained : Chained (some builder) log) (dependent : payload.independent = false) :
    FollowsSent log header := by
  obtain ⟨one, same, framed, delivery, earlier, logged, previous, before, reads, sequence⟩ :=
    chained
  obtain rfl := Option.some.inj same
  refine ⟨delivery, earlier, logged, previous, before, reads, ?_⟩
  have whole := (accepts.chained dependent).2
  have fresh := accepts.fresh
  simp only [SampleBuilder.gap, SampleBuilder.stale, framed, Bool.true_and, Bool.or_eq_false_iff,
    decide_eq_false_iff_not, not_not, UInt64.not_le] at whole fresh
  have next : header.sequence = builder.sequence + 1 := whole.1
  have later : builder.sequence.toNat < header.sequence.toNat :=
    UInt64.lt_iff_toNat_lt.mp fresh.2.1.1
  rw [sequence, next, UInt64.toNat_add]
  rw [next, UInt64.toNat_add] at later
  have bound := builder.sequence.toNat_lt
  have unit : (1 : UInt64).toNat = 1 := rfl
  omega

/-- The block of a record ends, and what it hands on goes with the builder. -/
theorem CameraMedia.run_made (media : CameraMedia) (frame : ExtensionFrame)
    (answers : MediaAnswers) :
    ∃ done after, media.run frame answers = some (done, after) ∧ done.frame = frame ∧
      ∀ before, (frame.gap = false → Ready media frame.running before) →
        Made after done before := by
  obtain ⟨⟨native, builder⟩, copied, comes⟩ :=
    ((media.enter frame.epoch).builder.getD (.initWithGeneration frame.activation)).copySample_cases
      ⟨frame.record, frame.time, answers.sample⟩
  unfold CameraMedia.run
  dsimp only
  rw [copied, Option.bind_eq_bind, Option.bind_some]
  refine ⟨_, _, rfl, rfl, ?_⟩
  intro before ready handed
  obtain ⟨running, sample, rfl, suited⟩ := copy_some handed
  obtain ⟨nothing, -⟩ | ⟨header, payload, candidate, sps, pps, data, accepts, made⟩ := comes
  · exact absurd nothing nofun
  obtain ⟨sampled, rfl⟩ := Prod.mk.inj made
  have sync : sample.sync = payload.independent := by rw [Option.some.inj sampled]
  refine ⟨_, rfl, rfl, header, payload, accepts.reads, rfl, fun dependent => ?_⟩
  have waiting : ¬ Waits (CameraMedia.prepare
      ((media.enter frame.epoch).outputFor (some sample) answers) frame) := by
    intro waits
    have key := suited waits
    rw [sync, dependent] at key
    exact Bool.false_ne_true key
  have gapless : frame.gap = false := by
    cases gap : frame.gap with
    | false => rfl
    | true => exact absurd (waits_prepare fun none => nomatch gap.symm.trans none) waiting
  obtain waits | chained := (ready gapless).enter frame.epoch running
  · exact absurd (waits_prepare fun _ => waits_outputFor waits (some sample) answers) waiting
  · obtain ⟨one, held, rest⟩ := chained
    rw [held, Option.getD_some] at accepts
    exact continues_of_accepts accepts ⟨one, rfl, rest⟩ dependent

/-! ### What the calls change -/

/-- A block of an admission carries no record. -/
theorem flying_reset (tasks : List MediaTask) (epoch : Nat) (finished : List MediaDone) :
    flying (tasks ++ [.reset epoch]) finished = flying tasks finished := by
  unfold flying
  rw [List.filterMap_append]
  simp [MediaTask.carried]

/-- A lease that is over is not available. -/
theorem CameraConsumer.available_eq_true {consumer : CameraConsumer} {now : UInt64} :
    consumer.available now = true ↔
      consumer.lease ≠ 0 ∧ consumer.stopped = false ∧ now < consumer.deadline := by
  simp [available, and_assoc]

/-- What was ready is ready when less is available. -/
theorem Flow.less {available other : Bool} {provider : CameraProvider} {media : CameraMedia}
    {tasks : List MediaTask} {finished : List MediaDone} {log : List ExtensionEvent}
    (flow : Flow available provider media tasks finished log)
    (less : other = true → available = true) : Flow other provider media tasks finished log := by
  cases flow with
  | lossy gap older => exact .lossy gap older
  | idle tasked empty ready => exact .idle tasked empty fun given => ready (less given)
  | queued resets frame before tasked empty logged captured ready =>
    exact .queued resets frame before tasked empty logged captured ready
  | done done before tasked ended logged captured made =>
    exact .done done before tasked ended logged captured made

/-- What holds behind a change holds between two blocks, whatever is available. -/
theorem Lossy.kept {extension : CameraExtension} (lossy : Lossy extension.provider extension.tasks
    extension.finished extension.former extension.log) (clock : UInt64) : Kept clock extension :=
  ⟨lossy.toBase, .lossy lossy.gap lossy.behind⟩

namespace CameraExtension

variable {clock : UInt64} {extension : CameraExtension}

/-- A request of a key frame changes nothing else. -/
theorem requestKeyframe_frame (extension : CameraExtension) (now : UInt64) :
    ∃ link keyAt, extension.requestKeyframe now =
        { extension with consumer := { extension.consumer with link, keyAt } } ∧
      link.isSome = extension.consumer.link.isSome := by
  unfold requestKeyframe
  cases held : extension.consumer.link with
  | none => exact ⟨extension.consumer.link, extension.consumer.keyAt, rfl, by rw [held]⟩
  | some asked =>
    dsimp only
    by_cases early :
        extension.consumer.deadline ≤ now ∨ now < extension.consumer.keyAt
    · rw [if_pos early]
      exact ⟨extension.consumer.link, extension.consumer.keyAt, rfl, by rw [held]⟩
    · rw [if_neg early]
      exact ⟨_, _, rfl, rfl⟩

/-- It keeps what holds between two blocks. -/
theorem requestKeyframe_kept (kept : Kept clock extension) (now : UInt64) :
    Kept clock (extension.requestKeyframe now) := by
  obtain ⟨link, keyAt, same, -⟩ := extension.requestKeyframe_frame now
  rw [same]
  exact ⟨kept.base, kept.flow⟩

/-- It keeps what holds of the lease. -/
theorem requestKeyframe_leased (leased : Leased extension) (now : UInt64) :
    Leased (extension.requestKeyframe now) := by
  obtain ⟨link, keyAt, same, mapped⟩ := extension.requestKeyframe_frame now
  rw [same]
  exact ⟨fun some => leased.linked (mapped.symm.trans some), leased.active,
    leased.ended⟩

/-- A change, from the event that it leaves. -/
theorem changed_frame (extension : CameraExtension) (moment : Moment) :
    ∃ link keyAt, extension.changed moment =
        { extension with
          consumer := { extension.consumer with link, keyAt }
          provider := { extension.provider with
            revision := extension.provider.revision + 1, gap := true }
          log := .changed (extension.provider.revision + 1) :: extension.log } ∧
      link.isSome = extension.consumer.link.isSome := by
  unfold changed note
  exact requestKeyframe_frame _ _

/-- Behind a change nothing on its way will be sent. -/
theorem changed_lossy (base : Base extension.provider extension.tasks extension.finished
    extension.former extension.log) (moment : Moment) :
    Lossy (extension.changed moment).provider (extension.changed moment).tasks
      (extension.changed moment).finished (extension.changed moment).former
      (extension.changed moment).log := by
  obtain ⟨link, keyAt, same, -⟩ := extension.changed_frame moment
  rw [same]
  have behind (frame : ExtensionFrame) (there : frame ∈ flying extension.tasks extension.finished) :
      frame.revision < extension.provider.revision + 1 :=
    Nat.lt_succ_of_le (base.older frame there)
  exact {
    one := base.one
    older := fun frame there => Nat.le_of_lt (behind frame there)
    retired := base.retired
    connected := base.connected
    log := base.log.cons trivial
    gap := rfl
    behind }

/-- An admission, with the stream that it retires. -/
theorem admitted_lossy (base : Base extension.provider extension.tasks extension.finished
    extension.former extension.log) (activation : UInt64) (moment : Moment) :
    Lossy (extension.admitted activation moment).provider
      (extension.admitted activation moment).tasks (extension.admitted activation moment).finished
      (extension.admitted activation moment).former
      (extension.admitted activation moment).log := by
  let entered := { extension with provider := { extension.provider with
    epoch := extension.provider.epoch + 1, activation, joinPending := false,
    lastGoodAt := moment.host } }.note (.admitted (extension.provider.epoch + 1) activation)
  have lossy : Lossy (entered.changed moment).provider (entered.changed moment).tasks
      (entered.changed moment).finished (entered.changed moment).former
      (entered.changed moment).log :=
    @changed_lossy entered ⟨base.one, base.older, base.retired, base.connected,
      base.log.cons trivial⟩ moment
  have unfolded : extension.admitted activation moment =
    { (entered.changed moment).removeDevice with
      tasks := (entered.changed moment).removeDevice.tasks ++
        [.reset (entered.changed moment).removeDevice.provider.epoch] } := rfl
  rw [unfolded]
  generalize entered.changed moment = after at lossy ⊢
  unfold removeDevice
  cases held : after.provider.device with
  | none =>
    dsimp only
    exact {
      one := by rw [flying_reset]; exact lossy.one
      older := by rw [flying_reset]; exact lossy.older
      retired := lossy.retired
      connected := lossy.connected
      log := lossy.log
      gap := lossy.gap
      behind := by rw [flying_reset]; exact lossy.behind }
  | some stream =>
    dsimp only
    exact {
      one := by rw [flying_reset]; exact lossy.one
      older := by rw [flying_reset]; exact lossy.older
      retired := by
        intro one member
        rcases List.mem_append.mp member with before | last
        · exact lossy.retired one before
        · obtain rfl := List.mem_singleton.mp last
          exact ⟨rfl, rfl⟩
      connected := nofun
      log := lossy.log
      gap := lossy.gap
      behind := by rw [flying_reset]; exact lossy.behind }

/-- An admission leaves the consumer as it was, but for requests of key frames, and sets its
activation. -/
theorem admitted_lease (extension : CameraExtension) (activation : UInt64) (moment : Moment) :
    (extension.admitted activation moment).consumer.lease = extension.consumer.lease ∧
      (extension.admitted activation moment).consumer.link.isSome =
        extension.consumer.link.isSome ∧
      (extension.admitted activation moment).consumer.stopped = extension.consumer.stopped ∧
      (extension.admitted activation moment).provider.activation = activation := by
  unfold admitted
  dsimp only
  obtain ⟨link, keyAt, same, mapped⟩ := changed_frame ({ extension with
    provider := { extension.provider with
      epoch := extension.provider.epoch + 1, activation, joinPending := false,
      lastGoodAt := moment.host } }.note (.admitted (extension.provider.epoch + 1) activation))
    moment
  rw [same]
  unfold removeDevice note
  cases extension.provider.device with
  | none => exact ⟨rfl, mapped, rfl, rfl⟩
  | some stream => exact ⟨rfl, mapped, rfl, rfl⟩

/-! ### The blocks of the consumer -/

/-- The end of a lease. -/
theorem drop_kept (kept : Kept clock extension) (moment : Moment) :
    Kept clock (extension.drop moment) := by
  unfold drop
  by_cases leased : extension.consumer.lease ≠ 0
  · rw [if_pos leased]
    have lossy := admitted_lossy kept.base 0 moment
    generalize extension.admitted 0 moment = after at lossy ⊢
    exact ⟨lossy.toBase, .lossy lossy.gap lossy.behind⟩
  · rw [if_neg leased]
    refine ⟨kept.base, kept.flow.less fun given => ?_⟩
    exact absurd rfl (CameraConsumer.available_eq_true.mp given).1

/-- Behind the end of a lease there is none. -/
theorem drop_leased (extension : CameraExtension) (moment : Moment) :
    Leased (extension.drop moment) :=
  ⟨nofun, fun other => absurd rfl other, fun _ => rfl⟩

/-- The end of a lease does not stop the consumer. -/
theorem drop_stopped (extension : CameraExtension) (moment : Moment) :
    (extension.drop moment).consumer.stopped = extension.consumer.stopped := by
  unfold drop
  by_cases leased : extension.consumer.lease ≠ 0
  · rw [if_pos leased]
    exact (extension.admitted_lease 0 moment).2.2.1
  · rw [if_neg leased]

/-- The end of a connection. -/
theorem disconnect_kept (kept : Kept clock extension) (moment : Moment) :
    Kept clock (extension.disconnect moment) :=
  ⟨(drop_kept kept moment).base, (drop_kept kept moment).flow⟩

/-- Behind the end of a connection there is no lease. -/
theorem disconnect_leased (extension : CameraExtension) (moment : Moment) :
    Leased (extension.disconnect moment) :=
  ⟨nofun, fun other => absurd rfl other, fun _ => rfl⟩

/-- A new lease. -/
theorem attach_kept (kept : Kept clock extension) (lease activation : UInt64) (moment : Moment) :
    Kept clock (extension.attach lease activation moment) := by
  have base := (drop_kept kept moment).base
  unfold attach
  generalize moment.later + 2 * second = deadline
  generalize extension.drop moment = dropped at base ⊢
  apply requestKeyframe_kept
  apply Lossy.kept
  refine admitted_lossy ?_ activation moment
  exact base

/-- A new lease has an activation. -/
theorem attach_leased (extension : CameraExtension) {lease activation : UInt64}
    (leased : lease ≠ 0) (active : activation ≠ 0) (moment : Moment)
    (running : (extension.drop moment).consumer.stopped = false) :
    Leased (extension.attach lease activation moment) := by
  unfold attach
  generalize moment.later + 2 * second = deadline
  generalize extension.drop moment = dropped at running ⊢
  apply requestKeyframe_leased
  obtain ⟨same, -, stays, set⟩ := admitted_lease { dropped with
    consumer := { dropped.consumer with link := some 0, lease, deadline } } activation moment
  refine ⟨fun _ => ?_, fun _ => ?_, fun stopped => ?_⟩
  · rw [same]
    exact leased
  · rw [set]
    exact active
  · exact nomatch running.symm.trans (stays.symm.trans stopped)

/-- A lease that is available may end at any other time. -/
theorem renewed_kept (kept : Kept clock extension) (leased : Leased extension)
    (available : extension.consumer.available clock = true) (deadline : UInt64) :
    Kept clock { extension with consumer := { extension.consumer with deadline } } ∧
      Leased { extension with consumer := { extension.consumer with deadline } } :=
  ⟨⟨kept.base, kept.flow.less fun _ => available⟩, leased.linked, leased.active, leased.ended⟩

/-- A message that is answered has a lease. -/
theorem valid_lease {message : LinkMessage} {operation lease : UInt64}
    (valid : message.valid = some (operation, lease)) : lease ≠ 0 := by
  unfold LinkMessage.valid at valid
  obtain ⟨version, -, valid⟩ := Option.bind_eq_some_iff.mp valid
  obtain ⟨number, -, valid⟩ := Option.bind_eq_some_iff.mp valid
  obtain ⟨one, -, valid⟩ := Option.bind_eq_some_iff.mp valid
  obtain ⟨checked, same⟩ := Option.ite_none_right_eq_some.mp valid
  obtain ⟨rfl, rfl⟩ := Prod.mk.inj (Option.some.inj same)
  simp only [Bool.and_eq_true, decide_eq_true_eq] at checked
  exact checked.1.2

/-- An offer of memory has an activation. -/
theorem offered_activation {message : LinkMessage} {bytes : Nat} {activation : UInt64}
    (offered : message.offered bytes = some activation) : activation ≠ 0 := by
  unfold LinkMessage.offered at offered
  obtain ⟨number, -, offered⟩ := Option.bind_eq_some_iff.mp offered
  obtain ⟨memory, -, offered⟩ := Option.bind_eq_some_iff.mp offered
  obtain ⟨checked, same⟩ := Option.ite_none_right_eq_some.mp offered
  rw [← Option.some.inj same]
  exact checked.1

/-- What an operation comes to, for a consumer that was not stopped. -/
theorem operate_kept {moment : Moment} (kept : Kept moment.now extension)
    (leased : Leased extension) (running : extension.consumer.stopped = false)
    {operation lease : UInt64} (given : lease ≠ 0) (message : LinkMessage) :
    Kept moment.now (extension.operate operation lease message moment).2 ∧
      Leased (extension.operate operation lease message moment).2 := by
  unfold operate
  by_cases attaches : operation = 1 ∧ message.fields.length = 5
  · rw [if_pos attaches]
    cases offered : message.offered extension.consumer.bytes with
    | none => exact ⟨kept, leased⟩
    | some activation =>
      dsimp only
      exact ⟨attach_kept kept lease activation moment,
        extension.attach_leased given (offered_activation offered) moment
          ((extension.drop_stopped moment).trans running)⟩
  rw [if_neg attaches]
  by_cases renews : operation = 2 ∧ message.fields.length = 3 ∧
      lease = extension.consumer.lease ∧ moment.now < extension.consumer.deadline
  · rw [if_pos renews]
    obtain ⟨-, -, same, early⟩ := renews
    have available : extension.consumer.available moment.now = true :=
      CameraConsumer.available_eq_true.mpr ⟨same ▸ given, running, early⟩
    exact renewed_kept kept leased available _
  rw [if_neg renews]
  by_cases detaches : operation = 3 ∧ message.fields.length = 3
  · rw [if_pos detaches]
    dsimp only
    by_cases same : lease = extension.consumer.lease
    · rw [if_pos same]
      exact ⟨drop_kept kept moment, extension.drop_leased moment⟩
    · rw [if_neg same]
      exact ⟨kept, leased⟩
  · rw [if_neg detaches]
    exact ⟨kept, leased⟩

/-- A message of a peer. -/
theorem receiveMessage_kept {moment : Moment} (kept : Kept moment.now extension)
    (leased : Leased extension) (peer : Nat) (message : LinkMessage) :
    Kept moment.now (extension.receiveMessage peer message moment) ∧
      Leased (extension.receiveMessage peer message moment) := by
  unfold receiveMessage
  by_cases ignored : extension.consumer.peer ≠ some peer ∨ extension.consumer.stopped = true
  · rw [if_pos ignored]
    exact ⟨kept, leased⟩
  rw [if_neg ignored]
  have running : extension.consumer.stopped = false :=
    Bool.eq_false_of_not_eq_true fun stopped => ignored (.inr stopped)
  cases valid : message.valid with
  | none => exact ⟨disconnect_kept kept moment, extension.disconnect_leased moment⟩
  | some call =>
    obtain ⟨operation, lease⟩ := call
    dsimp only
    have ⟨operated, held⟩ := @operate_kept _ moment kept leased running operation lease
      (valid_lease valid) message
    generalize extension.operate operation lease message moment = reply at operated held ⊢
    obtain ⟨accepted, after⟩ := reply
    have answered : Kept moment.now
        { after with posted := (peer, .accepted accepted) :: after.posted } :=
      ⟨operated.base, operated.flow⟩
    cases accepted with
    | true => exact ⟨answered, held.linked, held.active, held.ended⟩
    | false => exact ⟨disconnect_kept answered moment, disconnect_leased _ moment⟩

/-- A connection of a consumer that was not stopped, and the time of the next one. -/
theorem connect_kept (kept : Kept clock extension) (leased : Leased extension)
    (running : extension.consumer.stopped = false) (connectAt : UInt64)
    (answers : ConnectAnswers) :
    ∃ next, { extension with consumer := { extension.consumer with connectAt } }.connect answers =
      next ∧ Kept clock next ∧ Leased next ∧ next.consumer.stopped = false := by
  refine ⟨_, rfl, ?_⟩
  unfold connect
  by_cases failed : (!answers.created) = true
  · rw [if_pos failed]
    exact ⟨⟨kept.base, kept.flow⟩, ⟨leased.linked, leased.active, leased.ended⟩, running⟩
  rw [if_neg failed]
  dsimp only
  by_cases unsigned : (!answers.required) = true
  · rw [if_pos unsigned]
    exact ⟨⟨kept.base, kept.flow⟩, ⟨leased.linked, leased.active, leased.ended⟩, running⟩
  · rw [if_neg unsigned]
    exact ⟨⟨kept.base, kept.flow⟩, ⟨leased.linked, leased.active, leased.ended⟩, running⟩

/-- A change keeps what holds of the lease. -/
theorem changed_leased (leased : Leased extension) (moment : Moment) :
    Leased (extension.changed moment) := by
  obtain ⟨link, keyAt, same, mapped⟩ := extension.changed_frame moment
  rw [same]
  exact ⟨fun some => leased.linked (mapped.symm.trans some), leased.active,
    leased.ended⟩

/-- A record that is submitted is the only one. -/
theorem submit_kept (kept : Kept clock extension) (idle : extension.provider.busy = false)
    (available : extension.consumer.available clock = true) (record : List UInt8)
    (time arrived : UInt64) :
    Kept clock (extension.submit (frameOf extension.provider record time arrived)) := by
  have none : flying extension.tasks extension.finished = [] := by
    have one := kept.base.one
    rw [idle] at one
    exact List.eq_nil_of_length_eq_zero one
  have parts := List.append_eq_nil_iff.mp none
  have only :
      flying (extension.tasks ++ [.frame (frameOf extension.provider record time arrived)])
        extension.finished = [frameOf extension.provider record time arrived] := by
    unfold flying
    rw [List.filterMap_append, parts.1, parts.2]
    rfl
  have captured : Captured { extension.provider with busy := true, gap := false }
      (frameOf extension.provider record time arrived) := by
    refine ⟨rfl, rfl, fun idle => ?_⟩
    exact Nat.eq_zero_of_not_pos (of_decide_eq_false idle)
  have empty : extension.finished = [] := List.map_eq_nil_iff.mp parts.2
  refine ⟨⟨?_, ?_, kept.base.retired, kept.base.connected, kept.base.log.cons trivial⟩, ?_⟩
  · exact congrArg List.length only
  · intro frame there
    obtain rfl := List.mem_singleton.mp (only ▸ there)
    exact Nat.le_refl _
  -- The blocks of admissions that still wait are there only behind a gap.
  have resets : ∃ resets : List Nat, extension.tasks = resets.map .reset := by
    have carried := parts.1
    generalize extension.tasks = tasks at carried
    induction tasks with
    | nil => exact ⟨[], rfl⟩
    | cons task tasks ih =>
      cases task with
      | frame frame => exact nomatch carried
      | reset epoch =>
        obtain ⟨resets, rfl⟩ := ih carried
        exact ⟨epoch :: resets, rfl⟩
  obtain ⟨resets, waiting⟩ := resets
  refine .queued resets (frameOf extension.provider record time arrived) extension.log
    (congrArg (· ++ [_]) waiting) empty rfl captured fun gapless => ?_
  cases kept.flow with
  | lossy gap older => exact nomatch gap.symm.trans gapless
  | idle tasked empty ready =>
    refine ⟨?_, ready available⟩
    exact List.map_eq_nil_iff.mp (waiting.symm.trans tasked)
  | queued resets frame before tasked =>
    rw [tasked, List.filterMap_append] at parts
    exact nomatch (List.append_eq_nil_iff.mp parts.1).2
  | done done before tasked ended =>
    exact nomatch ended.symm.trans empty

/-- A record that was read. -/
theorem receiveRecord_kept (kept : Kept clock extension) (leased : Leased extension)
    (available : extension.consumer.available clock = true) {record : List UInt8}
    (fits : record.length ≤ recordBytes) (time arrived : UInt64) (moment : Moment) :
    Kept clock (extension.receiveRecord record time arrived moment) ∧
      Leased (extension.receiveRecord record time arrived moment) := by
  have active := leased.active (CameraConsumer.available_eq_true.mp available).1
  unfold receiveRecord
  rw [if_neg (not_or.mpr ⟨active, Nat.not_lt.mpr fits⟩)]
  have noted : Base extension.provider extension.tasks extension.finished extension.former
      (.lost :: extension.log) :=
    ⟨kept.base.one, kept.base.older, kept.base.retired, kept.base.connected,
      kept.base.log.cons trivial⟩
  by_cases stalled : 3 * second ≤ moment.host - extension.provider.lastGoodAt
  · rw [if_pos stalled]
    refine ⟨?_, disconnect_leased _ moment⟩
    have lossy := @admitted_lossy (extension.note .lost) noted 0 moment
    unfold disconnect drop
    dsimp only
    rw [if_pos (show (extension.note .lost).consumer.lease ≠ 0 from
      (CameraConsumer.available_eq_true.mp available).1)]
    generalize (extension.note .lost).admitted 0 moment = after at lossy ⊢
    exact ⟨lossy.toBase, .lossy lossy.gap lossy.behind⟩
  rw [if_neg stalled]
  cases busy : extension.provider.busy with
  | true =>
    rw [if_pos rfl]
    refine ⟨(changed_lossy noted moment).kept clock, changed_leased ?_ moment⟩
    exact ⟨leased.linked, leased.active, leased.ended⟩
  | false =>
    rw [if_neg Bool.false_ne_true]
    exact ⟨submit_kept kept busy available record time arrived, leased.linked, leased.active,
      leased.ended⟩

/-- What was read of the memory. -/
theorem take_kept (kept : Kept clock extension) (leased : Leased extension)
    (available : extension.consumer.available clock = true) {answer : LinkAnswer}
    (fitting : fits answer = true) (moment : Moment) :
    Kept clock (extension.take answer moment) ∧ Leased (extension.take answer moment) := by
  cases answer with
  | frame record size time arrived =>
    exact receiveRecord_kept kept leased available (of_decide_eq_true fitting) time _ moment
  | empty => exact ⟨kept, leased⟩
  | gap =>
    exact ⟨requestKeyframe_kept ((changed_lossy kept.base moment).kept clock) moment.later,
      requestKeyframe_leased (changed_leased leased moment) moment.later⟩

/-- A tick of the timer. -/
theorem tick_kept {moment : Moment} (kept : Kept moment.now extension) (leased : Leased extension)
    (answers : ConnectAnswers) {answer : LinkAnswer} (fitting : fits answer = true) :
    Kept moment.now (extension.tick answers answer moment) ∧
      Leased (extension.tick answers answer moment) := by
  unfold tick
  cases stopped : extension.consumer.stopped with
  | true =>
    rw [if_pos rfl]
    exact ⟨kept, leased⟩
  | false =>
  rw [if_neg Bool.false_ne_true]
  dsimp only
  have connected : ∃ next : CameraExtension,
      (if extension.consumer.peer = none ∧ extension.consumer.connectAt ≤ moment.now then
        { extension with consumer := { extension.consumer with
            connectAt := moment.now + second } }.connect answers
      else extension) = next ∧ Kept moment.now next ∧ Leased next ∧
        next.consumer.stopped = false := by
    by_cases idle : extension.consumer.peer = none ∧ extension.consumer.connectAt ≤ moment.now
    · rw [if_pos idle]
      exact connect_kept kept leased stopped _ answers
    · rw [if_neg idle]
      exact ⟨_, rfl, kept, leased, stopped⟩
  obtain ⟨next, same, kept, leased, running⟩ := connected
  rw [same]
  by_cases unmapped : next.consumer.link = none
  · rw [if_pos unmapped]
    exact ⟨kept, leased⟩
  rw [if_neg unmapped]
  by_cases late : next.consumer.deadline ≤ moment.now
  · rw [if_pos late]
    exact ⟨disconnect_kept kept moment, disconnect_leased _ moment⟩
  · rw [if_neg late]
    have available : next.consumer.available moment.now = true :=
      CameraConsumer.available_eq_true.mpr
        ⟨leased.linked (Option.isSome_iff_ne_none.mpr unmapped), running, UInt64.not_le.mp late⟩
    exact take_kept kept leased available fitting moment

/-- The end of the extension. -/
theorem stop_kept (kept : Kept clock extension) (leased : Leased extension) (moment : Moment) :
    Kept clock (extension.stop moment) ∧ Leased (extension.stop moment) := by
  have ended : ∃ after : CameraExtension,
      (if extension.consumer.stopped = true then extension
      else { extension with consumer := { extension.consumer with
        stopped := true } }.disconnect moment) = after ∧ Kept clock after ∧ Leased after ∧
        after.consumer.lease = 0 := by
    by_cases stopped : extension.consumer.stopped = true
    · rw [if_pos stopped]
      exact ⟨_, rfl, kept, leased, leased.ended stopped⟩
    · rw [if_neg stopped]
      have entered : Kept clock
          { extension with consumer := { extension.consumer with stopped := true } } := by
        refine ⟨kept.base, kept.flow.less fun given => ?_⟩
        exact nomatch (CameraConsumer.available_eq_true.mp given).2.1
      exact ⟨_, rfl, disconnect_kept entered moment, disconnect_leased _ moment, rfl⟩
  obtain ⟨after, same, kept, leased, none⟩ := ended
  have unfolded : extension.stop moment = after.admitted 0 moment := by rw [← same]; rfl
  rw [unfolded]
  obtain ⟨lease, mapped, -, -⟩ := after.admitted_lease 0 moment
  refine ⟨(admitted_lossy kept.base 0 moment).kept clock, ?_, ?_, ?_⟩
  · intro some
    exact absurd none (leased.linked (mapped.symm.trans some))
  · intro other
    exact absurd (lease.trans none) other
  · exact fun _ => lease.trans none

/-! ### The calls of a stream -/

/-- A stream keeps its blocks, and calls the one for a change first, or has no clients as long as it
had none. -/
theorem call_cases {stream : CameraStream} (connected : stream.connected = true)
    (call : StreamCall) :
    (stream.call call).stream.connected = true ∧
      ((∃ rest, (stream.call call).signals = .changed :: rest) ∨
        (stream.clients = 0 → (stream.call call).stream.clients = 0)) := by
  cases call with
  | start =>
    unfold CameraStream.call CameraStream.start CameraStream.signal
    dsimp only
    by_cases refused : (stream.retired || decide (stream.clients = maxClients)) = true
    · rw [if_pos refused]
      exact ⟨connected, .inr id⟩
    rw [if_neg refused]
    refine ⟨connected, ?_⟩
    by_cases first : stream.clients = 0
    · rw [if_pos first, if_pos connected, if_pos connected]
      exact .inl ⟨_, rfl⟩
    · exact .inr fun none => absurd none first
  | stop =>
    unfold CameraStream.call CameraStream.stop
    dsimp only
    by_cases idle : stream.clients = 0
    · rw [if_pos idle]
      exact ⟨connected, .inr id⟩
    · rw [if_neg idle]
      exact ⟨connected, .inr fun none => absurd none idle⟩
  | setProperties index frameDuration maxFrameDuration =>
    unfold CameraStream.call CameraStream.setProperties
    dsimp only
    split
    · exact ⟨connected, .inr id⟩
    cases index with
    | none => exact ⟨connected, .inr id⟩
    | some index =>
      dsimp only
      by_cases same : stream.active = index.toNat
      · rw [if_pos same]
        exact ⟨connected, .inr id⟩
      · rw [if_neg same]
        exact ⟨connected, .inr id⟩
  | joined => exact ⟨connected, .inr id⟩

/-- A retired stream stays as it is, and calls nothing. -/
theorem call_retired {stream : CameraStream} (retired : stream.retired = true)
    (empty : stream.clients = 0) (call : StreamCall) :
    (stream.call call).stream = stream ∧ (stream.call call).signals = [] := by
  cases call with
  | start =>
    unfold CameraStream.call CameraStream.start
    rw [retired]
    exact ⟨rfl, rfl⟩
  | stop =>
    unfold CameraStream.call CameraStream.stop
    rw [empty]
    exact ⟨rfl, rfl⟩
  | setProperties index frameDuration maxFrameDuration =>
    unfold CameraStream.call CameraStream.setProperties
    rw [retired]
    exact ⟨rfl, rfl⟩
  | joined =>
    unfold CameraStream.call CameraStream.joined
    rw [retired]
    exact ⟨rfl, rfl⟩

end CameraExtension

/-- What the law does not look at may be different. -/
structure Alike (before after : CameraProvider) : Prop where
  /-- The same epoch. -/
  epoch : after.epoch = before.epoch
  /-- The same activation. -/
  activation : after.activation = before.activation
  /-- The same revision. -/
  revision : after.revision = before.revision
  /-- As busy. -/
  busy : after.busy = before.busy
  /-- The same gap. -/
  gap : after.gap = before.gap
  /-- No clients where there were none. -/
  clients : before.clients = 0 → after.clients = 0
  /-- The stream is connected. -/
  connected : (∀ stream, before.device = some stream → stream.connected = true) →
    ∀ stream, after.device = some stream → stream.connected = true

/-- What was captured still holds. -/
theorem Captured.alike {before after : CameraProvider} {frame : ExtensionFrame}
    (captured : Captured before frame) (alike : Alike before after) : Captured after frame :=
  ⟨alike.epoch.trans captured.epoch, alike.activation.trans captured.activation,
    fun idle => alike.clients (captured.clients idle)⟩

/-- A record is as far as it was. -/
theorem Flow.alike {available : Bool} {before after : CameraProvider} {media : CameraMedia}
    {tasks : List MediaTask} {finished : List MediaDone} {log : List ExtensionEvent}
    (flow : Flow available before media tasks finished log) (alike : Alike before after) :
    Flow available after media tasks finished log := by
  cases flow with
  | lossy gap older =>
    exact .lossy (alike.gap.trans gap) fun frame there => alike.revision ▸ older frame there
  | idle tasked empty ready =>
    refine .idle tasked empty fun given running => ready given ?_
    have reads := of_decide_eq_true running
    exact decide_eq_true (Nat.pos_of_ne_zero fun none =>
      Nat.ne_of_gt reads (alike.clients none))
  | queued resets frame before tasked empty logged captured ready =>
    exact .queued resets frame before tasked empty logged (captured.alike alike) ready
  | done done before tasked ended logged captured made =>
    exact .done done before tasked ended logged (captured.alike alike) made

/-- What always holds goes on. -/
theorem Base.alike {before after : CameraProvider} {tasks : List MediaTask}
    {finished : List MediaDone} {former : List CameraStream} {log : List ExtensionEvent}
    (base : Base before tasks finished former log) (alike : Alike before after) :
    Base after tasks finished former log :=
  ⟨base.one.trans (congrArg _ alike.busy.symm),
    fun frame there => alike.revision ▸ base.older frame there, base.retired,
    alike.connected base.connected, base.log⟩

namespace CameraExtension

variable {clock : UInt64} {extension : CameraExtension}

/-- What a stream calls. -/
theorem signals_kept (kept : Kept clock extension) (leased : Leased extension) (moment : Moment)
    (signals : List StreamSignal) :
    Kept clock (signals.foldl (fun extension signal => extension.handle moment signal)
        extension) ∧
      Leased (signals.foldl (fun extension signal => extension.handle moment signal)
        extension) := by
  induction signals generalizing extension with
  | nil => exact ⟨kept, leased⟩
  | cons signal rest ih =>
    cases signal with
    | changed =>
      refine ih ((changed_lossy ?_ moment).kept clock) (changed_leased ?_ moment)
      · exact kept.base.alike ⟨rfl, rfl, rfl, rfl, rfl, id, id⟩
      · exact ⟨leased.linked, leased.active, leased.ended⟩
    | readerJoined =>
      have alike : Alike extension.provider { extension.provider with
          joinRevision := extension.provider.joinRevision + 1, joinPending := true } :=
        ⟨rfl, rfl, rfl, rfl, rfl, id, id⟩
      refine ih (requestKeyframe_kept ?_ moment.later) (requestKeyframe_leased ?_ moment.later)
      · exact ⟨kept.base.alike alike, kept.flow.alike alike⟩
      · exact ⟨leased.linked, leased.active, leased.ended⟩

/-- A call of the stream of the device. -/
theorem callStream_kept (kept : Kept clock extension) (leased : Leased extension)
    {after : CameraExtension} {call : StreamCall} {moment : Moment}
    (called : extension.callStream call moment = some after) : Kept clock after ∧ Leased after := by
  unfold callStream at called
  obtain ⟨stream, held, called⟩ := Option.bind_eq_some_iff.mp called
  rw [← Option.some.inj called]
  have ⟨connected, signalled⟩ := call_cases (kept.base.connected stream held) call
  have base : Base { extension.provider with device := some (stream.call call).stream }
      extension.tasks extension.finished extension.former extension.log := by
    refine ⟨kept.base.one, kept.base.older, kept.base.retired, ?_, kept.base.log⟩
    rintro one ⟨⟩
    exact connected
  dsimp only
  obtain ⟨rest, signals⟩ | quiet := signalled
  · rw [signals]
    refine signals_kept ((changed_lossy ?_ moment).kept clock) (changed_leased ?_ moment) moment
      rest
    · exact ⟨base.one, base.older, base.retired, base.connected, base.log⟩
    · exact ⟨leased.linked, leased.active, leased.ended⟩
  · have alike : Alike extension.provider
        { extension.provider with device := some (stream.call call).stream } := by
      refine ⟨rfl, rfl, rfl, rfl, rfl, fun none => ?_, fun _ => base.connected⟩
      unfold CameraProvider.clients at none
      rw [held] at none
      exact quiet none
    refine signals_kept ?_ ?_ moment _
    · exact ⟨base, kept.flow.alike alike⟩
    · exact ⟨leased.linked, leased.active, leased.ended⟩

/-- A call of a stream that was retired. -/
theorem callFormer_kept (kept : Kept clock extension) (leased : Leased extension)
    {after : CameraExtension} {index : Nat} {call : StreamCall} {moment : Moment}
    (called : extension.callFormer index call moment = some after) :
    Kept clock after ∧ Leased after := by
  unfold callFormer at called
  obtain ⟨stream, held, called⟩ := Option.bind_eq_some_iff.mp called
  rw [← Option.some.inj called]
  obtain ⟨retired, empty⟩ := kept.base.retired stream (List.mem_of_getElem? held)
  obtain ⟨same, signals⟩ := call_retired retired empty call
  obtain ⟨inside, here⟩ := List.getElem?_eq_some_iff.mp held
  rw [signals, same, ← here, List.set_getElem_self inside]
  exact ⟨kept, leased⟩

/-! ### The block behind a record -/

/-- What the block behind a record finds. -/
inductive Landing (provider : CameraProvider) (media : CameraMedia) (tasks : List MediaTask)
    (log : List ExtensionEvent) (done : MediaDone) : Prop where
  /-- Its sample will not be sent, and a gap follows. -/
  | lossy (gap : provider.gap = true) (older : done.frame.revision < provider.revision)
  /-- Nothing happened since its submission. -/
  | clean (before : List ExtensionEvent) (tasked : tasks = [])
    (logged : log = .submitted done.frame :: before) (captured : Captured provider done.frame)
    (made : Made media done before)

/-- The block behind a record is that of the only one on its way. -/
theorem landing_of_kept (kept : Kept clock extension) {done : MediaDone} {rest : List MediaDone}
    (ended : extension.finished = done :: rest) :
    rest = [] ∧ flying extension.tasks [] = [] ∧
      Landing extension.provider extension.media extension.tasks extension.log done := by
  have one := kept.base.one
  have bound := extension.provider.busy.toNat_le
  rw [ended] at one
  unfold flying at one
  rw [List.length_append, List.map_cons, List.length_cons, List.length_map] at one
  have last : rest = [] := List.eq_nil_of_length_eq_zero (by omega)
  have alone : extension.tasks.filterMap MediaTask.carried = [] :=
    List.eq_nil_of_length_eq_zero (by omega)
  refine ⟨last, (List.append_nil _).trans alone, ?_⟩
  cases kept.flow with
  | lossy gap older =>
    refine .lossy gap (older done.frame ?_)
    rw [ended]
    exact List.mem_append_right _ List.mem_cons_self
  | idle tasked empty => exact nomatch ended.symm.trans empty
  | queued resets frame before tasked empty => exact nomatch ended.symm.trans empty
  | done other before tasked held logged captured made =>
    obtain ⟨rfl, -⟩ := List.cons.inj (ended.symm.trans held)
    exact .clean before tasked logged captured made

/-- A record that is recent is of its time. -/
theorem current_of_recent {frame : ExtensionFrame} {host : UInt64}
    (passed : recent frame host = true) : Current frame.arrived frame.time host := by
  simp only [recent, Bool.and_eq_true, decide_eq_true_eq] at passed
  obtain ⟨⟨past, young⟩, near⟩ := passed
  have before := UInt64.le_iff_toNat_le.mp past
  rw [UInt64.le_iff_toNat_le, UInt64.toNat_sub_of_le _ _ past] at young
  have bound : linkMaxAge.toNat = 150000000 := rfl
  refine ⟨past, by omega, ?_, ?_⟩
  · split at near
    · next early =>
      have order := UInt64.lt_iff_toNat_lt.mp early
      omega
    · next late =>
      have order := UInt64.not_lt.mp late
      have near := of_decide_eq_true near
      rw [UInt64.le_iff_toNat_le, UInt64.toNat_sub_of_le _ _ order] at near
      have known := UInt64.le_iff_toNat_le.mp order
      omega
  · split at near
    · next early =>
      have order := UInt64.le_of_lt early
      have near := of_decide_eq_true near
      rw [UInt64.le_iff_toNat_le, UInt64.toNat_sub_of_le _ _ order] at near
      have ahead : (100000000 : UInt64).toNat = 100000000 := rfl
      have known := UInt64.le_iff_toNat_le.mp order
      omega
    · next late =>
      have order := UInt64.le_iff_toNat_le.mp (UInt64.not_lt.mp late)
      omega

/-- A sample is sent. -/
theorem send_kept (base : Base extension.provider extension.tasks extension.finished
    extension.former extension.log) {done : MediaDone} {sample : OutputSample} {moment : Moment}
    (landing : Landing extension.provider extension.media extension.tasks extension.log done)
    (empty : extension.finished = []) (handed : done.output = some sample)
    (same : extension.provider.revision = done.frame.revision)
    (available : extension.consumer.available moment.now = true)
    (young : recent done.frame moment.host = true) :
    Kept clock (extension.send done sample moment) := by
  cases landing with
  | lossy gap older => exact absurd same (Nat.ne_of_gt older)
  | clean before tasked logged captured made =>
    obtain ⟨builder, built, framed, header, payload, reads, sequence, follows⟩ :=
      made (by rw [handed]; rfl)
    have lawful : Sendable extension.log (extension.deliveryOf done.frame sample moment) :=
      { direct := ⟨before, logged, header, payload, reads, follows⟩
        epoch := captured.epoch.symm
        activation := captured.activation.symm
        revision := same.symm
        available
        current := current_of_recent young }
    have chained : Chained extension.media.builder
        (.sent (extension.deliveryOf done.frame sample moment) :: extension.log) :=
      ⟨builder, built, framed, _, _, rfl, header, payload, reads, sequence⟩
    have sent : Base extension.provider extension.tasks extension.finished extension.former
        (.sent (extension.deliveryOf done.frame sample moment) :: extension.log) :=
      ⟨base.one, base.older, base.retired, base.connected, base.log.cons lawful⟩
    unfold send note
    by_cases joined : done.independent = true ∧
        extension.provider.joinRevision = done.frame.joinRevision
    · rw [if_pos joined]
      have alike : Alike extension.provider { extension.provider with joinPending := false } :=
        ⟨rfl, rfl, rfl, rfl, rfl, id, id⟩
      exact ⟨sent.alike alike, .idle tasked empty fun _ _ => .inr chained⟩
    · rw [if_neg joined]
      exact ⟨sent, .idle tasked empty fun _ _ => .inr chained⟩

/-- Nothing is sent. -/
theorem refuse_kept (base : Base extension.provider extension.tasks extension.finished
    extension.former extension.log) {done : MediaDone}
    (landing : Landing extension.provider extension.media extension.tasks extension.log done)
    (empty : extension.finished = []) (none : flying extension.tasks [] = []) (moment : Moment) :
    Kept clock (extension.refuse done moment) := by
  have refused : Base extension.provider extension.tasks extension.finished extension.former
      (.refused done.frame :: extension.log) :=
    ⟨base.one, base.older, base.retired, base.connected, base.log.cons trivial⟩
  have nothing (frame : ExtensionFrame)
      (there : frame ∈ flying extension.tasks extension.finished) :
      frame.revision < extension.provider.revision := by
    rw [empty, none] at there
    exact absurd there List.not_mem_nil
  unfold refuse note
  dsimp only
  cases running : done.frame.running with
  | true =>
    rw [if_pos rfl]
    apply requestKeyframe_kept
    exact ⟨⟨base.one, base.older, base.retired, base.connected, refused.log⟩, .lossy rfl nothing⟩
  | false =>
    rw [if_neg Bool.false_ne_true]
    refine ⟨refused, ?_⟩
    cases landing with
    | lossy gap older => exact .lossy gap nothing
    | clean before tasked logged captured made =>
      refine .idle tasked empty fun _ reads => ?_
      have quiet := captured.clients running
      exact absurd quiet (Nat.ne_of_gt (of_decide_eq_true reads))

/-- A sample is sent, or not. -/
theorem deliver_kept (base : Base extension.provider extension.tasks extension.finished
    extension.former extension.log) {done : MediaDone} {moment : Moment}
    (landing : Landing extension.provider extension.media extension.tasks extension.log done)
    (empty : extension.finished = []) (none : flying extension.tasks [] = [])
    (available : extension.consumer.available moment.now = true) :
    Kept clock (extension.deliver done moment) := by
  unfold deliver
  cases handed : done.output with
  | none => exact refuse_kept base landing empty none moment
  | some sample =>
    dsimp only
    by_cases sends : extension.provider.revision = done.frame.revision ∧
        extension.provider.clients ≠ 0 ∧ recent done.frame moment.host = true
    · rw [if_pos sends]
      exact send_kept base landing empty handed sends.1 available sends.2.2
    · rw [if_neg sends]
      exact refuse_kept base landing empty none moment

/-- What the block behind a record finds, it finds behind a change of what the law does not look
at. -/
theorem Landing.alike {before after : CameraProvider} {media : CameraMedia}
    {tasks : List MediaTask} {log : List ExtensionEvent} {done : MediaDone}
    (landing : Landing before media tasks log done) (alike : Alike before after) :
    Landing after media tasks log done := by
  cases landing with
  | lossy gap older => exact .lossy (alike.gap.trans gap) (alike.revision ▸ older)
  | clean earlier tasked logged captured made =>
    exact .clean earlier tasked logged (captured.alike alike) made

/-- The device of the first sample has no clients. -/
theorem publish_alike (extension : CameraExtension) (done : MediaDone) (answers : DeviceAnswers) :
    ∃ device, extension.publish done answers =
        { extension with provider := { extension.provider with device } } ∧
      Alike extension.provider { extension.provider with device } := by
  unfold publish
  by_cases fresh : done.native.isSome = true ∧ extension.provider.device = none ∧
      answers.created = true ∧ answers.added = true
  · rw [if_pos fresh]
    refine ⟨some {}, rfl, rfl, rfl, rfl, rfl, rfl, fun _ => rfl, fun _ stream made => ?_⟩
    obtain rfl := Option.some.inj made
    rfl
  · rw [if_neg fresh]
    exact ⟨extension.provider.device, rfl, rfl, rfl, rfl, rfl, rfl, id, id⟩

/-- A request of a key frame leaves the queues and the provider as they are. -/
theorem requestKeyframe_queues (extension : CameraExtension) (now : UInt64) :
    (extension.requestKeyframe now).tasks = extension.tasks ∧
      (extension.requestKeyframe now).finished = extension.finished ∧
      (extension.requestKeyframe now).provider = extension.provider := by
  obtain ⟨link, keyAt, same, -⟩ := extension.requestKeyframe_frame now
  rw [same]
  exact ⟨rfl, rfl, rfl⟩

/-- The block behind a record leaves the queues as they are, and the provider idle. -/
theorem complete_queues (extension : CameraExtension) (done : MediaDone) (answers : DeviceAnswers)
    (moment : Moment) :
    (extension.complete done answers moment).tasks = extension.tasks ∧
      (extension.complete done answers moment).finished = extension.finished ∧
      (extension.complete done answers moment).provider.busy = false := by
  have refused (before : CameraExtension) :
      (before.refuse done moment).tasks = before.tasks ∧
        (before.refuse done moment).finished = before.finished ∧
        (before.refuse done moment).provider.busy = before.provider.busy := by
    unfold refuse
    dsimp only
    split
    · rw [(requestKeyframe_queues _ _).1, (requestKeyframe_queues _ _).2.1,
        (requestKeyframe_queues _ _).2.2]
      exact ⟨rfl, rfl, rfl⟩
    · exact ⟨rfl, rfl, rfl⟩
  have delivered (before : CameraExtension) :
      (before.deliver done moment).tasks = before.tasks ∧
        (before.deliver done moment).finished = before.finished ∧
        (before.deliver done moment).provider.busy = before.provider.busy := by
    unfold deliver
    split
    · split
      · unfold send
        dsimp only
        split
        · exact ⟨rfl, rfl, rfl⟩
        · exact ⟨rfl, rfl, rfl⟩
      · exact refused before
    · exact refused before
  have settled (before : CameraExtension) :
      (before.settle done answers moment).tasks = before.tasks ∧
        (before.settle done answers moment).finished = before.finished ∧
        (before.settle done answers moment).provider.busy = before.provider.busy := by
    obtain ⟨device, published, -⟩ := before.publish_alike done answers
    unfold settle
    dsimp only
    rw [published]
    have requested (next : CameraExtension) (asks : Prop) [Decidable asks] :
        (if asks then next.requestKeyframe moment.later else next).tasks = next.tasks ∧
          (if asks then next.requestKeyframe moment.later else next).finished = next.finished ∧
          (if asks then next.requestKeyframe moment.later else next).provider =
            next.provider := by
      split
      · exact requestKeyframe_queues next moment.later
      · exact ⟨rfl, rfl, rfl⟩
    rw [(requested _ _).1, (requested _ _).2.1, (requested _ _).2.2, (delivered _).1,
      (delivered _).2.1, (delivered _).2.2]
    split
    · exact ⟨rfl, rfl, rfl⟩
    · exact ⟨rfl, rfl, rfl⟩
  unfold complete
  dsimp only
  split
  · exact settled _
  · exact ⟨rfl, rfl, rfl⟩

/-- What is sent or not keeps what holds of the lease. -/
theorem deliver_leased (leased : Leased extension) (done : MediaDone) (moment : Moment) :
    Leased (extension.deliver done moment) := by
  have refused : Leased (extension.refuse done moment) := by
    unfold refuse
    dsimp only
    cases done.frame.running with
    | true =>
      apply requestKeyframe_leased
      exact ⟨leased.linked, leased.active, leased.ended⟩
    | false => exact ⟨leased.linked, leased.active, leased.ended⟩
  unfold deliver
  cases done.output with
  | none => exact refused
  | some sample =>
    dsimp only
    by_cases sends : extension.provider.revision = done.frame.revision ∧
        extension.provider.clients ≠ 0 ∧ recent done.frame moment.host = true
    · rw [if_pos sends]
      unfold send
      dsimp only
      split
      · exact ⟨leased.linked, leased.active, leased.ended⟩
      · exact ⟨leased.linked, leased.active, leased.ended⟩
    · rw [if_neg sends]
      exact refused

/-- The block behind a record, in its own epoch. -/
theorem settle_kept (base : Base extension.provider extension.tasks extension.finished
    extension.former extension.log) (leased : Leased extension) {done : MediaDone}
    {moment : Moment}
    (landing : Landing extension.provider extension.media extension.tasks extension.log done)
    (empty : extension.finished = []) (none : flying extension.tasks [] = [])
    (available : extension.consumer.available moment.now = true) (answers : DeviceAnswers) :
    Kept clock (extension.settle done answers moment) ∧
      Leased (extension.settle done answers moment) := by
  obtain ⟨device, published, alike⟩ := extension.publish_alike done answers
  -- Behind the device, and perhaps a new time of the last good record.
  have entered : ∃ next : CameraExtension,
      (if done.native.isSome = true ∧
          ((!done.frame.running) = true ∨ done.output.isSome = true) then
        { extension.publish done answers with
          provider := { (extension.publish done answers).provider with
            lastGoodAt := moment.host } }
      else extension.publish done answers) = next ∧ Alike extension.provider next.provider ∧
        next.media = extension.media ∧ next.tasks = extension.tasks ∧
        next.finished = extension.finished ∧ next.former = extension.former ∧
        next.log = extension.log ∧ next.consumer = extension.consumer := by
    refine ⟨_, rfl, ?_⟩
    rw [published]
    have timed : Alike extension.provider
        { extension.provider with device, lastGoodAt := moment.host } :=
      ⟨rfl, rfl, rfl, rfl, rfl, alike.clients, alike.connected⟩
    split
    · exact ⟨timed, rfl, rfl, rfl, rfl, rfl, rfl⟩
    · exact ⟨alike, rfl, rfl, rfl, rfl, rfl, rfl⟩
  obtain ⟨next, same, alike, media, tasks, finished, former, log, consumer⟩ := entered
  unfold settle
  dsimp only
  rw [same]
  have base : Base next.provider next.tasks next.finished next.former next.log := by
    rw [tasks, finished, former, log]
    exact base.alike alike
  have leased : Leased next := by
    refine ⟨?_, ?_, ?_⟩
    · rw [consumer]
      exact leased.linked
    · rw [consumer, alike.activation]
      exact leased.active
    · rw [consumer]
      exact leased.ended
  have landing : Landing next.provider next.media next.tasks next.log done := by
    rw [media, tasks, log]
    exact landing.alike alike
  have delivered : Kept clock (next.deliver done moment) := by
    refine deliver_kept base landing (finished.trans empty) ?_ ?_
    · rw [tasks]
      exact none
    · rw [consumer]
      exact available
  have held := deliver_leased leased done moment
  split
  · exact ⟨requestKeyframe_kept delivered _, requestKeyframe_leased held _⟩
  · exact ⟨delivered, held⟩

/-- The block behind a record. -/
theorem complete_kept {moment : Moment} (kept : Kept moment.now extension)
    (leased : Leased extension) {done : MediaDone} {rest : List MediaDone}
    (ended : extension.finished = done :: rest) (answers : DeviceAnswers) :
    Kept moment.now ({ extension with finished := rest }.complete done answers moment) ∧
      Leased ({ extension with finished := rest }.complete done answers moment) := by
  obtain ⟨rfl, alone, landing⟩ := landing_of_kept kept ended
  have base : Base { extension.provider with busy := false } extension.tasks [] extension.former
      extension.log := by
    refine ⟨?_, ?_, kept.base.retired, kept.base.connected, kept.base.log⟩
    · rw [alone]
      rfl
    · rw [alone]
      exact fun frame there => absurd there List.not_mem_nil
  have landing : Landing { extension.provider with busy := false } extension.media
      extension.tasks extension.log done := by
    cases landing with
    | lossy gap older => exact .lossy gap older
    | clean before tasked logged captured made =>
      exact .clean before tasked logged ⟨captured.epoch, captured.activation, captured.clients⟩
        made
  unfold complete
  dsimp only
  by_cases own : extension.provider.epoch = done.frame.epoch ∧
      extension.provider.activation = done.frame.activation ∧
      extension.consumer.available moment.now = true
  · rw [if_pos own]
    refine settle_kept ?_ ?_ ?_ ?_ ?_ ?_ answers
    · exact base
    · exact ⟨leased.linked, leased.active, leased.ended⟩
    · exact landing
    · rfl
    · exact alone
    · exact own.2.2
  · rw [if_neg own]
    refine ⟨⟨⟨base.one, base.older, base.retired, base.connected, base.log.cons trivial⟩, ?_⟩,
      leased.linked, leased.active, leased.ended⟩
    cases landing with
    | lossy gap older =>
      refine .lossy gap fun frame there => ?_
      exact absurd (alone ▸ there) List.not_mem_nil
    | clean before tasked logged captured made =>
      refine .idle tasked rfl fun available => ?_
      exact absurd ⟨captured.epoch, captured.activation, available⟩ own

/-! ### Every block -/

/-- A block on the media queue. -/
theorem runMedia_kept (kept : Kept clock extension) (leased : Leased extension)
    {answers : MediaAnswers} {after : CameraExtension}
    (ran : extension.runMedia answers = some after) :
    (Kept clock after ∧ Leased after) ∧ after.clock = extension.clock := by
  unfold runMedia at ran
  cases waiting : extension.tasks with
  | nil =>
    rw [waiting] at ran
    exact nomatch ran
  | cons task rest =>
    rw [waiting] at ran
    cases task with
    | reset epoch =>
      obtain rfl := Option.some.inj ran
      have same : flying rest extension.finished = flying extension.tasks extension.finished := by
        rw [waiting]
        rfl
      refine ⟨⟨⟨⟨?_, ?_, kept.base.retired, kept.base.connected, kept.base.log⟩, ?_⟩,
        leased.linked, leased.active, leased.ended⟩, rfl⟩
      · dsimp only
        rw [same]
        exact kept.base.one
      · dsimp only
        rw [same]
        exact kept.base.older
      cases kept.flow with
      | lossy gap older =>
        refine .lossy gap ?_
        dsimp only
        rw [same]
        exact older
      | idle tasked => exact nomatch waiting.symm.trans tasked
      | queued resets frame before tasked empty logged captured ready =>
        cases resets with
        | nil => exact nomatch waiting.symm.trans tasked
        | cons first resets =>
          obtain ⟨-, rfl⟩ := List.cons.inj (waiting.symm.trans tasked)
          refine .queued resets frame before rfl empty logged captured fun gapless => ?_
          exact nomatch (ready gapless).1
      | done done before tasked => exact nomatch waiting.symm.trans tasked
    | frame frame =>
      obtain ⟨⟨done, media⟩, ended, ran⟩ := Option.bind_eq_some_iff.mp ran
      obtain rfl := Option.some.inj ran
      obtain ⟨_, _, made, same, goes⟩ := extension.media.run_made frame answers
      obtain ⟨rfl, rfl⟩ := Prod.mk.inj (Option.some.inj (ended.symm.trans made))
      have moved : List.Perm (flying rest (extension.finished ++ [done]))
          (flying extension.tasks extension.finished) := by
        unfold flying
        rw [waiting, List.map_append, ← List.append_assoc, List.map_singleton, same]
        exact List.perm_append_singleton _ _
      refine ⟨⟨⟨⟨?_, ?_, kept.base.retired, kept.base.connected, kept.base.log⟩, ?_⟩,
        leased.linked, leased.active, leased.ended⟩, rfl⟩
      · exact moved.length_eq.trans kept.base.one
      · exact fun frame there => kept.base.older frame (moved.mem_iff.mp there)
      cases kept.flow with
      | lossy gap older =>
        exact .lossy gap fun frame there => older frame (moved.mem_iff.mp there)
      | idle tasked => exact nomatch waiting.symm.trans tasked
      | queued resets other before tasked empty logged captured ready =>
        cases resets with
        | cons first resets => exact nomatch waiting.symm.trans tasked
        | nil =>
          obtain ⟨carried, rfl⟩ := List.cons.inj (waiting.symm.trans tasked)
          obtain rfl := MediaTask.frame.inj carried
          have made := goes before fun gapless => (ready gapless).2
          rw [← same] at logged captured
          exact .done done before rfl (congrArg (· ++ [done]) empty) logged captured made
      | done done before tasked => exact nomatch waiting.symm.trans tasked

/-- A block on the main queue. -/
theorem runMain_kept {moment : Moment} (kept : Kept moment.now extension)
    (leased : Leased extension) {block : MainBlock} {after : CameraExtension}
    (ran : extension.runMain moment block = some after) :
    Kept moment.now after ∧ Leased after := by
  cases block with
  | start =>
    obtain rfl := Option.some.inj ran
    unfold start
    split
    · exact ⟨kept, leased⟩
    · exact ⟨⟨kept.base, kept.flow⟩, leased.linked, leased.active, leased.ended⟩
  | stop =>
    obtain rfl := Option.some.inj ran
    exact stop_kept kept leased moment
  | tick answers answer =>
    obtain ⟨⟨-, fitting⟩, same⟩ := Option.ite_none_right_eq_some.mp ran
    obtain rfl := Option.some.inj same
    exact tick_kept kept leased answers fitting
  | message peer message =>
    obtain rfl := Option.some.inj ran
    exact receiveMessage_kept kept leased peer message
  | stream call => exact callStream_kept kept leased ran
  | formerStream index call => exact callFormer_kept kept leased ran
  | completion answers =>
    unfold runMain at ran
    cases ended : extension.finished with
    | nil =>
      rw [ended] at ran
      exact nomatch ran
    | cons done rest =>
      rw [ended] at ran
      obtain rfl := Option.some.inj ran
      exact complete_kept kept leased ended answers

/-- What is not available any more stays so. -/
theorem available_mono {consumer : CameraConsumer} {now later : UInt64} (order : now ≤ later)
    (available : consumer.available later = true) : consumer.available now = true := by
  have ⟨leased, running, early⟩ := CameraConsumer.available_eq_true.mp available
  exact CameraConsumer.available_eq_true.mpr
    ⟨leased, running, UInt64.lt_of_le_of_lt order early⟩

/-- One block. -/
theorem step_kept {action : Action} {after : CameraExtension}
    (kept : Kept extension.clock extension) (leased : Leased extension)
    (stepped : extension.step action = some after) : Kept after.clock after ∧ Leased after := by
  cases action with
  | main block moment =>
    obtain ⟨⟨before, forward⟩, mapped⟩ := Option.ite_none_right_eq_some.mp stepped
    obtain ⟨ended, ran, rfl⟩ := Option.map_eq_some_iff.mp mapped
    have entered : Kept moment.now extension :=
      ⟨kept.base, kept.flow.less (available_mono before)⟩
    obtain ⟨kept, leased⟩ := runMain_kept entered leased ran
    exact ⟨⟨kept.base, kept.flow.less (available_mono forward)⟩, leased.linked, leased.active,
      leased.ended⟩
  | media answers =>
    obtain ⟨kept, same⟩ := runMedia_kept kept leased stepped
    rw [same]
    exact kept

/-- Whatever happened, the law holds. -/
theorem reachable_kept (reachable : cameraExtension.Reachable extension) :
    Kept extension.clock extension ∧ Leased extension := by
  have preserved : cameraExtension.Preserves fun extension =>
      Kept extension.clock extension ∧ Leased extension :=
    fun before action after held stepped => step_kept held.1 held.2 stepped
  refine preserved.reachable ?_ reachable
  rintro first ⟨bytes, rfl⟩
  refine ⟨⟨⟨rfl, ?_, ?_, nofun, Trace.Each.nil⟩, ?_⟩, nofun, fun other => absurd rfl other, nofun⟩
  · exact fun frame there => absurd there List.not_mem_nil
  · exact fun stream there => absurd there List.not_mem_nil
  · exact .idle rfl rfl fun _ reads => absurd reads Bool.false_ne_true

end CameraExtension

/-! ### The law -/

/-- What ends what was sent before: an admission, a change, a lost record, or a refused one. -/
def ExtensionEvent.breaks : ExtensionEvent → Bool
  | .admitted _ _ | .changed _ | .lost | .refused _ => true
  | .submitted _ | .sent _ => false

/-- A sample was sent. -/
def ExtensionEvent.sends : ExtensionEvent → Bool
  | .sent _ => true
  | _ => false

/-- What holds whatever happened. -/
structure ExtensionLaw (extension : CameraExtension) : Prop where
  /-- A sample is sent directly behind the submission of its record, with what the record captured,
  under a lease that is available and before the record is too old; and a record that depends on
  another is submitted directly behind the sample of the record before it. -/
  log : Trace.Each ExtensionEvent.Lawful extension.log
  /-- The first sample behind an admission, a change, a lost record or a refused one is that of an
  independent record. -/
  first : ∀ later delivery between event earlier,
    extension.log = later ++ .sent delivery :: (between ++ event :: earlier) →
    event.breaks = true → (∀ other ∈ between, other.sends = false) →
    ∃ header payload, Reads delivery.frame.record header payload ∧ payload.independent = true
  /-- As many records are on their way as the provider is busy with: one, or none. -/
  one : (flying extension.tasks extension.finished).length = extension.provider.busy.toNat
  /-- The block behind a record leaves the provider idle, and nothing on its way. -/
  cleared : ∀ answers moment after,
    extension.step (.main (.completion answers) moment) = some after →
    after.provider.busy = false ∧ flying after.tasks after.finished = []
  /-- What waits on a queue can run: the block of a record, whatever the framework answers, and the
  block behind it, at any time. -/
  enabled : (∀ answers, extension.tasks ≠ [] →
      (extension.step (.media answers)).isSome = true) ∧
    ∀ answers moment, extension.finished ≠ [] → extension.clock ≤ moment.now →
      moment.now ≤ moment.later →
      (extension.step (.main (.completion answers) moment)).isSome = true

namespace CameraExtension

variable {extension : CameraExtension}

/-- The first sample behind a break is independent. -/
theorem first_of_each (each : Trace.Each ExtensionEvent.Lawful extension.log)
    {later between earlier : List ExtensionEvent} {delivery : Delivery} {event : ExtensionEvent}
    (split : extension.log = later ++ .sent delivery :: (between ++ event :: earlier))
    (breaks : event.breaks = true) (quiet : ∀ other ∈ between, other.sends = false) :
    ∃ header payload, Reads delivery.frame.record header payload ∧
      payload.independent = true := by
  have sendable : Sendable (between ++ event :: earlier) delivery :=
    each later (.sent delivery) _ split
  obtain ⟨before, logged, header, payload, reads, follows⟩ := sendable.direct
  refine ⟨header, payload, reads, ?_⟩
  cases independent : payload.independent with
  | true => rfl
  | false =>
    obtain ⟨previous, rest, sent, -⟩ := follows independent
    subst sent
    -- What lies between ends with the submission, so the break is the sample before it or older.
    cases between with
    | nil =>
      obtain ⟨rfl, -⟩ := List.cons.inj logged
      exact nomatch breaks
    | cons submitted between =>
      obtain ⟨-, logged⟩ := List.cons.inj logged
      cases between with
      | nil =>
        obtain ⟨rfl, -⟩ := List.cons.inj logged
        exact nomatch breaks
      | cons other between =>
        obtain ⟨rfl, -⟩ := List.cons.inj logged
        exact nomatch quiet _ (List.mem_cons_of_mem _ List.mem_cons_self)

/-- For every order of the blocks, whatever was read of the memory and whatever the framework
answers: what is sent to the stream of the camera obeys the law. -/
theorem extension_delivery (extension : CameraExtension)
    (reachable : cameraExtension.Reachable extension) : ExtensionLaw extension := by
  have ⟨kept, _⟩ := reachable_kept reachable
  refine ⟨kept.base.log, fun _ _ _ _ _ => first_of_each kept.base.log, kept.base.one, ?_, ?_, ?_⟩
  · intro answers moment after stepped
    obtain ⟨-, mapped⟩ := Option.ite_none_right_eq_some.mp stepped
    obtain ⟨ended, ran, rfl⟩ := Option.map_eq_some_iff.mp mapped
    unfold runMain at ran
    cases finished : extension.finished with
    | nil =>
      rw [finished] at ran
      exact nomatch ran
    | cons done rest =>
      rw [finished] at ran
      obtain rfl := Option.some.inj ran
      obtain ⟨tasks, empty, idle⟩ :=
        { extension with finished := rest }.complete_queues done answers moment
      obtain ⟨rfl, alone, -⟩ := landing_of_kept kept finished
      refine ⟨idle, ?_⟩
      dsimp only
      rw [tasks, empty]
      exact alone
  · intro answers waiting
    unfold step runMedia
    dsimp only
    cases tasks : extension.tasks with
    | nil => exact absurd tasks waiting
    | cons task rest =>
      cases task with
      | reset epoch => rfl
      | frame frame =>
        obtain ⟨done, media, ran, -⟩ := extension.media.run_made frame answers
        dsimp only
        rw [ran]
        rfl
  · intro answers moment waiting before forward
    unfold step runMain
    dsimp only
    rw [if_pos ⟨before, forward⟩]
    cases finished : extension.finished with
    | nil => exact absurd finished waiting
    | cons done rest => rfl

/-- A record of the sample run: of a key frame, or of one that depends on another. -/
def sampleRecord (key : Bool) (sequence : UInt64) : List UInt8 :=
  let payload : List UInt8 :=
    if key then [0, 0, 1, 0x67, 1, 0, 0, 1, 0x68, 1, 0, 0, 1, 0x65, 1] else [0, 0, 1, 0x41, 1]
  let header : Header :=
    ⟨1, sequence, 1000 * sequence, h264, 0, 0, 0, 0, 0, 1280, 720, if key then keyFrame else 0⟩
  (header.encode payload.length headerBytes).getD [] ++ payload

/-- What the framework answers on the media queue in the sample run. -/
def sampleAnswers : MediaAnswers where
  sample := ⟨true, 1280, 720, true, true, true, true, true⟩
  width := 1280
  height := 720
  output :=
    ⟨true, true, true, true, true, true, true, true, false, none, false, false, [], false, false⟩
  attached := true

/-- A record of the sample run is read, turned into a sample, and sent or not. -/
def sampleDelivery (key : Bool) (sequence : UInt64) : List Action :=
  let time := 1000000 * sequence
  [.main (.tick ⟨true, true⟩ (.frame (sampleRecord key sequence) 0 time (some time)))
      ⟨1000, 1000, time⟩,
    .media sampleAnswers, .main (.completion ⟨true, true⟩) ⟨1000, 1000, time⟩]

/-- The message that gives the lease of the sample run. -/
def sampleLease : LinkMessage where
  fields := [("version", .uint64 2), ("operation", .uint64 1), ("lease", .uint64 7),
    ("activation", .uint64 1), ("memory", .other)]
  memory := some ⟨0, 2⟩

/-- A lease is given, the first record makes the device, and somebody reads; behind two records that
are sent there is a gap, and the record that depends on another is not sent. -/
def sampleRun : List Action :=
  List.flatten [[.main .start ⟨1000, 1000, 0⟩, .main (.tick ⟨true, true⟩ .empty) ⟨1000, 1000, 0⟩,
      .main (.message 0 sampleLease) ⟨1000, 1000, 0⟩, .media sampleAnswers],
    sampleDelivery true 1, [.main (.stream .start) ⟨1000, 1000, 0⟩], sampleDelivery true 2,
    sampleDelivery false 3, [.main (.tick ⟨true, true⟩ .gap) ⟨1000, 1000, 0⟩],
    sampleDelivery false 4, sampleDelivery true 5]

/-- The extension behind the sample run. -/
def sampleExtension : CameraExtension := (cameraExtension.run {} sampleRun).getD {}

/-- The time of a record whose sample was sent. -/
def sentTime : ExtensionEvent → Option UInt64
  | .sent delivery => some delivery.frame.time
  | _ => none

/-- Three samples of the sample run are sent, and it obeys the law. -/
theorem sample_extension :
    sampleExtension.log.filterMap sentTime = [5000000, 3000000, 2000000] ∧
      ExtensionLaw sampleExtension := by
  have evaluated : cameraExtension.run {} sampleRun = some sampleExtension := by
    have ends : (cameraExtension.run {} sampleRun).isSome = true := by decide +kernel
    unfold sampleExtension
    obtain ⟨last, same⟩ := Option.isSome_iff_exists.mp ends
    rw [same, Option.getD_some]
  have reachable : cameraExtension.Reachable sampleExtension :=
    Transition.System.reachable_of_run ⟨0, rfl⟩ evaluated
  exact ⟨by decide +kernel, extension_delivery sampleExtension reachable⟩

end CameraExtension

end Plank.Camera
