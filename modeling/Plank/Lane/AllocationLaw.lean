import Plank.Lane.Allocation

/-!
# Both sides agree on the endpoints

A camera lane's flag is the state of the microphone lane when it was enabled, and neither lane can
change it afterwards. The registrations of a client therefore have one of seven shapes, and in each
of them a lane has the endpoint that the flag says.
-/

namespace Plank.Lane.Allocation

open Plank.Transport (Status)

/-- Whether a call contradicts the lanes: a microphone behind a camera, or a camera whose flag is
not the state of the microphone. -/
def EnableCall.Contradicts (lanes : Lanes) : EnableCall → Prop
  | .microphone _ => lanes.camera.enabled = true
  | .camera microphoneNegotiated _ =>
    lanes.microphone.enabled ≠ decide (microphoneNegotiated ≠ 0)

/-- A contradicting call is refused and changes nothing. -/
def EnableResult.Lawful (result : EnableResult) : Prop :=
  result.call.Contradicts result.before → result.status ≠ .ok ∧ result.after = result.before

/-- The flag of an enabled camera lane is the state of the microphone lane. -/
def Lanes.Agreed (lanes : Lanes) : Prop :=
  lanes.camera.enabled = true → lanes.camera.microphoneNegotiated = lanes.microphone.enabled

/-- What stays of the lanes. -/
structure Lanes.Stays (before after : Lanes) : Prop where
  /-- An enabled camera lane stays enabled. -/
  camera : before.camera.enabled = true → after.camera.enabled = true
  /-- So does its flag. -/
  flag : before.camera.enabled = true →
    after.camera.microphoneNegotiated = before.camera.microphoneNegotiated
  /-- Behind it the microphone lane is not enabled any more. -/
  settled : before.camera.enabled = true →
    after.microphone.enabled = before.microphone.enabled
  /-- An enabled microphone lane stays enabled. -/
  microphone : before.microphone.enabled = true → after.microphone.enabled = true

/-- Nothing happens to the lanes. -/
theorem Lanes.Stays.refl (lanes : Lanes) : lanes.Stays lanes := ⟨id, fun _ => rfl, fun _ => rfl, id⟩

/-- One change after the other. -/
theorem Lanes.Stays.trans {before middle after : Lanes} (first : before.Stays middle)
    (second : middle.Stays after) : before.Stays after where
  camera enabled := second.camera (first.camera enabled)
  flag enabled := (second.flag (first.camera enabled)).trans (first.flag enabled)
  settled enabled := (second.settled (first.camera enabled)).trans (first.settled enabled)
  microphone enabled := second.microphone (first.microphone enabled)

/-- What a call does to the lanes, when it looked at the other one. -/
theorem EnableCall.effect_lawful (call : EnableCall) (shared : Shared) (opened : Bool) :
    let result := call.effect shared.lanes (shared.negotiated call) opened
    shared.lanes.Stays result.1 ∧ (shared.lanes.Agreed → result.1.Agreed) ∧
      (call.Contradicts shared.lanes → result.2 ≠ .ok ∧ result.1 = shared.lanes) := by
  cases call with
  | microphone version =>
    dsimp only [EnableCall.effect, Shared.negotiated, Microphone.State.enableVersion]
    split
    · exact ⟨.refl _, id, fun _ => ⟨nofun, rfl⟩⟩
    · split
      · exact ⟨.refl _, id, fun _ => ⟨nofun, rfl⟩⟩
      · next apart =>
        split
        · exact ⟨.refl _, id, fun _ => ⟨nofun, rfl⟩⟩
        · split
          · exact ⟨.refl _, id, fun _ => ⟨nofun, rfl⟩⟩
          · exact ⟨⟨fun enabled => absurd enabled apart, fun enabled => absurd enabled apart,
              fun enabled => absurd enabled apart, fun _ => rfl⟩,
              fun _ enabled => absurd enabled apart, fun enabled => absurd enabled apart⟩
  | camera microphoneNegotiated version =>
    dsimp only [EnableCall.effect, Shared.negotiated, Camera.State.enable]
    split
    · exact ⟨.refl _, id, fun _ => ⟨nofun, rfl⟩⟩
    · split
      · exact ⟨.refl _, id, fun _ => ⟨nofun, rfl⟩⟩
      · next checks =>
        simp only [Bool.or_eq_true, not_or, Bool.not_eq_true, decide_eq_true_eq, ne_eq,
          not_not] at checks
        obtain ⟨⟨-, same⟩, fresh⟩ := checks
        have agreed : shared.lanes.microphone.enabled = decide (microphoneNegotiated ≠ 0) := by
          rw [Bool.eq_iff_iff, decide_eq_true_eq]
          exact Iff.of_eq same
        have fresh : ¬ shared.lanes.camera.enabled = true := by
          rw [fresh]
          exact Bool.false_ne_true
        refine ⟨⟨fun enabled => absurd enabled fresh, fun enabled => absurd enabled fresh,
          fun enabled => absurd enabled fresh, id⟩, ?_, ?_⟩
        · intro _ _
          exact agreed.symm
        · intro contradicts
          exact absurd agreed contradicts

/-- The failure of a lane's task leaves what is enabled. -/
theorem Lanes.Stays.failed (lanes : Lanes) :
    lanes.Stays { lanes with microphone := lanes.microphone.failed } ∧
      lanes.Stays { lanes with camera := lanes.camera.failed } :=
  ⟨⟨id, fun _ => rfl, fun _ => rfl, id⟩, ⟨id, fun _ => rfl, fun _ => rfl, id⟩⟩

/-- What every step keeps on one side. -/
structure Sided (shared : Shared) : Prop where
  /-- The lanes agree. -/
  agreed : shared.lanes.Agreed
  /-- What a call saw of the other lane is still so. -/
  looked : ∀ enabling, shared.enabling = some enabling → ∀ other, enabling.other = some other →
    other = shared.negotiated enabling.call
  /-- Contradicting calls were refused. -/
  results : ∀ result ∈ shared.results, result.Lawful
  /-- A camera task that has begun has an enabled lane. -/
  begun : shared.camera ≠ .waiting → shared.lanes.camera.enabled = true
  /-- The flag that it loaded is the lane's. -/
  flagged : ∀ negotiated, shared.camera = .flagged negotiated →
    negotiated = shared.lanes.camera.microphoneNegotiated
  /-- A microphone sink is connected to its endpoint. -/
  microphone : ∀ id, shared.microphone = .connected id → id = microphoneId
  /-- A camera sink is connected to the endpoint that the flag says. -/
  camera : ∀ id, shared.camera = .connected id →
    id = endpointId shared.lanes.camera.microphoneNegotiated

/-- Whether a lane's registration was asked for. -/
def Session.Asked (session : Session) (lane : ReverseLane) : Prop :=
  lane ∈ session.pending ∨ ∃ id, (lane, id) ∈ session.registered

/-- What the client's registrations can look like. -/
inductive Shape (negotiated : Bool) :
    List (ReverseLane × UInt16) → List ReverseLane → Prop
  /-- There are none. -/
  | nothing : Shape negotiated [] []
  /-- The microphone's waits. -/
  | microphoneAsked : Shape negotiated [] [.microphone]
  /-- The microphone's. -/
  | microphone : Shape negotiated [(.microphone, 1)] []
  /-- The camera's waits, without a microphone. -/
  | cameraAsked (alone : negotiated = false) : Shape negotiated [] [.camera]
  /-- The camera's, without a microphone. -/
  | camera (alone : negotiated = false) : Shape negotiated [(.camera, 1)] []
  /-- The microphone's, and the camera's waits. -/
  | bothAsked (both : negotiated = true) : Shape negotiated [(.microphone, 1)] [.camera]
  /-- Both. -/
  | both (both : negotiated = true) : Shape negotiated [(.microphone, 1), (.camera, 3)] []

/-- What is known at each stage of the client's microphone task. -/
def MicrophoneStage (registered : List (ReverseLane × UInt16)) : TaskStage → Prop
  | .asked expected => expected = microphoneId
  | .handed expected id =>
    expected = microphoneId ∧ id = microphoneId ∧ (.microphone, 1) ∈ registered
  | .held id | .obtained id => id = microphoneId ∧ (.microphone, 1) ∈ registered
  | .failed unexpected => unexpected = false
  | _ => True

/-- What is known at each stage of the client's camera task. -/
def CameraStage (negotiated : Bool) : TaskStage → Prop
  | .asked expected => expected = endpointId negotiated
  | .handed expected id => expected = endpointId negotiated ∧ id = expected
  | .obtained id => id = endpointId negotiated
  | .failed unexpected => unexpected = false
  | _ => True

/-- What every step keeps. -/
structure Kept (session : Session) : Prop where
  /-- The client. -/
  client : Sided session.client
  /-- The host. -/
  host : Sided session.host
  /-- The registrations. -/
  shape : Shape session.client.lanes.camera.microphoneNegotiated session.registered session.pending
  /-- A microphone that is registered is enabled, and its task has begun. -/
  microphone : session.Asked .microphone → session.client.lanes.microphone.enabled = true ∧
    session.client.microphone ≠ .waiting
  /-- A camera that is registered has a task that is past its flag. -/
  camera : session.Asked .camera → session.client.camera ≠ .waiting ∧
    ∀ negotiated, session.client.camera ≠ .flagged negotiated
  /-- The microphone's endpoint is announced only when there is one. -/
  allocated : session.client.allocated = true → (.microphone, 1) ∈ session.registered
  /-- The client's microphone task. -/
  microphoneStage : MicrophoneStage session.registered session.client.microphone
  /-- The client's camera task. -/
  cameraStage : CameraStage session.client.lanes.camera.microphoneNegotiated session.client.camera

/-- Without a camera the flag does not matter. -/
theorem Shape.free {negotiated : Bool} {registered : List (ReverseLane × UInt16)}
    {pending : List ReverseLane} (shape : Shape negotiated registered pending) (other : Bool)
    (waits : ReverseLane.camera ∉ pending) (none : ∀ id, (.camera, id) ∉ registered) :
    Shape other registered pending := by
  cases shape with
  | nothing => exact .nothing
  | microphoneAsked => exact .microphoneAsked
  | microphone => exact .microphone
  | cameraAsked => exact absurd List.mem_cons_self waits
  | camera => exact absurd List.mem_cons_self (none 1)
  | bothAsked => exact absurd List.mem_cons_self waits
  | both => exact absurd (List.mem_cons_of_mem _ List.mem_cons_self) (none 3)

/-- More may be registered. -/
theorem MicrophoneStage.more {registered : List (ReverseLane × UInt16)} {stage : TaskStage}
    (known : MicrophoneStage registered stage) (entry : ReverseLane × UInt16) :
    MicrophoneStage (registered ++ [entry]) stage := by
  cases stage with
  | handed => exact ⟨known.1, known.2.1, List.mem_append_left _ known.2.2⟩
  | held | obtained => exact ⟨known.1, List.mem_append_left _ known.2⟩
  | _ => exact known

/-- The endpoint of a lane. -/
def laneId (negotiated : Bool) : ReverseLane → UInt16
  | .microphone => microphoneId
  | .camera => endpointId negotiated

/-- The connection gives a lane its endpoint. -/
theorem Shape.hand {negotiated : Bool} {registered : List (ReverseLane × UInt16)}
    {lane : ReverseLane} {rest : List ReverseLane}
    (shape : Shape negotiated registered (lane :: rest)) :
    let id := UInt16.ofNat (2 * registered.length + 1)
    Shape negotiated (registered ++ [(lane, id)]) rest ∧ id = laneId negotiated lane := by
  cases shape with
  | microphoneAsked => exact ⟨.microphone, rfl⟩
  | cameraAsked alone => exact ⟨.camera alone, by rw [alone]; rfl⟩
  | bothAsked both => exact ⟨.both both, by rw [both]; rfl⟩

/-- What is registered has its endpoint. -/
theorem Shape.id {negotiated : Bool} {registered : List (ReverseLane × UInt16)}
    {pending : List ReverseLane} (shape : Shape negotiated registered pending)
    {lane : ReverseLane} {id : UInt16} (member : (lane, id) ∈ registered) :
    id = laneId negotiated lane := by
  cases shape with
  | nothing | microphoneAsked | cameraAsked => exact absurd member List.not_mem_nil
  | microphone | bothAsked =>
    obtain ⟨rfl, rfl⟩ := Prod.mk.inj (List.mem_singleton.mp member)
    rfl
  | camera alone =>
    obtain ⟨rfl, rfl⟩ := Prod.mk.inj (List.mem_singleton.mp member)
    rw [alone]
    rfl
  | both both =>
    rw [both]
    cases List.mem_cons.mp member with
    | inl first =>
      obtain ⟨rfl, rfl⟩ := Prod.mk.inj first
      rfl
    | inr second =>
      obtain ⟨rfl, rfl⟩ := Prod.mk.inj (List.mem_singleton.mp second)
      rfl

namespace Sided

variable {shared : Shared}

/-- The lanes change and the tasks stay. -/
theorem relane (sided : Sided shared) {after : Shared} (agreed : after.lanes.Agreed)
    (stays : shared.lanes.Stays after.lanes)
    (looked : ∀ enabling, after.enabling = some enabling → ∀ other, enabling.other = some other →
      other = after.negotiated enabling.call)
    (results : ∀ result ∈ after.results, result.Lawful)
    (microphone : after.microphone = shared.microphone) (camera : after.camera = shared.camera) :
    Sided after where
  agreed := agreed
  looked := looked
  results := results
  begun started := stays.camera (sided.begun (camera ▸ started))
  flagged negotiated stage := by
    rw [camera] at stage
    have enabled := sided.begun (by rw [stage]; exact nofun)
    rw [stays.flag enabled]
    exact sided.flagged negotiated stage
  microphone id stage := sided.microphone id (microphone ▸ stage)
  camera id stage := by
    rw [camera] at stage
    have enabled := sided.begun (by rw [stage]; exact nofun)
    rw [stays.flag enabled]
    exact sided.camera id stage

/-- A call ends. -/
theorem conclude (sided : Sided shared) {call : EnableCall} {other opened : Bool}
    (held : shared.enabling = some ⟨call, some other, some opened⟩) :
    Sided (shared.conclude call other opened) ∧
      shared.lanes.Stays (shared.conclude call other opened).lanes := by
  have seen : other = shared.negotiated call := sided.looked _ held other rfl
  subst seen
  obtain ⟨stays, agreed, refused⟩ := call.effect_lawful shared opened
  refine ⟨sided.relane (agreed sided.agreed) stays nofun ?_ rfl rfl, stays⟩
  intro result member
  cases List.mem_append.mp member with
  | inl old => exact sided.results result old
  | inr new =>
    obtain rfl := List.mem_singleton.mp new
    exact refused

/-- A task fails. -/
theorem failTask (sided : Sided shared) (unexpected : Bool) (lane : ReverseLane)
    (enabled : shared.task lane ≠ .waiting) :
    Sided (shared.failTask unexpected lane) ∧
      shared.lanes.Stays (shared.failTask unexpected lane).lanes := by
  cases lane with
  | microphone =>
    refine ⟨{ sided with microphone := nofun, looked := ?_ }, (Lanes.Stays.failed _).1⟩
    intro enabling held other seen
    rw [sided.looked enabling held other seen]
    cases enabling.call <;> rfl
  | camera =>
    refine ⟨{ sided with
      begun := fun _ => sided.begun enabled
      flagged := nofun
      camera := nofun
      looked := ?_ }, (Lanes.Stays.failed _).2⟩
    intro enabling held other seen
    rw [sided.looked enabling held other seen]
    cases enabling.call <;> rfl

/-- The endpoint of a lane is ready. -/
theorem ready (sided : Sided shared) (lane : ReverseLane) :
    Sided (shared.ready lane) ∧ shared.lanes.Stays (shared.ready lane).lanes := by
  cases lane with
  | microphone =>
    refine ⟨{ sided with looked := ?_ }, ⟨id, fun _ => rfl, fun _ => rfl, id⟩⟩
    intro enabling held other seen
    rw [sided.looked enabling held other seen]
    cases enabling.call <;> rfl
  | camera =>
    refine ⟨{ sided with looked := ?_ }, ⟨id, fun _ => rfl, fun _ => rfl, id⟩⟩
    intro enabling held other seen
    rw [sided.looked enabling held other seen]
    cases enabling.call <;> rfl

/-- The microphone's task goes on. -/
theorem setMicrophone (sided : Sided shared) {stage : TaskStage}
    (connected : ∀ id, stage = .connected id → id = microphoneId) :
    Sided (shared.setTask stage .microphone) := { sided with microphone := connected }

/-- The camera's task goes on. -/
theorem setCamera (sided : Sided shared) {stage : TaskStage}
    (enabled : shared.lanes.camera.enabled = true)
    (flagged : ∀ negotiated, stage = .flagged negotiated →
      negotiated = shared.lanes.camera.microphoneNegotiated)
    (connected : ∀ id, stage = .connected id →
      id = endpointId shared.lanes.camera.microphoneNegotiated) :
    Sided (shared.setTask stage .camera) :=
  { sided with begun := fun _ => enabled, flagged := flagged, camera := connected }

end Sided

namespace Kept

variable {session : Session}

/-- The client's lanes change and its tasks stay. -/
theorem relane (kept : Kept session) {after : Shared} (sided : Sided after)
    (stays : session.client.lanes.Stays after.lanes)
    (microphone : after.microphone = session.client.microphone)
    (camera : after.camera = session.client.camera)
    (allocated : after.allocated = session.client.allocated) :
    Kept { session with client := after } where
  client := sided
  host := kept.host
  shape := by
    show Shape after.lanes.camera.microphoneNegotiated session.registered session.pending
    by_cases asked : session.Asked .camera
    · rw [stays.flag (kept.client.begun (kept.camera asked).1)]
      exact kept.shape
    · exact kept.shape.free _ (fun waits => asked (.inl waits))
        fun id registered => asked (.inr ⟨id, registered⟩)
  microphone asked := by
    obtain ⟨enabled, begun⟩ := kept.microphone asked
    exact ⟨stays.microphone enabled, by rw [microphone]; exact begun⟩
  camera asked := by
    rw [camera]
    exact kept.camera asked
  allocated announced := kept.allocated (allocated ▸ announced)
  microphoneStage := by
    rw [microphone]
    exact kept.microphoneStage
  cameraStage := by
    show CameraStage after.lanes.camera.microphoneNegotiated after.camera
    rw [camera]
    by_cases waits : session.client.camera = .waiting
    · rw [waits]
      trivial
    · rw [stays.flag (kept.client.begun waits)]
      exact kept.cameraStage

/-- The host changes. -/
theorem rehost (kept : Kept session) {after : Shared} (sided : Sided after) :
    Kept { session with host := after } := { kept with host := sided }

/-- The microphone's task fails. -/
theorem failMicrophone (kept : Kept session) (begun : session.client.microphone ≠ .waiting) :
    Kept { session with client := session.client.failTask false .microphone } :=
  { kept with
    client := (kept.client.failTask false .microphone begun).1
    microphone := fun asked => ⟨(kept.microphone asked).1, nofun⟩
    microphoneStage := rfl }

/-- The camera's task fails. -/
theorem failCamera (kept : Kept session) (begun : session.client.camera ≠ .waiting) :
    Kept { session with client := session.client.failTask false .camera } :=
  { kept with
    client := (kept.client.failTask false .camera begun).1
    camera := fun _ => ⟨nofun, nofun⟩
    cameraStage := rfl }

/-- A registration is taken back. -/
theorem withdraw (kept : Kept session) (lane : ReverseLane) :
    Kept { session with pending := session.pending.erase lane } := by
  have fewer : ∀ other, Session.Asked { session with pending := session.pending.erase lane } other →
      session.Asked other :=
    fun other asked => asked.imp List.mem_of_mem_erase id
  have shape := kept.shape
  refine { kept with
    shape := ?_
    microphone := fun asked => kept.microphone (fewer _ asked)
    camera := fun asked => kept.camera (fewer _ asked) }
  show Shape _ session.registered (session.pending.erase lane)
  generalize session.registered = registered at shape ⊢
  generalize session.pending = pending at shape ⊢
  cases shape with
  | nothing => exact .nothing
  | microphoneAsked => cases lane <;> [exact .nothing; exact .microphoneAsked]
  | microphone => exact .microphone
  | cameraAsked alone => cases lane <;> [exact .cameraAsked alone; exact .nothing]
  | camera alone => exact .camera alone
  | bothAsked both => cases lane <;> [exact .bothAsked both; exact .microphone]
  | both both => exact .both both

/-- The flag of a camera that is registered. -/
theorem registeredFlag (kept : Kept session) (asked : session.Asked .camera) :
    session.client.lanes.camera.microphoneNegotiated = session.client.lanes.microphone.enabled :=
  kept.client.agreed (kept.client.begun (kept.camera asked).1)

/-- A microphone that is enabled and not registered is the first to register. -/
theorem microphoneFirst (kept : Kept session)
    (enabled : session.client.lanes.microphone.enabled = true)
    (fresh : ¬ session.Asked .microphone) :
    session.registered = [] ∧ session.pending = [] := by
  have shape := kept.shape
  have flag : session.Asked .camera →
      session.client.lanes.camera.microphoneNegotiated = true :=
    fun asked => (kept.registeredFlag asked).trans enabled
  unfold Session.Asked at fresh flag
  generalize session.client.lanes.camera.microphoneNegotiated = negotiated at shape flag
  generalize session.registered = registered at shape fresh flag ⊢
  generalize session.pending = pending at shape fresh flag ⊢
  cases shape with
  | nothing => exact ⟨rfl, rfl⟩
  | microphoneAsked => exact absurd (.inl List.mem_cons_self) fresh
  | microphone => exact absurd (.inr ⟨1, List.mem_cons_self⟩) fresh
  | cameraAsked alone =>
    exact absurd (alone.symm.trans (flag (.inl List.mem_cons_self))) Bool.false_ne_true
  | camera alone =>
    exact absurd (alone.symm.trans (flag (.inr ⟨1, List.mem_cons_self⟩))) Bool.false_ne_true
  | bothAsked => exact absurd (.inr ⟨1, List.mem_cons_self⟩) fresh
  | both => exact absurd (.inr ⟨1, List.mem_cons_self⟩) fresh

/-- A camera registers after the microphone that its flag says. -/
theorem cameraNext (kept : Kept session) {negotiated : Bool}
    (stage : session.client.camera = .flagged negotiated)
    (waited : negotiated = true → session.client.allocated = true) :
    Shape negotiated session.registered (session.pending ++ [.camera]) := by
  have begun : session.client.camera ≠ .waiting := by rw [stage]; exact nofun
  have enabled := kept.client.begun begun
  have flag := kept.client.flagged negotiated stage
  have fresh : ¬ session.Asked .camera := fun asked => (kept.camera asked).2 negotiated stage
  have shape := kept.shape
  have first : negotiated = true → (ReverseLane.microphone, 1) ∈ session.registered :=
    fun both => kept.allocated (waited both)
  have without : session.Asked .microphone → negotiated = true := fun asked =>
    flag.trans ((kept.client.agreed enabled).trans (kept.microphone asked).1)
  rw [← flag] at shape
  unfold Session.Asked at fresh without
  generalize session.registered = registered at shape fresh first without ⊢
  generalize session.pending = pending at shape fresh without ⊢
  cases shape with
  | nothing =>
    cases negotiated with
    | false => exact .cameraAsked rfl
    | true => exact absurd (first rfl) List.not_mem_nil
  | microphoneAsked =>
    exact absurd (first (without (.inl List.mem_cons_self))) List.not_mem_nil
  | microphone => exact .bothAsked (without (.inr ⟨1, List.mem_cons_self⟩))
  | cameraAsked => exact absurd (.inl List.mem_cons_self) fresh
  | camera => exact absurd (.inr ⟨1, List.mem_cons_self⟩) fresh
  | bothAsked => exact absurd (.inl List.mem_cons_self) fresh
  | both => exact absurd (.inr ⟨3, List.mem_cons_of_mem _ List.mem_cons_self⟩) fresh

/-- The client's microphone task goes on. -/
theorem microphoneSource (kept : Kept session) {after : Session}
    (goes : session.microphoneSource = some after) :
    Kept after ∧ after.client.lanes = session.client.lanes ∧ after.host = session.host := by
  unfold Session.microphoneSource at goes
  have known := kept.microphoneStage
  have shape := kept.shape
  cases stage : session.client.microphone with
  | waiting =>
    rw [stage] at goes
    dsimp only at goes
    split at goes
    · next enabled =>
      obtain rfl := Option.some.inj goes
      have fresh : ¬ session.Asked .microphone := fun asked => (kept.microphone asked).2 stage
      refine ⟨{ kept with
        client := kept.client.setMicrophone nofun
        shape := ?_
        microphone := fun _ => ⟨enabled, nofun⟩
        camera := fun asked => kept.camera ?_
        microphoneStage := rfl }, rfl, rfl⟩
      · show Shape _ session.registered (session.pending ++ [.microphone])
        obtain ⟨registered, pending⟩ := kept.microphoneFirst enabled fresh
        rw [registered, pending]
        exact .microphoneAsked
      · exact asked.imp (fun member => (List.mem_append.mp member).resolve_right (by simp)) id
    · exact absurd goes nofun
  | handed expected id =>
    rw [stage] at goes known
    obtain ⟨expects, given, registered⟩ := known
    dsimp only at goes
    rw [if_neg (fun differs => differs (given.trans expects.symm))] at goes
    obtain rfl := Option.some.inj goes
    exact ⟨{ kept with
      client := kept.client.setMicrophone nofun
      microphone := fun asked => ⟨(kept.microphone asked).1, nofun⟩
      microphoneStage := ⟨given, registered⟩ }, rfl, rfl⟩
  | held id =>
    rw [stage] at goes known
    obtain rfl := Option.some.inj goes
    have connected : ∀ other, TaskStage.obtained id = .connected other → other = microphoneId :=
      nofun
    exact ⟨{ kept with
      client := { kept.client.setMicrophone connected with }
      microphone := fun asked => ⟨(kept.microphone asked).1, nofun⟩
      allocated := fun _ => known.2
      microphoneStage := known }, rfl, rfl⟩
  | _ =>
    rw [stage] at goes
    exact absurd goes nofun

/-- The client's camera task goes on. -/
theorem cameraSource (kept : Kept session) {after : Session}
    (goes : session.cameraSource = some after) :
    Kept after ∧ after.client.lanes = session.client.lanes ∧ after.host = session.host := by
  unfold Session.cameraSource at goes
  have known := kept.cameraStage
  cases stage : session.client.camera with
  | waiting =>
    rw [stage] at goes
    dsimp only at goes
    have fresh : ¬ session.Asked .camera := fun asked => (kept.camera asked).1 stage
    split at goes
    · next enabled =>
      obtain rfl := Option.some.inj goes
      refine ⟨{ kept with
        client := kept.client.setCamera enabled ?_ nofun
        camera := fun asked => absurd asked fresh
        cameraStage := trivial }, rfl, rfl⟩
      intro negotiated loaded
      exact (TaskStage.flagged.inj loaded).symm
    · exact absurd goes nofun
  | flagged negotiated =>
    rw [stage] at goes
    dsimp only at goes
    have begun : session.client.camera ≠ .waiting := by rw [stage]; exact nofun
    have enabled := kept.client.begun begun
    have flag := kept.client.flagged negotiated stage
    split at goes
    · exact absurd goes nofun
    · next waited =>
      obtain rfl := Option.some.inj goes
      have next := kept.cameraNext stage fun both => by
        simpa [both] using waited
      refine ⟨{ kept with
        client := kept.client.setCamera enabled nofun nofun
        shape := flag ▸ next
        microphone := fun asked => kept.microphone ?_
        camera := fun _ => ⟨nofun, nofun⟩
        cameraStage := congrArg endpointId flag }, rfl, rfl⟩
      exact asked.imp (fun member => (List.mem_append.mp member).resolve_right (by simp)) id
  | handed expected id =>
    rw [stage] at goes known
    obtain ⟨expects, given⟩ := known
    have begun : session.client.camera ≠ .waiting := by rw [stage]; exact nofun
    have enabled := kept.client.begun begun
    dsimp only at goes
    rw [if_neg (fun differs => differs given)] at goes
    obtain rfl := Option.some.inj goes
    exact ⟨{ kept with
      client := kept.client.setCamera enabled nofun nofun
      camera := fun _ => ⟨nofun, nofun⟩
      cameraStage := given.trans expects }, rfl, rfl⟩
  | _ =>
    rw [stage] at goes
    exact absurd goes nofun

/-- The host's microphone task goes on. -/
theorem microphoneSink (kept : Kept session) {after : Session}
    (goes : session.microphoneSink = some after) :
    Kept after ∧ after.client = session.client ∧ after.host.lanes = session.host.lanes := by
  unfold Session.microphoneSink at goes
  split at goes
  · split at goes
    · obtain rfl := Option.some.inj goes
      refine ⟨kept.rehost (kept.host.setMicrophone ?_), rfl, rfl⟩
      intro id connected
      exact (TaskStage.connected.inj connected).symm
    · exact absurd goes nofun
  · exact absurd goes nofun

/-- The host's camera task goes on. -/
theorem cameraSink (kept : Kept session) {after : Session}
    (goes : session.cameraSink = some after) :
    Kept after ∧ after.client = session.client ∧ after.host.lanes = session.host.lanes := by
  unfold Session.cameraSink at goes
  split at goes
  · dsimp only at goes
    split at goes
    · next enabled =>
      obtain rfl := Option.some.inj goes
      refine ⟨kept.rehost (kept.host.setCamera enabled ?_ nofun), rfl, rfl⟩
      intro negotiated loaded
      exact (TaskStage.flagged.inj loaded).symm
    · exact absurd goes nofun
  · next negotiated stage =>
    obtain rfl := Option.some.inj goes
    have enabled := kept.host.begun (by rw [stage]; exact nofun)
    refine ⟨kept.rehost (kept.host.setCamera enabled nofun ?_), rfl, rfl⟩
    intro id connected
    rw [← TaskStage.connected.inj connected, kept.host.flagged negotiated stage]
  · exact absurd goes nofun

/-- The connection gives out an endpoint. -/
theorem handOut (kept : Kept session) {after : Session} (goes : session.handOut = some after) :
    Kept after ∧ after.client.lanes = session.client.lanes ∧ after.host = session.host := by
  unfold Session.handOut at goes
  have shape := kept.shape
  split at goes
  · exact absurd goes nofun
  · next lane rest waits =>
    rw [waits] at shape
    obtain ⟨handed, given⟩ := shape.hand
    dsimp only at goes handed given
    generalize UInt16.ofNat (2 * session.registered.length + 1) = id at goes handed given
    have fewer : ∀ other, (other ∈ rest ∨
        ∃ given, (other, given) ∈ session.registered ++ [(lane, id)]) → session.Asked other := by
      intro other asked
      unfold Session.Asked
      rw [waits]
      cases asked with
      | inl still => exact .inl (List.mem_cons_of_mem _ still)
      | inr now =>
        obtain ⟨number, member⟩ := now
        cases List.mem_append.mp member with
        | inl old => exact .inr ⟨number, old⟩
        | inr new =>
          obtain ⟨same, -⟩ := Prod.mk.inj (List.mem_singleton.mp new)
          exact .inl (same ▸ List.mem_cons_self)
    have passed : Kept { session with
        pending := rest, registered := session.registered ++ [(lane, id)] } :=
      { kept with
        shape := handed
        microphone := fun asked => kept.microphone (fewer _ asked)
        camera := fun asked => kept.camera (fewer _ asked)
        allocated := fun announced => List.mem_append_left _ (kept.allocated announced)
        microphoneStage := kept.microphoneStage.more _ }
    obtain rfl := Option.some.inj goes
    cases lane with
    | microphone =>
      dsimp only [Shared.task]
      split
      · next expected stage =>
        have expects : expected = microphoneId := by
          have known := kept.microphoneStage
          rw [stage] at known
          exact known
        have registered : (ReverseLane.microphone, 1) ∈
            session.registered ++ [(ReverseLane.microphone, id)] :=
          given ▸ List.mem_append_right _ List.mem_cons_self
        exact ⟨{ passed with
          client := kept.client.setMicrophone nofun
          microphone := fun asked => ⟨(passed.microphone asked).1, nofun⟩
          microphoneStage := ⟨expects, given, registered⟩ }, rfl, rfl⟩
      · exact ⟨passed, rfl, rfl⟩
    | camera =>
      dsimp only [Shared.task]
      split
      · next expected stage =>
        have expects : expected = endpointId session.client.lanes.camera.microphoneNegotiated := by
          have known := kept.cameraStage
          rw [stage] at known
          exact known
        have enabled := kept.client.begun (by rw [stage]; exact nofun)
        exact ⟨{ passed with
          client := kept.client.setCamera enabled nofun nofun
          camera := fun _ => ⟨nofun, nofun⟩
          cameraStage := ⟨expects, given.trans expects.symm⟩ }, rfl, rfl⟩
      · exact ⟨passed, rfl, rfl⟩

/-- One side. -/
theorem sided (kept : Kept session) : ∀ side, Sided (session.shared side)
  | .client => kept.client
  | .host => kept.host

/-- A task fails. -/
theorem failTask (kept : Kept session) (side : Side) (lane : ReverseLane)
    (begun : (session.shared side).task lane ≠ .waiting) :
    Kept (session.setShared ((session.shared side).failTask false lane) side) := by
  cases side with
  | client =>
    cases lane with
    | microphone => exact kept.failMicrophone begun
    | camera => exact kept.failCamera begun
  | host => exact kept.rehost (kept.host.failTask false lane begun).1

/-- The lanes of one side change and the tasks stay. -/
theorem relaneSide (kept : Kept session) (side : Side) {after : Shared} (sided : Sided after)
    (stays : (session.shared side).lanes.Stays after.lanes)
    (microphone : after.microphone = (session.shared side).microphone)
    (camera : after.camera = (session.shared side).camera)
    (allocated : after.allocated = (session.shared side).allocated) :
    Kept (session.setShared after side) := by
  cases side with
  | client => exact kept.relane sided stays microphone camera allocated
  | host => exact kept.rehost sided

end Kept

/-- What stays on both sides. -/
def Session.Stays (before after : Session) : Prop :=
  ∀ side, (before.shared side).lanes.Stays (after.shared side).lanes

/-- The lanes of one side change. -/
theorem Session.Stays.side {session : Session} (side : Side) {after : Shared}
    (stays : (session.shared side).lanes.Stays after.lanes) :
    session.Stays (session.setShared after side) := by
  intro other
  cases side <;> cases other
  · exact stays
  · exact .refl _
  · exact .refl _
  · exact stays

/-- The lanes are as before. -/
theorem Session.Stays.same {session after : Session}
    (client : after.client.lanes = session.client.lanes)
    (host : after.host.lanes = session.host.lanes) : session.Stays after
  | .client => client ▸ .refl _
  | .host => host ▸ .refl _

/-- Every step keeps the invariant and what stays of the lanes. -/
theorem Kept.step {session : Session} (kept : Kept session) {action : Action} {after : Session}
    (stepped : session.step action = some after) : Kept after ∧ session.Stays after := by
  cases action with
  | enable side call =>
    dsimp only [Session.step] at stepped
    split at stepped
    · exact absurd stepped nofun
    · obtain rfl := Option.some.inj stepped
      have sided := kept.sided side
      refine ⟨kept.relaneSide side (sided.relane sided.agreed (.refl _) ?_ sided.results rfl rfl)
        (.refl _) rfl rfl rfl, .side side (.refl _)⟩
      intro enabling held other seen
      rw [← Option.some.inj held] at seen
      exact absurd seen nofun
  | look side =>
    obtain ⟨enabling, held, rfl⟩ := Option.map_eq_some_iff.mp stepped
    have sided := kept.sided side
    refine ⟨kept.relaneSide side (sided.relane sided.agreed (.refl _) ?_ sided.results rfl rfl)
      (.refl _) rfl rfl rfl, .side side (.refl _)⟩
    intro now same other seen
    rw [← Option.some.inj same] at seen ⊢
    exact (Option.some.inj seen).symm
  | inspect side opened =>
    obtain ⟨enabling, held, rfl⟩ := Option.map_eq_some_iff.mp stepped
    have sided := kept.sided side
    refine ⟨kept.relaneSide side (sided.relane sided.agreed (.refl _) ?_ sided.results rfl rfl)
      (.refl _) rfl rfl rfl, .side side (.refl _)⟩
    intro now same other seen
    rw [← Option.some.inj same] at seen ⊢
    exact sided.looked enabling held other seen
  | conclude side =>
    dsimp only [Session.step] at stepped
    split at stepped
    · next call other opened held =>
      obtain rfl := Option.some.inj stepped
      obtain ⟨sided, stays⟩ := (kept.sided side).conclude held
      exact ⟨kept.relaneSide side sided stays rfl rfl rfl, .side side stays⟩
    · exact absurd stepped nofun
  | task side lane =>
    cases side with
    | client =>
      cases lane with
      | microphone =>
        obtain ⟨next, lanes, host⟩ := kept.microphoneSource stepped
        exact ⟨next, .same lanes (by rw [host])⟩
      | camera =>
        obtain ⟨next, lanes, host⟩ := kept.cameraSource stepped
        exact ⟨next, .same lanes (by rw [host])⟩
    | host =>
      cases lane with
      | microphone =>
        obtain ⟨next, client, lanes⟩ := kept.microphoneSink stepped
        exact ⟨next, .same (by rw [client]) lanes⟩
      | camera =>
        obtain ⟨next, client, lanes⟩ := kept.cameraSink stepped
        exact ⟨next, .same (by rw [client]) lanes⟩
  | handOut =>
    obtain ⟨next, lanes, host⟩ := kept.handOut stepped
    exact ⟨next, .same lanes (by rw [host])⟩
  | fail side lane withdrawn =>
    dsimp only [Session.step] at stepped
    split at stepped
    · next running =>
      have begun : (session.shared side).task lane ≠ .waiting := by
        intro waits
        rw [waits] at running
        exact absurd running Bool.false_ne_true
      have failed := kept.failTask side lane begun
      have stays : session.Stays _ :=
        .side side ((kept.sided side).failTask false lane begun).2
      obtain rfl := Option.some.inj stepped
      split
      · exact ⟨failed.withdraw lane, fun other => by cases other <;> exact stays _⟩
      · exact ⟨failed, stays⟩
    · exact absurd stepped nofun
  | ready side lane =>
    obtain ⟨sided, stays⟩ := (kept.sided side).ready lane
    dsimp only [Session.step] at stepped
    split at stepped
    · obtain rfl := Option.some.inj stepped
      exact ⟨kept.relaneSide side sided stays (by cases lane <;> rfl) (by cases lane <;> rfl)
        (by cases lane <;> rfl), .side side stays⟩
    · obtain rfl := Option.some.inj stepped
      exact ⟨kept.relaneSide side sided stays (by cases lane <;> rfl) (by cases lane <;> rfl)
        (by cases lane <;> rfl), .side side stays⟩
    · exact absurd stepped nofun

/-- The invariant holds in every reachable session. -/
theorem reachable_kept {session : Session} (reachable : Session.system.Reachable session) :
    Kept session := by
  have preserves : Session.system.Preserves Kept := fun _ _ _ kept stepped => (kept.step stepped).1
  apply preserves.reachable _ reachable
  rintro first rfl
  have blank : Sided {} :=
    ⟨nofun, nofun, fun _ member => (nomatch member), fun begun => absurd rfl begun, nofun, nofun,
      nofun⟩
  have none : ∀ lane, ¬ Session.Asked {} lane := by
    rintro lane (waits | ⟨id, registered⟩)
    · exact List.not_mem_nil waits
    · exact List.not_mem_nil registered
  exact ⟨blank, blank, .nothing, fun asked => absurd asked (none _),
    fun asked => absurd asked (none _), nofun, trivial, trivial⟩

/-- What is enabled in a reachable session stays enabled. -/
theorem reachable_stays {before after : Session} (reachable : Session.system.Reachable before)
    (reaches : Session.system.Reaches before after) : before.Stays after :=
  reachable.relation (fun _ _ => .refl _) (fun _ _ _ first second side =>
    (first side).trans (second side))
    (fun _ _ _ reached stepped => ((reachable_kept reached).step stepped).2) reaches

/-- What both sides of a session agree on. -/
structure AllocationLaw (session : Session) : Prop where
  /-- The flag of an enabled camera lane is the state of the microphone lane, now and later. -/
  agreed : ∀ side, (session.shared side).lanes.camera.enabled = true →
    ∀ after, Session.system.Reaches session after →
      (after.shared side).lanes.camera.enabled = true ∧
      (after.shared side).lanes.camera.microphoneNegotiated =
        (after.shared side).lanes.microphone.enabled ∧
      (after.shared side).lanes.camera.microphoneNegotiated =
        (session.shared side).lanes.camera.microphoneNegotiated
  /-- A call that contradicts the lanes was refused and changed nothing. -/
  refused : ∀ side, ∀ result ∈ (session.shared side).results, result.Lawful
  /-- What the client registered has the endpoint that its flag says. -/
  registered : ∀ lane id, (lane, id) ∈ session.registered →
    id = laneId session.client.lanes.camera.microphoneNegotiated lane
  /-- The microphone's task obtains the first endpoint, and the host connects to it. -/
  microphone : (∀ id, session.client.microphone = .obtained id → id = 1) ∧
    ∀ id, session.host.microphone = .connected id → id = 1
  /-- The camera's task obtains the endpoint that its flag says. -/
  camera : ∀ id, session.client.camera = .obtained id →
    id = if session.client.lanes.camera.microphoneNegotiated then 3 else 1
  /-- A host with the same flag connects to it. -/
  expected : session.host.lanes.camera.microphoneNegotiated =
      session.client.lanes.camera.microphoneNegotiated →
    ∀ id other, session.client.camera = .obtained id → session.host.camera = .connected other →
      id = other
  /-- A camera that waits for the microphone has registered nothing. -/
  waits : ∀ negotiated, session.client.camera = .flagged negotiated → ¬ session.Asked .camera
  /-- No task is given an endpoint that it does not expect. -/
  given : session.client.microphone ≠ .failed true ∧ session.client.camera ≠ .failed true

/-- Both sides of every reachable session agree on the endpoints of the reverse lanes. -/
theorem reachable_allocation (session : Session)
    (reachable : Session.system.Reachable session) : AllocationLaw session := by
  have kept := reachable_kept reachable
  have obtained : ∀ id, session.client.camera = .obtained id →
      id = endpointId session.client.lanes.camera.microphoneNegotiated := by
    intro id stage
    have known := kept.cameraStage
    rw [stage] at known
    exact known
  refine ⟨?_, fun side => (kept.sided side).results, fun lane id => kept.shape.id, ⟨?_, ?_⟩,
    obtained, ?_, ?_, ⟨?_, ?_⟩⟩
  · intro side enabled after reaches
    have stays := reachable_stays reachable reaches side
    have later := reachable_kept (reachable.trans reaches)
    have enabled' := stays.camera enabled
    exact ⟨enabled', (later.sided side).agreed enabled', stays.flag enabled⟩
  · intro id stage
    have known := kept.microphoneStage
    rw [stage] at known
    exact known.1
  · exact kept.host.microphone
  · intro same id other client host
    rw [obtained id client, kept.host.camera other host, same]
  · intro negotiated stage asked
    exact (kept.camera asked).2 negotiated stage
  · intro stage
    have known := kept.microphoneStage
    rw [stage] at known
    exact absurd known.symm Bool.false_ne_true
  · intro stage
    have known := kept.cameraStage
    rw [stage] at known
    exact absurd known.symm Bool.false_ne_true

/-- A call from its start to its end. -/
def enabling (side : Side) (call : EnableCall) : List Action :=
  [.enable side call, .look side, .inspect side true, .conclude side]

/-- Both sides enable both lanes, and the client's camera is scheduled first. -/
def bothRun : List Action :=
  enabling .client (.microphone 3) ++ enabling .client (.camera 1 2) ++
    enabling .host (.microphone 3) ++ enabling .host (.camera 1 2) ++
    [.task .client .camera, .task .client .microphone, .handOut, .task .client .microphone,
      .task .client .microphone, .task .client .camera, .handOut, .task .client .camera,
      .task .host .camera, .task .host .camera]

/-- The camera has the third endpoint on both sides. -/
theorem both_allocated : ∃ session, Session.system.run {} bothRun = some session ∧
    session.client.camera = .obtained 3 ∧ session.host.camera = .connected 3 ∧
    AllocationLaw session := by
  obtain ⟨session, evaluated, facts⟩ := Option.map_eq_some_iff.mp
    (show (Session.system.run {} bothRun).map
      (fun session => (session.client.camera, session.host.camera)) =
        some (.obtained 3, .connected 3) from by decide +kernel)
  simp only [Prod.mk.injEq] at facts
  exact ⟨session, evaluated, facts.1, facts.2, reachable_allocation session
    (Transition.System.reachable_of_run rfl evaluated)⟩

end Plank.Lane.Allocation
