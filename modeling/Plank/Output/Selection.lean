import Mathlib
import Plank.Program.Dialogue

/-!
# The selection of the output

`output-selection.m` switches the two default outputs to the PLANK device and back. What they were
is kept in a journal on disk, which is replaced as a whole. Every call of the audio system and of
the file system is one query of a dialogue, and both may be changed by others between any two of
them. What is known of a default besides its device is kept for the proofs alone.
-/

namespace Plank.Output

/-- `PLANK_OUTPUT_DEVICE_UID`. -/
def plankUID : String := "la.instinctual.PLANK.Output"

/-- The two defaults, `kAudioHardwarePropertyDefaultOutputDevice` and
`kAudioHardwarePropertyDefaultSystemOutputDevice`. -/
inductive Slot where
  /-- The default output. -/
  | output
  /-- The default output of alerts. -/
  | alerts
  deriving DecidableEq, Repr

/-- `keys`. -/
def Slot.key : Slot → String
  | output => "output"
  | alerts => "alerts"

/-- Both, in order. -/
def slots : List Slot := [.output, .alerts]

/-- The length of an `NSString`. -/
def utf16Length (text : String) : Nat :=
  (text.toList.map fun char => if char.toNat < 0x10000 then 1 else 2).sum

/-- `_previous`: the device that each default was. -/
abbrev Routes := Slot → Option String

namespace Routes

/-- No device. -/
def empty : Routes := fun _ => none

/-- Whether there is no device, where `_previous` may as well be nil. -/
def isEmpty (routes : Routes) : Bool := (routes .output).isNone && (routes .alerts).isNone

/-- A device is put under a key. -/
def put (routes : Routes) (slot : Slot) (uid : String) : Routes :=
  Function.update routes slot (some uid)

/-- `removeObjectForKey:`. -/
def remove (routes : Routes) (slot : Slot) : Routes := Function.update routes slot none

end Routes

/-- A property list, as far as it is looked at: a value that is not a string is none. -/
inductive PropertyList where
  /-- A dictionary. -/
  | dictionary (entries : List (String × Option String))
  /-- Another value. -/
  | other
  deriving DecidableEq, Repr

/-- What a name of a device is, for the journal to have it. -/
def recordable (uid : String) : Bool :=
  0 < utf16Length uid && utf16Length uid ≤ 1024

/-- The property list of a dictionary. -/
def Routes.propertyList (routes : Routes) : PropertyList :=
  .dictionary (slots.filterMap fun slot => (routes slot).map fun uid => (slot.key, some uid))

/-- The dictionary that `-recover` takes from a property list. -/
def PropertyList.routes : PropertyList → Option Routes
  | other => none
  | dictionary entries =>
    if entries.isEmpty || 2 < entries.length then none
    else if entries.all fun (key, uid) => (key = Slot.output.key || key = Slot.alerts.key) &&
        uid.any fun uid => recordable uid && uid ≠ plankUID then
      some fun slot => (entries.lookup slot.key).join
    else none

/-- What the program put a default in the place of. -/
structure Replaced where
  /-- The device that the default was. -/
  was : Option String
  /-- The device that it was when the program looked at it last. -/
  seen : String
  /-- It was changed in between. -/
  changed : Bool
  deriving DecidableEq, Repr

/-- A default output. -/
structure Setting where
  /-- The device that it is, by its name. -/
  device : Option String
  /-- What the program saw when it looked at it last. -/
  seen : Option String := none
  /-- It has been changed since. -/
  changed : Bool := false
  /-- What it was when the program switched it to the PLANK device, until it is changed again. -/
  replaced : Option Replaced := none
  deriving DecidableEq, Repr

/-- The default outputs and the journal. -/
structure Outputs where
  /-- A default output. -/
  setting : Slot → Setting
  /-- `output-route.plist`, as it is read. -/
  journal : Option PropertyList := none
  /-- What is left of it when the machine stops. -/
  durable : Option PropertyList := none
  /-- This process has read the journal. -/
  loaded : Bool := false

/-- What an attempt to read the journal finds. -/
inductive Found where
  /-- There is none. -/
  | missing
  /-- It cannot be opened, or is not a private file. -/
  | unreadable
  /-- Its bytes, decoded. -/
  | content (list : PropertyList)
  deriving DecidableEq, Repr

/-- A call of the audio system or of the file system. -/
inductive Query where
  /-- `-uidForDevice:` of `-current:`. -/
  | look (slot : Slot)
  /-- `-compatible:`, of the PLANK device. -/
  | compatible
  /-- `-inheritVolumeFrom:to:`. -/
  | inheritVolume (uid : String)
  /-- `-usable:` of `-deviceForUID:`. -/
  | usable (uid : String)
  /-- `-builtInFallback`. -/
  | builtInFallback
  /-- `-setCurrent:index:`. -/
  | setCurrent (slot : Slot) (uid : String)
  /-- `-openDirectory`. -/
  | openDirectory
  /-- The journal is opened, checked and read. -/
  | read
  /-- The journal is unlinked. -/
  | unlink
  /-- A temporary file is made and written. -/
  | write (list : PropertyList)
  /-- It becomes the journal. -/
  | rename (list : PropertyList)
  /-- `fsync` of the directory. -/
  | sync
  deriving DecidableEq, Repr

/-- What a call answers. A call that sets a default may fail and still have had its effect. -/
abbrev Query.Answer : Query → Type
  | look _ => Option String
  | builtInFallback => { uid : Option String // uid ≠ some plankUID }
  | setCurrent _ _ => { answer : Bool × Bool // answer.1 = true → answer.2 = true }
  | read => Found
  | _ => Bool

/-- A dialogue with the audio system and the file system. -/
abbrev Program := Dialogue Query Query.Answer

namespace Outputs

/-- A default is changed. -/
def change (outputs : Outputs) (slot : Slot) (setting : Setting) : Outputs :=
  { outputs with setting := Function.update outputs.setting slot setting }

/-- The program sets a default. -/
def set (outputs : Outputs) (slot : Slot) (uid : String) : Outputs :=
  let setting := outputs.setting slot
  outputs.change slot { setting with
    device := some uid
    changed := true
    replaced :=
      if uid = plankUID then
        setting.seen.map fun seen => ⟨setting.device, seen, setting.changed⟩
      else none }

/-- Someone else makes a device a default. -/
def choose (outputs : Outputs) (slot : Slot) (device : Option String) : Outputs :=
  outputs.change slot
    { outputs.setting slot with device, changed := true, replaced := none }

/-- What a call makes of the outputs, where it can be answered so. -/
def respond (outputs : Outputs) : (query : Query) → query.Answer → Option Outputs
  | .look slot, uid =>
    let setting := outputs.setting slot
    if uid = none ∨ uid = setting.device then
      some (outputs.change slot { setting with seen := uid, changed := false })
    else none
  | .setCurrent slot uid, ⟨(_, effective), _⟩ =>
    some (if effective then outputs.set slot uid else outputs)
  | .read, found =>
    match found with
    | .missing => if outputs.journal = none then some { outputs with loaded := true } else none
    | .unreadable => some outputs
    | .content list =>
      if outputs.journal = some list then
        some { outputs with loaded := outputs.loaded || list.routes.isSome }
      else none
  | .unlink, done => some (if done then { outputs with journal := none } else outputs)
  | .rename list, done => some (if done then { outputs with journal := some list } else outputs)
  | .sync, done => some (if done then { outputs with durable := outputs.journal } else outputs)
  | .compatible, _ | .inheritVolume _, _ | .usable _, _ | .builtInFallback, _ | .openDirectory, _
  | .write _, _ => some outputs

/-- What others can do to the outputs. -/
inductive Disturbs : Outputs → Outputs → Prop where
  /-- A default is changed, by the user or because a device is gone. -/
  | choose (outputs : Outputs) (slot : Slot) (device : Option String) :
    Disturbs outputs (outputs.choose slot device)
  /-- The journal is written back to the disk. -/
  | flush (outputs : Outputs) : Disturbs outputs { outputs with durable := outputs.journal }

end Outputs

open Dialogue (done ask)

/-- `-save`. -/
def save (previous : Routes) : Program Bool :=
  ask .openDirectory fun opened =>
    if !opened then done false
    else
      let synced : Bool → Program Bool := fun ok => if ok then ask .sync done else done false
      if previous.isEmpty then ask .unlink synced
      else
        ask (.write previous.propertyList) fun written =>
          if written then ask (.rename previous.propertyList) synced else done false

/-- The device that a default is restored to, with `-builtInFallback` where it is gone. -/
def replacement (uid : String) : Program (Option String) :=
  ask (.usable uid) fun usable =>
    if usable then done (some uid) else ask .builtInFallback fun device => done device.1

/-- A turn of the loop of `-restore`. -/
def restoreSlot (previous : Routes) (slot : Slot) (uid : String) : Program Routes :=
  ask (.look slot) fun
    | none => done previous
    | some current =>
      if current = plankUID then
        (replacement uid).bind fun
          | none => done previous
          | some device => ask (.setCurrent slot device) fun answer =>
            done (if answer.1.1 then previous.remove slot else previous)
      else done (previous.remove slot)

/-- The loop of `-restore`. -/
def restoreSlots (previous : Routes) : List Slot → Program Routes
  | [] => done previous
  | slot :: rest =>
    match previous slot with
    | none => restoreSlots previous rest
    | some uid => (restoreSlot previous slot uid).bind fun previous => restoreSlots previous rest

/-- `-restore`, with what it leaves of `_previous`. -/
def restore (previous : Routes) : Program (Bool × Routes) :=
  if previous.isEmpty then done (true, previous)
  else (restoreSlots previous slots).bind fun previous =>
    (save previous).bind fun saved => done (saved && previous.isEmpty, previous)

/-- `-recover`. -/
def recover (previous : Routes) : Program (Bool × Routes) :=
  if !previous.isEmpty then restore previous
  else
    ask .openDirectory fun opened =>
      if !opened then done (false, previous)
      else
        ask .read fun
          | .missing => done (true, previous)
          | .unreadable => done (false, previous)
          | .content list =>
            match list.routes with
            | none => done (false, previous)
            | some routes => restore routes

/-- The loop of `-select` that looks at the defaults. -/
def lookSlots (previous : Routes) : List Slot → Program (Option Routes)
  | [] => done (some previous)
  | slot :: rest =>
    ask (.look slot) fun uid =>
      if uid = some plankUID then lookSlots previous rest
      else
        match uid with
        | none => done none
        | some uid =>
          if recordable uid then lookSlots (previous.put slot uid) rest else done none

/-- The volume of the default is taken over where both defaults are to be switched. -/
def inheritVolume (previous : Routes) : Program Bool :=
  match previous .output, previous .alerts with
  | some uid, some _ => ask (.inheritVolume uid) done
  | _, _ => done true

/-- The loop of `-select` that switches the defaults. -/
def switchSlots (previous : Routes) : List Slot → Program Bool
  | [] => done true
  | slot :: rest =>
    match previous slot with
    | none => switchSlots previous rest
    | some uid =>
      ask (.look slot) fun current =>
        if current = some uid then
          ask (.setCurrent slot plankUID) fun answer =>
            if answer.1.1 then switchSlots previous rest else done false
        else done false

/-- `-select`, with what it leaves of `_previous`. -/
def select (previous : Routes) : Program (Bool × Routes) :=
  (recover previous).bind fun (recovered, previous) =>
    if !recovered then done (false, previous)
    else
      ask .compatible fun compatible =>
        if !compatible then done (false, previous)
        else
          (lookSlots .empty slots).bind fun
            | none => done (false, .empty)
            | some previous =>
              (inheritVolume previous).bind fun inherited =>
                if !inherited then done (false, .empty)
                else
                  (save previous).bind fun saved =>
                    if !saved then done (false, .empty)
                    else
                      (switchSlots previous slots).bind fun switched =>
                        if switched then done (true, previous)
                        else (restore previous).bind fun (_, previous) => done (false, previous)

end Plank.Output
