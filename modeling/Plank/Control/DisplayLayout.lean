import Plank.Program.Transaction

/-!
# The layout of the displays

`display-layout.m` takes a snapshot of the displays before a desktop is shown on one of its own,
mirrors them onto it, and restores them afterwards, each in one transaction. What the display system
answers comes with each call; it may have changed between any two of them.
-/

namespace Plank.Control

/-- A call that configures displays within a transaction; a display of zero is none. -/
inductive DisplayCall where
  /-- `CGConfigureDisplayMirrorOfDisplay`. -/
  | mirror (display master : UInt32)
  /-- `CGConfigureDisplayWithDisplayMode`, with the number of the mode. -/
  | mode (display : UInt32) (mode : Int)
  /-- `CGConfigureDisplayOrigin`. -/
  | origin (display : UInt32) (origin : Int × Int)
  deriving DecidableEq

/-- The displays that a call names. -/
def DisplayCall.displays : DisplayCall → List UInt32
  | .mirror display master => if master = 0 then [display] else [display, master]
  | .mode display _ => [display]
  | .origin display _ => [display]

/-- What the display system answers when it is asked for the displays that are online. -/
structure OnlineAnswers where
  /-- How many there are, if the first call succeeds. -/
  total : Option Nat
  /-- Those that are listed, if the second call succeeds. -/
  ids : Option (List UInt32)

/-- `onlineDisplays`. -/
def onlineDisplays (answers : OnlineAnswers) : Option (List UInt32) :=
  match answers.total, answers.ids with
  | some total, some ids => if 32 < total ∨ ids.length ≠ total then none else some ids
  | _, _ => none

/-- A display in a snapshot. -/
structure SavedDisplay where
  /-- `id`. -/
  id : UInt32
  /-- `uuid`. -/
  uuid : String
  /-- The number of its `mode`. -/
  mode : Int
  /-- The origin of its `bounds`. -/
  origin : Int × Int
  /-- `mirror`: the display that it mirrors, or zero. -/
  mirror : UInt32
  /-- `main`. -/
  main : Bool
  deriving DecidableEq

/-- `PLANKMacDisplayLayout`. -/
structure DisplayLayout where
  /-- `_saved`. -/
  saved : Option (List SavedDisplay) := none
  /-- `_target`. -/
  target : UInt32 := 0
  /-- `_targetIdentity`. -/
  targetIdentity : Option String := none
  deriving DecidableEq

/-- What a transaction is answered. -/
structure TransactionAnswers where
  /-- It is begun. -/
  begins : Bool
  /-- Whether a call succeeds. -/
  succeeds : DisplayCall → Bool
  /-- It is completed with success. -/
  completes : Bool

/-- A transaction of calls that succeed as they are answered. -/
def TransactionAnswers.transact (answers : TransactionAnswers) (calls : List DisplayCall) :
    Bool × List (TransactionEvent DisplayCall) :=
  Plank.transact answers.begins (calls.map fun call => (call, answers.succeeds call))
    answers.completes

/-- What `-beginExcludingDisplay:` is answered. -/
structure BeginAnswers where
  /-- The identity of the display that is adopted. -/
  adopted : Option String
  /-- The displays that are online. -/
  online : OnlineAnswers
  /-- `displayIdentity`. -/
  identity : UInt32 → Option String
  /-- The number of the mode of `CGDisplayCopyDisplayMode`. -/
  mode : UInt32 → Option Int
  /-- `CGDisplayIsAlwaysInMirrorSet`. -/
  alwaysMirrored : UInt32 → Bool
  /-- The origin of `CGDisplayBounds`. -/
  origin : UInt32 → Int × Int
  /-- `CGDisplayMirrorsDisplay`. -/
  mirrors : UInt32 → UInt32
  /-- A display is `CGMainDisplayID`. -/
  main : UInt32 → Bool
  /-- The display that is adopted mirrors another one. -/
  parked : Bool
  /-- The transaction. -/
  transaction : TransactionAnswers

/-- What `-activateDisplay:` is answered. -/
structure ActivateAnswers where
  /-- `CGDisplayIsOnline`, of the display. -/
  isOnline : Bool
  /-- The identity of the display that is adopted. -/
  adopted : Option String
  /-- The displays that are online. -/
  online : OnlineAnswers
  /-- `displayIdentity`. -/
  identity : UInt32 → Option String
  /-- The transaction. -/
  transaction : TransactionAnswers

/-- What `-restore` is answered. -/
structure RestoreAnswers where
  /-- The displays that are online. -/
  online : OnlineAnswers
  /-- `displayIdentity`, of a saved display. -/
  identity : UInt32 → Option String
  /-- `displayIdentity`, of the target. -/
  targetIdentity : Option String
  /-- The transaction. -/
  transaction : TransactionAnswers
  /-- The number of the mode behind the transaction. -/
  mode : UInt32 → Option Int
  /-- `CGDisplayMirrorsDisplay` behind the transaction. -/
  mirrors : UInt32 → UInt32
  /-- The origin behind the transaction. -/
  origin : UInt32 → Int × Int
  /-- `CGDisplayMirrorsDisplay` behind the transaction, of the target. -/
  targetMirrors : UInt32

/-- What an operation comes to. -/
structure LayoutOutcome where
  /-- What it returns. -/
  returned : Bool
  /-- The layout behind it. -/
  layout : DisplayLayout
  /-- What was done in transactions. -/
  events : List (TransactionEvent DisplayCall) := []

/-- The displays online in a snapshot, but for one, if each of them can be saved. -/
def saveDisplays (display : UInt32) (answers : BeginAnswers) :
    List UInt32 → Option (List SavedDisplay)
  | [] => some []
  | identifier :: rest =>
    if identifier = display then saveDisplays display answers rest
    else
      match answers.identity identifier, answers.mode identifier with
      | some uuid, some mode =>
        if answers.alwaysMirrored identifier then none
        else do
          let saved ← saveDisplays display answers rest
          some (⟨identifier, uuid, mode, answers.origin identifier, answers.mirrors identifier,
            answers.main identifier⟩ :: saved)
      | _, _ => none

namespace SavedDisplay

/-- The display is online, and still the one that was saved. -/
def present (online : List UInt32) (identity : UInt32 → Option String) (entry : SavedDisplay) :
    Bool :=
  online.contains entry.id && identity entry.id = some entry.uuid

/-- The calls that restore a display by itself. -/
def restoring (entry : SavedDisplay) : List DisplayCall :=
  [.mirror entry.id 0, .mode entry.id entry.mode, .origin entry.id entry.origin]

/-- The display that a saved display mirrors, if it is among those that are present, or zero. -/
def expected (present : List SavedDisplay) (entry : SavedDisplay) : UInt32 :=
  if (present.map SavedDisplay.id).contains entry.mirror then entry.mirror else 0

/-- The display is as it was saved, as far as the displays that are present let it. -/
def restored (entry : SavedDisplay) (saved present : List SavedDisplay) (answers : RestoreAnswers) :
    Bool :=
  answers.mode entry.id = some entry.mode && answers.mirrors entry.id = entry.expected present &&
    (!(present.length = saved.length && entry.expected present = 0) ||
      answers.origin entry.id = entry.origin)

end SavedDisplay

/-- The display that is to be the main one: the saved one, or the first, or none. -/
def primaryOf (present : List SavedDisplay) : UInt32 :=
  let primary := present.foldl (fun primary entry => if entry.main then entry.id else primary) 0
  if primary = 0 then (present.head?.map SavedDisplay.id).getD 0 else primary

namespace DisplayLayout

/-- `-adoptDisplay:`, of a display with an identity. -/
def adoptDisplay (layout : DisplayLayout) (display : UInt32) (identity : Option String) :
    Bool × DisplayLayout :=
  if display = 0 ∨ identity = none ∨ (layout.target = display ∧ layout.targetIdentity ≠ none ∧
      layout.targetIdentity ≠ identity) then
    (false, layout)
  else (true, { layout with target := display, targetIdentity := identity })

/-- `-beginExcludingDisplay:`. -/
def beginExcludingDisplay (layout : DisplayLayout) (display : UInt32) (answers : BeginAnswers) :
    LayoutOutcome :=
  if layout.saved ≠ none then { returned := false, layout }
  else
    let (adopted, layout) :=
      if display ≠ 0 then layout.adoptDisplay display answers.adopted else (true, layout)
    if !adopted then { returned := false, layout }
    else
      match (onlineDisplays answers.online).bind (saveDisplays display answers) with
      | none => { returned := false, layout }
      | some saved =>
        let layout := { layout with saved := some saved }
        if display ≠ 0 ∧ answers.parked then
          let (completed, events) := answers.transaction.transact [.mirror display 0]
          { returned := completed, layout, events }
        else { returned := true, layout }

/-- `-activateDisplay:`. -/
def activateDisplay (layout : DisplayLayout) (display : UInt32) (answers : ActivateAnswers) :
    LayoutOutcome :=
  match layout.saved with
  | none => { returned := false, layout }
  | some saved =>
    if display = 0 ∨ !answers.isOnline then { returned := false, layout }
    else
      let (adopted, layout) := layout.adoptDisplay display answers.adopted
      if !adopted then { returned := false, layout }
      else
        match onlineDisplays answers.online with
        | none => { returned := false, layout }
        | some online =>
          if online.length ≠ saved.length + 1 ∨
              !saved.all (SavedDisplay.present online answers.identity) then
            { returned := false, layout }
          else
            let (completed, events) := answers.transaction.transact
              (.mirror display 0 :: .origin display (0, 0) ::
                saved.map fun entry => .mirror entry.id display)
            { returned := completed, layout, events }

/-- The calls that restore the displays that are present, and park the target. -/
def restoring (layout : DisplayLayout) (present : List SavedDisplay) (ownTarget : Bool) :
    List DisplayCall :=
  present.flatMap SavedDisplay.restoring ++
    (present.filter fun entry =>
        entry.mirror ≠ 0 && (present.map SavedDisplay.id).contains entry.mirror).map
      (fun entry => .mirror entry.id entry.mirror) ++
    if primaryOf present ≠ 0 ∧ ownTarget then [.mirror layout.target (primaryOf present)] else []

/-- `-restore`. -/
def restore (layout : DisplayLayout) (answers : RestoreAnswers) : LayoutOutcome :=
  match layout.saved with
  | none => { returned := true, layout }
  | some saved =>
    match onlineDisplays answers.online with
    | none => { returned := false, layout }
    | some online =>
      let present := saved.filter (SavedDisplay.present online answers.identity)
      let ownTarget := layout.target ≠ 0 && online.contains layout.target &&
        layout.targetIdentity ≠ none && layout.targetIdentity = answers.targetIdentity
      let (completed, events) :=
        answers.transaction.transact (layout.restoring present ownTarget)
      if !completed then { returned := false, layout, events }
      else if !present.all fun entry => entry.restored saved present answers then
        { returned := false, layout, events }
      else if primaryOf present ≠ 0 ∧ ownTarget ∧ answers.targetMirrors ≠ primaryOf present then
        { returned := false, layout, events }
      else { returned := true, layout := { layout with saved := none }, events }

end DisplayLayout

/-- An operation on a layout, with what it is answered. -/
inductive LayoutOperation where
  /-- `-adoptDisplay:`. -/
  | adopt (display : UInt32) (identity : Option String)
  /-- `-beginExcludingDisplay:`. -/
  | start (display : UInt32) (answers : BeginAnswers)
  /-- `-activateDisplay:`. -/
  | activate (display : UInt32) (answers : ActivateAnswers)
  /-- `-restore`. -/
  | restore (answers : RestoreAnswers)

/-- What an operation comes to. -/
def DisplayLayout.perform (layout : DisplayLayout) : LayoutOperation → LayoutOutcome
  | .adopt display identity =>
    let (adopted, layout) := layout.adoptDisplay display identity
    { returned := adopted, layout }
  | .start display answers => layout.beginExcludingDisplay display answers
  | .activate display answers => layout.activateDisplay display answers
  | .restore answers => layout.restore answers

/-- Operations in order: each with the layout before it and what it comes to. -/
def DisplayLayout.performAll (layout : DisplayLayout) :
    List LayoutOperation → List (DisplayLayout × LayoutOperation × LayoutOutcome)
  | [] => []
  | operation :: operations =>
    (layout, operation, layout.perform operation) ::
      (layout.perform operation).layout.performAll operations

end Plank.Control
