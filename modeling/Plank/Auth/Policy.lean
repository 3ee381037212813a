/-!
# Account policy

`account-policy.h`: which verified account may attach to which graphical scope. Verification
grants only the positively observed scope: a desktop admits its owner alone, the sign-in screen
admits any verified account that is not root, and nothing is carried from one scope to another.
-/

namespace Plank.Auth

/-- `PLANKMacAccountIdentity`. -/
structure AccountIdentity where
  /-- User identifier. -/
  uid : UInt32 := 0
  /-- The 16 identifier bytes, as one word. -/
  uuid : BitVec 128 := 0
  deriving DecidableEq, Repr

/-- `PLANKMacGraphicalPhase`. -/
inductive GraphicalPhase where
  /-- No usable graphical session. -/
  | unavailable
  /-- The sign-in screen. -/
  | signIn
  /-- A desktop. -/
  | desktop
  deriving DecidableEq, Repr

/-- `PLANKMacGraphicalIdentity`. -/
structure GraphicalIdentity where
  /-- Whether the scope is active. -/
  active : Bool := false
  /-- Changes whenever graphical authority is revoked or replaced. -/
  generation : UInt64 := 0
  /-- Owner of the desktop; zero at the sign-in screen. -/
  account : AccountIdentity := {}
  /-- Kind of scope. -/
  phase : GraphicalPhase := .unavailable
  deriving DecidableEq, Repr

/-- `plank_macos_account_identity_valid`. -/
def AccountIdentity.valid (account : AccountIdentity) : Bool :=
  account.uid ≠ 0 && account.uid ≠ 0xffffffff && account.uuid ≠ 0

/-- `plank_macos_graphical_identity_valid`. -/
def GraphicalIdentity.valid (scope : GraphicalIdentity) : Bool :=
  if !scope.active || scope.generation = 0 then false
  else if scope.phase = .desktop then scope.account.valid
  else scope.phase = .signIn && scope.account.uid = 0 && scope.account.uuid = 0

/-- `plank_macos_same_graphical_scope`. -/
def sameScope (before after : GraphicalIdentity) : Bool :=
  before.valid && after.valid && before.generation = after.generation &&
    before.phase = after.phase && before.account.uid = after.account.uid &&
    before.account.uuid = after.account.uuid

/-- `plank_macos_account_may_attach`. -/
def mayAttach (verified : AccountIdentity) (before after : GraphicalIdentity) : Bool :=
  verified.valid && sameScope before after &&
    (after.phase = .signIn ||
      (verified.uid = after.account.uid && verified.uuid = after.account.uuid))

/-- A scope is valid when it is active, of some generation, and either a desktop of a valid
owner or the ownerless sign-in screen. -/
theorem GraphicalIdentity.valid_iff (scope : GraphicalIdentity) :
    scope.valid = true ↔ scope.active = true ∧ scope.generation ≠ 0 ∧
      ((scope.phase = .desktop ∧ scope.account.valid = true) ∨
        (scope.phase = .signIn ∧ scope.account = {})) := by
  obtain ⟨active, generation, ⟨uid, uuid⟩, phase⟩ := scope
  cases active with
  | false => simp [valid]
  | true =>
    by_cases zero : generation = 0
    · simp [valid, zero]
    · cases phase <;> simp [valid, zero]

/-- The same scope means the same valid scope. -/
theorem sameScope_iff (before after : GraphicalIdentity) :
    sameScope before after = true ↔ before = after ∧ before.valid = true := by
  constructor
  · intro same
    simp only [sameScope, Bool.and_eq_true, decide_eq_true_eq] at same
    obtain ⟨⟨⟨⟨⟨first, second⟩, generation⟩, phase⟩, uid⟩, uuid⟩ := same
    have active := ((GraphicalIdentity.valid_iff before).mp first).1.trans
      ((GraphicalIdentity.valid_iff after).mp second).1.symm
    obtain ⟨_, _, ⟨_, _⟩, _⟩ := before
    obtain ⟨_, _, ⟨_, _⟩, _⟩ := after
    simp_all
  · rintro ⟨rfl, valid⟩
    simp [sameScope, valid]

end Plank.Auth
