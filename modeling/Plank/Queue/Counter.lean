import Mathlib.Data.Nat.ModEq

/-!
# Counters that wrap

Two sides of a ring count records in 32-bit words that wrap. While the true counts are less than a
whole turn apart, the words tell their distance, and counts less than a ring apart have different
slots.
-/

namespace Plank.Queue.Counter

/-- The distance of two words is the distance of their counts. -/
theorem toNat_sub {low high : Nat} (order : low ≤ high) (near : high - low < 0x100000000) :
    (UInt32.ofNat high - UInt32.ofNat low).toNat = high - low := by
  rw [← UInt32.ofNat_sub order, UInt32.toNat_ofNat', Nat.mod_eq_of_lt near]

/-- Two words are equal only for equal counts. -/
theorem ofNat_inj {low high : Nat} (order : low ≤ high) (near : high - low < 0x100000000)
    (same : UInt32.ofNat low = UInt32.ofNat high) : low = high := by
  have distance := toNat_sub order near
  rw [same, UInt32.sub_self] at distance
  have zero : high - low = 0 := distance.symm
  omega

/-- Counts less than a ring apart have different slots, where the ring divides the turn. -/
theorem slot_ne {low high slots : Nat} (divides : slots ∣ 0x100000000)
    (small : slots < 0x100000000) (order : low < high) (near : high < low + slots) :
    UInt32.ofNat low % UInt32.ofNat slots ≠ UInt32.ofNat high % UInt32.ofNat slots := by
  intro same
  have equal := congrArg UInt32.toNat same
  rw [UInt32.toNat_mod, UInt32.toNat_mod, UInt32.toNat_ofNat', UInt32.toNat_ofNat',
    UInt32.toNat_ofNat', Nat.mod_eq_of_lt small, Nat.mod_mod_of_dvd _ divides,
    Nat.mod_mod_of_dvd _ divides] at equal
  have distance := (Nat.modEq_iff_dvd' order.le).mp equal
  have large := Nat.le_of_dvd (by omega) distance
  omega

end Plank.Queue.Counter
