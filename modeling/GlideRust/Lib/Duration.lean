import Mathlib.Tactic.Common

/-!
# Durations and saturating narrowing

`std::time::Duration`: whole seconds in 64 bits and nanoseconds below one
second, so that every value is normalised by construction.
-/

namespace GlideRust.Lib

structure Duration where
  secs : UInt64
  nanos : Nat
  nanos_lt : nanos < 1000000000
  deriving DecidableEq, Repr

theorem Duration.zero_lt_second : 0 < 1000000000 := by decide

/-- `Duration::from_secs`. -/
def Duration.fromSecs (secs : UInt64) : Duration := ⟨secs, 0, zero_lt_second⟩

/-- `Duration::as_millis`: a `u128`, which no duration overflows. -/
def Duration.asMillis (d : Duration) : Nat := d.secs.toNat * 1000 + d.nanos / 1000000

/-- `u32::try_from(n).unwrap_or(u32::MAX)`. -/
def saturateU32 (n : Nat) : UInt32 :=
  if n < UInt32.size then UInt32.ofNat n else UInt32.ofNat (UInt32.size - 1)

/-- The length of a duration in nanoseconds, by which durations are compared. -/
def Duration.asNanos (d : Duration) : Nat := d.secs.toNat * 1000000000 + d.nanos

theorem Duration.asMillis_eq (d : Duration) : d.asMillis = d.asNanos / 1000000 := by
  simp only [asMillis, asNanos]
  omega

/-- Narrowing keeps what fits and cuts everything else at the largest value. -/
theorem toNat_saturateU32 (n : Nat) : (saturateU32 n).toNat = min n (UInt32.size - 1) := by
  simp only [saturateU32]
  split
  · rename_i hfits
    rw [UInt32.toNat_ofNat_of_lt' hfits]
    omega
  · rename_i hlarge
    have hmax : (UInt32.ofNat (UInt32.size - 1)).toNat = UInt32.size - 1 := rfl
    rw [hmax]
    omega

/-- The narrowed value, written out. -/
theorem saturateU32_eq_ofNat_min (n : Nat) : saturateU32 n = UInt32.ofNat (min n 4294967295) := by
  have hsize : UInt32.size = 4294967296 := rfl
  have hmin : min n 4294967295 < UInt32.size := by omega
  rw [← UInt32.toNat_inj, toNat_saturateU32, UInt32.toNat_ofNat_of_lt' hmin, hsize]

theorem saturateU32_mono {m n : Nat} (h : m ≤ n) : saturateU32 m ≤ saturateU32 n := by
  rw [UInt32.le_iff_toNat_le, toNat_saturateU32, toNat_saturateU32]
  omega

theorem saturateU32_eq_zero_iff (n : Nat) : saturateU32 n = 0 ↔ n = 0 := by
  rw [← UInt32.toNat_inj, toNat_saturateU32]
  simp only [UInt32.toNat_zero, UInt32.size]
  omega

theorem saturateU32_of_le {n : Nat} (h : UInt32.size ≤ n) :
    saturateU32 n = UInt32.ofNat (UInt32.size - 1) := if_neg (Nat.not_lt.mpr h)

theorem saturateU32_eq_iff (m n : Nat) :
    saturateU32 m = saturateU32 n ↔
      m = n ∨ (UInt32.size - 1 ≤ m ∧ UInt32.size - 1 ≤ n) := by
  rw [← UInt32.toNat_inj, toNat_saturateU32, toNat_saturateU32]
  omega

end GlideRust.Lib
