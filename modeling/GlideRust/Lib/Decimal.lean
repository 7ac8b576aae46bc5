import Mathlib.Data.List.Basic
import Mathlib.Tactic.Common

/-!
# Decimal numerals as ASCII byte strings

Natural numbers are written without a sign, without leading zeros and without
separators, integers with a leading minus sign below zero. The reader accepts
every nonempty string of ASCII digits.
-/

namespace GlideRust.Lib.Decimal

/-- The ASCII decimal numeral of a natural number. -/
def render (n : Nat) : List UInt8 :=
  (Nat.toDigits 10 n).map fun c => UInt8.ofNat c.toNat

/-- The ASCII decimal numeral of an integer, with a leading minus sign below zero. -/
def renderInt (i : Int) : List UInt8 :=
  if i < 0 then 45 :: render i.natAbs else render i.natAbs

def readDigit (b : UInt8) : Option Nat :=
  if 48 ≤ b.toNat ∧ b.toNat ≤ 57 then some (b.toNat - 48) else none

/-- Append further digits to an already read number. -/
def readFrom (acc : Nat) : List UInt8 → Option Nat
  | [] => some acc
  | b :: rest =>
      match readDigit b with
      | some d => readFrom (10 * acc + d) rest
      | none => none

/-- The number written by a nonempty string of ASCII digits. -/
def read : List UInt8 → Option Nat
  | [] => none
  | b :: rest => readFrom 0 (b :: rest)

theorem readFrom_append (acc : Nat) (bs cs : List UInt8) :
    readFrom acc (bs ++ cs) = (readFrom acc bs).bind fun n => readFrom n cs := by
  induction bs generalizing acc with
  | nil => rfl
  | cons b rest ih =>
      simp only [List.cons_append, readFrom]
      cases readDigit b with
      | none => rfl
      | some d => exact ih (10 * acc + d)

theorem readDigit_digitChar {d : Nat} (hd : d < 10) :
    readDigit (UInt8.ofNat d.digitChar.toNat) = some d := by
  have hc := Nat.toNat_digitChar_of_lt_ten hd
  have hn : (UInt8.ofNat d.digitChar.toNat).toNat = 48 + d := by
    rw [hc, UInt8.toNat_ofNat']
    omega
  simp only [readDigit, hn]
  rw [if_pos (by omega)]
  simp

/-- Rendering a number appends its last digit to the numeral of its leading part. -/
theorem render_step {m d : Nat} (hm : 0 < m) (hd : d < 10) :
    render (10 * m + d) = render m ++ [UInt8.ofNat d.digitChar.toNat] := by
  have h := Nat.toDigits_append_toDigits (b := 10) (n := m) (d := d) (by decide) hm hd
  rw [Nat.toDigits_of_lt_base hd] at h
  simp only [render, ← h, List.map_append, List.map_cons, List.map_nil]

theorem render_ne_nil (n : Nat) : render n ≠ [] := by
  simp [render, Nat.toDigits_ne_nil]

theorem readFrom_render (n : Nat) : readFrom 0 (render n) = some n := by
  induction n using Nat.base_induction 10 (by decide) with
  | single d hd =>
      simp [render, Nat.toDigits_of_lt_base hd, readFrom, readDigit_digitChar hd]
  | digit m d hd hm ih =>
      rw [render_step hm hd, readFrom_append, ih]
      simp [readFrom, readDigit_digitChar hd]

/-- Reading a rendered number returns the number. -/
@[simp] theorem read_render (n : Nat) : read (render n) = some n := by
  cases h : render n with
  | nil => exact absurd h (render_ne_nil n)
  | cons b rest =>
      have hr := readFrom_render n
      rw [h] at hr
      exact hr

/-- The integer written by a numeral with an optional minus sign. -/
def readInt : List UInt8 → Option Int
  | [] => none
  | b :: rest =>
      if b = 45 then (read rest).map fun n : Nat => -(n : Int)
      else (read (b :: rest)).map fun n : Nat => (n : Int)

/-- A numeral starts with a digit. -/
theorem readDigit_head_render {n : Nat} {b : UInt8} {rest : List UInt8}
    (h : render n = b :: rest) : readDigit b ≠ none := by
  intro hnone
  have hread := readFrom_render n
  simp [h, readFrom, hnone] at hread

/-- Reading a rendered integer returns the integer. -/
@[simp] theorem readInt_renderInt (i : Int) : readInt (renderInt i) = some i := by
  simp only [renderInt]
  split
  · rename_i hneg
    simp only [readInt, if_true, read_render, Option.map_some]
    congr 1
    omega
  · rename_i hpos
    cases h : render i.natAbs with
    | nil => exact absurd h (render_ne_nil _)
    | cons b rest =>
        have hminus : b ≠ 45 := by
          rintro rfl
          exact readDigit_head_render h (by decide)
        rw [readInt, if_neg hminus, ← h, read_render, Option.map_some]
        congr 1
        omega

example : renderInt (-120) = [45, 49, 50, 48] := by decide

/-! ## Fixed widths -/

/-- An `i64` in decimal; what does not fit is refused. -/
def readInt64 (bs : List UInt8) : Option Int64 :=
  match readInt bs with
  | some i => if (Int64.ofInt i).toInt = i then some (Int64.ofInt i) else none
  | none => none

/-- A `u64` in decimal. -/
def readUInt64 (bs : List UInt8) : Option UInt64 :=
  match read bs with
  | some n => if (UInt64.ofNat n).toNat = n then some (UInt64.ofNat n) else none
  | none => none

/-- A `u32` in decimal. -/
def readUInt32 (bs : List UInt8) : Option UInt32 :=
  match read bs with
  | some n => if (UInt32.ofNat n).toNat = n then some (UInt32.ofNat n) else none
  | none => none

@[simp] theorem readInt64_renderInt (i : Int64) : readInt64 (renderInt i.toInt) = some i := by
  simp [readInt64]

@[simp] theorem readUInt64_render (n : UInt64) : readUInt64 (render n.toNat) = some n := by
  simp [readUInt64]

@[simp] theorem readUInt32_render (n : UInt32) : readUInt32 (render n.toNat) = some n := by
  simp [readUInt32]

end GlideRust.Lib.Decimal
