import GlideRust.Lib.Decimal

/-!
# Counted sections of a token list

A section is announced by a decimal count and followed by that many items of
`width` tokens each; what comes after them is the rest.
-/

namespace GlideRust.Lib.CountedSection

/-- A token. -/
abbrev Token := List UInt8

/-- Read the count, then the items, then the rest. -/
def readCounted (width : Nat) : List Token → Option (List Token × List Token)
  | [] => none
  | count :: tokens =>
      match Decimal.read count with
      | some n =>
          if width * n ≤ tokens.length then
            some (tokens.take (width * n), tokens.drop (width * n))
          else none
      | none => none

theorem readCounted_render (width n : Nat) (tokens : List Token) :
    readCounted width (Decimal.render n :: tokens) =
      if width * n ≤ tokens.length then
        some (tokens.take (width * n), tokens.drop (width * n))
      else none := by
  simp [readCounted]

/-- The reader recovers items and rest exactly when the count is that of the items. -/
theorem readCounted_eq_some_iff (width n : Nat) (items rest : List Token) :
    readCounted width (Decimal.render n :: (items ++ rest)) = some (items, rest) ↔
      items.length = width * n := by
  rw [readCounted_render]
  constructor
  · intro h
    split at h
    · have htake : (items ++ rest).take (width * n) = items :=
        congrArg Prod.fst (Option.some.inj h)
      have hlen := congrArg List.length htake
      rw [List.length_take] at hlen
      omega
    · cases h
  · intro hlen
    have hle : width * n ≤ (items ++ rest).length := by
      rw [List.length_append]
      omega
    rw [if_pos hle, ← hlen, List.take_left, List.drop_left]

end GlideRust.Lib.CountedSection
