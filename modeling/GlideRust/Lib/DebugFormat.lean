import Mathlib.Data.List.Basic
import Mathlib.Tactic.Common
import GlideRust.Lib.Duration

/-!
# The `{:?}` texts of Rust values

What `#[derive(Debug)]` and the `Debug` implementations of the standard library
write without the alternate flag. A text is the list of its characters.

## Implementation notes

Which characters a string shows as `\u` escapes follows from Unicode tables and
is the parameter `unprintable`.
-/

namespace GlideRust.Lib.DebugFormat

abbrev Text := List Char

/-- The texts with `, ` between them. -/
def commas (items : List Text) : Text := List.intercalate ", ".toList items

/-- `f.debug_struct(name)` with its fields. -/
def debugStruct (name : String) (fields : List (String × Text)) : Text :=
  match fields with
  | [] => name.toList
  | _ => name.toList ++ " \x7b ".toList ++
      commas (fields.map fun field => field.1.toList ++ ": ".toList ++ field.2) ++ " \x7d".toList

/-- A variant or tuple struct with its arguments. -/
def debugTuple (name : String) (args : List Text) : Text :=
  match args with
  | [] => name.toList
  | _ => name.toList ++ "(".toList ++ commas args ++ ")".toList

def debugList (items : List Text) : Text := "[".toList ++ commas items ++ "]".toList

def debugSet (items : List Text) : Text := "\x7b".toList ++ commas items ++ "\x7d".toList

def debugMap (entries : List (Text × Text)) : Text :=
  debugSet (entries.map fun entry => entry.1 ++ ": ".toList ++ entry.2)

def debugOption {α : Type*} (debug : α → Text) : Option α → Text
  | none => debugTuple "None" []
  | some a => debugTuple "Some" [debug a]

def debugNat (n : Nat) : Text := Nat.toDigits 10 n

def debugInt (i : Int) : Text := (toString i).toList

def debugBool (b : Bool) : Text := (if b then "true" else "false").toList

section Strings

variable (unprintable : Char → Bool)

/-- One character of a string. -/
def escapeChar (c : Char) : Text :=
  if c = '\x00' then "\\0".toList
  else if c = '\t' then "\\t".toList
  else if c = '\r' then "\\r".toList
  else if c = '\n' then "\\n".toList
  else if c = '"' then "\\\"".toList
  else if c = '\\' then "\\\\".toList
  else if unprintable c then "\\u\x7b".toList ++ Nat.toDigits 16 c.toNat ++ "\x7d".toList
  else [c]

def debugStr (s : String) : Text :=
  "\"".toList ++ s.toList.flatMap (escapeChar unprintable) ++ "\"".toList

theorem escapeChar_ne_nil (c : Char) : escapeChar unprintable c ≠ [] := by
  unfold escapeChar
  split_ifs <;> simp

/-- A longer string has a longer text. -/
theorem length_debugStr_lt (s : String) (c : Char) :
    (debugStr unprintable s).length < (debugStr unprintable (s.push c)).length := by
  have hpos : 0 < (escapeChar unprintable c).length :=
    List.length_pos_iff.mpr (escapeChar_ne_nil unprintable c)
  simp only [debugStr, String.toList_push, List.flatMap_append, List.flatMap_singleton,
    List.length_append]
  omega

end Strings

/-! ## Durations -/

/-- The digits behind the point, of which there are at most `width`, without
trailing zeros. -/
def fractionDigits : Nat → Nat → Text
  | 0, _ => []
  | width + 1, fraction =>
      if fraction = 0 then []
      else Nat.digitChar (fraction / 10 ^ width) :: fractionDigits width (fraction % 10 ^ width)

/-- `fmt_decimal` without a precision. -/
def debugDecimal (whole fraction width : Nat) (suffix : String) : Text :=
  Nat.toDigits 10 whole ++
    (if fraction = 0 then [] else ".".toList ++ fractionDigits width fraction) ++ suffix.toList

/-- `Debug for Duration`: the largest unit that leaves a whole part. -/
def debugDuration (d : Duration) : Text :=
  if 0 < d.secs.toNat then debugDecimal d.secs.toNat d.nanos 9 "s"
  else if 1000000 ≤ d.nanos then debugDecimal (d.nanos / 1000000) (d.nanos % 1000000) 6 "ms"
  else if 1000 ≤ d.nanos then debugDecimal (d.nanos / 1000) (d.nanos % 1000) 3 "µs"
  else debugDecimal d.nanos 0 0 "ns"

example : debugDuration ⟨2, 50000000, by decide⟩ = "2.05s".toList := by decide

end GlideRust.Lib.DebugFormat
