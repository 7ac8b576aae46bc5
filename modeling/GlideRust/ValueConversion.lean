import GlideRust.Error

/-!
# Typed values out of raw replies

The helpers of the `value` module. Each names the reply variants it converts
itself and leaves every other one to the typed decoding of the `redis` crate.
-/

namespace GlideRust.ValueConversion

open Redis Error Lib

variable (R : RedisCrate)

/-- `bytes_from_value`. -/
def bytesFromValue : Value → Result Bytes
  | .bulkString b => .ok b
  | .simpleString s => .ok (utf8 s)
  | .verbatimString text => .ok (utf8 text)
  | .okay => .ok (utf8 "OK")
  | .int i => .ok (Decimal.renderInt i.toInt)
  | .double f => .ok (utf8 (R.displayF64 f))
  | .boolean b => .ok (utf8 (if b then "1" else "0"))
  | other => mapErr (R.fromBytes other)

def toBytes (v : Value) : Result Bytes := bytesFromValue R v

/-- `to_opt_bytes`: nil is `none`. -/
def toOptBytes : Value → Result (Option Bytes)
  | .nil => .ok none
  | other => (bytesFromValue R other).map some

/-- `to_string`. -/
def toText : Value → Result String
  | .simpleString s => .ok s
  | .verbatimString text => .ok text
  | .okay => .ok "OK"
  | .int i => .ok (toString i.toInt)
  | .double f => .ok (R.displayF64 f)
  | other => mapErr (R.fromString other)

def toI64 (v : Value) : Result Int64 := mapErr (R.fromI64 v)

def toF64 (v : Value) : Result F64 := mapErr (R.fromF64 v)

@[simp] theorem toBytes_bulkString (b : Bytes) : toBytes R (.bulkString b) = .ok b := rfl

/-- `String` decoding of a bulk string that holds UTF-8 text returns the text. -/
def DecodesText : Prop := ∀ s : String, R.fromString (.bulkString (utf8 s)) = .ok s

variable {R}

theorem toText_bulkString (h : DecodesText R) (s : String) :
    toText R (.bulkString (utf8 s)) = .ok s := by
  simp [toText, h s]

theorem decodesText_stringsOnly : DecodesText RedisCrate.stringsOnly := by
  intro s
  have hbytes : (⟨(utf8 s).toArray⟩ : ByteArray) = s.toUTF8 := rfl
  have htext : String.fromUTF8? s.toUTF8 = some s := dif_pos s.isValidUTF8
  simp only [RedisCrate.stringsOnly, hbytes, htext]

variable (R) in
/-- `i64` decoding of an integer reply returns the integer. -/
def DecodesInt : Prop := ∀ i : Int64, R.fromI64 (.int i) = .ok i

/-- Numbers are left to the crate, whatever the reply. -/
theorem toI64_of_decoded {v : Value} {i : Int64} (h : R.fromI64 v = .ok i) : toI64 R v = .ok i := by
  simp [toI64, h]

theorem toF64_of_decoded {v : Value} {f : F64} (h : R.fromF64 v = .ok f) : toF64 R v = .ok f := by
  simp [toF64, h]

theorem toI64_int (h : DecodesInt R) (i : Int64) : toI64 R (.int i) = .ok i :=
  toI64_of_decoded (h i)

/-- A crate that decodes bulk strings and integer replies as the real one does. -/
def integers : RedisCrate :=
  { RedisCrate.stringsOnly with
    fromI64
      | .int i => .ok i
      | _ => .error ⟨.typeError, "not an integer", false⟩ }

theorem decodesInt_integers : DecodesInt integers := fun _ => rfl

end GlideRust.ValueConversion
