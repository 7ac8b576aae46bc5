import GlideRust.Lib.Decimal

/-!
# The vendored `redis` crate, as far as the client sees it

Replies, errors, pushes and commands. A command is the list of its argument
tokens; `Cmd::arg` appends exactly the tokens that `write_redis_args` writes.

## Implementation notes

The crate itself is not part of the repository. What the client calls of it and
cannot be read here (typed decoding, `Debug` and `f64` texts) is the record
`RedisCrate`, over which every decoder is parametrised.
-/

namespace GlideRust.Redis

open Lib

/-- `Vec<u8>`, `&[u8]` and `bytes::Bytes`. -/
abbrev Bytes := List UInt8

/-- The UTF-8 bytes of a Rust string. -/
def utf8 (s : String) : Bytes := s.toUTF8.data.toList

theorem utf8_injective : Function.Injective utf8 := by
  intro s t h
  have hdata : s.toUTF8.data = t.toUTF8.data := Array.toList_inj.mp h
  exact String.toByteArray_inj.mp (ByteArray.ext hdata)

theorem utf8_append (s t : String) : utf8 (s ++ t) = utf8 s ++ utf8 t := by
  simp [utf8, String.toUTF8]

theorem utf8_ofList_cons (c : Char) (l : List Char) :
    utf8 (String.ofList (c :: l)) = String.utf8EncodeChar c ++ utf8 (String.ofList l) := by
  simp only [utf8, String.toUTF8, String.toByteArray_ofList]
  rw [List.utf8Encode_cons, List.utf8Encode_singleton]
  simp

/-- A text of ASCII characters has one byte per character. -/
theorem utf8_ofList_ascii {l : List Char} (h : ∀ c ∈ l, c.val ≤ 127) :
    utf8 (String.ofList l) = l.map fun c => UInt8.ofNat c.toNat := by
  induction l with
  | nil => rfl
  | cons c l ih =>
      rw [List.forall_mem_cons] at h
      have hbyte : String.utf8EncodeChar c = [c.val.toUInt8] :=
        String.utf8EncodeChar_eq_singleton (Char.utf8Size_eq_one_iff.mpr h.1)
      rw [utf8_ofList_cons, hbyte, ih h.2, List.map_cons, List.singleton_append]
      rfl

theorem utf8_repr (n : Nat) : utf8 (Nat.repr n) = Decimal.render n := by
  apply utf8_ofList_ascii
  intro c hc
  have hdigit := Nat.isDigit_of_mem_toDigits (by decide) (Nat.le_refl 10) hc
  simp only [Char.isDigit, Bool.and_eq_true, decide_eq_true_eq] at hdigit
  have hnine : ('9'.val : UInt32) ≤ 127 := by decide
  exact UInt32.le_trans hdigit.2 hnine

/-- The decimal text of an integer is its numeral. -/
theorem utf8_toString (i : Int) : utf8 (toString i) = Decimal.renderInt i := by
  cases i with
  | ofNat n =>
      rw [Decimal.renderInt, if_neg (by simp)]
      exact utf8_repr n
  | negSucc n =>
      rw [Decimal.renderInt, if_pos (Int.negSucc_lt_zero n)]
      change utf8 ("-" ++ Nat.repr (n + 1)) = _
      rw [utf8_append, utf8_repr]
      rfl

/-- An `f64`, by its bits. -/
structure F64 where
  bits : UInt64
  deriving DecidableEq, Repr

inductive PushKind where
  | disconnection
  | invalidate
  | message
  | pMessage
  | sMessage
  | unsubscribe
  | pUnsubscribe
  | sUnsubscribe
  | subscribe
  | pSubscribe
  | sSubscribe
  | other (name : String)
  deriving DecidableEq, Repr

/-- `redis::Value`. The format of a verbatim string is never read, and the
variants that no function of the client names are collected in `unnamed`. -/
inductive Value where
  | nil
  | int (i : Int64)
  | bulkString (b : Bytes)
  | array (items : List Value)
  | simpleString (s : String)
  | okay
  | map (pairs : List (Value × Value))
  | set (items : List Value)
  | double (f : F64)
  | boolean (b : Bool)
  | verbatimString (text : String)
  | unnamed (tag : Nat)

/-- A push frame as `glide-core` hands it to the client. -/
structure PushInfo where
  kind : PushKind
  data : List Value

/-- `redis::ErrorKind`: the kinds the client tells apart, and all others. -/
inductive ErrorKind where
  | responseError
  | typeError
  | ioError
  | clientError
  | execAbortError
  | noScriptError
  | circuitBreakerOpen
  | invalidClientConfig
  | other (tag : Nat)
  deriving DecidableEq, Repr

/-- `redis::RedisError`: its kind, its `Display` text and `is_timeout()`. -/
structure RedisError where
  kind : ErrorKind
  message : String
  isTimeout : Bool
  deriving DecidableEq, Repr

abbrev RedisResult (α : Type*) := Except RedisError α

/-- The parts of the `redis` crate and of number formatting that the decoders call. -/
structure RedisCrate where
  /-- The `{:?}` text of a reply. -/
  debug : Value → String
  displayF64 : F64 → String
  /-- `from_owned_redis_value` at `Vec<u8>`, `String`, `i64` and `f64`. -/
  fromBytes : Value → RedisResult Bytes
  fromString : Value → RedisResult String
  fromI64 : Value → RedisResult Int64
  fromF64 : Value → RedisResult F64

/-- A crate that decodes bulk strings as the real one does and refuses the rest. -/
def RedisCrate.stringsOnly : RedisCrate where
  debug _ := ""
  displayF64 _ := ""
  fromBytes
    | .bulkString b => .ok b
    | _ => .error ⟨.typeError, "not a byte string", false⟩
  fromString
    | .bulkString b =>
        match String.fromUTF8? ⟨b.toArray⟩ with
        | some s => .ok s
        | none => .error ⟨.typeError, "not UTF-8", false⟩
    | _ => .error ⟨.typeError, "not a string", false⟩
  fromI64 _ := .error ⟨.typeError, "not an integer", false⟩
  fromF64 _ := .error ⟨.typeError, "not a float", false⟩

/-! ## Commands -/

/-- `redis::ToRedisArgs`: the argument tokens a value writes, possibly none or several. -/
class ToRedisArgs (α : Type*) where
  writeRedisArgs : α → List Bytes

export ToRedisArgs (writeRedisArgs)

instance : ToRedisArgs Bytes := ⟨fun b => [b]⟩
instance : ToRedisArgs String := ⟨fun s => [utf8 s]⟩
/-- `usize`. -/
instance : ToRedisArgs Nat := ⟨fun n => [Decimal.render n]⟩
instance : ToRedisArgs UInt64 := ⟨fun n => [Decimal.render n.toNat]⟩
instance : ToRedisArgs Int64 := ⟨fun i => [Decimal.renderInt i.toInt]⟩
/-- A slice or vector writes the tokens of its elements in order. -/
instance {α : Type*} [ToRedisArgs α] : ToRedisArgs (List α) :=
  ⟨fun xs => xs.flatMap writeRedisArgs⟩

@[simp] theorem writeRedisArgs_bytes (b : Bytes) : writeRedisArgs b = [b] := rfl
@[simp] theorem writeRedisArgs_string (s : String) : writeRedisArgs s = [utf8 s] := rfl
@[simp] theorem writeRedisArgs_nat (n : Nat) : writeRedisArgs n = [Decimal.render n] := rfl
@[simp] theorem writeRedisArgs_uint64 (n : UInt64) :
    writeRedisArgs n = [Decimal.render n.toNat] := rfl
@[simp] theorem writeRedisArgs_int64 (i : Int64) :
    writeRedisArgs i = [Decimal.renderInt i.toInt] := rfl
@[simp] theorem writeRedisArgs_list {α : Type*} [ToRedisArgs α] (xs : List α) :
    writeRedisArgs xs = xs.flatMap writeRedisArgs := rfl
@[simp] theorem flatMap_writeRedisArgs_bytes (xs : List Bytes) :
    xs.flatMap writeRedisArgs = xs := by
  exact List.flatMap_singleton' xs

theorem flatMap_writeRedisArgs_string (xs : List String) :
    xs.flatMap writeRedisArgs = xs.map utf8 :=
  List.map_eq_flatMap.symm

/-- `redis::Cmd`. -/
@[ext]
structure Cmd where
  args : List Bytes
  deriving DecidableEq, Repr

namespace Cmd

def new : Cmd := ⟨[]⟩

def arg {α : Type*} [ToRedisArgs α] (cmd : Cmd) (a : α) : Cmd :=
  ⟨cmd.args ++ writeRedisArgs a⟩

/-- The loop `for a in items { cmd.arg(a); }`. -/
def argEach {α : Type*} [ToRedisArgs α] (cmd : Cmd) (items : List α) : Cmd :=
  items.foldl arg cmd

/-- The loop `for (a, b) in pairs { cmd.arg(a).arg(b); }`. -/
def argEachPair {α β : Type*} [ToRedisArgs α] [ToRedisArgs β] (cmd : Cmd)
    (pairs : List (α × β)) : Cmd :=
  pairs.foldl (fun c p => (c.arg p.1).arg p.2) cmd

@[simp] theorem args_new : new.args = [] := rfl

@[simp] theorem args_arg {α : Type*} [ToRedisArgs α] (cmd : Cmd) (a : α) :
    (cmd.arg a).args = cmd.args ++ writeRedisArgs a := rfl

@[simp] theorem args_argEach {α : Type*} [ToRedisArgs α] (cmd : Cmd) (items : List α) :
    (cmd.argEach items).args = cmd.args ++ items.flatMap writeRedisArgs := by
  induction items generalizing cmd with
  | nil => simp [argEach]
  | cons a rest ih =>
      change ((cmd.arg a).argEach rest).args = _
      rw [ih]
      simp

@[simp] theorem args_argEachPair {α β : Type*} [ToRedisArgs α] [ToRedisArgs β] (cmd : Cmd)
    (pairs : List (α × β)) :
    (cmd.argEachPair pairs).args =
      cmd.args ++ pairs.flatMap fun p => writeRedisArgs p.1 ++ writeRedisArgs p.2 := by
  induction pairs generalizing cmd with
  | nil => simp [argEachPair]
  | cons p pairs ih =>
      change (((cmd.arg p.1).arg p.2).argEachPair pairs).args = _
      rw [ih]
      simp

end Cmd

/-- `redis::cmd(name)`. -/
def cmd (name : String) : Cmd := Cmd.new.arg name

@[simp] theorem args_cmd (name : String) : (cmd name).args = [utf8 name] := rfl

end GlideRust.Redis
