import GlideRust.ValueConversion
import GlideRust.Lib.Fallible
import GlideRust.Lib.TokenGrammar

/-!
# `BITFIELD` programs

A program is a list of subcommands that are sent one after the other without
separators; the reply has one element for each of them but `OVERFLOW`.

## Implementation notes

The reader follows the documented grammar from left to right and refuses
everything else. Both commands share the loop over the subcommands, so it is
stated once, for an arbitrary command name.
-/

namespace GlideRust.Commands.Bitfield

open Redis Error ValueConversion
open Lib Lib.TokenGrammar

inductive BitEncoding where
  | signed (width : UInt32)
  | unsigned (width : UInt32)
  deriving DecidableEq, Repr

/-- `BitEncoding::to_arg`. -/
def BitEncoding.toArg : BitEncoding → Bytes
  | .signed n => utf8 "i" ++ Decimal.render n.toNat
  | .unsigned n => utf8 "u" ++ Decimal.render n.toNat

inductive BitFieldOffset where
  | bit (index : UInt64)
  | multiplier (index : UInt64)
  deriving DecidableEq, Repr

/-- `BitFieldOffset::to_arg`. -/
def BitFieldOffset.toArg : BitFieldOffset → Bytes
  | .bit n => Decimal.render n.toNat
  | .multiplier n => utf8 "#" ++ Decimal.render n.toNat

inductive BitOverflow where
  | wrap
  | sat
  | fail
  deriving DecidableEq, Repr

/-- `BitOverflow::as_arg`. -/
def BitOverflow.asArg : BitOverflow → String
  | .wrap => "WRAP"
  | .sat => "SAT"
  | .fail => "FAIL"

inductive BitFieldSubcommand where
  | get (encoding : BitEncoding) (offset : BitFieldOffset)
  | set (encoding : BitEncoding) (offset : BitFieldOffset) (value : Int64)
  | incrBy (encoding : BitEncoding) (offset : BitFieldOffset) (increment : Int64)
  | overflow (mode : BitOverflow)
  deriving DecidableEq, Repr

/-- `BitFieldSubcommand::add_to`. -/
def BitFieldSubcommand.addTo (sub : BitFieldSubcommand) (c : Cmd) : Cmd :=
  match sub with
  | .get encoding offset => ((c.arg "GET").arg encoding.toArg).arg offset.toArg
  | .set encoding offset value =>
      (((c.arg "SET").arg encoding.toArg).arg offset.toArg).arg value
  | .incrBy encoding offset increment =>
      (((c.arg "INCRBY").arg encoding.toArg).arg offset.toArg).arg increment
  | .overflow mode => (c.arg "OVERFLOW").arg mode.asArg

variable {K : Type} [ToRedisArgs K]

/-- The common body of the two commands. -/
def bitfieldCall (name : String) (key : K) (subcommands : List BitFieldSubcommand) : Cmd :=
  subcommands.foldl (fun c sub => sub.addTo c) ((Cmd.new.arg name).arg key)

def bitfield (key : K) (subcommands : List BitFieldSubcommand) : Cmd :=
  bitfieldCall "BITFIELD" key subcommands

def bitfieldReadonly (key : K) (subcommands : List BitFieldSubcommand) : Cmd :=
  bitfieldCall "BITFIELD_RO" key subcommands

variable (R : RedisCrate)

/-- One element of the reply: nil stands for a failed overflow. -/
def parseBitfieldItem : Value → Result (Option Int64)
  | .nil => .ok none
  | other => do
      let i ← toI64 R other
      return some i

/-- `parse_bitfield`. -/
def parseBitfield : Value → Result (List (Option Int64))
  | .nil => .ok []
  | .array items => items.mapM (parseBitfieldItem R)
  | other => do
      let i ← toI64 R other
      return [some i]

/-! ## The documented grammar -/

/-- `i<width>` or `u<width>`. -/
def readEncoding : Bytes → Option BitEncoding
  | [] => none
  | mark :: digits =>
      if mark = 105 then (Decimal.readUInt32 digits).map .signed
      else if mark = 117 then (Decimal.readUInt32 digits).map .unsigned
      else none

/-- `<offset>` or `#<offset>`. -/
def readOffset : Bytes → Option BitFieldOffset
  | [] => none
  | mark :: digits =>
      if mark = 35 then (Decimal.readUInt64 digits).map .multiplier
      else (Decimal.readUInt64 (mark :: digits)).map .bit

def readOverflow (token : Bytes) : Option BitOverflow :=
  if token = utf8 "WRAP" then some .wrap
  else if token = utf8 "SAT" then some .sat
  else if token = utf8 "FAIL" then some .fail
  else none

/-- `GET enc off`, `SET enc off value`, `INCRBY enc off increment` or `OVERFLOW mode`. -/
def readSubcommand : Reader Bytes BitFieldSubcommand
  | keyword :: tokens =>
      if keyword = utf8 "GET" then
        match tokens with
        | enc :: off :: rest => do
            let encoding ← readEncoding enc
            let offset ← readOffset off
            return (.get encoding offset, rest)
        | _ => none
      else if keyword = utf8 "SET" then
        match tokens with
        | enc :: off :: value :: rest => do
            let encoding ← readEncoding enc
            let offset ← readOffset off
            let value ← Decimal.readInt64 value
            return (.set encoding offset value, rest)
        | _ => none
      else if keyword = utf8 "INCRBY" then
        match tokens with
        | enc :: off :: increment :: rest => do
            let encoding ← readEncoding enc
            let offset ← readOffset off
            let increment ← Decimal.readInt64 increment
            return (.incrBy encoding offset increment, rest)
        | _ => none
      else if keyword = utf8 "OVERFLOW" then
        match tokens with
        | mode :: rest => do
            let mode ← readOverflow mode
            return (.overflow mode, rest)
        | _ => none
      else none
  | [] => none

/-- The name, the key and the program of a command. -/
def readBitfield (c : Cmd) : Option (Bytes × Bytes × List BitFieldSubcommand) :=
  match c.args with
  | name :: key :: tokens => (readAll readSubcommand tokens).map fun subs => (name, key, subs)
  | _ => none

/-! ## Programs are read back -/

@[simp] theorem readEncoding_toArg (encoding : BitEncoding) :
    readEncoding encoding.toArg = some encoding := by
  have hi : utf8 "i" = [105] := by decide
  have hu : utf8 "u" = [117] := by decide
  have hne : (117 : UInt8) ≠ 105 := by decide
  cases encoding with
  | signed n => simp [BitEncoding.toArg, hi, readEncoding]
  | unsigned n => simp [BitEncoding.toArg, hu, readEncoding, hne]

/-- A raw offset starts with a digit, so it is not read as a multiplied one. -/
@[simp] theorem readOffset_toArg (offset : BitFieldOffset) :
    readOffset offset.toArg = some offset := by
  cases offset with
  | bit n =>
      cases h : Decimal.render n.toNat with
      | nil => exact absurd h (Decimal.render_ne_nil _)
      | cons b rest =>
          have hmark : b ≠ 35 := by
            rintro rfl
            exact Decimal.readDigit_head_render h (by decide)
          rw [BitFieldOffset.toArg, h, readOffset, if_neg hmark, ← h, Decimal.readUInt64_render,
            Option.map_some]
  | multiplier n =>
      have hmark : utf8 "#" = [35] := by decide
      simp [BitFieldOffset.toArg, hmark, readOffset]

@[simp] theorem readOverflow_asArg (mode : BitOverflow) :
    readOverflow (utf8 mode.asArg) = some mode := by
  cases mode <;> decide

/-- The tokens that `add_to` appends. -/
def BitFieldSubcommand.tokens : BitFieldSubcommand → List Bytes
  | .get encoding offset => [utf8 "GET", encoding.toArg, offset.toArg]
  | .set encoding offset value =>
      [utf8 "SET", encoding.toArg, offset.toArg, Decimal.renderInt value.toInt]
  | .incrBy encoding offset increment =>
      [utf8 "INCRBY", encoding.toArg, offset.toArg, Decimal.renderInt increment.toInt]
  | .overflow mode => [utf8 "OVERFLOW", utf8 mode.asArg]

theorem BitFieldSubcommand.args_addTo (sub : BitFieldSubcommand) (c : Cmd) :
    (sub.addTo c).args = c.args ++ sub.tokens := by
  cases sub <;> simp [BitFieldSubcommand.addTo, BitFieldSubcommand.tokens]

theorem BitFieldSubcommand.tokens_ne_nil (sub : BitFieldSubcommand) : sub.tokens ≠ [] := by
  cases sub <;> simp [BitFieldSubcommand.tokens]

/-- One subcommand is read back, whatever follows it. -/
theorem readSubcommand_tokens (sub : BitFieldSubcommand) (rest : List Bytes) :
    readSubcommand (sub.tokens ++ rest) = some (sub, rest) := by
  have hset : utf8 "SET" ≠ utf8 "GET" := by decide
  have hincr : utf8 "INCRBY" ≠ utf8 "GET" ∧ utf8 "INCRBY" ≠ utf8 "SET" := by decide
  have hover : utf8 "OVERFLOW" ≠ utf8 "GET" ∧ utf8 "OVERFLOW" ≠ utf8 "SET" ∧
      utf8 "OVERFLOW" ≠ utf8 "INCRBY" := by decide
  cases sub with
  | get encoding offset => simp [BitFieldSubcommand.tokens, readSubcommand]
  | set encoding offset value => simp [BitFieldSubcommand.tokens, readSubcommand, hset]
  | incrBy encoding offset increment =>
      simp [BitFieldSubcommand.tokens, readSubcommand, hincr.1, hincr.2]
  | overflow mode =>
      simp [BitFieldSubcommand.tokens, readSubcommand, hover.1, hover.2.1, hover.2.2]

theorem args_bitfieldCall (name : String) (key : K) (subs : List BitFieldSubcommand) :
    (bitfieldCall name key subs).args =
      utf8 name :: (writeRedisArgs key ++ subs.flatMap BitFieldSubcommand.tokens) := by
  have hloop (c : Cmd) : (subs.foldl (fun c sub => sub.addTo c) c).args =
      c.args ++ subs.flatMap BitFieldSubcommand.tokens := by
    induction subs generalizing c with
    | nil => simp
    | cons sub subs ih =>
        rw [List.foldl_cons, ih, BitFieldSubcommand.args_addTo, List.flatMap_cons,
          List.append_assoc]
  rw [bitfieldCall, hloop]
  simp

/-- The command of a program is read back to its name, its key and the program. -/
theorem readBitfield_bitfieldCall (name : String) {key : K} {token : Bytes}
    (hkey : writeRedisArgs key = [token]) (subs : List BitFieldSubcommand) :
    readBitfield (bitfieldCall name key subs) = some (utf8 name, token, subs) := by
  have hprogram := readAll_flatMap readSubcommand_tokens BitFieldSubcommand.tokens_ne_nil subs
  simp only [readBitfield, args_bitfieldCall, hkey, List.singleton_append, hprogram,
    Option.map_some]

/-! ## Replies -/

/-- Whether a subcommand has an element in the reply. -/
def BitFieldSubcommand.answered : BitFieldSubcommand → Bool
  | .overflow _ => false
  | _ => true

/-- The result that a reply element stands for. -/
def itemResult : Value → Option Int64
  | .int i => some i
  | _ => none

variable {R}

theorem parseBitfield_items (h : DecodesInt R) (items : List Value)
    (hitems : ∀ item ∈ items, item = .nil ∨ ∃ i, item = .int i) :
    parseBitfield R (.array items) = .ok (items.map itemResult) := by
  rw [parseBitfield, Fallible.mapM_eq_ok_iff, List.forall₂_map_right_iff, List.forall₂_same]
  intro item hitem
  rcases hitems item hitem with rfl | ⟨i, rfl⟩
  · rfl
  · simp only [parseBitfieldItem, toI64_int h]
    rfl

/-- Programs survive their wire encoding under both commands, so different
programs send different tokens; the reply has the result of the `i`-th answered
subcommand at position `i`, and none exactly at the nil positions. -/
theorem bitfield_programs_round_trip (h : DecodesInt R) :
    (∀ (K : Type) [ToRedisArgs K] (key : K) (token : Bytes) (subs : List BitFieldSubcommand),
      writeRedisArgs key = [token] →
      readBitfield (bitfield key subs) = some (utf8 "BITFIELD", token, subs) ∧
      readBitfield (bitfieldReadonly key subs) = some (utf8 "BITFIELD_RO", token, subs)) ∧
    (∀ (K : Type) [ToRedisArgs K] (key : K) (token : Bytes) (subs subs' : List BitFieldSubcommand),
      writeRedisArgs key = [token] → subs ≠ subs' →
      (bitfield key subs).args ≠ (bitfield key subs').args ∧
      (bitfieldReadonly key subs).args ≠ (bitfieldReadonly key subs').args) ∧
    (∀ (subs : List BitFieldSubcommand) (items : List Value),
      items.length = (subs.filter BitFieldSubcommand.answered).length →
      (∀ item ∈ items, item = .nil ∨ ∃ i, item = .int i) →
      ∃ results, parseBitfield R (.array items) = .ok results ∧
        results.length = (subs.filter BitFieldSubcommand.answered).length ∧
        ∀ i : Nat, results[i]? = items[i]?.map itemResult ∧
          (results[i]? = some none ↔ ∃ item, items[i]? = some item ∧ item = .nil)) := by
  refine ⟨?_, ?_, ?_⟩
  · intro K _ key token subs hkey
    exact ⟨readBitfield_bitfieldCall "BITFIELD" hkey subs,
      readBitfield_bitfieldCall "BITFIELD_RO" hkey subs⟩
  · intro K _ key token subs subs' hkey hne
    have hdiffer (name : String) :
        (bitfieldCall name key subs).args ≠ (bitfieldCall name key subs').args := by
      intro heq
      have hread := readBitfield_bitfieldCall name hkey subs
      rw [readBitfield, heq, ← readBitfield, readBitfield_bitfieldCall name hkey subs'] at hread
      simp only [Option.some.injEq, Prod.mk.injEq, true_and] at hread
      exact hne hread.symm
    exact ⟨hdiffer "BITFIELD", hdiffer "BITFIELD_RO"⟩
  · intro subs items hlength hitems
    refine ⟨items.map itemResult, parseBitfield_items h items hitems, ?_, ?_⟩
    · rw [List.length_map, hlength]
    · intro i
      refine ⟨List.getElem?_map, ?_⟩
      rw [List.getElem?_map, Option.map_eq_some_iff]
      constructor
      · rintro ⟨item, hitem, hnone⟩
        refine ⟨item, hitem, ?_⟩
        rcases hitems item (List.mem_of_getElem? hitem) with rfl | ⟨n, rfl⟩
        · rfl
        · cases hnone
      · rintro ⟨item, hitem, rfl⟩
        exact ⟨.nil, hitem, rfl⟩

/-- `OVERFLOW FAIL`, then an increment that fails and a read. -/
def failingProgram : List BitFieldSubcommand :=
  [.overflow .fail, .incrBy (.unsigned 4) (.multiplier 1) (-3), .get (.signed 64) (.bit 0)]

theorem bitfield_programs_round_trip_failing :
    readBitfield (bitfield (utf8 "k") failingProgram) =
        some (utf8 "BITFIELD", utf8 "k", failingProgram) ∧
      ∃ results, parseBitfield integers (.array [.nil, .int (-7)]) = .ok results ∧
        results.length = 2 :=
  ⟨((bitfield_programs_round_trip decodesInt_integers).1 Bytes (utf8 "k") (utf8 "k")
      failingProgram rfl).1,
    let ⟨results, hparse, hlength, _⟩ := (bitfield_programs_round_trip decodesInt_integers).2.2
      failingProgram [.nil, .int (-7)] rfl (by simp)
    ⟨results, hparse, hlength⟩⟩

end GlideRust.Commands.Bitfield
