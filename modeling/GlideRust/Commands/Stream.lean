import GlideRust.Commands.Options

/-!
# Stream commands

The options of the stream commands and the commands that take them.
-/

namespace GlideRust.Commands.StreamCommands

open Redis Options
open Lib

inductive StreamTrimStrategy where
  | maxLen
  | minId
  deriving DecidableEq, Repr

/-- `StreamTrimOptions`. Its fields are private and `max_len` and `min_id` are the
only ways to fill them, so the threshold of a `MAXLEN` trim is a numeral. -/
structure StreamTrimOptions where
  strategy : StreamTrimStrategy
  exact : Bool
  threshold : String
  limit : Option Int64
  numeral : strategy = .maxLen → ∃ n : Int64, threshold = toString n.toInt

namespace StreamTrimOptions

def maxLen (exact : Bool) (threshold : Int64) (limit : Option Int64) : StreamTrimOptions where
  strategy := .maxLen
  exact := exact
  threshold := toString threshold.toInt
  limit := limit
  numeral _ := ⟨threshold, rfl⟩

def minId (exact : Bool) (threshold : String) (limit : Option Int64) : StreamTrimOptions where
  strategy := .minId
  exact := exact
  threshold := threshold
  limit := limit
  numeral h := by cases h

theorem eq_maxLen_or_minId (trim : StreamTrimOptions) :
    (∃ exact n limit, trim = maxLen exact n limit) ∨
      ∃ exact id limit, trim = minId exact id limit := by
  obtain ⟨strategy, exact, threshold, limit, numeral⟩ := trim
  cases strategy with
  | maxLen =>
      obtain ⟨n, rfl⟩ := numeral rfl
      exact .inl ⟨exact, n, limit, rfl⟩
  | minId => exact .inr ⟨exact, threshold, limit, rfl⟩

def addTo (trim : StreamTrimOptions) (c : Cmd) : Cmd :=
  let c := match trim.strategy with
    | .maxLen => c.arg "MAXLEN"
    | .minId => c.arg "MINID"
  let c := (c.arg (if trim.exact then "=" else "~")).arg trim.threshold
  addOption trim.limit (fun l c => (c.arg "LIMIT").arg l) c

end StreamTrimOptions

structure StreamAddOptions where
  makeStream : Bool
  trim : Option StreamTrimOptions

/-- The derived `StreamAddOptions::default()`. -/
instance : Inhabited StreamAddOptions := ⟨⟨false, none⟩⟩

def StreamAddOptions.addTo (options : StreamAddOptions) (c : Cmd) : Cmd :=
  addOption options.trim StreamTrimOptions.addTo (addFlag (!options.makeStream) "NOMKSTREAM" c)

structure StreamReadOptions where
  blockMs : Option Int64
  count : Option Int64
  deriving DecidableEq, Repr

instance : Inhabited StreamReadOptions := ⟨⟨none, none⟩⟩

/-- An optional integer behind its keyword: `if let Some(n) = field { .. }`. -/
def addInteger (keyword : String) (field : Option Int64) (c : Cmd) : Cmd :=
  addOption field (fun n c => (c.arg keyword).arg n) c

def StreamReadOptions.addTo (options : StreamReadOptions) (c : Cmd) : Cmd :=
  addInteger "COUNT" options.count (addInteger "BLOCK" options.blockMs c)

structure StreamReadGroupOptions where
  blockMs : Option Int64
  count : Option Int64
  noAck : Bool
  deriving DecidableEq, Repr

instance : Inhabited StreamReadGroupOptions := ⟨⟨none, none, false⟩⟩

def StreamReadGroupOptions.addTo (options : StreamReadGroupOptions) (c : Cmd) : Cmd :=
  addFlag options.noAck "NOACK"
    (addInteger "COUNT" options.count (addInteger "BLOCK" options.blockMs c))

structure StreamGroupCreateOptions where
  makeStream : Bool
  entriesRead : Option Int64
  deriving DecidableEq, Repr

instance : Inhabited StreamGroupCreateOptions := ⟨⟨false, none⟩⟩

def StreamGroupCreateOptions.addTo (options : StreamGroupCreateOptions) (c : Cmd) : Cmd :=
  addInteger "ENTRIESREAD" options.entriesRead (addFlag options.makeStream "MKSTREAM" c)

structure StreamClaimOptions where
  idle : Option Int64
  idleUnixTime : Option Int64
  retryCount : Option Int64
  isForce : Bool
  deriving DecidableEq, Repr

instance : Inhabited StreamClaimOptions := ⟨⟨none, none, none, false⟩⟩

def StreamClaimOptions.addTo (options : StreamClaimOptions) (c : Cmd) : Cmd :=
  let c := addInteger "IDLE" options.idle c
  let c := addInteger "TIME" options.idleUnixTime c
  let c := addInteger "RETRYCOUNT" options.retryCount c
  addFlag options.isForce "FORCE" c

/-! ## Commands -/

section Commands

variable {K F V : Type} [ToRedisArgs K] [ToRedisArgs F] [ToRedisArgs V]

def xadd (key : K) (id : String) (fields : List (F × V)) : Cmd :=
  (((Cmd.new.arg "XADD").arg key).arg id).argEachPair fields

def xaddOptions (key : K) (id : String) (fields : List (F × V)) (options : StreamAddOptions) : Cmd :=
  ((options.addTo ((Cmd.new.arg "XADD").arg key)).arg id).argEachPair fields

def xgroupCreate (key : K) (group id : String) (mkstream : Bool) : Cmd :=
  addFlag mkstream "MKSTREAM"
    (((((Cmd.new.arg "XGROUP").arg "CREATE").arg key).arg group).arg id)

def xgroupCreateOptions (key : K) (group id : String) (options : StreamGroupCreateOptions) : Cmd :=
  options.addTo (((((Cmd.new.arg "XGROUP").arg "CREATE").arg key).arg group).arg id)

/-- `xadd` creates the stream and trims nothing. -/
theorem xadd_eq_xaddOptions (key : K) (id : String) (fields : List (F × V)) :
    xadd key id fields = xaddOptions key id fields ⟨true, none⟩ := rfl

/-- The tail `STREAMS key [key ...] id [id ...]`. -/
def argStreams (c : Cmd) (keysIds : List (K × String)) : Cmd :=
  ((c.arg "STREAMS").argEach (keysIds.map Prod.fst)).argEach (keysIds.map Prod.snd)

def xread (keysIds : List (K × String)) (options : Option StreamReadOptions) : Cmd :=
  argStreams (addOption options StreamReadOptions.addTo (Cmd.new.arg "XREAD")) keysIds

def xreadgroup (group consumer : String) (keysIds : List (K × String))
    (options : Option StreamReadGroupOptions) : Cmd :=
  argStreams (addOption options StreamReadGroupOptions.addTo
    ((((Cmd.new.arg "XREADGROUP").arg "GROUP").arg group).arg consumer)) keysIds

def xclaim (key : K) (group consumer : String) (minIdleTimeMs : Int64) (ids : List String)
    (options : Option StreamClaimOptions) : Cmd :=
  let c := ((((Cmd.new.arg "XCLAIM").arg key).arg group).arg consumer).arg minIdleTimeMs
  addOption options StreamClaimOptions.addTo (c.argEach ids)

def xclaimJustid (key : K) (group consumer : String) (minIdleTimeMs : Int64) (ids : List String)
    (options : Option StreamClaimOptions) : Cmd :=
  let c := ((((Cmd.new.arg "XCLAIM").arg key).arg group).arg consumer).arg minIdleTimeMs
  (addOption options StreamClaimOptions.addTo (c.argEach ids)).arg "JUSTID"

end Commands

/-! ## Tokens -/

/-- The tokens of an optional integer behind its keyword. -/
def integerTokens (keyword : String) (field : Option Int64) : List Bytes :=
  field.elim [] fun n => [utf8 keyword, Decimal.renderInt n.toInt]

@[simp] theorem args_addInteger (keyword : String) (field : Option Int64) (c : Cmd) :
    (addInteger keyword field c).args = c.args ++ integerTokens keyword field := by
  apply args_addOption
  intro n c
  simp

/-- The keyword of a trim. -/
def StreamTrimStrategy.keyword : StreamTrimStrategy → String
  | .maxLen => "MAXLEN"
  | .minId => "MINID"

/-- The tokens that `StreamTrimOptions::add_to` appends. -/
def StreamTrimOptions.tokens (trim : StreamTrimOptions) : List Bytes :=
  utf8 trim.strategy.keyword ::
    utf8 (if trim.exact then "=" else "~") :: utf8 trim.threshold ::
      integerTokens "LIMIT" trim.limit

theorem StreamTrimOptions.args_addTo (trim : StreamTrimOptions) (c : Cmd) :
    (trim.addTo c).args = c.args ++ trim.tokens := by
  rw [addTo, ← addInteger, args_addInteger]
  cases h : trim.strategy <;> simp [tokens, h, StreamTrimStrategy.keyword]

/-- The tokens that `StreamAddOptions::add_to` appends. -/
def StreamAddOptions.tokens (options : StreamAddOptions) : List Bytes :=
  (if !options.makeStream then [utf8 "NOMKSTREAM"] else []) ++
    options.trim.elim [] StreamTrimOptions.tokens

theorem StreamAddOptions.args_addTo (options : StreamAddOptions) (c : Cmd) :
    (options.addTo c).args = c.args ++ options.tokens := by
  rw [addTo, args_addOption StreamTrimOptions.args_addTo, args_addFlag, List.append_assoc, tokens]

/-- The tokens that `StreamReadOptions::add_to` appends. -/
def StreamReadOptions.tokens (options : StreamReadOptions) : List Bytes :=
  integerTokens "BLOCK" options.blockMs ++ integerTokens "COUNT" options.count

theorem StreamReadOptions.args_addTo (options : StreamReadOptions) (c : Cmd) :
    (options.addTo c).args = c.args ++ options.tokens := by
  simp [addTo, tokens]

/-- The tokens that `StreamReadGroupOptions::add_to` appends. -/
def StreamReadGroupOptions.tokens (options : StreamReadGroupOptions) : List Bytes :=
  integerTokens "BLOCK" options.blockMs ++ (integerTokens "COUNT" options.count ++
    if options.noAck then [utf8 "NOACK"] else [])

theorem StreamReadGroupOptions.args_addTo (options : StreamReadGroupOptions) (c : Cmd) :
    (options.addTo c).args = c.args ++ options.tokens := by
  simp [addTo, tokens]

/-- The tokens that `StreamGroupCreateOptions::add_to` appends. -/
def StreamGroupCreateOptions.tokens (options : StreamGroupCreateOptions) : List Bytes :=
  (if options.makeStream then [utf8 "MKSTREAM"] else []) ++
    integerTokens "ENTRIESREAD" options.entriesRead

theorem StreamGroupCreateOptions.args_addTo (options : StreamGroupCreateOptions) (c : Cmd) :
    (options.addTo c).args = c.args ++ options.tokens := by
  simp [addTo, tokens]

/-- The tokens that `StreamClaimOptions::add_to` appends. -/
def StreamClaimOptions.tokens (options : StreamClaimOptions) : List Bytes :=
  integerTokens "IDLE" options.idle ++ (integerTokens "TIME" options.idleUnixTime ++
    (integerTokens "RETRYCOUNT" options.retryCount ++
      if options.isForce then [utf8 "FORCE"] else []))

theorem StreamClaimOptions.args_addTo (options : StreamClaimOptions) (c : Cmd) :
    (options.addTo c).args = c.args ++ options.tokens := by
  simp [addTo, tokens]

section Tokens

variable {K F V : Type} [ToRedisArgs K] [ToRedisArgs F] [ToRedisArgs V]

@[simp] theorem args_argStreams (c : Cmd) (keysIds : List (K × String)) :
    (argStreams c keysIds).args =
      c.args ++ (utf8 "STREAMS" :: (keysIds.flatMap (fun p => writeRedisArgs p.1) ++
        keysIds.map fun p => utf8 p.2)) := by
  simp [argStreams, List.flatMap_map, ← List.map_eq_flatMap]

end Tokens

end GlideRust.Commands.StreamCommands
