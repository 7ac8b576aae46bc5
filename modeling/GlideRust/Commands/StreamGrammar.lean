import GlideRust.Commands.Stream
import GlideRust.Lib.PairList
import GlideRust.Lib.TokenGrammar

/-!
# Reading stream commands from their tokens

A reader of the documented grammar of `XADD`, `XREAD`, `XREADGROUP` and `XCLAIM`
that goes over the tokens from left to right.

## Implementation notes

`XADD` has its options in the documented order, the other commands in any order.
A list of fields, streams or ids may be empty, since the client does not refuse
an empty one. `LASTID`, which the client never sends, is not in the grammar.
-/

namespace GlideRust.Commands.StreamGrammar

open Redis Options StreamCommands
open Lib Lib.TokenGrammar

/-! ## What a command says -/

structure TrimRequest where
  strategy : StreamTrimStrategy
  exact : Bool
  threshold : Bytes
  limit : Option Int64
  deriving DecidableEq, Repr

inductive Request where
  | add (key : Bytes) (makeStream : Bool) (trim : Option TrimRequest) (id : Bytes)
      (fields : List (Bytes × Bytes))
  | read (options : StreamReadOptions) (keysIds : List (Bytes × Bytes))
  | readGroup (group consumer : Bytes) (options : StreamReadGroupOptions)
      (keysIds : List (Bytes × Bytes))
  | claim (key group consumer : Bytes) (minIdleTimeMs : Int64) (ids : List Bytes)
      (options : StreamClaimOptions) (justId : Bool)
  deriving DecidableEq, Repr

/-! ## The reader -/

/-- `[= | ~]`; a trim without a mark is exact. -/
def readMark : List Bytes → Bool × List Bytes
  | [] => (true, [])
  | t :: rest =>
      if t = utf8 "=" then (true, rest)
      else if t = utf8 "~" then (false, rest)
      else (true, t :: rest)

/-- `[= | ~] threshold [LIMIT count]`; the threshold of `MAXLEN` is a number. -/
def readThreshold (strategy : StreamTrimStrategy) (tokens : List Bytes) :
    Option (Option TrimRequest × List Bytes) :=
  match readMark tokens with
  | (_, []) => none
  | (mark, threshold :: rest) =>
      if strategy = .maxLen ∧ Decimal.readInt64 threshold = none then none
      else
        (readOptional (utf8 "LIMIT") Decimal.readInt64 rest).map fun (limit, rest) =>
          (some ⟨strategy, mark, threshold, limit⟩, rest)

/-- `[<MAXLEN | MINID> [= | ~] threshold [LIMIT count]]`. -/
def readTrim : Reader Bytes (Option TrimRequest)
  | [] => some (none, [])
  | t :: rest =>
      if t = utf8 "MAXLEN" then readThreshold .maxLen rest
      else if t = utf8 "MINID" then readThreshold .minId rest
      else some (none, t :: rest)

def readPair : Reader Bytes (Bytes × Bytes)
  | field :: value :: rest => some ((field, value), rest)
  | _ => none

/-- `key [NOMKSTREAM] [trim] id [field value ...]`. -/
def readXadd : List Bytes → Option Request
  | [] => none
  | key :: rest =>
      let (noMkStream, rest) := readFlag (utf8 "NOMKSTREAM") rest
      match readTrim rest with
      | some (trim, id :: fields) =>
          (readAll readPair fields).map (.add key (!noMkStream) trim id)
      | _ => none

/-- A clause whose value is an integer. -/
def integerClause {σ : Type} (put : Int64 → σ → σ) : Clause Bytes σ :=
  .value fun v s => (Decimal.readInt64 v).map fun n => put n s

def readTable (t : Bytes) : Option (Clause Bytes StreamReadOptions) :=
  if t = utf8 "BLOCK" then some (integerClause fun n o => { o with blockMs := some n })
  else if t = utf8 "COUNT" then some (integerClause fun n o => { o with count := some n })
  else none

def readGroupTable (t : Bytes) : Option (Clause Bytes StreamReadGroupOptions) :=
  if t = utf8 "BLOCK" then some (integerClause fun n o => { o with blockMs := some n })
  else if t = utf8 "COUNT" then some (integerClause fun n o => { o with count := some n })
  else if t = utf8 "NOACK" then some (.flag fun o => { o with noAck := true })
  else none

/-- `STREAMS key [key ...] id [id ...]`. -/
def readStreams : List Bytes → Option (List (Bytes × Bytes))
  | [] => none
  | t :: rest => if t = utf8 "STREAMS" then readHalves rest else none

def readXread (tokens : List Bytes) : Option Request :=
  match readClauses readTable default tokens with
  | some (options, rest) => (readStreams rest).map (.read options)
  | none => none

/-- `GROUP group consumer [options] STREAMS key [key ...] id [id ...]`. -/
def readXreadgroup : List Bytes → Option Request
  | keyword :: group :: consumer :: rest =>
      if keyword = utf8 "GROUP" then
        match readClauses readGroupTable default rest with
        | some (options, rest) => (readStreams rest).map (.readGroup group consumer options)
        | none => none
      else none
  | _ => none

/-- The options of `XCLAIM` and whether only ids are asked for. -/
def claimTable (t : Bytes) : Option (Clause Bytes (StreamClaimOptions × Bool)) :=
  if t = utf8 "IDLE" then some (integerClause fun n s => ({ s.1 with idle := some n }, s.2))
  else if t = utf8 "TIME" then
    some (integerClause fun n s => ({ s.1 with idleUnixTime := some n }, s.2))
  else if t = utf8 "RETRYCOUNT" then
    some (integerClause fun n s => ({ s.1 with retryCount := some n }, s.2))
  else if t = utf8 "FORCE" then some (.flag fun s => ({ s.1 with isForce := true }, s.2))
  else if t = utf8 "JUSTID" then some (.flag fun s => (s.1, true))
  else none

/-- `key group consumer min-idle-time [id ...] [options]`. -/
def readXclaim : List Bytes → Option Request
  | key :: group :: consumer :: minIdleTime :: rest =>
      let isId (t : Bytes) : Bool := (claimTable t).isNone
      match Decimal.readInt64 minIdleTime,
          readClauses claimTable (default, false) (rest.dropWhile isId) with
      | some minIdleTime, some ((options, justId), []) =>
          some (.claim key group consumer minIdleTime (rest.takeWhile isId) options justId)
      | _, _ => none
  | _ => none

def parse : List Bytes → Option Request
  | [] => none
  | name :: rest =>
      if name = utf8 "XADD" then readXadd rest
      else if name = utf8 "XREAD" then readXread rest
      else if name = utf8 "XREADGROUP" then readXreadgroup rest
      else if name = utf8 "XCLAIM" then readXclaim rest
      else none

/-! ## Calls -/

/-- The calls of the client, with the arguments that they are given. -/
inductive Call (K F V : Type) where
  | xadd (key : K) (id : String) (fields : List (F × V))
  | xaddOptions (key : K) (id : String) (fields : List (F × V)) (options : StreamAddOptions)
  | xread (keysIds : List (K × String)) (options : Option StreamReadOptions)
  | xreadgroup (group consumer : String) (keysIds : List (K × String))
      (options : Option StreamReadGroupOptions)
  | xclaim (key : K) (group consumer : String) (minIdleTimeMs : Int64) (ids : List String)
      (options : Option StreamClaimOptions)
  | xclaimJustid (key : K) (group consumer : String) (minIdleTimeMs : Int64) (ids : List String)
      (options : Option StreamClaimOptions)

section Calls

variable {α K F V : Type} [ToRedisArgs α] [ToRedisArgs K] [ToRedisArgs F] [ToRedisArgs V]

/-- The token of an argument that writes one. -/
def token (a : α) : Bytes := (writeRedisArgs a).headD []

/-- Whether an argument writes exactly one token. -/
def SingleToken (a : α) : Prop := writeRedisArgs a = [token a]

theorem SingleToken.write_eq {a : α} (h : SingleToken a) : writeRedisArgs a = [token a] := h

def xaddKeywords : List Bytes :=
  [utf8 "NOMKSTREAM", utf8 "MAXLEN", utf8 "MINID", utf8 "LIMIT"]

def xclaimKeywords : List Bytes :=
  [utf8 "IDLE", utf8 "TIME", utf8 "RETRYCOUNT", utf8 "FORCE", utf8 "JUSTID"]

namespace Call

/-- The command that a call sends. -/
def command : Call K F V → Cmd
  | xadd key id fields => StreamCommands.xadd key id fields
  | xaddOptions key id fields options => StreamCommands.xaddOptions key id fields options
  | xread keysIds options => StreamCommands.xread keysIds options
  | xreadgroup group consumer keysIds options =>
      StreamCommands.xreadgroup group consumer keysIds options
  | xclaim key group consumer minIdleTimeMs ids options =>
      StreamCommands.xclaim key group consumer minIdleTimeMs ids options
  | xclaimJustid key group consumer minIdleTimeMs ids options =>
      StreamCommands.xclaimJustid key group consumer minIdleTimeMs ids options

/-- Every generic argument is one token, and no id is a keyword of its command. -/
def Admissible : Call K F V → Prop
  | xadd key id fields | xaddOptions key id fields _ =>
      SingleToken key ∧ (∀ p ∈ fields, SingleToken p.1 ∧ SingleToken p.2) ∧ utf8 id ∉ xaddKeywords
  | xread keysIds _ => ∀ p ∈ keysIds, SingleToken p.1
  | xreadgroup _ _ keysIds _ => ∀ p ∈ keysIds, SingleToken p.1
  | xclaim key _ _ _ ids _ => SingleToken key ∧ ∀ id ∈ ids, utf8 id ∉ xclaimKeywords
  | xclaimJustid key _ _ _ ids _ => SingleToken key ∧ ∀ id ∈ ids, utf8 id ∉ xclaimKeywords

end Call

/-- The trim that options ask for. -/
def trimRequest (trim : StreamTrimOptions) : TrimRequest :=
  ⟨trim.strategy, trim.exact, utf8 trim.threshold, trim.limit⟩

/-- What a call asks for; options that are not given are all unset. -/
def Call.request : Call K F V → Request
  | xadd key id fields =>
      .add (token key) true none (utf8 id) (fields.map fun p => (token p.1, token p.2))
  | xaddOptions key id fields options =>
      .add (token key) options.makeStream (options.trim.map trimRequest) (utf8 id)
        (fields.map fun p => (token p.1, token p.2))
  | xread keysIds options =>
      .read (options.getD default) (keysIds.map fun p => (token p.1, utf8 p.2))
  | xreadgroup group consumer keysIds options =>
      .readGroup (utf8 group) (utf8 consumer) (options.getD default)
        (keysIds.map fun p => (token p.1, utf8 p.2))
  | xclaim key group consumer minIdleTimeMs ids options =>
      .claim (token key) (utf8 group) (utf8 consumer) minIdleTimeMs (ids.map utf8)
        (options.getD default) false
  | xclaimJustid key group consumer minIdleTimeMs ids options =>
      .claim (token key) (utf8 group) (utf8 consumer) minIdleTimeMs (ids.map utf8)
        (options.getD default) true

end Calls

/-! ## Round trips of the parts -/

theorem readMark_tokens (mark : Bool) (rest : List Bytes) :
    readMark (utf8 (if mark then "=" else "~") :: rest) = (mark, rest) := by
  cases mark with
  | true => simp [readMark]
  | false =>
      have hne : utf8 "~" ≠ utf8 "=" := by decide
      simp [readMark, hne]

/-- A `MAXLEN` threshold passes the reader's test for a number. -/
theorem threshold_numeral (trim : StreamTrimOptions) :
    ¬(trim.strategy = .maxLen ∧ Decimal.readInt64 (utf8 trim.threshold) = none) := by
  rintro ⟨hstrategy, hnone⟩
  obtain ⟨exact, n, limit, rfl⟩ | ⟨exact, id, limit, rfl⟩ := trim.eq_maxLen_or_minId
  · rw [StreamTrimOptions.maxLen, utf8_toString, Decimal.readInt64_renderInt] at hnone
    cases hnone
  · cases hstrategy

theorem readThreshold_tokens (trim : StreamTrimOptions) {next : Bytes}
    (hnext : next ≠ utf8 "LIMIT") (rest : List Bytes) :
    readThreshold trim.strategy (utf8 (if trim.exact then "=" else "~") :: utf8 trim.threshold ::
        (integerTokens "LIMIT" trim.limit ++ next :: rest)) =
      some (some (trimRequest trim), next :: rest) := by
  have hlimit := readOptional_append Decimal.readInt64_renderInt hnext trim.limit rest
  rw [← integerTokens] at hlimit
  simp only [readThreshold, readMark_tokens, if_neg (threshold_numeral trim), hlimit,
    Option.map_some]
  rfl

theorem readTrim_tokens (trim : Option StreamTrimOptions) {next : Bytes}
    (hnext : next ∉ xaddKeywords) (rest : List Bytes) :
    readTrim (trim.elim [] StreamTrimOptions.tokens ++ next :: rest) =
      some (trim.map trimRequest, next :: rest) := by
  simp only [xaddKeywords, List.mem_cons, List.not_mem_nil, or_false, not_or] at hnext
  obtain ⟨-, hmaxlen, hminid, hlimit⟩ := hnext
  cases trim with
  | none => simp [readTrim, hmaxlen, hminid]
  | some trim =>
      have hthreshold := readThreshold_tokens trim hlimit rest
      simp only [Option.elim_some, StreamTrimOptions.tokens, List.cons_append, readTrim,
        Option.map_some]
      cases hstrategy : trim.strategy with
      | maxLen =>
          rw [hstrategy] at hthreshold
          rw [StreamTrimStrategy.keyword, if_pos rfl, hthreshold]
      | minId =>
          have hne : utf8 "MINID" ≠ utf8 "MAXLEN" := by decide
          rw [hstrategy] at hthreshold
          rw [StreamTrimStrategy.keyword, if_neg hne, if_pos rfl, hthreshold]

/-- Neither a trim nor an id starts with `NOMKSTREAM`. -/
theorem readFlag_trim (given : Bool) (trim : Option StreamTrimOptions) {next : Bytes}
    (hnext : next ∉ xaddKeywords) (rest : List Bytes) :
    readFlag (utf8 "NOMKSTREAM") ((if given then [utf8 "NOMKSTREAM"] else []) ++
        (trim.elim [] StreamTrimOptions.tokens ++ next :: rest)) =
      (given, trim.elim [] StreamTrimOptions.tokens ++ next :: rest) := by
  cases trim with
  | none =>
      apply readFlag_append
      rintro rfl
      exact hnext (List.mem_cons_self ..)
  | some trim =>
      have hne : utf8 trim.strategy.keyword ≠ utf8 "NOMKSTREAM" := by
        cases trim.strategy <;> decide
      exact readFlag_append hne given _

theorem readAll_flatten (pairs : List (Bytes × Bytes)) :
    readAll readPair (PairList.flatten pairs) = some pairs := by
  apply readAll_flatMap
  · intro p rest
    rfl
  · intro p h
    cases h

theorem readXadd_tokens (key : Bytes) (options : StreamAddOptions) {id : Bytes}
    (hid : id ∉ xaddKeywords) (fields : List (Bytes × Bytes)) :
    readXadd (key :: (options.tokens ++ id :: PairList.flatten fields)) =
      some (.add key options.makeStream (options.trim.map trimRequest) id fields) := by
  rw [StreamAddOptions.tokens, List.append_assoc, readXadd, readFlag_trim _ _ hid]
  simp only [readTrim_tokens _ hid, readAll_flatten, Option.map_some, Bool.not_not]

theorem readClauses_integer {σ : Type} {table : Bytes → Option (Clause Bytes σ)} {keyword : String}
    {put : Int64 → σ → σ} (h : table (utf8 keyword) = some (integerClause put))
    (field : Option Int64) (s : σ) (rest : List Bytes) :
    readClauses table s (integerTokens keyword field ++ rest) =
      readClauses table (field.elim s fun n => put n s) rest := by
  apply readClauses_option h
  intro n s
  rw [Decimal.readInt64_renderInt, Option.map_some]

theorem readStreams_tokens (keysIds : List (Bytes × Bytes)) :
    readStreams (utf8 "STREAMS" :: (keysIds.map Prod.fst ++ keysIds.map Prod.snd)) =
      some keysIds := by
  rw [readStreams, if_pos rfl, readHalves_append]

theorem readXread_tokens (options : StreamReadOptions) (keysIds : List (Bytes × Bytes)) :
    readXread (options.tokens ++
        utf8 "STREAMS" :: (keysIds.map Prod.fst ++ keysIds.map Prod.snd)) =
      some (.read options keysIds) := by
  have hblock : readTable (utf8 "BLOCK") = _ := if_pos rfl
  have hcount : readTable (utf8 "COUNT") =
      some (integerClause fun n o => { o with count := some n }) := by
    rw [readTable, if_neg (by decide), if_pos rfl]
  have hstop : readTable (utf8 "STREAMS") = none := by
    rw [readTable, if_neg (by decide), if_neg (by decide)]
  rw [StreamReadOptions.tokens, List.append_assoc, readXread, readClauses_integer hblock,
    readClauses_integer hcount, readClauses_stop hstop]
  simp only [readStreams_tokens, Option.map_some]
  obtain ⟨block, count⟩ := options
  cases block <;> cases count <;> rfl

theorem readXreadgroup_tokens (group consumer : Bytes) (options : StreamReadGroupOptions)
    (keysIds : List (Bytes × Bytes)) :
    readXreadgroup (utf8 "GROUP" :: group :: consumer :: (options.tokens ++
        utf8 "STREAMS" :: (keysIds.map Prod.fst ++ keysIds.map Prod.snd))) =
      some (.readGroup group consumer options keysIds) := by
  have hblock : readGroupTable (utf8 "BLOCK") = _ := if_pos rfl
  have hcount : readGroupTable (utf8 "COUNT") =
      some (integerClause fun n o => { o with count := some n }) := by
    rw [readGroupTable, if_neg (by decide), if_pos rfl]
  have hnoack : readGroupTable (utf8 "NOACK") = some (.flag fun o => { o with noAck := true }) := by
    rw [readGroupTable, if_neg (by decide), if_neg (by decide), if_pos rfl]
  have hstop : readGroupTable (utf8 "STREAMS") = none := by
    rw [readGroupTable, if_neg (by decide), if_neg (by decide), if_neg (by decide)]
  rw [StreamReadGroupOptions.tokens, List.append_assoc, List.append_assoc, readXreadgroup,
    if_pos rfl, readClauses_integer hblock, readClauses_integer hcount, readClauses_bool hnoack,
    readClauses_stop hstop]
  simp only [readStreams_tokens, Option.map_some]
  obtain ⟨block, count, noAck⟩ := options
  cases block <;> cases count <;> cases noAck <;> rfl

theorem claimTable_eq_none_iff (t : Bytes) : claimTable t = none ↔ t ∉ xclaimKeywords := by
  simp only [claimTable, xclaimKeywords, List.mem_cons, List.not_mem_nil, or_false, not_or]
  split_ifs <;> simp_all

/-- An optional integer in front does not start with an id. -/
theorem takeWhile_integerTokens {p : Bytes → Bool} {keyword : String}
    (hkeyword : p (utf8 keyword) = false) (field : Option Int64) {rest : List Bytes}
    (hrest : rest.takeWhile p = []) : (integerTokens keyword field ++ rest).takeWhile p = [] := by
  cases field with
  | none => exact hrest
  | some n => exact List.takeWhile_cons_of_neg (by simp [hkeyword])

theorem takeWhile_flag {p : Bytes → Bool} {keyword : String} (hkeyword : p (utf8 keyword) = false)
    (given : Bool) {rest : List Bytes} (hrest : rest.takeWhile p = []) :
    ((if given then [utf8 keyword] else []) ++ rest).takeWhile p = [] := by
  cases given with
  | false => exact hrest
  | true => exact List.takeWhile_cons_of_neg (by simp [hkeyword])

/-- The tokens behind the ids of `XCLAIM`. -/
def claimTail (options : StreamClaimOptions) (justId : Bool) : List Bytes :=
  options.tokens ++ if justId then [utf8 "JUSTID"] else []

theorem claimTail_takeWhile (options : StreamClaimOptions) (justId : Bool) :
    (claimTail options justId).takeWhile (fun t => (claimTable t).isNone) = [] := by
  have hkeyword {t : Bytes} (ht : t ∈ xclaimKeywords) : (claimTable t).isNone = false := by
    cases hclause : claimTable t with
    | none => exact absurd ht ((claimTable_eq_none_iff t).mp hclause)
    | some clause => rfl
  simp only [claimTail, StreamClaimOptions.tokens, List.append_assoc]
  apply takeWhile_integerTokens (hkeyword (by decide))
  apply takeWhile_integerTokens (hkeyword (by decide))
  apply takeWhile_integerTokens (hkeyword (by decide))
  apply takeWhile_flag (hkeyword (by decide))
  rw [← List.append_nil (if justId = true then [utf8 "JUSTID"] else [])]
  exact takeWhile_flag (hkeyword (by decide)) justId rfl

theorem readClauses_claimTail (options : StreamClaimOptions) (justId : Bool) :
    readClauses claimTable (default, false) (claimTail options justId) =
      some ((options, justId), []) := by
  have hidle : claimTable (utf8 "IDLE") = _ := if_pos rfl
  have htime : claimTable (utf8 "TIME") =
      some (integerClause fun n s => ({ s.1 with idleUnixTime := some n }, s.2)) := by
    rw [claimTable, if_neg (by decide), if_pos rfl]
  have hretry : claimTable (utf8 "RETRYCOUNT") =
      some (integerClause fun n s => ({ s.1 with retryCount := some n }, s.2)) := by
    rw [claimTable, if_neg (by decide), if_neg (by decide), if_pos rfl]
  have hforce : claimTable (utf8 "FORCE") =
      some (.flag fun s => ({ s.1 with isForce := true }, s.2)) := by
    rw [claimTable, if_neg (by decide), if_neg (by decide), if_neg (by decide), if_pos rfl]
  have hjustid : claimTable (utf8 "JUSTID") = some (.flag fun s => (s.1, true)) := by
    rw [claimTable, if_neg (by decide), if_neg (by decide), if_neg (by decide),
      if_neg (by decide), if_pos rfl]
  simp only [claimTail, StreamClaimOptions.tokens, List.append_assoc]
  rw [readClauses_integer hidle, readClauses_integer htime, readClauses_integer hretry,
    readClauses_bool hforce, ← List.append_nil (if justId = true then [utf8 "JUSTID"] else []),
    readClauses_bool hjustid, readClauses_nil]
  obtain ⟨idle, time, retry, force⟩ := options
  cases idle <;> cases time <;> cases retry <;> cases force <;> cases justId <;> rfl

theorem readXclaim_tokens (key group consumer : Bytes) (minIdleTimeMs : Int64) {ids : List Bytes}
    (hids : ∀ id ∈ ids, id ∉ xclaimKeywords) (options : StreamClaimOptions) (justId : Bool) :
    readXclaim (key :: group :: consumer :: Decimal.renderInt minIdleTimeMs.toInt ::
        (ids ++ claimTail options justId)) =
      some (.claim key group consumer minIdleTimeMs ids options justId) := by
  have hall : ∀ id ∈ ids, (claimTable id).isNone = true := by
    intro id hid
    rw [(claimTable_eq_none_iff id).mpr (hids id hid)]
    rfl
  have htail := claimTail_takeWhile options justId
  have hdrop : (claimTail options justId).dropWhile (fun t => (claimTable t).isNone) =
      claimTail options justId := by
    have hsplit := List.takeWhile_append_dropWhile (p := fun t => (claimTable t).isNone)
      (l := claimTail options justId)
    rwa [htail, List.nil_append] at hsplit
  simp only [readXclaim, Decimal.readInt64_renderInt, List.takeWhile_append_of_pos hall,
    List.dropWhile_append_of_pos hall, htail, hdrop, readClauses_claimTail, List.append_nil]

/-! ## Round trips of the calls -/

section RoundTrip

variable {K F V : Type} [ToRedisArgs K] [ToRedisArgs F] [ToRedisArgs V]

/-- Absent options write what default options write. -/
theorem elim_tokens_getD {α : Type} [Inhabited α] {tokens : α → List Bytes}
    (hdefault : tokens default = []) (options : Option α) :
    options.elim [] tokens = tokens (options.getD default) := by
  cases options with
  | none => exact hdefault.symm
  | some o => rfl

/-- Pairs of single tokens are written one after the other. -/
theorem flatMap_pairs {pairs : List (F × V)} (h : ∀ p ∈ pairs, SingleToken p.1 ∧ SingleToken p.2) :
    (pairs.flatMap fun p => writeRedisArgs p.1 ++ writeRedisArgs p.2) =
      PairList.flatten (pairs.map fun p => (token p.1, token p.2)) := by
  rw [PairList.flatten, List.flatMap_map]
  apply List.flatMap_congr
  intro p hp
  rw [(h p hp).1, (h p hp).2]
  rfl

theorem args_xaddOptions {key : K} (hkey : SingleToken key) (id : String) {fields : List (F × V)}
    (hfields : ∀ p ∈ fields, SingleToken p.1 ∧ SingleToken p.2) (options : StreamAddOptions) :
    (xaddOptions key id fields options).args =
      utf8 "XADD" :: token key :: (options.tokens ++ utf8 id ::
        PairList.flatten (fields.map fun p => (token p.1, token p.2))) := by
  rw [xaddOptions, Cmd.args_argEachPair, flatMap_pairs hfields, Cmd.args_arg,
    StreamAddOptions.args_addTo, Cmd.args_arg, hkey]
  simp

theorem args_streams {keysIds : List (K × String)} (hkeys : ∀ p ∈ keysIds, SingleToken p.1)
    (c : Cmd) :
    (argStreams c keysIds).args = c.args ++ (utf8 "STREAMS" ::
      ((keysIds.map fun p => (token p.1, utf8 p.2)).map Prod.fst ++
        (keysIds.map fun p => (token p.1, utf8 p.2)).map Prod.snd)) := by
  have hflat : (keysIds.flatMap fun p => writeRedisArgs p.1) = keysIds.map fun p => token p.1 := by
    rw [List.map_eq_flatMap]
    apply List.flatMap_congr
    intro p hp
    exact hkeys p hp
  rw [args_argStreams, hflat, List.map_map, List.map_map]
  rfl

theorem args_xclaim {key : K} (hkey : SingleToken key) (group consumer : String)
    (minIdleTimeMs : Int64) (ids : List String) (options : Option StreamClaimOptions) :
    (xclaim key group consumer minIdleTimeMs ids options).args =
      utf8 "XCLAIM" :: token key :: utf8 group :: utf8 consumer ::
        Decimal.renderInt minIdleTimeMs.toInt ::
          (ids.map utf8 ++ (options.getD default).tokens) := by
  rw [xclaim, args_addOption StreamClaimOptions.args_addTo, elim_tokens_getD rfl]
  simp [hkey.write_eq, flatMap_writeRedisArgs_string]

theorem parse_xaddOptions {key : K} {id : String} {fields : List (F × V)}
    (options : StreamAddOptions) (h : (Call.xaddOptions key id fields options).Admissible) :
    parse (xaddOptions key id fields options).args =
      some (Call.xaddOptions key id fields options).request := by
  obtain ⟨hkey, hfields, hid⟩ := h
  rw [args_xaddOptions hkey id hfields, parse, if_pos rfl, readXadd_tokens _ _ hid]
  rfl

theorem parse_command (call : Call K F V) (h : call.Admissible) :
    parse call.command.args = some call.request := by
  cases call with
  | xadd key id fields =>
      rw [Call.command, xadd_eq_xaddOptions]
      exact parse_xaddOptions ⟨true, none⟩ h
  | xaddOptions key id fields options => exact parse_xaddOptions options h
  | xread keysIds options =>
      rw [Call.command, StreamCommands.xread, args_streams h,
        args_addOption StreamReadOptions.args_addTo, elim_tokens_getD rfl]
      change parse (utf8 "XREAD" :: _) = _
      rw [parse, if_neg (by decide), if_pos rfl]
      exact readXread_tokens _ _
  | xreadgroup group consumer keysIds options =>
      rw [Call.command, StreamCommands.xreadgroup, args_streams h,
        args_addOption StreamReadGroupOptions.args_addTo, elim_tokens_getD rfl]
      change parse (utf8 "XREADGROUP" :: _) = _
      rw [parse, if_neg (by decide), if_neg (by decide), if_pos rfl]
      exact readXreadgroup_tokens _ _ _ _
  | xclaim key group consumer minIdleTimeMs ids options =>
      have hids : ∀ id ∈ ids.map utf8, id ∉ xclaimKeywords := List.forall_mem_map.mpr h.2
      have hread := readXclaim_tokens (token key) (utf8 group) (utf8 consumer) minIdleTimeMs hids
        (options.getD default) false
      rw [claimTail, if_neg Bool.false_ne_true, List.append_nil] at hread
      rw [Call.command, args_xclaim h.1, parse, if_neg (by decide), if_neg (by decide),
        if_neg (by decide), if_pos rfl, hread]
      rfl
  | xclaimJustid key group consumer minIdleTimeMs ids options =>
      have hids : ∀ id ∈ ids.map utf8, id ∉ xclaimKeywords := List.forall_mem_map.mpr h.2
      have hread := readXclaim_tokens (token key) (utf8 group) (utf8 consumer) minIdleTimeMs hids
        (options.getD default) true
      have hargs : (xclaimJustid key group consumer minIdleTimeMs ids options).args =
          (xclaim key group consumer minIdleTimeMs ids options).args ++ [utf8 "JUSTID"] := rfl
      rw [claimTail, if_pos rfl, ← List.append_assoc] at hread
      rw [Call.command, hargs, args_xclaim h.1]
      simp only [List.cons_append]
      rw [parse, if_neg (by decide), if_neg (by decide), if_neg (by decide), if_pos rfl, hread]
      rfl

/-- Reading the tokens of a call gives back what the call asks for, so calls that
ask for different things send different tokens. -/
theorem stream_commands_uniquely_decodable :
    (∀ call : Call K F V, call.Admissible → parse call.command.args = some call.request) ∧
    (∀ call other : Call K F V, call.Admissible → other.Admissible →
      call.request ≠ other.request → call.command.args ≠ other.command.args) ∧
    (∀ (exact : Bool) (n : Int64) (limit : Option Int64),
      Decimal.readInt64 (trimRequest (StreamTrimOptions.maxLen exact n limit)).threshold =
        some n) := by
  refine ⟨parse_command, ?_, ?_⟩
  · intro call other hcall hother hne hsame
    exact hne (eq_of_read (parse_command call hcall) (parse_command other hother) hsame)
  · intro exact n limit
    change Decimal.readInt64 (utf8 (toString n.toInt)) = some n
    rw [utf8_toString, Decimal.readInt64_renderInt]

/-- A group, a consumer, a key and a field that are named like keywords. -/
theorem stream_commands_uniquely_decodable_keywords :
    parse (xreadgroup "STREAMS" "COUNT" [("STREAMS", ">")] (some ⟨some (-5), none, true⟩)).args =
        some (.readGroup (utf8 "STREAMS") (utf8 "COUNT") ⟨some (-5), none, true⟩
          [(utf8 "STREAMS", utf8 ">")]) ∧
      parse (xaddOptions "s" "*" [("MAXLEN", "LIMIT")]
          ⟨true, some (.maxLen false 7 none)⟩).args =
        some (.add (utf8 "s") true (some ⟨.maxLen, false, utf8 "7", none⟩) (utf8 "*")
          [(utf8 "MAXLEN", utf8 "LIMIT")]) := by
  have hparse := (stream_commands_uniquely_decodable (K := String) (F := String) (V := String)).1
  constructor
  · refine (hparse (.xreadgroup "STREAMS" "COUNT" [("STREAMS", ">")]
      (some ⟨some (-5), none, true⟩)) ?_).trans (by decide)
    intro p _
    rfl
  · refine (hparse (.xaddOptions "s" "*" [("MAXLEN", "LIMIT")]
      ⟨true, some (.maxLen false 7 none)⟩) ⟨rfl, fun p _ => ⟨rfl, rfl⟩, by decide⟩).trans ?_
    decide

end RoundTrip

end GlideRust.Commands.StreamGrammar
