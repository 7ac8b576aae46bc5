import GlideRust.Commands.CountedGrammar

/-!
# Stream administration

Reading ranges, trimming, acknowledging and inspecting a stream, and the care of
its consumer groups. Each command is read back from its line without a condition
on names and ids: where an optional part stands in front of other tokens, their
number tells whether it is there.
-/

namespace GlideRust.Commands.StreamAdmin

open Redis Options StreamCommands
open StreamGrammar (token SingleToken)
open ClauseGrammar (flagKeyword integerKeyword integerKeyword_read textKeyword given flagged)
open Lib Lib.TokenGrammar

/-! ## The commands -/

section Commands

variable {K : Type} [ToRedisArgs K]

def xlen (key : K) : Cmd := (Cmd.new.arg "XLEN").arg key

def xdel (key : K) (ids : List String) : Cmd := ((Cmd.new.arg "XDEL").arg key).argEach ids

def xtrimMaxlen (key : K) (maxlen : Int64) (approximate : Bool) : Cmd :=
  (addFlag approximate "~" (((Cmd.new.arg "XTRIM").arg key).arg "MAXLEN")).arg maxlen

def xtrimMinid (key : K) (minid : String) (approximate : Bool) : Cmd :=
  (addFlag approximate "~" (((Cmd.new.arg "XTRIM").arg key).arg "MINID")).arg minid

def xrange (key : K) (start stop : String) : Cmd :=
  (((Cmd.new.arg "XRANGE").arg key).arg start).arg stop

def xrevrange (key : K) (stop start : String) : Cmd :=
  (((Cmd.new.arg "XREVRANGE").arg key).arg stop).arg start

def xack (key : K) (group : String) (ids : List String) : Cmd :=
  (((Cmd.new.arg "XACK").arg key).arg group).argEach ids

def xautoclaim (key : K) (group consumer : String) (minIdleTimeMs : Int64) (start : String)
    (count : Option Int64) : Cmd :=
  addInteger "COUNT" count ((((((Cmd.new.arg "XAUTOCLAIM").arg key).arg group).arg consumer).arg
    minIdleTimeMs).arg start)

def xautoclaimJustid (key : K) (group consumer : String) (minIdleTimeMs : Int64) (start : String)
    (count : Option Int64) : Cmd :=
  (addInteger "COUNT" count ((((((Cmd.new.arg "XAUTOCLAIM").arg key).arg group).arg consumer).arg
    minIdleTimeMs).arg start)).arg "JUSTID"

def xpending (key : K) (group : String) : Cmd := ((Cmd.new.arg "XPENDING").arg key).arg group

def xpendingRange (key : K) (group start stop : String) (count : Int64)
    (minIdleTimeMs : Option Int64) (consumer : Option String) : Cmd :=
  let c := addInteger "IDLE" minIdleTimeMs (((Cmd.new.arg "XPENDING").arg key).arg group)
  addOption consumer (fun name c => c.arg name) (((c.arg start).arg stop).arg count)

def xinfoStream (key : K) : Cmd := ((Cmd.new.arg "XINFO").arg "STREAM").arg key

def xinfoStreamFull (key : K) (count : Option Int64) : Cmd :=
  addInteger "COUNT" count ((((Cmd.new.arg "XINFO").arg "STREAM").arg key).arg "FULL")

def xinfoGroups (key : K) : Cmd := ((Cmd.new.arg "XINFO").arg "GROUPS").arg key

def xinfoConsumers (key : K) (group : String) : Cmd :=
  (((Cmd.new.arg "XINFO").arg "CONSUMERS").arg key).arg group

def xsetid (key : K) (lastId : String) (entriesAdded : Option Int64)
    (maxDeletedId : Option String) : Cmd :=
  addOption maxDeletedId (fun id c => (c.arg "MAXDELETEDID").arg id)
    (addInteger "ENTRIESADDED" entriesAdded (((Cmd.new.arg "XSETID").arg key).arg lastId))

def xgroupDestroy (key : K) (group : String) : Cmd :=
  (((Cmd.new.arg "XGROUP").arg "DESTROY").arg key).arg group

def xgroupCreateConsumer (key : K) (group consumer : String) : Cmd :=
  ((((Cmd.new.arg "XGROUP").arg "CREATECONSUMER").arg key).arg group).arg consumer

def xgroupDelConsumer (key : K) (group consumer : String) : Cmd :=
  ((((Cmd.new.arg "XGROUP").arg "DELCONSUMER").arg key).arg group).arg consumer

def xgroupSetId (key : K) (group id : String) (entriesRead : Option Int64) : Cmd :=
  addInteger "ENTRIESREAD" entriesRead
    (((((Cmd.new.arg "XGROUP").arg "SETID").arg key).arg group).arg id)

end Commands

/-! ## Clauses -/

/-- The options behind the tokens at fixed places. -/
inductive AdminClause where
  | mkStream
  | full
  | justId
  | count (n : Int64)
  | entriesRead (n : Int64)
  | entriesAdded (n : Int64)
  | maxDeletedId (id : Bytes)

def adminClauses : Vocabulary Bytes AdminClause where
  keywords :=
    [flagKeyword "MKSTREAM" .mkStream, flagKeyword "FULL" .full, flagKeyword "JUSTID" .justId,
      integerKeyword "COUNT" .count, integerKeyword "ENTRIESREAD" .entriesRead,
      integerKeyword "ENTRIESADDED" .entriesAdded, textKeyword "MAXDELETEDID" .maxDeletedId]
  distinct := by decide
  word
    | .mkStream => utf8 "MKSTREAM"
    | .full => utf8 "FULL"
    | .justId => utf8 "JUSTID"
    | .count _ => utf8 "COUNT"
    | .entriesRead _ => utf8 "ENTRIESREAD"
    | .entriesAdded _ => utf8 "ENTRIESADDED"
    | .maxDeletedId _ => utf8 "MAXDELETEDID"
  values
    | .mkStream | .full | .justId => []
    | .count n | .entriesRead n | .entriesAdded n => [Decimal.renderInt n.toInt]
    | .maxDeletedId id => [id]
  spelled := by
    intro clause
    cases clause with
    | mkStream => exact ⟨flagKeyword "MKSTREAM" .mkStream, by simp, rfl, rfl, rfl⟩
    | full => exact ⟨flagKeyword "FULL" .full, by simp, rfl, rfl, rfl⟩
    | justId => exact ⟨flagKeyword "JUSTID" .justId, by simp, rfl, rfl, rfl⟩
    | count n => exact ⟨integerKeyword "COUNT" .count, by simp, rfl, rfl, integerKeyword_read ..⟩
    | entriesRead n =>
        exact ⟨integerKeyword "ENTRIESREAD" .entriesRead, by simp, rfl, rfl,
          integerKeyword_read ..⟩
    | entriesAdded n =>
        exact ⟨integerKeyword "ENTRIESADDED" .entriesAdded, by simp, rfl, rfl,
          integerKeyword_read ..⟩
    | maxDeletedId id =>
        exact ⟨textKeyword "MAXDELETEDID" .maxDeletedId, by simp, rfl, rfl, rfl⟩

structure AdminOptions where
  mkStream : Bool := false
  full : Bool := false
  justId : Bool := false
  count : Option Int64 := none
  entriesRead : Option Int64 := none
  entriesAdded : Option Int64 := none
  maxDeletedId : Option Bytes := none
  deriving DecidableEq, Repr

namespace AdminOptions

/-- In the order in which the client writes them. -/
def clauses (o : AdminOptions) : List AdminClause :=
  flagged o.mkStream .mkStream ++ flagged o.full .full ++ given o.count .count ++
    given o.entriesRead .entriesRead ++ given o.entriesAdded .entriesAdded ++
    given o.maxDeletedId .maxDeletedId ++ flagged o.justId .justId

def put (o : AdminOptions) : AdminClause → AdminOptions
  | .mkStream => { o with mkStream := true }
  | .full => { o with full := true }
  | .justId => { o with justId := true }
  | .count n => { o with count := some n }
  | .entriesRead n => { o with entriesRead := some n }
  | .entriesAdded n => { o with entriesAdded := some n }
  | .maxDeletedId id => { o with maxDeletedId := some id }

def collect (clauses : List AdminClause) : AdminOptions := clauses.foldl put {}

theorem collect_clauses (o : AdminOptions) : collect o.clauses = o := by
  obtain ⟨mkStream, full, justId, count, entriesRead, entriesAdded, maxDeletedId⟩ := o
  cases mkStream <;> cases full <;> cases justId <;> cases count <;> cases entriesRead <;>
    cases entriesAdded <;> cases maxDeletedId <;> rfl

def tokens (o : AdminOptions) : List Bytes := o.clauses.flatMap adminClauses.encode

end AdminOptions

/-- Read the options up to the end of the line. -/
def readOptions (tokens : List Bytes) : Option AdminOptions :=
  (adminClauses.read tokens).map AdminOptions.collect

theorem readOptions_tokens (o : AdminOptions) : readOptions o.tokens = some o := by
  rw [readOptions, AdminOptions.tokens, Vocabulary.read_encode, Option.map_some,
    AdminOptions.collect_clauses]

/-! ## Requests -/

inductive Threshold where
  | maxLen (n : Int64)
  | minId (id : Bytes)
  deriving DecidableEq, Repr

/-- What a server can be asked with these commands. -/
inductive Request where
  | len (key : Bytes)
  | del (key : Bytes) (ids : List Bytes)
  | trim (key : Bytes) (threshold : Threshold) (approximate : Bool)
  | range (key start stop : Bytes)
  | revrange (key stop start : Bytes)
  | ack (key group : Bytes) (ids : List Bytes)
  | autoclaim (key group consumer : Bytes) (minIdle : Int64) (start : Bytes)
      (count : Option Int64) (justId : Bool)
  | pending (key group : Bytes)
  | pendingRange (key group : Bytes) (idle : Option Int64) (start stop : Bytes) (count : Int64)
      (consumer : Option Bytes)
  | infoStream (key : Bytes)
  | infoStreamFull (key : Bytes) (count : Option Int64)
  | infoGroups (key : Bytes)
  | infoConsumers (key group : Bytes)
  | setId (key lastId : Bytes) (entriesAdded : Option Int64) (maxDeletedId : Option Bytes)
  | groupCreate (key group id : Bytes) (options : StreamGroupCreateOptions)
  | groupDestroy (key group : Bytes)
  | groupCreateConsumer (key group consumer : Bytes)
  | groupDelConsumer (key group consumer : Bytes)
  | groupSetId (key group id : Bytes) (entriesRead : Option Int64)
  deriving DecidableEq, Repr

def markTokens (approximate : Bool) (threshold : Bytes) : List Bytes :=
  if approximate then [utf8 "~", threshold] else [threshold]

/-- The optional parts of `XPENDING` around the range. -/
def pendingTokens (idle : Option Int64) (start stop count : Bytes) (consumer : Option Bytes) :
    List Bytes :=
  idle.elim [] (fun ms => [utf8 "IDLE", Decimal.renderInt ms.toInt]) ++
    start :: stop :: count :: consumer.toList

/-- The command line of a request. -/
def Request.encode : Request → List Bytes
  | len key => [utf8 "XLEN", key]
  | del key ids => utf8 "XDEL" :: key :: ids
  | trim key (.maxLen n) approximate =>
      utf8 "XTRIM" :: key :: utf8 "MAXLEN" :: markTokens approximate (Decimal.renderInt n.toInt)
  | trim key (.minId id) approximate =>
      utf8 "XTRIM" :: key :: utf8 "MINID" :: markTokens approximate id
  | range key start stop => [utf8 "XRANGE", key, start, stop]
  | revrange key stop start => [utf8 "XREVRANGE", key, stop, start]
  | ack key group ids => utf8 "XACK" :: key :: group :: ids
  | autoclaim key group consumer minIdle start count justId =>
      utf8 "XAUTOCLAIM" :: key :: group :: consumer :: Decimal.renderInt minIdle.toInt :: start ::
        AdminOptions.tokens { count, justId }
  | pending key group => [utf8 "XPENDING", key, group]
  | pendingRange key group idle start stop count consumer =>
      utf8 "XPENDING" :: key :: group ::
        pendingTokens idle start stop (Decimal.renderInt count.toInt) consumer
  | infoStream key => [utf8 "XINFO", utf8 "STREAM", key]
  | infoStreamFull key count =>
      utf8 "XINFO" :: utf8 "STREAM" :: key :: AdminOptions.tokens { full := true, count }
  | infoGroups key => [utf8 "XINFO", utf8 "GROUPS", key]
  | infoConsumers key group => [utf8 "XINFO", utf8 "CONSUMERS", key, group]
  | setId key lastId entriesAdded maxDeletedId =>
      utf8 "XSETID" :: key :: lastId :: AdminOptions.tokens { entriesAdded, maxDeletedId }
  | groupCreate key group id options =>
      utf8 "XGROUP" :: utf8 "CREATE" :: key :: group :: id ::
        AdminOptions.tokens { mkStream := options.makeStream, entriesRead := options.entriesRead }
  | groupDestroy key group => [utf8 "XGROUP", utf8 "DESTROY", key, group]
  | groupCreateConsumer key group consumer =>
      [utf8 "XGROUP", utf8 "CREATECONSUMER", key, group, consumer]
  | groupDelConsumer key group consumer =>
      [utf8 "XGROUP", utf8 "DELCONSUMER", key, group, consumer]
  | groupSetId key group id entriesRead =>
      utf8 "XGROUP" :: utf8 "SETID" :: key :: group :: id :: AdminOptions.tokens { entriesRead }

/-! ## The reader -/

/-- A threshold, with or without the mark in front of it. -/
def readMarked (read : Bytes → Option Threshold) : List Bytes → Option (Threshold × Bool)
  | [threshold] => (read threshold).map (·, false)
  | [mark, threshold] => if mark = utf8 "~" then (read threshold).map (·, true) else none
  | _ => none

def readThreshold (strategy : Bytes) (t : Bytes) : Option Threshold :=
  if strategy = utf8 "MAXLEN" then (Decimal.readInt64 t).map .maxLen
  else if strategy = utf8 "MINID" then some (.minId t)
  else none

def readTrim : List Bytes → Option Request
  | key :: strategy :: rest =>
      (readMarked (readThreshold strategy) rest).map fun (threshold, approximate) =>
        .trim key threshold approximate
  | _ => none

def readAutoclaim : List Bytes → Option Request
  | key :: group :: consumer :: minIdle :: start :: rest => do
      let minIdle ← Decimal.readInt64 minIdle
      let options ← readOptions rest
      if options = { count := options.count, justId := options.justId } then
        some (.autoclaim key group consumer minIdle start options.count options.justId)
      else none
  | _ => none

/-- The range behind `IDLE`, if that stands there, and an optional consumer. -/
def readRange (key group : Bytes) (idle : Option Int64) : List Bytes → Option Request
  | start :: stop :: count :: rest =>
      if rest.length ≤ 1 then
        (Decimal.readInt64 count).map fun count =>
          .pendingRange key group idle start stop count rest.head?
      else none
  | _ => none

/-- How many tokens there are tells whether `IDLE` is among them. -/
def readPending : List Bytes → Option Request
  | [key, group] => some (.pending key group)
  | key :: group :: a :: b :: rest =>
      if rest.length ≤ 2 then readRange key group none (a :: b :: rest)
      else if a = utf8 "IDLE" then
        (Decimal.readInt64 b).bind fun idle => readRange key group (some idle) rest
      else none
  | _ => none

def readInfoStream : List Bytes → Option Request
  | [key] => some (.infoStream key)
  | key :: rest => do
      let options ← readOptions rest
      if options = { full := true, count := options.count } then
        some (.infoStreamFull key options.count)
      else none
  | _ => none

def readSetId : List Bytes → Option Request
  | key :: lastId :: rest => do
      let options ← readOptions rest
      if options = { entriesAdded := options.entriesAdded, maxDeletedId := options.maxDeletedId } then
        some (.setId key lastId options.entriesAdded options.maxDeletedId)
      else none
  | _ => none

def readGroupCreate : List Bytes → Option Request
  | key :: group :: id :: rest => do
      let options ← readOptions rest
      if options = { mkStream := options.mkStream, entriesRead := options.entriesRead } then
        some (.groupCreate key group id ⟨options.mkStream, options.entriesRead⟩)
      else none
  | _ => none

def readGroupSetId : List Bytes → Option Request
  | key :: group :: id :: rest => do
      let options ← readOptions rest
      if options = { entriesRead := options.entriesRead } then
        some (.groupSetId key group id options.entriesRead)
      else none
  | _ => none

/-- A command with a fixed number of tokens. -/
def readOne (make : Bytes → Request) : List Bytes → Option Request
  | [a] => some (make a)
  | _ => none

def readTwo (make : Bytes → Bytes → Request) : List Bytes → Option Request
  | [a, b] => some (make a b)
  | _ => none

def readThree (make : Bytes → Bytes → Bytes → Request) : List Bytes → Option Request
  | [a, b, c] => some (make a b c)
  | _ => none

def readDel : List Bytes → Option Request
  | key :: ids => some (.del key ids)
  | _ => none

def readAck : List Bytes → Option Request
  | key :: group :: ids => some (.ack key group ids)
  | _ => none

def infoCommands : List (Command Bytes Request) :=
  [⟨utf8 "STREAM", readInfoStream⟩, ⟨utf8 "GROUPS", readOne .infoGroups⟩,
    ⟨utf8 "CONSUMERS", readTwo .infoConsumers⟩]

def groupCommands : List (Command Bytes Request) :=
  [⟨utf8 "CREATE", readGroupCreate⟩, ⟨utf8 "DESTROY", readTwo .groupDestroy⟩,
    ⟨utf8 "CREATECONSUMER", readThree .groupCreateConsumer⟩,
    ⟨utf8 "DELCONSUMER", readThree .groupDelConsumer⟩, ⟨utf8 "SETID", readGroupSetId⟩]

def commands : List (Command Bytes Request) :=
  [⟨utf8 "XLEN", readOne .len⟩, ⟨utf8 "XDEL", readDel⟩, ⟨utf8 "XTRIM", readTrim⟩,
    ⟨utf8 "XRANGE", readThree .range⟩, ⟨utf8 "XREVRANGE", readThree .revrange⟩,
    ⟨utf8 "XACK", readAck⟩, ⟨utf8 "XAUTOCLAIM", readAutoclaim⟩, ⟨utf8 "XPENDING", readPending⟩,
    ⟨utf8 "XSETID", readSetId⟩, ⟨utf8 "XINFO", readCommand infoCommands⟩,
    ⟨utf8 "XGROUP", readCommand groupCommands⟩]

theorem infoCommands_distinct : (infoCommands.map Command.name).Nodup := by decide

theorem groupCommands_distinct : (groupCommands.map Command.name).Nodup := by decide

theorem commands_distinct : (commands.map Command.name).Nodup := by decide

def parse (tokens : List Bytes) : Option Request := readCommand commands tokens

theorem parse_cons {name : Bytes} (read : List Bytes → Option Request)
    (hmem : ⟨name, read⟩ ∈ commands) (rest : List Bytes) : parse (name :: rest) = read rest :=
  readCommand_cons commands_distinct hmem rest

theorem parse_info {name : Bytes} (read : List Bytes → Option Request)
    (hmem : ⟨name, read⟩ ∈ infoCommands) (rest : List Bytes) :
    parse (utf8 "XINFO" :: name :: rest) = read rest :=
  (parse_cons _ (by simp [commands]) _).trans (readCommand_cons infoCommands_distinct hmem rest)

theorem parse_group {name : Bytes} (read : List Bytes → Option Request)
    (hmem : ⟨name, read⟩ ∈ groupCommands) (rest : List Bytes) :
    parse (utf8 "XGROUP" :: name :: rest) = read rest :=
  (parse_cons _ (by simp [commands]) _).trans (readCommand_cons groupCommands_distinct hmem rest)

theorem readMarked_tokens {read : Bytes → Option Threshold} {t : Bytes} {threshold : Threshold}
    (hread : read t = some threshold) (approximate : Bool) :
    readMarked read (markTokens approximate t) = some (threshold, approximate) := by
  cases approximate <;> simp [markTokens, readMarked, hread]

theorem readPending_tokens (key group : Bytes) (idle : Option Int64) (start stop : Bytes)
    (count : Int64) (consumer : Option Bytes) :
    readPending (key :: group ::
        pendingTokens idle start stop (Decimal.renderInt count.toInt) consumer) =
      some (.pendingRange key group idle start stop count consumer) := by
  cases idle <;> cases consumer <;>
    simp [pendingTokens, readPending, readRange]

/-- `FULL` is behind the key of the full form, so that it is not taken for the short one. -/
theorem readInfoStream_full (key : Bytes) (count : Option Int64) :
    readInfoStream (key :: AdminOptions.tokens { full := true, count }) =
      some (.infoStreamFull key count) := by
  have hread := readOptions_tokens { full := true, count }
  cases htokens : AdminOptions.tokens { full := true, count } with
  | nil => cases count <;> cases htokens
  | cons t ts =>
      rw [htokens] at hread
      simp [readInfoStream, hread]

/-- Every request is read back from its command line. -/
theorem parse_encode (request : Request) : parse request.encode = some request := by
  cases request with
  | len key => exact parse_cons (readOne .len) (by simp [commands]) [key]
  | del key ids => exact parse_cons readDel (by simp [commands]) (key :: ids)
  | trim key threshold approximate =>
      have hmem : ⟨utf8 "XTRIM", readTrim⟩ ∈ commands := by simp [commands]
      cases threshold with
      | maxLen n =>
          have hread : readThreshold (utf8 "MAXLEN") (Decimal.renderInt n.toInt) =
              some (.maxLen n) := by
            simp [readThreshold]
          rw [Request.encode, parse_cons _ hmem, readTrim, readMarked_tokens hread, Option.map_some]
      | minId id =>
          have hread : readThreshold (utf8 "MINID") id = some (.minId id) := by
            rw [readThreshold, if_neg (by decide), if_pos rfl]
          rw [Request.encode, parse_cons _ hmem, readTrim, readMarked_tokens hread, Option.map_some]
  | range key start stop =>
      exact parse_cons (readThree .range) (by simp [commands]) [key, start, stop]
  | revrange key stop start =>
      exact parse_cons (readThree .revrange) (by simp [commands]) [key, stop, start]
  | ack key group ids =>
      exact parse_cons readAck (by simp [commands]) (key :: group :: ids)
  | autoclaim key group consumer minIdle start count justId =>
      have hmem : ⟨utf8 "XAUTOCLAIM", readAutoclaim⟩ ∈ commands := by simp [commands]
      rw [Request.encode, parse_cons _ hmem]
      simp [readAutoclaim, readOptions_tokens]
  | pending key group =>
      exact parse_cons readPending (by simp [commands]) [key, group]
  | pendingRange key group idle start stop count consumer =>
      have hmem : ⟨utf8 "XPENDING", readPending⟩ ∈ commands := by simp [commands]
      rw [Request.encode, parse_cons _ hmem, readPending_tokens]
  | infoStream key =>
      exact parse_info readInfoStream (by simp [infoCommands]) [key]
  | infoStreamFull key count =>
      have hmem : ⟨utf8 "STREAM", readInfoStream⟩ ∈ infoCommands := by simp [infoCommands]
      rw [Request.encode, parse_info _ hmem, readInfoStream_full]
  | infoGroups key =>
      exact parse_info (readOne .infoGroups) (by simp [infoCommands]) [key]
  | infoConsumers key group =>
      exact parse_info (readTwo .infoConsumers) (by simp [infoCommands]) [key, group]
  | setId key lastId entriesAdded maxDeletedId =>
      have hmem : ⟨utf8 "XSETID", readSetId⟩ ∈ commands := by simp [commands]
      rw [Request.encode, parse_cons _ hmem]
      simp [readSetId, readOptions_tokens]
  | groupCreate key group id options =>
      have hmem : ⟨utf8 "CREATE", readGroupCreate⟩ ∈ groupCommands := by simp [groupCommands]
      rw [Request.encode, parse_group _ hmem]
      simp [readGroupCreate, readOptions_tokens]
  | groupDestroy key group =>
      exact parse_group (readTwo .groupDestroy) (by simp [groupCommands]) [key, group]
  | groupCreateConsumer key group consumer =>
      exact parse_group (readThree .groupCreateConsumer) (by simp [groupCommands])
        [key, group, consumer]
  | groupDelConsumer key group consumer =>
      exact parse_group (readThree .groupDelConsumer) (by simp [groupCommands])
        [key, group, consumer]
  | groupSetId key group id entriesRead =>
      have hmem : ⟨utf8 "SETID", readGroupSetId⟩ ∈ groupCommands := by simp [groupCommands]
      rw [Request.encode, parse_group _ hmem]
      simp [readGroupSetId, readOptions_tokens]

/-! ## The client's calls -/

/-- The calls, with all their arguments. -/
inductive Call (K : Type) where
  | xlen (key : K)
  | xdel (key : K) (ids : List String)
  | xtrimMaxlen (key : K) (maxlen : Int64) (approximate : Bool)
  | xtrimMinid (key : K) (minid : String) (approximate : Bool)
  | xrange (key : K) (start stop : String)
  | xrevrange (key : K) (stop start : String)
  | xack (key : K) (group : String) (ids : List String)
  | xautoclaim (key : K) (group consumer : String) (minIdleTimeMs : Int64) (start : String)
      (count : Option Int64)
  | xautoclaimJustid (key : K) (group consumer : String) (minIdleTimeMs : Int64) (start : String)
      (count : Option Int64)
  | xpending (key : K) (group : String)
  | xpendingRange (key : K) (group start stop : String) (count : Int64)
      (minIdleTimeMs : Option Int64) (consumer : Option String)
  | xinfoStream (key : K)
  | xinfoStreamFull (key : K) (count : Option Int64)
  | xinfoGroups (key : K)
  | xinfoConsumers (key : K) (group : String)
  | xsetid (key : K) (lastId : String) (entriesAdded : Option Int64)
      (maxDeletedId : Option String)
  | xgroupCreate (key : K) (group id : String) (mkstream : Bool)
  | xgroupCreateOptions (key : K) (group id : String) (options : StreamGroupCreateOptions)
  | xgroupDestroy (key : K) (group : String)
  | xgroupCreateConsumer (key : K) (group consumer : String)
  | xgroupDelConsumer (key : K) (group consumer : String)
  | xgroupSetId (key : K) (group id : String) (entriesRead : Option Int64)

namespace Call

variable {K : Type} [ToRedisArgs K]

/-- The command that a call sends. -/
def command : Call K → Cmd
  | xlen key => StreamAdmin.xlen key
  | xdel key ids => StreamAdmin.xdel key ids
  | xtrimMaxlen key maxlen approximate => StreamAdmin.xtrimMaxlen key maxlen approximate
  | xtrimMinid key minid approximate => StreamAdmin.xtrimMinid key minid approximate
  | xrange key start stop => StreamAdmin.xrange key start stop
  | xrevrange key stop start => StreamAdmin.xrevrange key stop start
  | xack key group ids => StreamAdmin.xack key group ids
  | xautoclaim key group consumer minIdleTimeMs start count =>
      StreamAdmin.xautoclaim key group consumer minIdleTimeMs start count
  | xautoclaimJustid key group consumer minIdleTimeMs start count =>
      StreamAdmin.xautoclaimJustid key group consumer minIdleTimeMs start count
  | xpending key group => StreamAdmin.xpending key group
  | xpendingRange key group start stop count minIdleTimeMs consumer =>
      StreamAdmin.xpendingRange key group start stop count minIdleTimeMs consumer
  | xinfoStream key => StreamAdmin.xinfoStream key
  | xinfoStreamFull key count => StreamAdmin.xinfoStreamFull key count
  | xinfoGroups key => StreamAdmin.xinfoGroups key
  | xinfoConsumers key group => StreamAdmin.xinfoConsumers key group
  | xsetid key lastId entriesAdded maxDeletedId =>
      StreamAdmin.xsetid key lastId entriesAdded maxDeletedId
  | xgroupCreate key group id mkstream => StreamCommands.xgroupCreate key group id mkstream
  | xgroupCreateOptions key group id options =>
      StreamCommands.xgroupCreateOptions key group id options
  | xgroupDestroy key group => StreamAdmin.xgroupDestroy key group
  | xgroupCreateConsumer key group consumer => StreamAdmin.xgroupCreateConsumer key group consumer
  | xgroupDelConsumer key group consumer => StreamAdmin.xgroupDelConsumer key group consumer
  | xgroupSetId key group id entriesRead => StreamAdmin.xgroupSetId key group id entriesRead

def key : Call K → K
  | xlen key | xdel key _ | xtrimMaxlen key _ _ | xtrimMinid key _ _ | xrange key _ _
  | xrevrange key _ _ | xack key _ _ | xautoclaim key _ _ _ _ _ | xautoclaimJustid key _ _ _ _ _
  | xpending key _ | xpendingRange key _ _ _ _ _ _ | xinfoStream key | xinfoStreamFull key _
  | xinfoGroups key | xinfoConsumers key _ | xsetid key _ _ _ | xgroupCreate key _ _ _
  | xgroupCreateOptions key _ _ _ | xgroupDestroy key _ | xgroupCreateConsumer key _ _
  | xgroupDelConsumer key _ _ | xgroupSetId key _ _ _ => key

/-- The key writes one token; groups, consumers and ids are strings and always do. -/
def Admissible (call : Call K) : Prop := SingleToken call.key

/-- What a call asks for. -/
def request : Call K → Request
  | xlen key => .len (token key)
  | xdel key ids => .del (token key) (ids.map utf8)
  | xtrimMaxlen key maxlen approximate => .trim (token key) (.maxLen maxlen) approximate
  | xtrimMinid key minid approximate => .trim (token key) (.minId (utf8 minid)) approximate
  | xrange key start stop => .range (token key) (utf8 start) (utf8 stop)
  | xrevrange key stop start => .revrange (token key) (utf8 stop) (utf8 start)
  | xack key group ids => .ack (token key) (utf8 group) (ids.map utf8)
  | xautoclaim key group consumer minIdleTimeMs start count =>
      .autoclaim (token key) (utf8 group) (utf8 consumer) minIdleTimeMs (utf8 start) count false
  | xautoclaimJustid key group consumer minIdleTimeMs start count =>
      .autoclaim (token key) (utf8 group) (utf8 consumer) minIdleTimeMs (utf8 start) count true
  | xpending key group => .pending (token key) (utf8 group)
  | xpendingRange key group start stop count minIdleTimeMs consumer =>
      .pendingRange (token key) (utf8 group) minIdleTimeMs (utf8 start) (utf8 stop) count
        (consumer.map utf8)
  | xinfoStream key => .infoStream (token key)
  | xinfoStreamFull key count => .infoStreamFull (token key) count
  | xinfoGroups key => .infoGroups (token key)
  | xinfoConsumers key group => .infoConsumers (token key) (utf8 group)
  | xsetid key lastId entriesAdded maxDeletedId =>
      .setId (token key) (utf8 lastId) entriesAdded (maxDeletedId.map utf8)
  | xgroupCreate key group id mkstream =>
      .groupCreate (token key) (utf8 group) (utf8 id) ⟨mkstream, none⟩
  | xgroupCreateOptions key group id options =>
      .groupCreate (token key) (utf8 group) (utf8 id) options
  | xgroupDestroy key group => .groupDestroy (token key) (utf8 group)
  | xgroupCreateConsumer key group consumer =>
      .groupCreateConsumer (token key) (utf8 group) (utf8 consumer)
  | xgroupDelConsumer key group consumer =>
      .groupDelConsumer (token key) (utf8 group) (utf8 consumer)
  | xgroupSetId key group id entriesRead =>
      .groupSetId (token key) (utf8 group) (utf8 id) entriesRead

end Call

section RoundTrip

variable {K : Type} [ToRedisArgs K]

/-- The options of these commands, as the client writes them. -/
theorem tokens_of_count (count : Option Int64) (justId : Bool) :
    AdminOptions.tokens { count, justId } =
      integerTokens "COUNT" count ++ if justId then [utf8 "JUSTID"] else [] := by
  cases count <;> cases justId <;> rfl

theorem tokens_of_full (count : Option Int64) :
    AdminOptions.tokens { full := true, count } =
      utf8 "FULL" :: integerTokens "COUNT" count := by
  cases count <;> rfl

theorem tokens_of_setId (entriesAdded : Option Int64) (maxDeletedId : Option Bytes) :
    AdminOptions.tokens { entriesAdded, maxDeletedId } =
      integerTokens "ENTRIESADDED" entriesAdded ++
        maxDeletedId.elim [] fun id => [utf8 "MAXDELETEDID", id] := by
  cases entriesAdded <;> cases maxDeletedId <;> rfl

theorem tokens_of_group (options : StreamGroupCreateOptions) :
    AdminOptions.tokens { mkStream := options.makeStream, entriesRead := options.entriesRead } =
      options.tokens := by
  obtain ⟨makeStream, entriesRead⟩ := options
  cases makeStream <;> cases entriesRead <;> rfl

/-- The command line of a call is that of its request. -/
theorem args_command (call : Call K) (h : call.Admissible) :
    call.command.args = call.request.encode := by
  cases call with
  | xlen key =>
      have hkey : writeRedisArgs key = [token key] := h
      simp [Call.command, xlen, hkey, Call.request, Request.encode]
  | xdel key ids =>
      have hkey : writeRedisArgs key = [token key] := h
      simp [Call.command, xdel, hkey, Call.request, Request.encode, flatMap_writeRedisArgs_string]
  | xtrimMaxlen key maxlen approximate =>
      have hkey : writeRedisArgs key = [token key] := h
      cases approximate <;>
        simp [Call.command, xtrimMaxlen, addFlag, hkey, Call.request, Request.encode, markTokens]
  | xtrimMinid key minid approximate =>
      have hkey : writeRedisArgs key = [token key] := h
      cases approximate <;>
        simp [Call.command, xtrimMinid, addFlag, hkey, Call.request, Request.encode, markTokens]
  | xrange key start stop =>
      have hkey : writeRedisArgs key = [token key] := h
      simp [Call.command, xrange, hkey, Call.request, Request.encode]
  | xrevrange key stop start =>
      have hkey : writeRedisArgs key = [token key] := h
      simp [Call.command, xrevrange, hkey, Call.request, Request.encode]
  | xack key group ids =>
      have hkey : writeRedisArgs key = [token key] := h
      simp [Call.command, xack, hkey, Call.request, Request.encode, flatMap_writeRedisArgs_string]
  | xautoclaim key group consumer minIdleTimeMs start count =>
      have hkey : writeRedisArgs key = [token key] := h
      simp [Call.command, xautoclaim, hkey, Call.request, Request.encode, tokens_of_count]
  | xautoclaimJustid key group consumer minIdleTimeMs start count =>
      have hkey : writeRedisArgs key = [token key] := h
      simp [Call.command, xautoclaimJustid, hkey, Call.request, Request.encode, tokens_of_count]
  | xpending key group =>
      have hkey : writeRedisArgs key = [token key] := h
      simp [Call.command, xpending, hkey, Call.request, Request.encode]
  | xpendingRange key group start stop count minIdleTimeMs consumer =>
      have hkey : writeRedisArgs key = [token key] := h
      cases minIdleTimeMs <;> cases consumer <;>
        simp [Call.command, xpendingRange, addOption, integerTokens, hkey, Call.request,
          Request.encode, pendingTokens]
  | xinfoStream key =>
      have hkey : writeRedisArgs key = [token key] := h
      simp [Call.command, xinfoStream, hkey, Call.request, Request.encode]
  | xinfoStreamFull key count =>
      have hkey : writeRedisArgs key = [token key] := h
      simp [Call.command, xinfoStreamFull, hkey, Call.request, Request.encode, tokens_of_full]
  | xinfoGroups key =>
      have hkey : writeRedisArgs key = [token key] := h
      simp [Call.command, xinfoGroups, hkey, Call.request, Request.encode]
  | xinfoConsumers key group =>
      have hkey : writeRedisArgs key = [token key] := h
      simp [Call.command, xinfoConsumers, hkey, Call.request, Request.encode]
  | xsetid key lastId entriesAdded maxDeletedId =>
      have hkey : writeRedisArgs key = [token key] := h
      cases maxDeletedId <;>
        simp [Call.command, xsetid, addOption, hkey, Call.request, Request.encode, tokens_of_setId]
  | xgroupCreate key group id mkstream =>
      have hkey : writeRedisArgs key = [token key] := h
      have htokens := tokens_of_group ⟨mkstream, none⟩
      simp_all [Call.command, StreamCommands.xgroupCreate, Call.request, Request.encode,
        StreamGroupCreateOptions.tokens, integerTokens]
  | xgroupCreateOptions key group id options =>
      have hkey : writeRedisArgs key = [token key] := h
      simp [Call.command, StreamCommands.xgroupCreateOptions, StreamGroupCreateOptions.args_addTo,
        hkey, Call.request, Request.encode, tokens_of_group]
  | xgroupDestroy key group =>
      have hkey : writeRedisArgs key = [token key] := h
      simp [Call.command, xgroupDestroy, hkey, Call.request, Request.encode]
  | xgroupCreateConsumer key group consumer =>
      have hkey : writeRedisArgs key = [token key] := h
      simp [Call.command, xgroupCreateConsumer, hkey, Call.request, Request.encode]
  | xgroupDelConsumer key group consumer =>
      have hkey : writeRedisArgs key = [token key] := h
      simp [Call.command, xgroupDelConsumer, hkey, Call.request, Request.encode]
  | xgroupSetId key group id entriesRead =>
      have hkey : writeRedisArgs key = [token key] := h
      have htokens := tokens_of_group ⟨false, entriesRead⟩
      simp_all [Call.command, xgroupSetId, Call.request, Request.encode,
        StreamGroupCreateOptions.tokens]

end RoundTrip

end GlideRust.Commands.StreamAdmin
