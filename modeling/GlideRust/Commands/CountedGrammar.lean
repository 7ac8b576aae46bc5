import GlideRust.Commands.ClauseGrammar
import GlideRust.Commands.Counted

/-!
# Command lines with a counted section

The commands that announce a number of keys, fields or pairs, read as a server
reads them: a name, tokens at fixed places, options, and behind the count as many
items as it says. Since the count ends the items, keys and fields may have any
names, those of the options among them.
-/

namespace GlideRust.Commands.CountedGrammar

open Redis Options Counted
open StreamGrammar (token SingleToken)
open ClauseGrammar (flagKeyword integerKeyword integerKeyword_read given flagged)
open Lib Lib.TokenGrammar Lib.CountedSection

/-! ## Clauses -/

/-- The options of the commands on several sets. -/
inductive SetClause where
  | aggregate (type : AggregationType)
  | withScores
  | limit (n : Int64)

/-- The options in front of hash fields. -/
inductive FieldClause where
  | expiry (expiry : ExpirySet)
  | option (option : ExpireOptions)
  | condition (condition : HashFieldConditionalChange)

def readAggregation (t : Bytes) : Option AggregationType :=
  if t = utf8 "SUM" then some .sum
  else if t = utf8 "MIN" then some .min
  else if t = utf8 "MAX" then some .max
  else none

theorem readAggregation_token (type : AggregationType) :
    readAggregation type.token = some type := by
  cases type <;> decide

def setClauses : Vocabulary Bytes SetClause where
  keywords :=
    [⟨utf8 "AGGREGATE", 1, fun
        | [type] => (readAggregation type).map .aggregate
        | _ => none⟩,
      flagKeyword "WITHSCORES" .withScores, integerKeyword "LIMIT" .limit]
  distinct := by decide
  word
    | .aggregate _ => utf8 "AGGREGATE"
    | .withScores => utf8 "WITHSCORES"
    | .limit _ => utf8 "LIMIT"
  values
    | .aggregate type => [type.token]
    | .withScores => []
    | .limit n => [Decimal.renderInt n.toInt]
  spelled := by
    intro clause
    cases clause with
    | aggregate type => exact ⟨_, .head _, rfl, rfl, by simp [readAggregation_token]⟩
    | withScores => exact ⟨_, .tail _ (.head _), rfl, rfl, rfl⟩
    | limit n => exact ⟨_, .tail _ (.tail _ (.head _)), rfl, rfl, integerKeyword_read ..⟩

/-- A clause with an unsigned number. -/
def unsignedKeyword (word : String) (make : UInt64 → ExpirySet) : Keyword Bytes FieldClause :=
  ⟨utf8 word, 1, fun
    | [n] => (Decimal.readUInt64 n).map fun n => .expiry (make n)
    | _ => none⟩

def fieldKeywords : List (Keyword Bytes FieldClause) :=
  [unsignedKeyword "EX" .seconds, unsignedKeyword "PX" .milliseconds,
    unsignedKeyword "EXAT" .unixSeconds, unsignedKeyword "PXAT" .unixMilliseconds,
    flagKeyword "KEEPTTL" (.expiry .keepExisting), flagKeyword "PERSIST" (.expiry .persist),
    flagKeyword "NX" (.option .hasNoExpiry), flagKeyword "XX" (.option .hasExistingExpiry),
    flagKeyword "GT" (.option .newExpiryGreaterThanCurrent),
    flagKeyword "LT" (.option .newExpiryLessThanCurrent),
    flagKeyword "FXX" (.condition .onlyIfAllExist), flagKeyword "FNX" (.condition .onlyIfNoneExist)]

/-- The tokens of a clause. -/
def FieldClause.tokens : FieldClause → List Bytes
  | .expiry e => e.tokens
  | .option o => o.tokens
  | .condition c => [c.token]

theorem flag_spelled {word : String} {clause : FieldClause}
    (h : flagKeyword word clause ∈ fieldKeywords) :
    ∃ k ∈ fieldKeywords, k.word = utf8 word ∧ k.arity = ([] : List Bytes).length ∧
      k.read [] = some clause :=
  ⟨_, h, rfl, rfl, rfl⟩

theorem unsigned_spelled {word : String} {make : UInt64 → ExpirySet}
    (h : unsignedKeyword word make ∈ fieldKeywords) (n : UInt64) :
    ∃ k ∈ fieldKeywords, k.word = utf8 word ∧ k.arity = [Decimal.render n.toNat].length ∧
      k.read [Decimal.render n.toNat] = some (.expiry (make n)) :=
  ⟨_, h, rfl, rfl, by simp [unsignedKeyword]⟩

def fieldClauses : Vocabulary Bytes FieldClause where
  keywords := fieldKeywords
  distinct := by decide
  word clause := clause.tokens.headD []
  values clause := clause.tokens.tail
  spelled := by
    intro clause
    cases clause with
    | expiry expiry =>
        cases expiry with
        | seconds n => exact unsigned_spelled (by simp [fieldKeywords]) n
        | milliseconds n => exact unsigned_spelled (by simp [fieldKeywords]) n
        | unixSeconds n => exact unsigned_spelled (by simp [fieldKeywords]) n
        | unixMilliseconds n => exact unsigned_spelled (by simp [fieldKeywords]) n
        | keepExisting => exact flag_spelled (by simp [fieldKeywords])
        | persist => exact flag_spelled (by simp [fieldKeywords])
    | option option => cases option <;> exact flag_spelled (by simp [fieldKeywords])
    | condition condition =>
        cases condition <;> exact flag_spelled (by simp [fieldKeywords])

theorem fieldClauses_encode (clause : FieldClause) : fieldClauses.encode clause = clause.tokens := by
  cases clause with
  | expiry expiry => cases expiry <;> rfl
  | option option => cases option <;> rfl
  | condition condition => rfl

theorem fields_not_keyword :
    utf8 "FIELDS" ∉ fieldClauses.keywords.map Keyword.word := by decide

/-! ## Requests -/

inductive ScriptName where
  | eval
  | evalsha
  | fcall
  | fcallRo
  deriving DecidableEq, Repr

def ScriptName.word : ScriptName → String
  | eval => "EVAL"
  | evalsha => "EVALSHA"
  | fcall => "FCALL"
  | fcallRo => "FCALL_RO"

/-- Union and intersection of sorted sets. -/
inductive SetOp where
  | union
  | inter
  deriving DecidableEq, Repr

def SetOp.word : SetOp → String
  | union => "ZUNION"
  | inter => "ZINTER"

def SetOp.storeWord : SetOp → String
  | union => "ZUNIONSTORE"
  | inter => "ZINTERSTORE"

/-- The commands that give hash fields an expiry. -/
inductive ExpireOp where
  | hexpire
  | hexpireat
  | hpexpire
  | hpexpireat
  deriving DecidableEq, Repr

def ExpireOp.word : ExpireOp → String
  | hexpire => "HEXPIRE"
  | hexpireat => "HEXPIREAT"
  | hpexpire => "HPEXPIRE"
  | hpexpireat => "HPEXPIREAT"

/-- The commands that ask for the expiry of hash fields or remove it. -/
inductive FieldOp where
  | hexpiretime
  | hpexpiretime
  | httl
  | hpttl
  | hpersist
  deriving DecidableEq, Repr

def FieldOp.word : FieldOp → String
  | hexpiretime => "HEXPIRETIME"
  | hpexpiretime => "HPEXPIRETIME"
  | httl => "HTTL"
  | hpttl => "HPTTL"
  | hpersist => "HPERSIST"

structure SetOptions where
  aggregate : Option AggregationType
  withScores : Bool
  limit : Option Int64
  deriving DecidableEq, Repr

namespace SetOptions

def clauses (o : SetOptions) : List SetClause :=
  given o.aggregate .aggregate ++ flagged o.withScores .withScores ++ given o.limit .limit

def put (o : SetOptions) : SetClause → SetOptions
  | .aggregate type => { o with aggregate := some type }
  | .withScores => { o with withScores := true }
  | .limit n => { o with limit := some n }

def collect (clauses : List SetClause) : SetOptions := clauses.foldl put ⟨none, false, none⟩

theorem collect_clauses (o : SetOptions) : collect o.clauses = o := by
  obtain ⟨aggregate, withScores, limit⟩ := o
  cases aggregate <;> cases withScores <;> cases limit <;> rfl

end SetOptions

structure FieldOptions where
  condition : Option HashFieldConditionalChange
  expiry : Option ExpirySet
  option : Option ExpireOptions
  deriving DecidableEq, Repr

namespace FieldOptions

def clauses (o : FieldOptions) : List FieldClause :=
  given o.condition .condition ++ given o.expiry .expiry ++ given o.option .option

def put (o : FieldOptions) : FieldClause → FieldOptions
  | .condition c => { o with condition := some c }
  | .expiry e => { o with expiry := some e }
  | .option x => { o with option := some x }

def collect (clauses : List FieldClause) : FieldOptions := clauses.foldl put ⟨none, none, none⟩

theorem collect_clauses (o : FieldOptions) : collect o.clauses = o := by
  obtain ⟨condition, expiry, option⟩ := o
  cases condition <;> cases expiry <;> cases option <;> rfl

end FieldOptions

/-- What a server can be asked with these commands. -/
inductive Request where
  | script (name : ScriptName) (subject : Bytes) (keys args : List Bytes)
  | diff (keys : List Bytes) (withScores : Bool)
  | combine (op : SetOp) (keys : List Bytes) (aggregate : Option AggregationType)
      (withScores : Bool)
  | diffstore (destination : Bytes) (keys : List Bytes)
  | combineStore (op : SetOp) (destination : Bytes) (keys : List Bytes)
      (aggregate : Option AggregationType)
  | zintercard (keys : List Bytes) (limit : Option Int64)
  | sintercard (keys : List Bytes) (limit : Option Int64)
  | expire (op : ExpireOp) (key : Bytes) (time : Int64) (option : Option ExpireOptions)
      (fields : List Bytes)
  | inspect (op : FieldOp) (key : Bytes) (fields : List Bytes)
  | getex (key : Bytes) (expiry : Option ExpirySet) (fields : List Bytes)
  | setex (key : Bytes) (condition : Option HashFieldConditionalChange)
      (expiry : Option ExpirySet) (pairs : List (Bytes × Bytes))
  deriving DecidableEq, Repr

/-- The count, the keys and the options of a command on several sets. -/
def setTokens (keys : List Bytes) (options : SetOptions) : List Bytes :=
  Decimal.render keys.length :: (keys ++ options.clauses.flatMap setClauses.encode)

/-- The options, the count and the items of a command on hash fields. -/
def fieldTokens (options : FieldOptions) (count : Nat) (items : List Bytes) : List Bytes :=
  options.clauses.flatMap fieldClauses.encode ++
    utf8 "FIELDS" :: Decimal.render count :: items

/-- The command line of a request. -/
def Request.encode : Request → List Bytes
  | script name subject keys args =>
      utf8 name.word :: subject :: Decimal.render keys.length :: (keys ++ args)
  | diff keys withScores => utf8 "ZDIFF" :: setTokens keys ⟨none, withScores, none⟩
  | combine op keys aggregate withScores =>
      utf8 op.word :: setTokens keys ⟨aggregate, withScores, none⟩
  | diffstore destination keys =>
      utf8 "ZDIFFSTORE" :: destination :: setTokens keys ⟨none, false, none⟩
  | combineStore op destination keys aggregate =>
      utf8 op.storeWord :: destination :: setTokens keys ⟨aggregate, false, none⟩
  | zintercard keys limit => utf8 "ZINTERCARD" :: setTokens keys ⟨none, false, limit⟩
  | sintercard keys limit => utf8 "SINTERCARD" :: setTokens keys ⟨none, false, limit⟩
  | expire op key time option fields =>
      utf8 op.word :: key :: Decimal.renderInt time.toInt ::
        fieldTokens ⟨none, none, option⟩ fields.length fields
  | inspect op key fields =>
      utf8 op.word :: key :: fieldTokens ⟨none, none, none⟩ fields.length fields
  | getex key expiry fields =>
      utf8 "HGETEX" :: key :: fieldTokens ⟨none, expiry, none⟩ fields.length fields
  | setex key condition expiry pairs =>
      utf8 "HSETEX" :: key :: fieldTokens ⟨condition, expiry, none⟩ pairs.length
        (PairList.flatten pairs)

/-! ## The reader -/

def readScript (name : ScriptName) : List Bytes → Option Request
  | subject :: rest => (readCounted 1 rest).map fun (keys, args) => .script name subject keys args
  | _ => none

/-- Keys and options, for a command that accepts some of the options. -/
def readSets (accept : List Bytes → SetOptions → Option Request) (tokens : List Bytes) :
    Option Request := do
  let (keys, rest) ← readCounted 1 tokens
  let clauses ← setClauses.read rest
  accept keys (.collect clauses)

/-- The same behind the destination of a command that stores. -/
def readStore (accept : Bytes → List Bytes → SetOptions → Option Request) :
    List Bytes → Option Request
  | destination :: rest => readSets (accept destination) rest
  | _ => none

/-- Options and as many items as are announced, with nothing behind them. -/
def readFields (width : Nat) (accept : FieldOptions → List Bytes → Option Request)
    (tokens : List Bytes) : Option Request := do
  let (clauses, rest) ← fieldClauses.readBefore (utf8 "FIELDS") tokens
  let (items, rest) ← readCounted width rest
  if rest = [] then accept (.collect clauses) items else none

def readKeyFields (width : Nat) (accept : Bytes → FieldOptions → List Bytes → Option Request) :
    List Bytes → Option Request
  | key :: rest => readFields width (accept key) rest
  | _ => none

def acceptDiff (keys : List Bytes) : SetOptions → Option Request
  | ⟨none, withScores, none⟩ => some (.diff keys withScores)
  | _ => none

def acceptCombine (op : SetOp) (keys : List Bytes) : SetOptions → Option Request
  | ⟨aggregate, withScores, none⟩ => some (.combine op keys aggregate withScores)
  | _ => none

def acceptDiffstore (destination : Bytes) (keys : List Bytes) : SetOptions → Option Request
  | ⟨none, false, none⟩ => some (.diffstore destination keys)
  | _ => none

def acceptCombineStore (op : SetOp) (destination : Bytes) (keys : List Bytes) :
    SetOptions → Option Request
  | ⟨aggregate, false, none⟩ => some (.combineStore op destination keys aggregate)
  | _ => none

def acceptCard (card : List Bytes → Option Int64 → Request) (keys : List Bytes) :
    SetOptions → Option Request
  | ⟨none, false, limit⟩ => some (card keys limit)
  | _ => none

def acceptInspect (op : FieldOp) (key : Bytes) : FieldOptions → List Bytes → Option Request
  | ⟨none, none, none⟩, fields => some (.inspect op key fields)
  | _, _ => none

def acceptGetex (key : Bytes) : FieldOptions → List Bytes → Option Request
  | ⟨none, expiry, none⟩, fields => some (.getex key expiry fields)
  | _, _ => none

def acceptSetex (key : Bytes) : FieldOptions → List Bytes → Option Request
  | ⟨condition, expiry, none⟩, items =>
      (readAll StreamGrammar.readPair items).map (.setex key condition expiry)
  | _, _ => none

def acceptExpire (op : ExpireOp) (key : Bytes) (time : Int64) :
    FieldOptions → List Bytes → Option Request
  | ⟨none, none, option⟩, fields => some (.expire op key time option fields)
  | _, _ => none

def readExpire (op : ExpireOp) : List Bytes → Option Request
  | key :: time :: rest =>
      (Decimal.readInt64 time).bind fun time => readFields 1 (acceptExpire op key time) rest
  | _ => none

def commands : List (Command Bytes Request) :=
  [ScriptName.eval, .evalsha, .fcall, .fcallRo].map (fun name =>
      ⟨utf8 name.word, readScript name⟩) ++
    [SetOp.union, .inter].map (fun op => ⟨utf8 op.word, readSets (acceptCombine op)⟩) ++
    [SetOp.union, .inter].map (fun op =>
      ⟨utf8 op.storeWord, readStore (acceptCombineStore op)⟩) ++
    [ExpireOp.hexpire, .hexpireat, .hpexpire, .hpexpireat].map (fun op =>
      ⟨utf8 op.word, readExpire op⟩) ++
    [FieldOp.hexpiretime, .hpexpiretime, .httl, .hpttl, .hpersist].map (fun op =>
      ⟨utf8 op.word, readKeyFields 1 (acceptInspect op)⟩) ++
    [⟨utf8 "ZDIFF", readSets acceptDiff⟩, ⟨utf8 "ZDIFFSTORE", readStore acceptDiffstore⟩,
      ⟨utf8 "ZINTERCARD", readSets (acceptCard .zintercard)⟩,
      ⟨utf8 "SINTERCARD", readSets (acceptCard .sintercard)⟩,
      ⟨utf8 "HGETEX", readKeyFields 1 acceptGetex⟩, ⟨utf8 "HSETEX", readKeyFields 2 acceptSetex⟩]

theorem commands_distinct : (commands.map Command.name).Nodup := by decide

def parse (tokens : List Bytes) : Option Request := readCommand commands tokens

theorem parse_cons {name : Bytes} {read : List Bytes → Option Request}
    (hmem : ⟨name, read⟩ ∈ commands) (rest : List Bytes) : parse (name :: rest) = read rest :=
  readCommand_cons commands_distinct hmem rest

theorem readSets_tokens (accept : List Bytes → SetOptions → Option Request) (keys : List Bytes)
    (options : SetOptions) : readSets accept (setTokens keys options) = accept keys options := by
  have hcount := (readCounted_eq_some_iff 1 keys.length keys
    (options.clauses.flatMap setClauses.encode)).mpr (Nat.one_mul _).symm
  simp [readSets, setTokens, hcount, Vocabulary.read_encode, SetOptions.collect_clauses]

theorem readFields_tokens (width : Nat) (accept : FieldOptions → List Bytes → Option Request)
    (options : FieldOptions) {count : Nat} {items : List Bytes}
    (hcount : items.length = width * count) :
    readFields width accept (fieldTokens options count items) = accept options items := by
  have hitems := (readCounted_eq_some_iff width count items []).mpr hcount
  rw [List.append_nil] at hitems
  have hclauses := fieldClauses.readBefore_encode fields_not_keyword options.clauses
    (Decimal.render count :: items)
  simp [readFields, fieldTokens, hclauses, hitems, FieldOptions.collect_clauses]

/-- Every request is read back from its command line. -/
theorem parse_encode (request : Request) : parse request.encode = some request := by
  cases request with
  | script name subject keys args =>
      have hmem : ⟨utf8 name.word, readScript name⟩ ∈ commands := by
        cases name <;> simp [commands]
      have hcount := (readCounted_eq_some_iff 1 keys.length keys args).mpr (Nat.one_mul _).symm
      rw [Request.encode, parse_cons hmem, readScript, hcount, Option.map_some]
  | diff keys withScores =>
      have hmem : ⟨utf8 "ZDIFF", readSets acceptDiff⟩ ∈ commands := by simp [commands]
      rw [Request.encode, parse_cons hmem, readSets_tokens, acceptDiff]
  | combine op keys aggregate withScores =>
      have hmem : ⟨utf8 op.word, readSets (acceptCombine op)⟩ ∈ commands := by
        cases op <;> simp [commands]
      rw [Request.encode, parse_cons hmem, readSets_tokens, acceptCombine]
  | diffstore destination keys =>
      have hmem : ⟨utf8 "ZDIFFSTORE", readStore acceptDiffstore⟩ ∈ commands := by simp [commands]
      rw [Request.encode, parse_cons hmem, readStore, readSets_tokens, acceptDiffstore]
  | combineStore op destination keys aggregate =>
      have hmem : ⟨utf8 op.storeWord, readStore (acceptCombineStore op)⟩ ∈ commands := by
        cases op <;> simp [commands]
      rw [Request.encode, parse_cons hmem, readStore, readSets_tokens, acceptCombineStore]
  | zintercard keys limit =>
      have hmem : ⟨utf8 "ZINTERCARD", readSets (acceptCard .zintercard)⟩ ∈ commands := by
        simp [commands]
      rw [Request.encode, parse_cons hmem, readSets_tokens, acceptCard]
  | sintercard keys limit =>
      have hmem : ⟨utf8 "SINTERCARD", readSets (acceptCard .sintercard)⟩ ∈ commands := by
        simp [commands]
      rw [Request.encode, parse_cons hmem, readSets_tokens, acceptCard]
  | expire op key time option fields =>
      have hmem : ⟨utf8 op.word, readExpire op⟩ ∈ commands := by
        cases op <;> simp [commands]
      rw [Request.encode, parse_cons hmem, readExpire, Decimal.readInt64_renderInt,
        Option.bind_some, readFields_tokens 1 _ _ (Nat.one_mul _).symm, acceptExpire]
  | inspect op key fields =>
      have hmem : ⟨utf8 op.word, readKeyFields 1 (acceptInspect op)⟩ ∈ commands := by
        cases op <;> simp [commands]
      rw [Request.encode, parse_cons hmem, readKeyFields,
        readFields_tokens 1 _ _ (Nat.one_mul _).symm, acceptInspect]
  | getex key expiry fields =>
      have hmem : ⟨utf8 "HGETEX", readKeyFields 1 acceptGetex⟩ ∈ commands := by simp [commands]
      rw [Request.encode, parse_cons hmem, readKeyFields,
        readFields_tokens 1 _ _ (Nat.one_mul _).symm, acceptGetex]
  | setex key condition expiry pairs =>
      have hmem : ⟨utf8 "HSETEX", readKeyFields 2 acceptSetex⟩ ∈ commands := by simp [commands]
      rw [Request.encode, parse_cons hmem, readKeyFields,
        readFields_tokens 2 _ _ (PairList.length_flatten pairs), acceptSetex,
        StreamGrammar.readAll_flatten,
        Option.map_some]

/-! ## The client's calls -/

/-- The calls, with all their arguments; `zsetop_store` is called with the names
of the two commands that it is for. -/
inductive Call (D K A F V : Type) where
  | script (name : ScriptName) (subject : String) (keys : List K) (args : List A)
  | zdiff (keys : List K)
  | zdiffWithscores (keys : List K)
  | zdiffstore (destination : D) (keys : List K)
  | zunion (keys : List K) (aggregate : Option AggregationType)
  | zunionWithscores (keys : List K) (aggregate : Option AggregationType)
  | zinter (keys : List K) (aggregate : Option AggregationType)
  | zinterWithscores (keys : List K) (aggregate : Option AggregationType)
  | zintercard (keys : List K) (limit : Option Int64)
  | zsetopStore (op : SetOp) (destination : D) (keys : List K)
      (aggregate : Option AggregationType)
  | sintercard (keys : List K)
  | sintercardLimit (keys : List K) (limit : Int64)
  | expire (op : ExpireOp) (key : K) (time : Int64) (fields : List F)
      (option : Option ExpireOptions)
  | inspect (op : FieldOp) (key : K) (fields : List F)
  | hgetex (key : K) (fields : List F) (expiry : Option ExpirySet)
  | hsetex (key : K) (fieldValues : List (F × V)) (condition : Option HashFieldConditionalChange)
      (expiry : Option ExpirySet)

section Calls

variable {D K A F V : Type} [ToRedisArgs D] [ToRedisArgs K] [ToRedisArgs A] [ToRedisArgs F]
  [ToRedisArgs V]

def scriptCommand : ScriptName → String → List K → List A → Cmd
  | .eval => ScriptingCommands.eval
  | .evalsha => ScriptingCommands.evalsha
  | .fcall => ScriptingCommands.fcall
  | .fcallRo => ScriptingCommands.fcallRo

def expireCommand : ExpireOp → K → Int64 → List F → Option ExpireOptions → Cmd
  | .hexpire => HashCommands.hexpire
  | .hexpireat => HashCommands.hexpireat
  | .hpexpire => HashCommands.hpexpire
  | .hpexpireat => HashCommands.hpexpireat

def inspectCommand : FieldOp → K → List F → Cmd
  | .hexpiretime => HashCommands.hexpiretime
  | .hpexpiretime => HashCommands.hpexpiretime
  | .httl => HashCommands.httl
  | .hpttl => HashCommands.hpttl
  | .hpersist => HashCommands.hpersist

/-- The command that a call sends. -/
def Call.command : Call D K A F V → Cmd
  | script name subject keys args => scriptCommand name subject keys args
  | zdiff keys => SortedSetCommands.zdiff keys
  | zdiffWithscores keys => SortedSetCommands.zdiffWithscores keys
  | zdiffstore destination keys => SortedSetCommands.zdiffstore destination keys
  | zunion keys aggregate => SortedSetCommands.zunion keys aggregate
  | zunionWithscores keys aggregate => SortedSetCommands.zunionWithscores keys aggregate
  | zinter keys aggregate => SortedSetCommands.zinter keys aggregate
  | zinterWithscores keys aggregate => SortedSetCommands.zinterWithscores keys aggregate
  | zintercard keys limit => SortedSetCommands.zintercard keys limit
  | zsetopStore op destination keys aggregate =>
      SortedSetCommands.zsetopStore op.storeWord destination keys aggregate
  | sintercard keys => SetCommands.sintercard keys
  | sintercardLimit keys limit => SetCommands.sintercardLimit keys limit
  | expire op key time fields option => expireCommand op key time fields option
  | inspect op key fields => inspectCommand op key fields
  | hgetex key fields expiry => HashCommands.hgetex key fields expiry
  | hsetex key fieldValues condition expiry =>
      HashCommands.hsetex key fieldValues condition expiry

/-- Every generic argument writes one token. -/
def Call.Admissible : Call D K A F V → Prop
  | script _ _ keys args => (∀ k ∈ keys, SingleToken k) ∧ ∀ a ∈ args, SingleToken a
  | zdiff keys | zdiffWithscores keys | zunion keys _ | zunionWithscores keys _ | zinter keys _
  | zinterWithscores keys _ | zintercard keys _ | sintercard keys | sintercardLimit keys _ =>
      ∀ k ∈ keys, SingleToken k
  | zdiffstore destination keys | zsetopStore _ destination keys _ =>
      SingleToken destination ∧ ∀ k ∈ keys, SingleToken k
  | expire _ key _ fields _ | inspect _ key fields | hgetex key fields _ =>
      SingleToken key ∧ ∀ f ∈ fields, SingleToken f
  | hsetex key fieldValues _ _ =>
      SingleToken key ∧ ∀ p ∈ fieldValues, SingleToken p.1 ∧ SingleToken p.2

/-- What a call asks for. -/
def Call.request : Call D K A F V → Request
  | script name subject keys args =>
      .script name (utf8 subject) (keys.map token) (args.map token)
  | zdiff keys => .diff (keys.map token) false
  | zdiffWithscores keys => .diff (keys.map token) true
  | zdiffstore destination keys => .diffstore (token destination) (keys.map token)
  | zunion keys aggregate => .combine .union (keys.map token) aggregate false
  | zunionWithscores keys aggregate => .combine .union (keys.map token) aggregate true
  | zinter keys aggregate => .combine .inter (keys.map token) aggregate false
  | zinterWithscores keys aggregate => .combine .inter (keys.map token) aggregate true
  | zintercard keys limit => .zintercard (keys.map token) limit
  | zsetopStore op destination keys aggregate =>
      .combineStore op (token destination) (keys.map token) aggregate
  | sintercard keys => .sintercard (keys.map token) none
  | sintercardLimit keys limit => .sintercard (keys.map token) (some limit)
  | expire op key time fields option => .expire op (token key) time option (fields.map token)
  | inspect op key fields => .inspect op (token key) (fields.map token)
  | hgetex key fields expiry => .getex (token key) expiry (fields.map token)
  | hsetex key fieldValues condition expiry =>
      .setex (token key) condition expiry (fieldValues.map fun p => (token p.1, token p.2))

theorem flatMap_single {items : List A} (h : ∀ a ∈ items, SingleToken a) :
    items.flatMap writeRedisArgs = items.map token := by
  rw [List.map_eq_flatMap]
  apply List.flatMap_congr
  intro a ha
  exact h a ha

/-- The tokens of the options of a command on sets, as `add_aggregate` and
`add_limit` write them. -/
theorem setClauses_tokens (aggregate : Option AggregationType) (withScores : Bool)
    (limit : Option Int64) :
    (SetOptions.clauses ⟨aggregate, withScores, limit⟩).flatMap setClauses.encode =
      aggregateTokens aggregate ++ (if withScores then [utf8 "WITHSCORES"] else []) ++
        limitTokens limit := by
  cases aggregate <;> cases withScores <;> cases limit <;> rfl

theorem fieldClauses_tokens (condition : Option HashFieldConditionalChange)
    (expiry : Option ExpirySet) (option : Option ExpireOptions) :
    (FieldOptions.clauses ⟨condition, expiry, option⟩).flatMap fieldClauses.encode =
      conditionTokens condition ++ expiry.elim [] ExpirySet.tokens ++
        option.elim [] ExpireOptions.tokens := by
  have hencode : fieldClauses.encode = FieldClause.tokens := funext fieldClauses_encode
  rw [hencode]
  cases condition <;> cases expiry <;> cases option <;>
    simp [FieldOptions.clauses, given, FieldClause.tokens, conditionTokens]

/-- The command line of a call is that of its request. -/
theorem args_command (call : Call D K A F V) (h : call.Admissible) :
    call.command.args = call.request.encode := by
  cases call with
  | script name subject keys args =>
      have hkeys := flatMap_single h.1
      have hargs := flatMap_single h.2
      cases name <;>
        simp [Call.command, scriptCommand, ScriptingCommands.eval, ScriptingCommands.evalsha,
          ScriptingCommands.fcall, ScriptingCommands.fcallRo, ScriptingCommands.scriptCall,
          Call.request, Request.encode, ScriptName.word, hkeys, hargs]
  | zdiff keys =>
      have hkeys := flatMap_single h
      simp [Call.command, SortedSetCommands.zdiff, Call.request, Request.encode, setTokens,
        setClauses_tokens, hkeys, aggregateTokens, limitTokens]
  | zdiffWithscores keys =>
      have hkeys := flatMap_single h
      simp [Call.command, SortedSetCommands.zdiffWithscores, Call.request, Request.encode,
        setTokens, setClauses_tokens, hkeys, aggregateTokens, limitTokens]
  | zdiffstore destination keys =>
      have hkeys := flatMap_single h.2
      have hdestination := h.1.write_eq
      simp [Call.command, SortedSetCommands.zdiffstore, Call.request, Request.encode, setTokens,
        setClauses_tokens, hkeys, hdestination, aggregateTokens, limitTokens]
  | zunion keys aggregate =>
      have hkeys := flatMap_single h
      simp [Call.command, SortedSetCommands.zunion, Call.request, Request.encode, SetOp.word,
        setTokens, setClauses_tokens, hkeys, limitTokens]
  | zunionWithscores keys aggregate =>
      have hkeys := flatMap_single h
      simp [Call.command, SortedSetCommands.zunionWithscores, Call.request, Request.encode,
        SetOp.word, setTokens, setClauses_tokens, hkeys, limitTokens]
  | zinter keys aggregate =>
      have hkeys := flatMap_single h
      simp [Call.command, SortedSetCommands.zinter, Call.request, Request.encode, SetOp.word,
        setTokens, setClauses_tokens, hkeys, limitTokens]
  | zinterWithscores keys aggregate =>
      have hkeys := flatMap_single h
      simp [Call.command, SortedSetCommands.zinterWithscores, Call.request, Request.encode,
        SetOp.word, setTokens, setClauses_tokens, hkeys, limitTokens]
  | zintercard keys limit =>
      have hkeys := flatMap_single h
      simp [Call.command, SortedSetCommands.zintercard, Call.request, Request.encode, setTokens,
        setClauses_tokens, hkeys, aggregateTokens]
  | zsetopStore op destination keys aggregate =>
      have hkeys := flatMap_single h.2
      have hdestination := h.1.write_eq
      simp [Call.command, SortedSetCommands.zsetopStore, Call.request, Request.encode, setTokens,
        setClauses_tokens, hkeys, hdestination, limitTokens]
  | sintercard keys =>
      have hkeys := flatMap_single h
      simp [Call.command, SetCommands.sintercard, Call.request, Request.encode, setTokens,
        setClauses_tokens, hkeys, aggregateTokens, limitTokens]
  | sintercardLimit keys limit =>
      have hkeys := flatMap_single h
      simp [Call.command, SetCommands.sintercardLimit, Call.request, Request.encode, setTokens,
        setClauses_tokens, hkeys, aggregateTokens, limitTokens]
  | expire op key time fields option =>
      have hfields := flatMap_single h.2
      have hkey := h.1.write_eq
      cases op <;>
        simp [Call.command, expireCommand, HashCommands.hexpire, HashCommands.hexpireat,
          HashCommands.hpexpire, HashCommands.hpexpireat, args_hfieldExpire, Call.request,
          Request.encode, ExpireOp.word, fieldTokens, fieldClauses_tokens, hfields, hkey,
          valueTokens, conditionTokens]
  | inspect op key fields =>
      have hfields := flatMap_single h.2
      have hkey := h.1.write_eq
      cases op <;>
        simp [Call.command, inspectCommand, HashCommands.hexpiretime, HashCommands.hpexpiretime,
          HashCommands.httl, HashCommands.hpttl, HashCommands.hpersist, args_hfieldExpire,
          Call.request, Request.encode, FieldOp.word, fieldTokens, fieldClauses_tokens, hfields,
          hkey, valueTokens, conditionTokens]
  | hgetex key fields expiry =>
      have hfields := flatMap_single h.2
      have hkey := h.1.write_eq
      simp [Call.command, HashCommands.hgetex, args_addOption ExpirySet.args_addTo, Call.request,
        Request.encode, fieldTokens, fieldClauses_tokens, hfields, hkey, conditionTokens]
  | hsetex key fieldValues condition expiry =>
      have hpairs := StreamGrammar.flatMap_pairs h.2
      have hkey := h.1.write_eq
      simp [Call.command, hsetex_layout, hsetexHead, Call.request, Request.encode, fieldTokens,
        fieldClauses_tokens, hpairs, hkey]

/-- Every request is read back from its command line, and the command line of a
call is that of its request. So two calls, of whatever methods, send the same
tokens exactly when they ask for the same thing, whatever their keys, fields,
values and arguments are named. A function call is the same command wherever it is
routed. -/
theorem counted_calls_uniquely_decodable :
    (∀ request, parse (Request.encode request) = some request) ∧
    (∀ call : Call D K A F V, call.Admissible → call.command.args = call.request.encode) ∧
    (∀ call other : Call D K A F V, call.Admissible → other.Admissible →
      (call.command.args = other.command.args ↔ call.request = other.request)) ∧
    ∀ (Route ρ : Type) (toRoutingInfo : Route → Cmd → ρ) (function : String) (keys : List K)
        (args : List A) (route : Route),
      (ScriptingCommands.fcallRoute toRoutingInfo function keys args route).1 =
          scriptCommand .fcall function keys args ∧
        (ScriptingCommands.fcallRoRoute toRoutingInfo function keys args route).1 =
          scriptCommand .fcallRo function keys args := by
  refine ⟨parse_encode, args_command, ?_, ?_⟩
  · intro call other hcall hother
    rw [args_command call hcall, args_command other hother]
    constructor
    · exact eq_of_read (parse_encode _) (parse_encode _)
    · intro hsame
      rw [hsame]
  · intro Route ρ toRoutingInfo function keys args route
    exact ⟨rfl, rfl⟩

end Calls

/-- A hash and fields that are named like the words of the command, and the keys of a
script against its arguments. -/
theorem counted_calls_uniquely_decodable_keywords :
    parse (HashCommands.hgetex "FIELDS" ["EX", "FIELDS", "2"] (some .persist)).args =
      some (.getex (utf8 "FIELDS") (some .persist) [utf8 "EX", utf8 "FIELDS", utf8 "2"]) ∧
    (ScriptingCommands.eval "return 1" ["1"] ["a"]).args ≠
      (ScriptingCommands.eval "return 1" ([] : List String) ["1", "a"]).args := by
  obtain ⟨hparse, hargs, hunique, -⟩ :=
    counted_calls_uniquely_decodable (D := String) (K := String) (A := String) (F := String)
      (V := String)
  constructor
  · have hcall := hargs (.hgetex "FIELDS" ["EX", "FIELDS", "2"] (some .persist))
      ⟨rfl, fun _ _ => rfl⟩
    exact (congrArg parse hcall).trans (hparse _)
  · intro hsame
    have hrequest := (hunique (.script .eval "return 1" ["1"] ["a"])
      (.script .eval "return 1" [] ["1", "a"]) ⟨fun _ _ => rfl, fun _ _ => rfl⟩
      ⟨fun _ _ => rfl, fun _ _ => rfl⟩).mp hsame
    cases hrequest

end GlideRust.Commands.CountedGrammar
