import GlideRust.Commands.Options
import GlideRust.Lib.CountedSection
import GlideRust.LuaScript

/-!
# Commands with a count token

The commands of the scripting, sorted-set, set and hash traits that announce a
number of keys, fields or field/value pairs. All of them take the count from the
slice and the tokens from `ToRedisArgs`, so a server that reads "count, then
count items, then the rest" recovers the caller's arguments exactly when the
elements of the slice write as many tokens as there are elements.

## Implementation notes

A method stands for the command it hands to `execute_command`; the routed ones
also hand over a route, for an arbitrary lowering `toRoutingInfo` of routes.
-/

namespace GlideRust.Commands.Counted

open Redis Options
open Lib Lib.CountedSection

variable {A D F K V : Type} [ToRedisArgs A] [ToRedisArgs D] [ToRedisArgs F] [ToRedisArgs K]
  [ToRedisArgs V]

/-- `cmd.arg(items.len()); for x in items { cmd.arg(x); }`. -/
def argCounted (c : Cmd) (items : List A) : Cmd := (c.arg items.length).argEach items

/-! ## Scripting -/

namespace ScriptingCommands

/-- The common body of the script and function calls. -/
def scriptCall (name subject : String) (keys : List K) (args : List A) : Cmd :=
  (argCounted ((Cmd.new.arg name).arg subject) keys).argEach args

def eval (script : String) (keys : List K) (args : List A) : Cmd :=
  scriptCall "EVAL" script keys args

def evalsha (sha1 : String) (keys : List K) (args : List A) : Cmd :=
  scriptCall "EVALSHA" sha1 keys args

def fcall (function : String) (keys : List K) (args : List A) : Cmd :=
  scriptCall "FCALL" function keys args

def fcallRo (function : String) (keys : List K) (args : List A) : Cmd :=
  scriptCall "FCALL_RO" function keys args

variable {Route ρ : Type} (toRoutingInfo : Route → Cmd → ρ)

def fcallRoute (function : String) (keys : List K) (args : List A) (route : Route) : Cmd × ρ :=
  let c := scriptCall "FCALL" function keys args
  (c, toRoutingInfo route c)

def fcallRoRoute (function : String) (keys : List K) (args : List A) (route : Route) : Cmd × ρ :=
  let c := scriptCall "FCALL_RO" function keys args
  (c, toRoutingInfo route c)

end ScriptingCommands

/-! ## Sorted sets -/

namespace SortedSetCommands

/-- `if let Some(agg) = aggregate { cmd.arg("AGGREGATE").arg(agg.as_arg()); }`. -/
def addAggregate (aggregate : Option AggregationType) (c : Cmd) : Cmd :=
  addOption aggregate (fun agg c => (c.arg "AGGREGATE").arg agg.asArg) c

def zdiff (keys : List K) : Cmd := argCounted (Cmd.new.arg "ZDIFF") keys

def zdiffWithscores (keys : List K) : Cmd :=
  (argCounted (Cmd.new.arg "ZDIFF") keys).arg "WITHSCORES"

def zdiffstore (destination : D) (keys : List K) : Cmd :=
  argCounted ((Cmd.new.arg "ZDIFFSTORE").arg destination) keys

def zunion (keys : List K) (aggregate : Option AggregationType) : Cmd :=
  addAggregate aggregate (argCounted (Cmd.new.arg "ZUNION") keys)

def zunionWithscores (keys : List K) (aggregate : Option AggregationType) : Cmd :=
  (addAggregate aggregate (argCounted (Cmd.new.arg "ZUNION") keys)).arg "WITHSCORES"

def zinter (keys : List K) (aggregate : Option AggregationType) : Cmd :=
  addAggregate aggregate (argCounted (Cmd.new.arg "ZINTER") keys)

def zinterWithscores (keys : List K) (aggregate : Option AggregationType) : Cmd :=
  (addAggregate aggregate (argCounted (Cmd.new.arg "ZINTER") keys)).arg "WITHSCORES"

/-- `if let Some(l) = limit { cmd.arg("LIMIT").arg(l); }`. -/
def addLimit (limit : Option Int64) (c : Cmd) : Cmd :=
  addOption limit (fun l c => (c.arg "LIMIT").arg l) c

def zintercard (keys : List K) (limit : Option Int64) : Cmd :=
  addLimit limit (argCounted (Cmd.new.arg "ZINTERCARD") keys)

def zsetopStore (op : String) (destination : D) (keys : List K)
    (aggregate : Option AggregationType) : Cmd :=
  addAggregate aggregate (argCounted ((Cmd.new.arg op).arg destination) keys)

end SortedSetCommands

/-! ## Sets -/

namespace SetCommands

def sintercard (keys : List K) : Cmd := argCounted (Cmd.new.arg "SINTERCARD") keys

def sintercardLimit (keys : List K) (limit : Int64) : Cmd :=
  ((argCounted (Cmd.new.arg "SINTERCARD") keys).arg "LIMIT").arg limit

end SetCommands

/-! ## Hashes -/

namespace HashCommands

/-- `if let Some(v) = value { cmd.arg(v); }`. -/
def addValue (value : Option Int64) (c : Cmd) : Cmd := addOption value (fun v c => c.arg v) c

def hfieldExpire (op : String) (key : K) (value : Option Int64) (fields : List F)
    (option : Option ExpireOptions) : Cmd :=
  argCounted ((addOption option ExpireOptions.addTo
    (addValue value ((Cmd.new.arg op).arg key))).arg "FIELDS") fields

def hexpire (key : K) (seconds : Int64) (fields : List F) (option : Option ExpireOptions) : Cmd :=
  hfieldExpire "HEXPIRE" key (some seconds) fields option

def hexpireat (key : K) (unixSeconds : Int64) (fields : List F)
    (option : Option ExpireOptions) : Cmd :=
  hfieldExpire "HEXPIREAT" key (some unixSeconds) fields option

def hexpiretime (key : K) (fields : List F) : Cmd :=
  hfieldExpire "HEXPIRETIME" key none fields none

def hpexpire (key : K) (milliseconds : Int64) (fields : List F)
    (option : Option ExpireOptions) : Cmd :=
  hfieldExpire "HPEXPIRE" key (some milliseconds) fields option

def hpexpireat (key : K) (unixMilliseconds : Int64) (fields : List F)
    (option : Option ExpireOptions) : Cmd :=
  hfieldExpire "HPEXPIREAT" key (some unixMilliseconds) fields option

def hpexpiretime (key : K) (fields : List F) : Cmd :=
  hfieldExpire "HPEXPIRETIME" key none fields none

def httl (key : K) (fields : List F) : Cmd := hfieldExpire "HTTL" key none fields none

def hpttl (key : K) (fields : List F) : Cmd := hfieldExpire "HPTTL" key none fields none

def hpersist (key : K) (fields : List F) : Cmd := hfieldExpire "HPERSIST" key none fields none

def hgetex (key : K) (fields : List F) (expiry : Option ExpirySet) : Cmd :=
  argCounted ((addOption expiry ExpirySet.addTo ((Cmd.new.arg "HGETEX").arg key)).arg "FIELDS")
    fields

/-- `if let Some(c) = condition { cmd.arg(c.as_arg()); }`. -/
def addCondition (condition : Option HashFieldConditionalChange) (c : Cmd) : Cmd :=
  addOption condition (fun cond c => c.arg cond.asArg) c

def hsetex (key : K) (fieldValues : List (F × V))
    (condition : Option HashFieldConditionalChange) (expiry : Option ExpirySet) : Cmd :=
  (((addOption expiry ExpirySet.addTo (addCondition condition
    ((Cmd.new.arg "HSETEX").arg key))).arg "FIELDS").arg fieldValues.length).argEachPair fieldValues

end HashCommands

/-! ## What a counting server recovers -/

/-- Behind the tokens `head`, the server reads the count, then `items`, then `rest`. -/
def Recovers (c : Cmd) (head : List Bytes) (width : Nat) (items rest : List Bytes) : Prop :=
  ∃ tokens, c.args = head ++ tokens ∧ readCounted width tokens = some (items, rest)

/-- The elements write together as many tokens as there are elements. -/
def OneTokenPerItem (items : List A) : Prop :=
  (items.flatMap writeRedisArgs).length = items.length

/-- The pairs write together twice as many tokens as there are pairs. -/
def TwoTokensPerPair (pairs : List (F × V)) : Prop :=
  (pairs.flatMap fun p => writeRedisArgs p.1 ++ writeRedisArgs p.2).length = 2 * pairs.length

theorem recovers_iff {c : Cmd} {head items rest : List Bytes} {width n : Nat}
    (h : c.args = head ++ (Decimal.render n :: (items ++ rest))) :
    Recovers c head width items rest ↔ items.length = width * n := by
  rw [← readCounted_eq_some_iff width n items rest]
  constructor
  · rintro ⟨tokens, hargs, hread⟩
    have htokens : tokens = Decimal.render n :: (items ++ rest) := by
      rw [h] at hargs
      exact (List.append_cancel_left hargs).symm
    rw [← htokens]
    exact hread
  · intro hread
    exact ⟨_, h, hread⟩

/-! ## The layout of each command -/

/-- The tokens of `AGGREGATE`, if any. -/
def aggregateTokens (aggregate : Option AggregationType) : List Bytes :=
  aggregate.elim [] fun agg => [utf8 "AGGREGATE", agg.token]

def limitTokens (limit : Option Int64) : List Bytes :=
  limit.elim [] fun l => [utf8 "LIMIT", Decimal.renderInt l.toInt]

def valueTokens (value : Option Int64) : List Bytes :=
  value.elim [] fun v => [Decimal.renderInt v.toInt]

def conditionTokens (condition : Option HashFieldConditionalChange) : List Bytes :=
  condition.elim [] fun cond => [cond.token]

@[simp] theorem args_argCounted (c : Cmd) (items : List A) :
    (argCounted c items).args =
      c.args ++ Decimal.render items.length :: items.flatMap writeRedisArgs := by
  simp [argCounted]

@[simp] theorem args_addAggregate (aggregate : Option AggregationType) (c : Cmd) :
    (SortedSetCommands.addAggregate aggregate c).args =
      c.args ++ aggregateTokens aggregate :=
  args_addOption (fun _ _ => by simp) aggregate c

@[simp] theorem args_addLimit (limit : Option Int64) (c : Cmd) :
    (SortedSetCommands.addLimit limit c).args = c.args ++ limitTokens limit :=
  args_addOption (fun _ _ => by simp) limit c

@[simp] theorem args_addValue (value : Option Int64) (c : Cmd) :
    (HashCommands.addValue value c).args = c.args ++ valueTokens value :=
  args_addOption (fun _ _ => by simp) value c

@[simp] theorem args_addCondition (condition : Option HashFieldConditionalChange) (c : Cmd) :
    (HashCommands.addCondition condition c).args = c.args ++ conditionTokens condition :=
  args_addOption (fun _ _ => by simp) condition c

/-- A command with the tokens before its count and those after its counted items. -/
structure CountedCall where
  sent : Cmd
  head : List Bytes
  rest : List Bytes

section Tables

open ScriptingCommands SortedSetCommands SetCommands HashCommands

/-- The commands that count their keys. -/
def keyCalls {Route ρ : Type} (toRoutingInfo : Route → Cmd → ρ) (route : Route)
    (subject op : String) (destination : D) (keys : List K) (args : List A)
    (aggregate : Option AggregationType) (limit : Option Int64) (max : Int64) :
    List CountedCall :=
  [⟨eval subject keys args, [utf8 "EVAL", utf8 subject], args.flatMap writeRedisArgs⟩,
    ⟨evalsha subject keys args, [utf8 "EVALSHA", utf8 subject], args.flatMap writeRedisArgs⟩,
    ⟨fcall subject keys args, [utf8 "FCALL", utf8 subject], args.flatMap writeRedisArgs⟩,
    ⟨fcallRo subject keys args, [utf8 "FCALL_RO", utf8 subject], args.flatMap writeRedisArgs⟩,
    ⟨(fcallRoute toRoutingInfo subject keys args route).1, [utf8 "FCALL", utf8 subject],
      args.flatMap writeRedisArgs⟩,
    ⟨(fcallRoRoute toRoutingInfo subject keys args route).1, [utf8 "FCALL_RO", utf8 subject],
      args.flatMap writeRedisArgs⟩,
    ⟨zdiff keys, [utf8 "ZDIFF"], []⟩,
    ⟨zdiffWithscores keys, [utf8 "ZDIFF"], [utf8 "WITHSCORES"]⟩,
    ⟨zdiffstore destination keys, utf8 "ZDIFFSTORE" :: writeRedisArgs destination, []⟩,
    ⟨zunion keys aggregate, [utf8 "ZUNION"], aggregateTokens aggregate⟩,
    ⟨zunionWithscores keys aggregate, [utf8 "ZUNION"],
      aggregateTokens aggregate ++ [utf8 "WITHSCORES"]⟩,
    ⟨zinter keys aggregate, [utf8 "ZINTER"], aggregateTokens aggregate⟩,
    ⟨zinterWithscores keys aggregate, [utf8 "ZINTER"],
      aggregateTokens aggregate ++ [utf8 "WITHSCORES"]⟩,
    ⟨zintercard keys limit, [utf8 "ZINTERCARD"], limitTokens limit⟩,
    ⟨zsetopStore op destination keys aggregate, utf8 op :: writeRedisArgs destination,
      aggregateTokens aggregate⟩,
    ⟨sintercard keys, [utf8 "SINTERCARD"], []⟩,
    ⟨sintercardLimit keys max, [utf8 "SINTERCARD"], limitTokens (some max)⟩]

/-- The commands that count hash fields. -/
def fieldCalls (key : K) (fields : List F) (expireAt : Int64) (option : Option ExpireOptions)
    (expiry : Option ExpirySet) : List CountedCall :=
  let timed (name : String) : List Bytes :=
    utf8 name :: writeRedisArgs key ++ valueTokens (some expireAt) ++
      option.elim [] ExpireOptions.tokens ++ [utf8 "FIELDS"]
  let plain (name : String) : List Bytes :=
    utf8 name :: writeRedisArgs key ++ [utf8 "FIELDS"]
  [⟨hexpire key expireAt fields option, timed "HEXPIRE", []⟩,
    ⟨hexpireat key expireAt fields option, timed "HEXPIREAT", []⟩,
    ⟨hexpiretime key fields, plain "HEXPIRETIME", []⟩,
    ⟨hpexpire key expireAt fields option, timed "HPEXPIRE", []⟩,
    ⟨hpexpireat key expireAt fields option, timed "HPEXPIREAT", []⟩,
    ⟨hpexpiretime key fields, plain "HPEXPIRETIME", []⟩,
    ⟨httl key fields, plain "HTTL", []⟩,
    ⟨hpttl key fields, plain "HPTTL", []⟩,
    ⟨hpersist key fields, plain "HPERSIST", []⟩,
    ⟨hgetex key fields expiry, utf8 "HGETEX" :: writeRedisArgs key ++
      expiry.elim [] ExpirySet.tokens ++ [utf8 "FIELDS"], []⟩]

/-- The tokens of `hsetex` before its count. -/
def hsetexHead (key : K) (condition : Option HashFieldConditionalChange)
    (expiry : Option ExpirySet) : List Bytes :=
  utf8 "HSETEX" :: writeRedisArgs key ++ conditionTokens condition ++
    expiry.elim [] ExpirySet.tokens ++ [utf8 "FIELDS"]

theorem keyCalls_layout {Route ρ : Type} (toRoutingInfo : Route → Cmd → ρ) (route : Route)
    (subject op : String) (destination : D) (keys : List K) (args : List A)
    (aggregate : Option AggregationType) (limit : Option Int64) (max : Int64) :
    ∀ call ∈ keyCalls toRoutingInfo route subject op destination keys args aggregate limit max,
      call.sent.args = call.head ++
        (Decimal.render keys.length :: (keys.flatMap writeRedisArgs ++ call.rest)) := by
  simp [keyCalls, eval, evalsha, fcall, fcallRo, fcallRoute, fcallRoRoute, scriptCall, zdiff,
    zdiffWithscores, zdiffstore, zunion, zunionWithscores, zinter, zinterWithscores, zintercard,
    zsetopStore, sintercard, sintercardLimit, limitTokens]

theorem args_hfieldExpire (op : String) (key : K) (value : Option Int64) (fields : List F)
    (option : Option ExpireOptions) :
    (hfieldExpire op key value fields option).args =
      utf8 op :: writeRedisArgs key ++ valueTokens value ++ option.elim [] ExpireOptions.tokens ++
        utf8 "FIELDS" :: Decimal.render fields.length :: fields.flatMap writeRedisArgs := by
  simp [hfieldExpire, args_addOption ExpireOptions.args_addTo]

theorem fieldCalls_layout (key : K) (fields : List F) (expireAt : Int64)
    (option : Option ExpireOptions) (expiry : Option ExpirySet) :
    ∀ call ∈ fieldCalls key fields expireAt option expiry,
      call.sent.args = call.head ++
        (Decimal.render fields.length :: (fields.flatMap writeRedisArgs ++ call.rest)) := by
  simp [fieldCalls, hexpire, hexpireat, hexpiretime, hpexpire, hpexpireat, hpexpiretime, httl,
    hpttl, hpersist, hgetex, args_hfieldExpire, args_addOption ExpirySet.args_addTo, valueTokens]

theorem hsetex_layout (key : K) (pairs : List (F × V))
    (condition : Option HashFieldConditionalChange) (expiry : Option ExpirySet) :
    (hsetex key pairs condition expiry).args = hsetexHead key condition expiry ++
      (Decimal.render pairs.length ::
        ((pairs.flatMap fun p => writeRedisArgs p.1 ++ writeRedisArgs p.2) ++ [])) := by
  simp [hsetex, hsetexHead, args_addOption ExpirySet.args_addTo]

/-- A counting server recovers keys, fields and pairs, and everything behind
them, exactly when they write as many tokens as they are counted for. -/
theorem counts_match_iff {Route ρ : Type} (toRoutingInfo : Route → Cmd → ρ) (route : Route)
    (subject op : String) (destination : D) (key : K) (keys : List K) (args : List A)
    (fields : List F) (pairs : List (F × V)) (aggregate : Option AggregationType)
    (limit : Option Int64) (max expireAt : Int64) (option : Option ExpireOptions)
    (expiry : Option ExpirySet) (condition : Option HashFieldConditionalChange) :
    (∀ call ∈ keyCalls toRoutingInfo route subject op destination keys args aggregate limit max,
      Recovers call.sent call.head 1 (keys.flatMap writeRedisArgs) call.rest ↔
        OneTokenPerItem keys) ∧
    (∀ call ∈ fieldCalls key fields expireAt option expiry,
      Recovers call.sent call.head 1 (fields.flatMap writeRedisArgs) call.rest ↔
        OneTokenPerItem fields) ∧
    (Recovers (hsetex key pairs condition expiry) (hsetexHead key condition expiry) 2
        (pairs.flatMap fun p => writeRedisArgs p.1 ++ writeRedisArgs p.2) [] ↔
      TwoTokensPerPair pairs) := by
  refine ⟨?_, ?_, ?_⟩
  · intro call hcall
    have hargs := keyCalls_layout toRoutingInfo route subject op destination keys args aggregate
      limit max call hcall
    rw [recovers_iff hargs, Nat.one_mul]
    rfl
  · intro call hcall
    have hargs := fieldCalls_layout key fields expireAt option expiry call hcall
    rw [recovers_iff hargs, Nat.one_mul]
    rfl
  · exact recovers_iff (hsetex_layout key pairs condition expiry)

/-- A slice with one element that writes two keys: the server reads the second
one as an argument, while a script invocation with the same key announces both. -/
theorem multi_token_key_shifts :
    (eval "return 1" [["a", "b"]] ["x"]).args =
        [utf8 "EVAL", utf8 "return 1", utf8 "1", utf8 "a", utf8 "b", utf8 "x"] ∧
    ¬ Recovers (eval "return 1" [["a", "b"]] ["x"]) [utf8 "EVAL", utf8 "return 1"] 1
      [utf8 "a", utf8 "b"] [utf8 "x"] ∧
    Recovers (eval "return 1" [["a", "b"]] ["x"]) [utf8 "EVAL", utf8 "return 1"] 1
      [utf8 "a"] [utf8 "b", utf8 "x"] ∧
    Recovers ((LuaScript.Script.key ⟨"return 1", ""⟩ ["a", "b"]).arg "x").evalCmd
      [utf8 "EVAL", utf8 "return 1"] 1 [utf8 "a", utf8 "b"] [utf8 "x"] := by
  refine ⟨by decide, ?_, ⟨_, rfl, by decide⟩, ⟨_, rfl, by decide⟩⟩
  have hargs : (eval "return 1" [["a", "b"]] ["x"]).args = [utf8 "EVAL", utf8 "return 1"] ++
      (Decimal.render 1 :: ([utf8 "a", utf8 "b"] ++ [utf8 "x"])) := by decide
  intro hrecovers
  have hlen : 2 = 1 * 1 := (recovers_iff hargs).mp hrecovers
  omega

theorem counts_match_plain_keys :
    OneTokenPerItem ["a", "b"] ∧
    Recovers (zunion ["a", "b"] (some .max)) [utf8 "ZUNION"] 1 [utf8 "a", utf8 "b"]
      [utf8 "AGGREGATE", utf8 "MAX"] := by
  have hone : OneTokenPerItem ["a", "b"] := by
    unfold OneTokenPerItem
    decide
  have h := (counts_match_iff (fun (_ : Unit) (_ : Cmd) => ()) () "return 1" "ZUNIONSTORE" "d"
    "k" ["a", "b"] ["x"] ["f"] [("f", "v")] (some .max) none 0 0 none none none).1
  refine ⟨hone, (h ⟨zunion ["a", "b"] (some .max), [utf8 "ZUNION"],
    [utf8 "AGGREGATE", utf8 "MAX"]⟩ ?_).mpr hone⟩
  simp [keyCalls, aggregateTokens, AggregationType.token]

end Tables

end GlideRust.Commands.Counted
