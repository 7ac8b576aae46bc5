import GlideRust.Redis

/-!
# Options shared by several command families
-/

namespace GlideRust.Commands.Options

open Redis

inductive ExpirySet where
  | seconds (v : UInt64)
  | milliseconds (v : UInt64)
  | unixSeconds (v : UInt64)
  | unixMilliseconds (v : UInt64)
  | keepExisting
  | persist
  deriving DecidableEq, Repr

/-- `ExpirySet::add_to`. -/
def ExpirySet.addTo (expiry : ExpirySet) (c : Cmd) : Cmd :=
  match expiry with
  | .seconds v => (c.arg "EX").arg v
  | .milliseconds v => (c.arg "PX").arg v
  | .unixSeconds v => (c.arg "EXAT").arg v
  | .unixMilliseconds v => (c.arg "PXAT").arg v
  | .keepExisting => c.arg "KEEPTTL"
  | .persist => c.arg "PERSIST"

inductive ExpireOptions where
  | hasNoExpiry
  | hasExistingExpiry
  | newExpiryGreaterThanCurrent
  | newExpiryLessThanCurrent
  deriving DecidableEq, Repr

/-- `ExpireOptions::add_to`. -/
def ExpireOptions.addTo (option : ExpireOptions) (c : Cmd) : Cmd :=
  match option with
  | .hasNoExpiry => c.arg "NX"
  | .hasExistingExpiry => c.arg "XX"
  | .newExpiryGreaterThanCurrent => c.arg "GT"
  | .newExpiryLessThanCurrent => c.arg "LT"

inductive HashFieldConditionalChange where
  | onlyIfAllExist
  | onlyIfNoneExist
  deriving DecidableEq, Repr

/-- `HashFieldConditionalChange::as_arg`. -/
def HashFieldConditionalChange.asArg : HashFieldConditionalChange → String
  | .onlyIfAllExist => "FXX"
  | .onlyIfNoneExist => "FNX"

/-- `AggregationType` of the sorted-set commands. -/
inductive AggregationType where
  | sum
  | min
  | max
  deriving DecidableEq, Repr

/-- `AggregationType::as_arg`. -/
def AggregationType.asArg : AggregationType → String
  | .sum => "SUM"
  | .min => "MIN"
  | .max => "MAX"

inductive ConditionalChange where
  | onlyIfExists
  | onlyIfDoesNotExist
  deriving DecidableEq, Repr

/-- `ConditionalChange::add_to`. -/
def ConditionalChange.addTo (change : ConditionalChange) (c : Cmd) : Cmd :=
  match change with
  | .onlyIfExists => c.arg "XX"
  | .onlyIfDoesNotExist => c.arg "NX"

inductive OrderBy where
  | asc
  | desc
  deriving DecidableEq, Repr

/-- `OrderBy::as_arg`. -/
def OrderBy.asArg : OrderBy → String
  | .asc => "ASC"
  | .desc => "DESC"

/-- `ObjectType`; `to_redis` maps each type to the type of the same name in the crate. -/
inductive ObjectType where
  | string
  | list
  | set
  | zSet
  | hash
  | stream
  deriving DecidableEq, Repr

/-- `MigrateOptions`. -/
structure MigrateOptions where
  copy : Bool
  replace : Bool
  password : Option String
  username : Option String
  deriving DecidableEq, Repr

/-- `Limit`: a `LIMIT offset count` clause. -/
structure Limit where
  offset : Int64
  count : Int64
  deriving DecidableEq, Repr

/-- An optional part of a command: `if let Some(x) = option { .. }`. -/
def addOption {α : Type} (option : Option α) (add : α → Cmd → Cmd) (c : Cmd) : Cmd :=
  match option with
  | some a => add a c
  | none => c

theorem args_addOption {α : Type} {add : α → Cmd → Cmd} {tokens : α → List Bytes}
    (h : ∀ a (c : Cmd), (add a c).args = c.args ++ tokens a) (option : Option α) (c : Cmd) :
    (addOption option add c).args = c.args ++ option.elim [] tokens := by
  cases option with
  | none => simp [addOption]
  | some a => exact h a c

/-- A part of a command that a flag turns on: `if given { .. }`. -/
def addFlag (given : Bool) (token : String) (c : Cmd) : Cmd := if given then c.arg token else c

@[simp] theorem args_addFlag (given : Bool) (token : String) (c : Cmd) :
    (addFlag given token c).args = c.args ++ if given then [utf8 token] else [] := by
  cases given with
  | false => simp [addFlag]
  | true => rfl

/-! ## Tokens -/

/-- The tokens that `ExpirySet::add_to` appends. -/
def ExpirySet.tokens : ExpirySet → List Bytes
  | .seconds v => [utf8 "EX", Lib.Decimal.render v.toNat]
  | .milliseconds v => [utf8 "PX", Lib.Decimal.render v.toNat]
  | .unixSeconds v => [utf8 "EXAT", Lib.Decimal.render v.toNat]
  | .unixMilliseconds v => [utf8 "PXAT", Lib.Decimal.render v.toNat]
  | .keepExisting => [utf8 "KEEPTTL"]
  | .persist => [utf8 "PERSIST"]

theorem ExpirySet.args_addTo (expiry : ExpirySet) (c : Cmd) :
    (expiry.addTo c).args = c.args ++ expiry.tokens := by
  cases expiry <;> simp [ExpirySet.addTo, ExpirySet.tokens]

/-- The token that `ExpireOptions::add_to` appends. -/
def ExpireOptions.tokens : ExpireOptions → List Bytes
  | .hasNoExpiry => [utf8 "NX"]
  | .hasExistingExpiry => [utf8 "XX"]
  | .newExpiryGreaterThanCurrent => [utf8 "GT"]
  | .newExpiryLessThanCurrent => [utf8 "LT"]

theorem ExpireOptions.args_addTo (option : ExpireOptions) (c : Cmd) :
    (option.addTo c).args = c.args ++ option.tokens := by
  cases option <;> simp [ExpireOptions.addTo, ExpireOptions.tokens]

/-! The words of the remaining enumerations. -/

def HashFieldConditionalChange.token : HashFieldConditionalChange → Bytes
  | .onlyIfAllExist => utf8 "FXX"
  | .onlyIfNoneExist => utf8 "FNX"

@[simp] theorem HashFieldConditionalChange.utf8_asArg (change : HashFieldConditionalChange) :
    utf8 change.asArg = change.token := by
  cases change <;> rfl

def AggregationType.token : AggregationType → Bytes
  | .sum => utf8 "SUM"
  | .min => utf8 "MIN"
  | .max => utf8 "MAX"

@[simp] theorem AggregationType.utf8_asArg (type : AggregationType) :
    utf8 type.asArg = type.token := by
  cases type <;> rfl

def OrderBy.token : OrderBy → Bytes
  | .asc => utf8 "ASC"
  | .desc => utf8 "DESC"

@[simp] theorem OrderBy.utf8_asArg (order : OrderBy) : utf8 order.asArg = order.token := by
  cases order <;> rfl

end GlideRust.Commands.Options
