import GlideRust.Commands.OptionVariants
import GlideRust.Commands.StreamGrammar

/-!
# Commands whose options are clauses

Sorting, copying, restoring and migrating keys, geospatial searches and the
failover of a server: some tokens at fixed places, then clauses that are
introduced by keywords. A reader that takes the clauses in any order recovers
what was asked for, however the keys and values are named.

## Implementation notes

A request holds only what a server can be asked. What the client is given beyond
that has no place in it: a user name for `MIGRATE` without a password, `any`
without a count, and a forced failover to nobody. An `f64` is held by its text.
-/

namespace GlideRust.Commands.ClauseGrammar

open Redis Options OptionVariants
open StreamGrammar (token SingleToken)
open Lib Lib.TokenGrammar

/-! ## The commands -/

/-- `RestoreOptions`. -/
structure RestoreOptions where
  replace : Bool
  absttl : Bool
  idletime : Option Int64
  frequency : Option Int64
  deriving DecidableEq, Repr

/-- `RestoreOptions::add_to`. -/
def RestoreOptions.addTo (options : RestoreOptions) (c : Cmd) : Cmd :=
  let c := addFlag options.replace "REPLACE" c
  let c := addFlag options.absttl "ABSTTL" c
  let c := addOption options.idletime (fun i c => (c.arg "IDLETIME").arg i) c
  addOption options.frequency (fun f c => (c.arg "FREQ").arg f) c

/-- `MigrateOptions::add_to`. -/
def addMigrateOptions (options : MigrateOptions) (c : Cmd) : Cmd :=
  let c := addFlag options.copy "COPY" c
  let c := addFlag options.replace "REPLACE" c
  match options.username, options.password with
  | some u, some p => ((c.arg "AUTH2").arg u).arg p
  | none, some p => (c.arg "AUTH").arg p
  | _, _ => c

section Commands

variable {A : Type} [ToRedisArgs A]

/-- The options that the three sorting commands have in common. -/
def addSortOptions (order : Option OrderBy) (limit : Option Limit) (alpha : Bool) (c : Cmd) : Cmd :=
  let c := addOption limit (fun l c => ((c.arg "LIMIT").arg l.offset).arg l.count) c
  let c := addOption order (fun o c => c.arg o.asArg) c
  addFlag alpha "ALPHA" c

def sort (key : A) (order : Option OrderBy) (limit : Option Limit) (alpha : Bool) : Cmd :=
  addSortOptions order limit alpha ((Cmd.new.arg "SORT").arg key)

def sortStore (key destination : A) (order : Option OrderBy) (limit : Option Limit)
    (alpha : Bool) : Cmd :=
  ((addSortOptions order limit alpha ((Cmd.new.arg "SORT").arg key)).arg "STORE").arg destination

def sortRo (key : A) (order : Option OrderBy) (limit : Option Limit) (alpha : Bool) : Cmd :=
  addSortOptions order limit alpha ((Cmd.new.arg "SORT_RO").arg key)

def restore (key : A) (ttlMs : Int64) (serialized : A) (options : RestoreOptions) : Cmd :=
  options.addTo ((((Cmd.new.arg "RESTORE").arg key).arg ttlMs).arg serialized)

def migrate (host : A) (port : Int64) (key : A) (destinationDb timeoutMs : Int64)
    (options : MigrateOptions) : Cmd :=
  addMigrateOptions options ((((((Cmd.new.arg "MIGRATE").arg host).arg port).arg key).arg
    destinationDb).arg timeoutMs)

def failover (target : Option (A × Int64)) (force : Bool) (timeoutMs : Option Int64) : Cmd :=
  let c := Cmd.new.arg "FAILOVER"
  let c := addOption target (fun (host, port) c =>
    addFlag force "FORCE" (((c.arg "TO").arg host).arg port)) c
  addOption timeoutMs (fun t c => (c.arg "TIMEOUT").arg t) c

def failoverAbort : Cmd := (Cmd.new.arg "FAILOVER").arg "ABORT"

variable [ToRedisArgs F64]

def geosearchFromCoord (key : A) (coord : GeospatialData) (shape : GeoSearchShape)
    (order : Option OrderBy) (count : Option Int64) (any : Bool) : Cmd :=
  addSearchTail (shape.addTo (((((Cmd.new.arg "GEOSEARCH").arg key).arg "FROMLONLAT").arg
    coord.longitude).arg coord.latitude)) order count any

def geosearchstoreFromMember (destination source member : A) (shape : GeoSearchShape)
    (order : Option OrderBy) (count : Option Int64) (any storeDist : Bool) : Cmd :=
  addFlag storeDist "STOREDIST" (addSearchTail (shape.addTo
    (((((Cmd.new.arg "GEOSEARCHSTORE").arg destination).arg source).arg "FROMMEMBER").arg
      member)) order count any)

def geosearchstoreFromCoord (destination source : A) (coord : GeospatialData)
    (shape : GeoSearchShape) (order : Option OrderBy) (count : Option Int64)
    (any storeDist : Bool) : Cmd :=
  addFlag storeDist "STOREDIST" (addSearchTail (shape.addTo
    ((((((Cmd.new.arg "GEOSEARCHSTORE").arg destination).arg source).arg "FROMLONLAT").arg
      coord.longitude).arg coord.latitude)) order count any)

end Commands

/-! ## Clauses -/

inductive SortClause where
  | limit (limit : Limit)
  | order (order : OrderBy)
  | alpha
  | store (destination : Bytes)

inductive CopyClause where
  | db (db : Int64)
  | replace

inductive RestoreClause where
  | replace
  | absttl
  | idletime (seconds : Int64)
  | freq (frequency : Int64)

inductive MigrateClause where
  | copy
  | replace
  | auth (password : Bytes)
  | auth2 (username password : Bytes)

/-- The place from which a search starts, with the texts of its coordinates. -/
inductive Center where
  | member (member : Bytes)
  | lonLat (longitude latitude : Bytes)
  deriving DecidableEq, Repr

/-- The shape of a search, with the texts of its measures. -/
inductive Shape where
  | radius (radius : Bytes) (unit : GeoUnit)
  | box (width height : Bytes) (unit : GeoUnit)
  deriving DecidableEq, Repr

inductive SearchClause where
  | center (center : Center)
  | shape (shape : Shape)
  | order (order : OrderBy)
  | count (count : Int64)
  | any
  | storeDist

inductive FailoverClause where
  | target (host : Bytes) (port : Int64)
  | force
  | timeout (ms : Int64)

/-- A clause without values. -/
def flagKeyword {α : Type} (word : String) (a : α) : Keyword Bytes α :=
  ⟨utf8 word, 0, fun _ => some a⟩

def integerKeyword {α : Type} (word : String) (make : Int64 → α) : Keyword Bytes α :=
  ⟨utf8 word, 1, fun
    | [n] => (Decimal.readInt64 n).map make
    | _ => none⟩

def textKeyword {α : Type} (word : String) (make : Bytes → α) : Keyword Bytes α :=
  ⟨utf8 word, 1, fun
    | [text] => some (make text)
    | _ => none⟩

theorem integerKeyword_read {α : Type} (word : String) (make : Int64 → α) (n : Int64) :
    (integerKeyword word make).read [Decimal.renderInt n.toInt] = some (make n) := by
  simp [integerKeyword, Decimal.readInt64_renderInt]

def sortClauses : Vocabulary Bytes SortClause where
  keywords :=
    [⟨utf8 "LIMIT", 2, fun
        | [offset, count] => do
            let offset ← Decimal.readInt64 offset
            let count ← Decimal.readInt64 count
            return .limit ⟨offset, count⟩
        | _ => none⟩,
      flagKeyword "ASC" (.order .asc), flagKeyword "DESC" (.order .desc),
      flagKeyword "ALPHA" .alpha, textKeyword "STORE" .store]
  distinct := by decide
  word
    | .limit _ => utf8 "LIMIT"
    | .order order => order.token
    | .alpha => utf8 "ALPHA"
    | .store _ => utf8 "STORE"
  values
    | .limit l => [Decimal.renderInt l.offset.toInt, Decimal.renderInt l.count.toInt]
    | .order _ | .alpha => []
    | .store destination => [destination]
  spelled := by
    intro clause
    cases clause with
    | limit l => exact ⟨_, .head _, rfl, rfl, by simp [Decimal.readInt64_renderInt]⟩
    | order order =>
        cases order with
        | asc => exact ⟨_, .tail _ (.head _), rfl, rfl, rfl⟩
        | desc => exact ⟨_, .tail _ (.tail _ (.head _)), rfl, rfl, rfl⟩
    | alpha => exact ⟨_, .tail _ (.tail _ (.tail _ (.head _))), rfl, rfl, rfl⟩
    | store destination =>
        exact ⟨_, .tail _ (.tail _ (.tail _ (.tail _ (.head _)))), rfl, rfl, rfl⟩

def copyClauses : Vocabulary Bytes CopyClause where
  keywords := [integerKeyword "DB" .db, flagKeyword "REPLACE" .replace]
  distinct := by decide
  word
    | .db _ => utf8 "DB"
    | .replace => utf8 "REPLACE"
  values
    | .db db => [Decimal.renderInt db.toInt]
    | .replace => []
  spelled := by
    intro clause
    cases clause with
    | db db => exact ⟨_, .head _, rfl, rfl, integerKeyword_read ..⟩
    | replace => exact ⟨_, .tail _ (.head _), rfl, rfl, rfl⟩

def restoreClauses : Vocabulary Bytes RestoreClause where
  keywords := [flagKeyword "REPLACE" .replace, flagKeyword "ABSTTL" .absttl,
    integerKeyword "IDLETIME" .idletime, integerKeyword "FREQ" .freq]
  distinct := by decide
  word
    | .replace => utf8 "REPLACE"
    | .absttl => utf8 "ABSTTL"
    | .idletime _ => utf8 "IDLETIME"
    | .freq _ => utf8 "FREQ"
  values
    | .replace | .absttl => []
    | .idletime n | .freq n => [Decimal.renderInt n.toInt]
  spelled := by
    intro clause
    cases clause with
    | replace => exact ⟨_, .head _, rfl, rfl, rfl⟩
    | absttl => exact ⟨_, .tail _ (.head _), rfl, rfl, rfl⟩
    | idletime n => exact ⟨_, .tail _ (.tail _ (.head _)), rfl, rfl, integerKeyword_read ..⟩
    | freq n => exact ⟨_, .tail _ (.tail _ (.tail _ (.head _))), rfl, rfl, integerKeyword_read ..⟩

def migrateClauses : Vocabulary Bytes MigrateClause where
  keywords := [flagKeyword "COPY" .copy, flagKeyword "REPLACE" .replace,
    textKeyword "AUTH" .auth,
    ⟨utf8 "AUTH2", 2, fun
      | [username, password] => some (.auth2 username password)
      | _ => none⟩]
  distinct := by decide
  word
    | .copy => utf8 "COPY"
    | .replace => utf8 "REPLACE"
    | .auth _ => utf8 "AUTH"
    | .auth2 _ _ => utf8 "AUTH2"
  values
    | .copy | .replace => []
    | .auth password => [password]
    | .auth2 username password => [username, password]
  spelled := by
    intro clause
    cases clause with
    | copy => exact ⟨_, .head _, rfl, rfl, rfl⟩
    | replace => exact ⟨_, .tail _ (.head _), rfl, rfl, rfl⟩
    | auth password => exact ⟨_, .tail _ (.tail _ (.head _)), rfl, rfl, rfl⟩
    | auth2 username password =>
        exact ⟨_, .tail _ (.tail _ (.tail _ (.head _))), rfl, rfl, rfl⟩

/-- The unit of a measure. -/
def readUnit (t : Bytes) : Option GeoUnit :=
  if t = utf8 "m" then some .meters
  else if t = utf8 "km" then some .kilometers
  else if t = utf8 "mi" then some .miles
  else if t = utf8 "ft" then some .feet
  else none

theorem readUnit_token (unit : GeoUnit) : readUnit unit.token = some unit := by
  cases unit <;> decide

def searchClauses : Vocabulary Bytes SearchClause where
  keywords :=
    [textKeyword "FROMMEMBER" (.center <| .member ·),
      ⟨utf8 "FROMLONLAT", 2, fun
        | [lon, lat] => some (.center (.lonLat lon lat))
        | _ => none⟩,
      ⟨utf8 "BYRADIUS", 2, fun
        | [radius, unit] => (readUnit unit).map fun unit => .shape (.radius radius unit)
        | _ => none⟩,
      ⟨utf8 "BYBOX", 3, fun
        | [width, height, unit] => (readUnit unit).map fun unit => .shape (.box width height unit)
        | _ => none⟩,
      flagKeyword "ASC" (.order .asc), flagKeyword "DESC" (.order .desc),
      integerKeyword "COUNT" .count, flagKeyword "ANY" .any, flagKeyword "STOREDIST" .storeDist]
  distinct := by decide
  word
    | .center (.member _) => utf8 "FROMMEMBER"
    | .center (.lonLat _ _) => utf8 "FROMLONLAT"
    | .shape (.radius _ _) => utf8 "BYRADIUS"
    | .shape (.box _ _ _) => utf8 "BYBOX"
    | .order order => order.token
    | .count _ => utf8 "COUNT"
    | .any => utf8 "ANY"
    | .storeDist => utf8 "STOREDIST"
  values
    | .center (.member member) => [member]
    | .center (.lonLat lon lat) => [lon, lat]
    | .shape (.radius radius unit) => [radius, unit.token]
    | .shape (.box width height unit) => [width, height, unit.token]
    | .count n => [Decimal.renderInt n.toInt]
    | .order _ | .any | .storeDist => []
  spelled := by
    intro clause
    cases clause with
    | center center =>
        cases center with
        | member member => exact ⟨_, .head _, rfl, rfl, rfl⟩
        | lonLat lon lat => exact ⟨_, .tail _ (.head _), rfl, rfl, rfl⟩
    | shape shape =>
        cases shape with
        | radius radius unit =>
            exact ⟨_, .tail _ (.tail _ (.head _)), rfl, rfl, by simp [readUnit_token]⟩
        | box width height unit =>
            exact ⟨_, .tail _ (.tail _ (.tail _ (.head _))), rfl, rfl, by simp [readUnit_token]⟩
    | order order =>
        cases order with
        | asc => exact ⟨flagKeyword "ASC" (.order .asc), by simp, rfl, rfl, rfl⟩
        | desc => exact ⟨flagKeyword "DESC" (.order .desc), by simp, rfl, rfl, rfl⟩
    | count n => exact ⟨integerKeyword "COUNT" .count, by simp, rfl, rfl, integerKeyword_read ..⟩
    | any => exact ⟨flagKeyword "ANY" .any, by simp, rfl, rfl, rfl⟩
    | storeDist => exact ⟨flagKeyword "STOREDIST" .storeDist, by simp, rfl, rfl, rfl⟩

def failoverClauses : Vocabulary Bytes FailoverClause where
  keywords :=
    [⟨utf8 "TO", 2, fun
        | [host, port] => (Decimal.readInt64 port).map (.target host)
        | _ => none⟩,
      flagKeyword "FORCE" .force, integerKeyword "TIMEOUT" .timeout]
  distinct := by decide
  word
    | .target _ _ => utf8 "TO"
    | .force => utf8 "FORCE"
    | .timeout _ => utf8 "TIMEOUT"
  values
    | .target host port => [host, Decimal.renderInt port.toInt]
    | .force => []
    | .timeout ms => [Decimal.renderInt ms.toInt]
  spelled := by
    intro clause
    cases clause with
    | target host port => exact ⟨_, .head _, rfl, rfl, by simp [Decimal.readInt64_renderInt]⟩
    | force => exact ⟨_, .tail _ (.head _), rfl, rfl, rfl⟩
    | timeout ms => exact ⟨_, .tail _ (.tail _ (.head _)), rfl, rfl, integerKeyword_read ..⟩

/-! ## Requests -/

/-- An optional clause. -/
def given {α β : Type} (option : Option α) (clause : α → β) : List β := option.elim [] ([clause ·])

/-- A clause that a flag turns on. -/
def flagged {β : Type} (flag : Bool) (clause : β) : List β := if flag then [clause] else []

structure SortOptions where
  limit : Option Limit
  order : Option OrderBy
  alpha : Bool
  deriving DecidableEq, Repr

namespace SortOptions

def clauses (o : SortOptions) : List SortClause :=
  given o.limit .limit ++ given o.order .order ++ flagged o.alpha .alpha

/-- One clause more; where to store is kept beside the options. -/
def put (s : SortOptions × Option Bytes) : SortClause → SortOptions × Option Bytes
  | .limit l => ({ s.1 with limit := some l }, s.2)
  | .order o => ({ s.1 with order := some o }, s.2)
  | .alpha => ({ s.1 with alpha := true }, s.2)
  | .store destination => (s.1, some destination)

def collect (clauses : List SortClause) : SortOptions × Option Bytes :=
  clauses.foldl put (⟨none, none, false⟩, none)

theorem collect_clauses (o : SortOptions) (store : Option Bytes) :
    collect (o.clauses ++ given store .store) = (o, store) := by
  obtain ⟨limit, order, alpha⟩ := o
  cases limit <;> cases order <;> cases alpha <;> cases store <;> rfl

end SortOptions

structure CopyOptions where
  destinationDb : Option Int64
  replace : Bool
  deriving DecidableEq, Repr

namespace CopyOptions

def clauses (o : CopyOptions) : List CopyClause :=
  given o.destinationDb .db ++ flagged o.replace .replace

def put (o : CopyOptions) : CopyClause → CopyOptions
  | .db db => { o with destinationDb := some db }
  | .replace => { o with replace := true }

def collect (clauses : List CopyClause) : CopyOptions := clauses.foldl put ⟨none, false⟩

theorem collect_clauses (o : CopyOptions) : collect o.clauses = o := by
  obtain ⟨db, replace⟩ := o
  cases db <;> cases replace <;> rfl

end CopyOptions

namespace RestoreOptions

def clauses (o : RestoreOptions) : List RestoreClause :=
  flagged o.replace .replace ++ flagged o.absttl .absttl ++ given o.idletime .idletime ++
    given o.frequency .freq

def put (o : RestoreOptions) : RestoreClause → RestoreOptions
  | .replace => { o with replace := true }
  | .absttl => { o with absttl := true }
  | .idletime n => { o with idletime := some n }
  | .freq n => { o with frequency := some n }

def collect (clauses : List RestoreClause) : RestoreOptions :=
  clauses.foldl put ⟨false, false, none, none⟩

theorem collect_clauses (o : RestoreOptions) : collect o.clauses = o := by
  obtain ⟨replace, absttl, idletime, frequency⟩ := o
  cases replace <;> cases absttl <;> cases idletime <;> cases frequency <;> rfl

end RestoreOptions

/-- How the target of a migration is logged in to: with a password, alone or with
the name of a user. -/
inductive Login where
  | password (password : Bytes)
  | user (username password : Bytes)
  deriving DecidableEq, Repr

structure MigrateRequest where
  copy : Bool
  replace : Bool
  login : Option Login
  deriving DecidableEq, Repr

namespace MigrateRequest

def loginClause : Login → MigrateClause
  | .password password => .auth password
  | .user username password => .auth2 username password

def clauses (o : MigrateRequest) : List MigrateClause :=
  flagged o.copy .copy ++ flagged o.replace .replace ++ given o.login loginClause

def put (o : MigrateRequest) : MigrateClause → MigrateRequest
  | .copy => { o with copy := true }
  | .replace => { o with replace := true }
  | .auth password => { o with login := some (.password password) }
  | .auth2 username password => { o with login := some (.user username password) }

def collect (clauses : List MigrateClause) : MigrateRequest :=
  clauses.foldl put ⟨false, false, none⟩

theorem collect_clauses (o : MigrateRequest) : collect o.clauses = o := by
  obtain ⟨copy, replace, login⟩ := o
  cases login with
  | none => cases copy <;> cases replace <;> rfl
  | some login => cases copy <;> cases replace <;> cases login <;> rfl

end MigrateRequest

/-- A search. Any matches will do only up to a count. -/
structure SearchRequest where
  center : Center
  shape : Shape
  order : Option OrderBy
  count : Option (Int64 × Bool)
  deriving DecidableEq, Repr

/-- The clauses of a search that were read so far. -/
structure SearchState where
  center : Option Center
  shape : Option Shape
  order : Option OrderBy
  count : Option Int64
  any : Bool
  storeDist : Bool

namespace SearchRequest

def countClauses : Option (Int64 × Bool) → List SearchClause
  | none => []
  | some (n, any) => .count n :: flagged any .any

def clauses (r : SearchRequest) : List SearchClause :=
  .center r.center :: .shape r.shape :: given r.order .order ++ countClauses r.count

def put (s : SearchState) : SearchClause → SearchState
  | .center center => { s with center := some center }
  | .shape shape => { s with shape := some shape }
  | .order order => { s with order := some order }
  | .count n => { s with count := some n }
  | .any => { s with any := true }
  | .storeDist => { s with storeDist := true }

/-- A search needs a center and a shape, and `ANY` needs a count. -/
def finish (s : SearchState) : Option (SearchRequest × Bool) :=
  match s.center, s.shape with
  | some center, some shape =>
      if s.any && s.count.isNone then none
      else some (⟨center, shape, s.order, s.count.map (·, s.any)⟩, s.storeDist)
  | _, _ => none

def collect (clauses : List SearchClause) : Option (SearchRequest × Bool) :=
  finish (clauses.foldl put ⟨none, none, none, none, false, false⟩)

theorem collect_clauses (r : SearchRequest) (storeDist : Bool) :
    collect (r.clauses ++ flagged storeDist .storeDist) = some (r, storeDist) := by
  obtain ⟨center, shape, order, count⟩ := r
  cases count with
  | none => cases order <;> cases storeDist <;> rfl
  | some count =>
      obtain ⟨n, any⟩ := count
      cases order <;> cases any <;> cases storeDist <;> rfl

end SearchRequest

/-- A failover. Only a failover to somebody can be forced. -/
structure FailoverRequest where
  target : Option (Bytes × Int64 × Bool)
  timeoutMs : Option Int64
  deriving DecidableEq, Repr

structure FailoverState where
  target : Option (Bytes × Int64)
  force : Bool
  timeoutMs : Option Int64

namespace FailoverRequest

def targetClauses : Option (Bytes × Int64 × Bool) → List FailoverClause
  | none => []
  | some (host, port, force) => .target host port :: flagged force .force

def clauses (r : FailoverRequest) : List FailoverClause :=
  targetClauses r.target ++ given r.timeoutMs .timeout

def put (s : FailoverState) : FailoverClause → FailoverState
  | .target host port => { s with target := some (host, port) }
  | .force => { s with force := true }
  | .timeout ms => { s with timeoutMs := some ms }

def finish (s : FailoverState) : Option FailoverRequest :=
  if s.force && s.target.isNone then none
  else some ⟨s.target.map fun t => (t.1, t.2, s.force), s.timeoutMs⟩

def collect (clauses : List FailoverClause) : Option FailoverRequest :=
  finish (clauses.foldl put ⟨none, false, none⟩)

theorem collect_clauses (r : FailoverRequest) : collect r.clauses = some r := by
  obtain ⟨target, timeout⟩ := r
  cases target with
  | none => cases timeout <;> rfl
  | some target =>
      obtain ⟨host, port, force⟩ := target
      cases force <;> cases timeout <;> rfl

/-- `ABORT` introduces no clause of a failover. -/
theorem encode_ne_abort (r : FailoverRequest) :
    r.clauses.flatMap failoverClauses.encode ≠ [utf8 "ABORT"] := by
  intro habort
  have hread := failoverClauses.read_encode r.clauses
  rw [habort] at hread
  cases hread

end FailoverRequest

/-- What a server can be asked with these commands. -/
inductive Request where
  | sort (key : Bytes) (options : SortOptions) (store : Option Bytes)
  | sortRo (key : Bytes) (options : SortOptions)
  | copy (source destination : Bytes) (options : CopyOptions)
  | restore (key : Bytes) (ttlMs : Int64) (serialized : Bytes) (options : RestoreOptions)
  | migrate (host : Bytes) (port : Int64) (key : Bytes) (destinationDb timeoutMs : Int64)
      (options : MigrateRequest)
  | geosearch (key : Bytes) (search : SearchRequest)
  | geosearchstore (destination source : Bytes) (search : SearchRequest) (storeDist : Bool)
  | failover (request : FailoverRequest)
  | failoverAbort
  deriving DecidableEq, Repr

/-- The command line of a request. -/
def Request.encode : Request → List Bytes
  | sort key options store =>
      utf8 "SORT" :: key :: (options.clauses ++ given store SortClause.store).flatMap sortClauses.encode
  | sortRo key options => utf8 "SORT_RO" :: key :: options.clauses.flatMap sortClauses.encode
  | copy source destination options =>
      utf8 "COPY" :: source :: destination :: options.clauses.flatMap copyClauses.encode
  | restore key ttlMs serialized options =>
      utf8 "RESTORE" :: key :: Decimal.renderInt ttlMs.toInt :: serialized ::
        options.clauses.flatMap restoreClauses.encode
  | migrate host port key destinationDb timeoutMs options =>
      utf8 "MIGRATE" :: host :: Decimal.renderInt port.toInt :: key ::
        Decimal.renderInt destinationDb.toInt :: Decimal.renderInt timeoutMs.toInt ::
          options.clauses.flatMap migrateClauses.encode
  | geosearch key search => utf8 "GEOSEARCH" :: key :: search.clauses.flatMap searchClauses.encode
  | geosearchstore destination source search storeDist =>
      utf8 "GEOSEARCHSTORE" :: destination :: source ::
        (search.clauses ++ flagged storeDist SearchClause.storeDist).flatMap searchClauses.encode
  | failover request => utf8 "FAILOVER" :: request.clauses.flatMap failoverClauses.encode
  | failoverAbort => [utf8 "FAILOVER", utf8 "ABORT"]

/-! ## The reader -/

def readSort : List Bytes → Option Request
  | key :: rest => (sortClauses.read rest).map fun clauses =>
      let (options, store) := SortOptions.collect clauses
      .sort key options store
  | _ => none

/-- `SORT_RO` stores nothing. -/
def readSortRo : List Bytes → Option Request
  | key :: rest =>
      match (sortClauses.read rest).map SortOptions.collect with
      | some (options, none) => some (.sortRo key options)
      | _ => none
  | _ => none

def readCopy : List Bytes → Option Request
  | source :: destination :: rest =>
      (copyClauses.read rest).map fun clauses => .copy source destination (.collect clauses)
  | _ => none

def readRestore : List Bytes → Option Request
  | key :: ttl :: serialized :: rest => do
      let ttl ← Decimal.readInt64 ttl
      let clauses ← restoreClauses.read rest
      return .restore key ttl serialized (.collect clauses)
  | _ => none

def readMigrate : List Bytes → Option Request
  | host :: port :: key :: db :: timeout :: rest => do
      let port ← Decimal.readInt64 port
      let db ← Decimal.readInt64 db
      let timeout ← Decimal.readInt64 timeout
      let clauses ← migrateClauses.read rest
      return .migrate host port key db timeout (.collect clauses)
  | _ => none

/-- `GEOSEARCH` stores no distances. -/
def readGeosearch : List Bytes → Option Request
  | key :: rest =>
      match (searchClauses.read rest).bind SearchRequest.collect with
      | some (search, false) => some (.geosearch key search)
      | _ => none
  | _ => none

def readGeosearchstore : List Bytes → Option Request
  | destination :: source :: rest =>
      ((searchClauses.read rest).bind SearchRequest.collect).map fun (search, storeDist) =>
        .geosearchstore destination source search storeDist
  | _ => none

def readFailover (tokens : List Bytes) : Option Request :=
  if tokens = [utf8 "ABORT"] then some .failoverAbort
  else ((failoverClauses.read tokens).bind FailoverRequest.collect).map .failover

def parse : List Bytes → Option Request
  | [] => none
  | name :: rest =>
      if name = utf8 "SORT" then readSort rest
      else if name = utf8 "SORT_RO" then readSortRo rest
      else if name = utf8 "COPY" then readCopy rest
      else if name = utf8 "RESTORE" then readRestore rest
      else if name = utf8 "MIGRATE" then readMigrate rest
      else if name = utf8 "GEOSEARCH" then readGeosearch rest
      else if name = utf8 "GEOSEARCHSTORE" then readGeosearchstore rest
      else if name = utf8 "FAILOVER" then readFailover rest
      else none

/-- Every request is read back from its command line. -/
theorem parse_encode (request : Request) : parse request.encode = some request := by
  cases request with
  | sort key options store =>
      rw [Request.encode, parse, if_pos rfl, readSort, Vocabulary.read_encode, Option.map_some,
        SortOptions.collect_clauses]
  | sortRo key options =>
      have hcollect := options.collect_clauses none
      rw [given, Option.elim_none, List.append_nil] at hcollect
      rw [Request.encode, parse, if_neg (by decide), if_pos rfl, readSortRo,
        Vocabulary.read_encode, Option.map_some, hcollect]
  | copy source destination options =>
      rw [Request.encode, parse, if_neg (by decide), if_neg (by decide), if_pos rfl, readCopy,
        Vocabulary.read_encode, Option.map_some, CopyOptions.collect_clauses]
  | restore key ttlMs serialized options =>
      rw [Request.encode, parse, if_neg (by decide), if_neg (by decide), if_neg (by decide),
        if_pos rfl, readRestore, Decimal.readInt64_renderInt, Vocabulary.read_encode]
      simp [RestoreOptions.collect_clauses]
  | migrate host port key destinationDb timeoutMs options =>
      rw [Request.encode, parse, if_neg (by decide), if_neg (by decide), if_neg (by decide),
        if_neg (by decide), if_pos rfl, readMigrate]
      simp [Decimal.readInt64_renderInt, Vocabulary.read_encode, MigrateRequest.collect_clauses]
  | geosearch key search =>
      have hcollect := search.collect_clauses false
      rw [flagged, if_neg Bool.false_ne_true, List.append_nil] at hcollect
      rw [Request.encode, parse, if_neg (by decide), if_neg (by decide), if_neg (by decide),
        if_neg (by decide), if_neg (by decide), if_pos rfl, readGeosearch,
        Vocabulary.read_encode, Option.bind_some, hcollect]
  | geosearchstore destination source search storeDist =>
      rw [Request.encode, parse, if_neg (by decide), if_neg (by decide), if_neg (by decide),
        if_neg (by decide), if_neg (by decide), if_neg (by decide), if_pos rfl,
        readGeosearchstore, Vocabulary.read_encode, Option.bind_some,
        SearchRequest.collect_clauses, Option.map_some]
  | failover request =>
      rw [Request.encode, parse, if_neg (by decide), if_neg (by decide), if_neg (by decide),
        if_neg (by decide), if_neg (by decide), if_neg (by decide), if_neg (by decide),
        if_pos rfl, readFailover, if_neg request.encode_ne_abort, Vocabulary.read_encode,
        Option.bind_some, FailoverRequest.collect_clauses, Option.map_some]
  | failoverAbort => rfl

/-! ## The client's calls -/

/-- The calls, with all their arguments. -/
inductive Call (A : Type) where
  | sort (key : A) (order : Option OrderBy) (limit : Option Limit) (alpha : Bool)
  | sortStore (key destination : A) (order : Option OrderBy) (limit : Option Limit) (alpha : Bool)
  | sortRo (key : A) (order : Option OrderBy) (limit : Option Limit) (alpha : Bool)
  | copy (source destination : A) (replace : Bool)
  | copyWithOptions (source destination : A) (destinationDb : Option Int64) (replace : Bool)
  | restore (key : A) (ttlMs : Int64) (serialized : A) (options : RestoreOptions)
  | migrate (host : A) (port : Int64) (key : A) (destinationDb timeoutMs : Int64)
      (options : MigrateOptions)
  | geosearchByRadiusFromMember (key member : A) (radius : F64) (unit : GeoUnit)
  | geosearchFromMember (key member : A) (shape : GeoSearchShape) (order : Option OrderBy)
      (count : Option Int64) (any : Bool)
  | geosearchFromCoord (key : A) (coord : GeospatialData) (shape : GeoSearchShape)
      (order : Option OrderBy) (count : Option Int64) (any : Bool)
  | geosearchstoreFromMember (destination source member : A) (shape : GeoSearchShape)
      (order : Option OrderBy) (count : Option Int64) (any storeDist : Bool)
  | geosearchstoreFromCoord (destination source : A) (coord : GeospatialData)
      (shape : GeoSearchShape) (order : Option OrderBy) (count : Option Int64)
      (any storeDist : Bool)
  | failover (target : Option (A × Int64)) (force : Bool) (timeoutMs : Option Int64)
  | failoverAbort

section Calls

variable {A : Type} [ToRedisArgs A] [ToRedisArgs F64]

/-- The command that a call sends. -/
def Call.command : Call A → Cmd
  | sort key order limit alpha => ClauseGrammar.sort key order limit alpha
  | sortStore key destination order limit alpha =>
      ClauseGrammar.sortStore key destination order limit alpha
  | sortRo key order limit alpha => ClauseGrammar.sortRo key order limit alpha
  | copy source destination replace => OptionVariants.copy source destination replace
  | copyWithOptions source destination destinationDb replace =>
      OptionVariants.copyWithOptions source destination destinationDb replace
  | restore key ttlMs serialized options => ClauseGrammar.restore key ttlMs serialized options
  | migrate host port key destinationDb timeoutMs options =>
      ClauseGrammar.migrate host port key destinationDb timeoutMs options
  | geosearchByRadiusFromMember key member radius unit =>
      OptionVariants.geosearchByRadiusFromMember key member radius unit
  | geosearchFromMember key member shape order count any =>
      OptionVariants.geosearchFromMember key member shape order count any
  | geosearchFromCoord key coord shape order count any =>
      ClauseGrammar.geosearchFromCoord key coord shape order count any
  | geosearchstoreFromMember destination source member shape order count any storeDist =>
      ClauseGrammar.geosearchstoreFromMember destination source member shape order count any
        storeDist
  | geosearchstoreFromCoord destination source coord shape order count any storeDist =>
      ClauseGrammar.geosearchstoreFromCoord destination source coord shape order count any
        storeDist
  | failover target force timeoutMs => ClauseGrammar.failover target force timeoutMs
  | failoverAbort => ClauseGrammar.failoverAbort

/-- Every generic argument writes one token. -/
def Call.Admissible : Call A → Prop
  | sort key _ _ _ | sortRo key _ _ _ | geosearchFromCoord key _ _ _ _ _ => SingleToken key
  | sortStore a b _ _ _ | copy a b _ | copyWithOptions a b _ _ | restore a _ b _
  | migrate a _ b _ _ _ | geosearchByRadiusFromMember a b _ _ | geosearchFromMember a b _ _ _ _
  | geosearchstoreFromCoord a b _ _ _ _ _ _ => SingleToken a ∧ SingleToken b
  | geosearchstoreFromMember a b c _ _ _ _ _ => SingleToken a ∧ SingleToken b ∧ SingleToken c
  | failover target _ _ => ∀ t ∈ target, SingleToken t.1
  | failoverAbort => True

/-- A user name is of use only with a password. -/
def loginOf (options : MigrateOptions) : Option Login :=
  options.password.map fun password =>
    match options.username with
    | some username => .user (utf8 username) (utf8 password)
    | none => .password (utf8 password)

def shapeOf : GeoSearchShape → Shape
  | .byRadius radius unit => .radius (token radius) unit
  | .byBox width height unit => .box (token width) (token height) unit

def lonLatOf (coord : GeospatialData) : Center :=
  .lonLat (token coord.longitude) (token coord.latitude)

def searchOf (center : Center) (shape : GeoSearchShape) (order : Option OrderBy)
    (count : Option Int64) (any : Bool) : SearchRequest :=
  ⟨center, shapeOf shape, order, count.map (·, any)⟩

/-- What a call asks for. -/
def Call.request : Call A → Request
  | sort key order limit alpha => .sort (token key) ⟨limit, order, alpha⟩ none
  | sortStore key destination order limit alpha =>
      .sort (token key) ⟨limit, order, alpha⟩ (some (token destination))
  | sortRo key order limit alpha => .sortRo (token key) ⟨limit, order, alpha⟩
  | copy source destination replace => .copy (token source) (token destination) ⟨none, replace⟩
  | copyWithOptions source destination destinationDb replace =>
      .copy (token source) (token destination) ⟨destinationDb, replace⟩
  | restore key ttlMs serialized options =>
      .restore (token key) ttlMs (token serialized) options
  | migrate host port key destinationDb timeoutMs options =>
      .migrate (token host) port (token key) destinationDb timeoutMs
        ⟨options.copy, options.replace, loginOf options⟩
  | geosearchByRadiusFromMember key member radius unit =>
      .geosearch (token key) (searchOf (.member (token member)) (.byRadius radius unit) none none
        false)
  | geosearchFromMember key member shape order count any =>
      .geosearch (token key) (searchOf (.member (token member)) shape order count any)
  | geosearchFromCoord key coord shape order count any =>
      .geosearch (token key) (searchOf (lonLatOf coord) shape order count any)
  | geosearchstoreFromMember destination source member shape order count any storeDist =>
      .geosearchstore (token destination) (token source)
        (searchOf (.member (token member)) shape order count any) storeDist
  | geosearchstoreFromCoord destination source coord shape order count any storeDist =>
      .geosearchstore (token destination) (token source)
        (searchOf (lonLatOf coord) shape order count any) storeDist
  | failover target force timeoutMs =>
      .failover ⟨target.map fun t => (token t.1, t.2, force), timeoutMs⟩
  | failoverAbort => .failoverAbort

/-! ## The tokens of a call are those of its request -/

omit [ToRedisArgs F64] in
theorem args_single {a : A} (h : SingleToken a) (c : Cmd) : (c.arg a).args = c.args ++ [token a] := by
  rw [Cmd.args_arg, h]

omit [ToRedisArgs A] [ToRedisArgs F64] in
theorem args_addSortOptions (order : Option OrderBy) (limit : Option Limit) (alpha : Bool)
    (c : Cmd) :
    (addSortOptions order limit alpha c).args =
      c.args ++ (SortOptions.clauses ⟨limit, order, alpha⟩).flatMap sortClauses.encode := by
  cases limit <;> cases order <;> cases alpha <;>
    simp [addSortOptions, addOption, addFlag, SortOptions.clauses, given, flagged,
      Vocabulary.encode, sortClauses]

omit [ToRedisArgs A] [ToRedisArgs F64] in
theorem args_restoreOptions (options : RestoreOptions) (c : Cmd) :
    (options.addTo c).args = c.args ++ options.clauses.flatMap restoreClauses.encode := by
  obtain ⟨replace, absttl, idletime, frequency⟩ := options
  cases replace <;> cases absttl <;> cases idletime <;> cases frequency <;>
    simp [RestoreOptions.addTo, addOption, addFlag, RestoreOptions.clauses, given, flagged,
      Vocabulary.encode, restoreClauses]

omit [ToRedisArgs A] [ToRedisArgs F64] in
theorem args_addMigrateOptions (options : MigrateOptions) (c : Cmd) :
    (addMigrateOptions options c).args = c.args ++ (MigrateRequest.clauses
      ⟨options.copy, options.replace, loginOf options⟩).flatMap migrateClauses.encode := by
  obtain ⟨copy, replace, password, username⟩ := options
  cases copy <;> cases replace <;> cases password <;> cases username <;>
    simp [addMigrateOptions, addFlag, MigrateRequest.clauses, MigrateRequest.loginClause, loginOf,
      given, flagged, Vocabulary.encode, migrateClauses]

omit [ToRedisArgs A] [ToRedisArgs F64] in
theorem args_addSearchTail (order : Option OrderBy) (count : Option Int64) (any : Bool) (c : Cmd) :
    (addSearchTail c order count any).args = c.args ++ (given order SearchClause.order ++
      SearchRequest.countClauses (count.map (·, any))).flatMap searchClauses.encode := by
  cases order <;> cases count <;> cases any <;>
    simp [addSearchTail, addOption, addFlag, SearchRequest.countClauses, given, flagged,
      Vocabulary.encode, searchClauses]

section Floats

variable (hfloat : ∀ x : F64, SingleToken x)
include hfloat

omit [ToRedisArgs A] in
theorem args_shape (shape : GeoSearchShape) (c : Cmd) :
    (shape.addTo c).args = c.args ++ searchClauses.encode (.shape (shapeOf shape)) := by
  cases shape with
  | byRadius radius unit =>
      rw [GeoSearchShape.addTo, Cmd.args_arg, args_single (hfloat radius)]
      simp [Vocabulary.encode, searchClauses, shapeOf]
  | byBox width height unit =>
      rw [GeoSearchShape.addTo, Cmd.args_arg, args_single (hfloat height),
        args_single (hfloat width)]
      simp [Vocabulary.encode, searchClauses, shapeOf]

omit [ToRedisArgs A] in
/-- The clauses of a search, after its center was written. -/
theorem args_search {c : Cmd} {head : List Bytes} {center : Center}
    (hc : c.args = head ++ searchClauses.encode (.center center)) (shape : GeoSearchShape)
    (order : Option OrderBy) (count : Option Int64) (any : Bool) :
    (addSearchTail (shape.addTo c) order count any).args = head ++
      (searchOf center shape order count any).clauses.flatMap searchClauses.encode := by
  rw [args_addSearchTail, args_shape hfloat, hc]
  simp [searchOf, SearchRequest.clauses]

omit hfloat [ToRedisArgs A] [ToRedisArgs F64] in
/-- Distances are stored if the last clause says so. -/
theorem args_stored {c : Cmd} {destination source : Bytes} {search : SearchRequest}
    (hc : c.args = [utf8 "GEOSEARCHSTORE", destination, source] ++
      search.clauses.flatMap searchClauses.encode) (storeDist : Bool) :
    (addFlag storeDist "STOREDIST" c).args =
      (Request.geosearchstore destination source search storeDist).encode := by
  rw [args_addFlag, hc]
  cases storeDist <;> simp [Request.encode, flagged, Vocabulary.encode, searchClauses]

/-- The command line of a call is that of its request. -/
theorem args_command (call : Call A) (h : call.Admissible) :
    call.command.args = call.request.encode := by
  cases call with
  | sort key order limit alpha =>
      rw [Call.command, ClauseGrammar.sort, args_addSortOptions, args_single h]
      simp [Call.request, Request.encode, given]
  | sortStore key destination order limit alpha =>
      rw [Call.command, ClauseGrammar.sortStore, args_single h.2, Cmd.args_arg,
        args_addSortOptions, args_single h.1]
      simp [Call.request, Request.encode, given, Vocabulary.encode, sortClauses]
  | sortRo key order limit alpha =>
      rw [Call.command, ClauseGrammar.sortRo, args_addSortOptions, args_single h]
      rfl
  | copy source destination replace =>
      rw [Call.command, OptionVariants.copy, args_addFlag, args_single h.2, args_single h.1]
      cases replace <;> rfl
  | copyWithOptions source destination destinationDb replace =>
      have hdb (db : Int64) (c : Cmd) : ((c.arg "DB").arg db).args =
          c.args ++ copyClauses.encode (.db db) := by
        simp [Vocabulary.encode, copyClauses]
      rw [Call.command, OptionVariants.copyWithOptions, args_addFlag, args_addOption hdb,
        args_single h.2, args_single h.1]
      cases destinationDb <;> cases replace <;> rfl
  | restore key ttlMs serialized options =>
      rw [Call.command, ClauseGrammar.restore, args_restoreOptions, args_single h.2, Cmd.args_arg,
        args_single h.1]
      rfl
  | migrate host port key destinationDb timeoutMs options =>
      rw [Call.command, ClauseGrammar.migrate, args_addMigrateOptions, Cmd.args_arg, Cmd.args_arg,
        args_single h.2, Cmd.args_arg, args_single h.1]
      simp [Call.request, Request.encode]
  | geosearchByRadiusFromMember key member radius unit =>
      rw [Call.command, OptionVariants.geosearchByRadiusFromMember, Cmd.args_arg,
        args_single (hfloat radius), Cmd.args_arg, args_single h.2, Cmd.args_arg, args_single h.1]
      cases unit <;> rfl
  | geosearchFromMember key member shape order count any =>
      change _ = [utf8 "GEOSEARCH", token key] ++ _
      apply args_search hfloat
      rw [args_single h.2, Cmd.args_arg, args_single h.1]
      rfl
  | geosearchFromCoord key coord shape order count any =>
      change _ = [utf8 "GEOSEARCH", token key] ++ _
      apply args_search hfloat
      rw [args_single (hfloat _), args_single (hfloat _), Cmd.args_arg, args_single h]
      rfl
  | geosearchstoreFromMember destination source member shape order count any storeDist =>
      obtain ⟨hdestination, hsource, hmember⟩ := h
      refine args_stored (args_search hfloat ?_ shape order count any) storeDist
      rw [args_single hmember, Cmd.args_arg, args_single hsource, args_single hdestination]
      rfl
  | geosearchstoreFromCoord destination source coord shape order count any storeDist =>
      obtain ⟨hdestination, hsource⟩ := h
      refine args_stored (args_search hfloat ?_ shape order count any) storeDist
      rw [args_single (hfloat _), args_single (hfloat _), Cmd.args_arg, args_single hsource,
        args_single hdestination]
      rfl
  | failover target force timeoutMs =>
      cases target with
      | none => cases timeoutMs <;> rfl
      | some target =>
          have htarget := (h target rfl).write_eq
          cases force <;> cases timeoutMs <;>
            simp [Call.command, ClauseGrammar.failover, addOption, addFlag, htarget,
              Call.request, Request.encode, FailoverRequest.clauses, FailoverRequest.targetClauses,
              given, flagged, Vocabulary.encode, failoverClauses]
  | failoverAbort => rfl

omit hfloat [ToRedisArgs A] [ToRedisArgs F64] in
theorem loginOf_eq_iff (o o' : MigrateOptions) :
    loginOf o = loginOf o' ↔
      o.password = o'.password ∧ (o.password ≠ none → o.username = o'.username) := by
  obtain ⟨_, _, password, username⟩ := o
  obtain ⟨_, _, password', username'⟩ := o'
  cases password <;> cases password' <;> cases username <;> cases username' <;>
    simp [loginOf, utf8_injective.eq_iff, and_comm]

omit hfloat [ToRedisArgs A] [ToRedisArgs F64] in
/-- A flag that counts only beside a value. -/
theorem map_pair_eq_iff {α : Type} (value value' : Option α) (flag flag' : Bool) :
    value.map (·, flag) = value'.map (·, flag') ↔
      value = value' ∧ (value ≠ none → flag = flag') := by
  cases value <;> cases value' <;> simp

/-- The command line of a call is that of its request, and every request is read
back from its command line, whatever the keys and values are named. So two calls
send the same tokens exactly when they ask for the same thing. What the server
is not told is the user name for a migration without a password, `any` without a
count and that a failover to nobody is forced. -/
theorem clause_commands_uniquely_decodable :
    (∀ request, parse (Request.encode request) = some request) ∧
    (∀ call : Call A, call.Admissible → call.command.args = call.request.encode) ∧
    (∀ call other : Call A, call.Admissible → other.Admissible →
      (call.command.args = other.command.args ↔ call.request = other.request)) ∧
    (∀ (host : A) port (key : A) db timeout o o', SingleToken host → SingleToken key →
      (migrate host port key db timeout o = migrate host port key db timeout o' ↔
        o.copy = o'.copy ∧ o.replace = o'.replace ∧ o.password = o'.password ∧
          (o.password ≠ none → o.username = o'.username))) ∧
    (∀ (key member : A) shape order count count' any any', SingleToken key → SingleToken member →
      (geosearchFromMember key member shape order count any =
          geosearchFromMember key member shape order count' any' ↔
        count = count' ∧ (count ≠ none → any = any'))) ∧
    ∀ (host : Option A) port timeout force force', (∀ a ∈ host, SingleToken a) →
      (failover (host.map (·, port)) force timeout = failover (host.map (·, port)) force' timeout ↔
        (host ≠ none → force = force')) := by
  have hunique (call other : Call A) (hcall : call.Admissible) (hother : other.Admissible) :
      call.command.args = other.command.args ↔ call.request = other.request := by
    rw [args_command hfloat call hcall, args_command hfloat other hother]
    constructor
    · exact eq_of_read (parse_encode _) (parse_encode _)
    · intro hsame
      rw [hsame]
  refine ⟨parse_encode, args_command hfloat, hunique, ?_, ?_, ?_⟩
  · intro host port key db timeout o o' hhost hkey
    rw [Cmd.ext_iff]
    refine (hunique (.migrate host port key db timeout o) (.migrate host port key db timeout o')
      ⟨hhost, hkey⟩ ⟨hhost, hkey⟩).trans ?_
    simp only [Call.request, Request.migrate.injEq, MigrateRequest.mk.injEq, loginOf_eq_iff,
      true_and]
  · intro key member shape order count count' any any' hkey hmember
    rw [Cmd.ext_iff]
    refine (hunique (.geosearchFromMember key member shape order count any)
      (.geosearchFromMember key member shape order count' any') ⟨hkey, hmember⟩
      ⟨hkey, hmember⟩).trans ?_
    simp only [Call.request, searchOf, Request.geosearch.injEq, SearchRequest.mk.injEq, true_and,
      map_pair_eq_iff]
  · intro host port timeout force force' hhost
    have hadmissible (f : Bool) : (Call.failover (host.map (·, port)) f timeout).Admissible := by
      intro t ht
      obtain ⟨a, ha, rfl⟩ := Option.map_eq_some_iff.mp ht
      exact hhost a ha
    rw [Cmd.ext_iff]
    refine (hunique (.failover (host.map (·, port)) force timeout)
      (.failover (host.map (·, port)) force' timeout) (hadmissible force)
      (hadmissible force')).trans ?_
    cases host <;> simp [Call.request]

end Floats

end Calls

/-- A key and a member that are named like keywords, and a radius of `0.0`. -/
theorem clause_commands_uniquely_decodable_keywords :
    let _ : ToRedisArgs F64 := ⟨fun _ => [utf8 "0.0"]⟩
    parse (geosearchFromMember "FROMLONLAT" "BYBOX" (.byRadius ⟨0⟩ .kilometers) (some .desc)
        (some 3) true).args =
      some (.geosearch (utf8 "FROMLONLAT") ⟨.member (utf8 "BYBOX"), .radius (utf8 "0.0") .kilometers,
        some .desc, some (3, true)⟩) ∧
    geosearchFromMember "k" "m" (.byRadius ⟨0⟩ .feet) none none true =
      geosearchFromMember "k" "m" (.byRadius ⟨0⟩ .feet) none none false := by
  let _ : ToRedisArgs F64 := ⟨fun _ => [utf8 "0.0"]⟩
  obtain ⟨hparse, hargs, -, -, hsearch, -⟩ :=
    clause_commands_uniquely_decodable (A := String) fun _ => rfl
  constructor
  · have hcall := hargs (.geosearchFromMember "FROMLONLAT" "BYBOX" (.byRadius ⟨0⟩ .kilometers)
      (some .desc) (some 3) true) ⟨rfl, rfl⟩
    exact (congrArg parse hcall).trans (hparse _)
  · exact (hsearch "k" "m" _ none none none true false rfl rfl).mpr ⟨rfl, by simp⟩

end GlideRust.Commands.ClauseGrammar
