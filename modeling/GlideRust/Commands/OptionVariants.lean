import GlideRust.Commands.Stream

/-!
# Commands that come with and without options

Five commands of the client have a plain form and a form that takes options. An
option that is touched should add its own clause to the plain command and change
nothing else.

## Implementation notes

How an `f64` is written is left to the `redis` crate: the coordinates and the
radius go through an arbitrary `ToRedisArgs F64`.
-/

namespace GlideRust.Commands.OptionVariants

open Redis Options StreamCommands

/-! ## Geospatial commands -/

inductive GeoUnit where
  | meters
  | kilometers
  | miles
  | feet
  deriving DecidableEq, Repr

/-- `GeoUnit::as_arg`. -/
def GeoUnit.asArg : GeoUnit → String
  | .meters => "m"
  | .kilometers => "km"
  | .miles => "mi"
  | .feet => "ft"

/-- The word of a unit, as the server takes it. -/
def GeoUnit.token : GeoUnit → Bytes
  | .meters => utf8 "m"
  | .kilometers => utf8 "km"
  | .miles => utf8 "mi"
  | .feet => utf8 "ft"

@[simp] theorem GeoUnit.utf8_asArg (unit : GeoUnit) : utf8 unit.asArg = unit.token := by
  cases unit <;> rfl

structure GeospatialData where
  longitude : F64
  latitude : F64
  deriving DecidableEq, Repr

inductive GeoSearchShape where
  | byRadius (radius : F64) (unit : GeoUnit)
  | byBox (width height : F64) (unit : GeoUnit)
  deriving DecidableEq, Repr

section Geo

variable {K M : Type} [ToRedisArgs K] [ToRedisArgs M] [ToRedisArgs F64]

/-- `GeoSearchShape::add_to`. -/
def GeoSearchShape.addTo (shape : GeoSearchShape) (c : Cmd) : Cmd :=
  match shape with
  | .byRadius radius unit => ((c.arg "BYRADIUS").arg radius).arg unit.asArg
  | .byBox width height unit => (((c.arg "BYBOX").arg width).arg height).arg unit.asArg

/-- The loop over members and their positions. -/
def argMembers (c : Cmd) (membersPositions : List (M × GeospatialData)) : Cmd :=
  membersPositions.foldl (fun c p => ((c.arg p.2.longitude).arg p.2.latitude).arg p.1) c

def geoadd (key : K) (membersPositions : List (M × GeospatialData)) : Cmd :=
  argMembers ((Cmd.new.arg "GEOADD").arg key) membersPositions

def geoaddOptions (key : K) (membersPositions : List (M × GeospatialData))
    (conditionalChange : Option ConditionalChange) (changed : Bool) : Cmd :=
  let c := (Cmd.new.arg "GEOADD").arg key
  let c := addOption conditionalChange ConditionalChange.addTo c
  argMembers (addFlag changed "CH" c) membersPositions

def geosearchByRadiusFromMember (key : K) (member : M) (radius : F64) (unit : GeoUnit) : Cmd :=
  ((((((Cmd.new.arg "GEOSEARCH").arg key).arg "FROMMEMBER").arg member).arg "BYRADIUS").arg
    radius).arg unit.asArg

/-- `add_search_tail`. -/
def addSearchTail (c : Cmd) (order : Option OrderBy) (count : Option Int64) (any : Bool) : Cmd :=
  let c := addOption order (fun o c => c.arg o.asArg) c
  addOption count (fun n c => addFlag any "ANY" ((c.arg "COUNT").arg n)) c

def geosearchFromMember (key : K) (member : M) (shape : GeoSearchShape) (order : Option OrderBy)
    (count : Option Int64) (any : Bool) : Cmd :=
  addSearchTail (shape.addTo
    ((((Cmd.new.arg "GEOSEARCH").arg key).arg "FROMMEMBER").arg member)) order count any

@[simp] theorem args_argMembers (c : Cmd) (membersPositions : List (M × GeospatialData)) :
    (argMembers c membersPositions).args = c.args ++ membersPositions.flatMap fun p =>
      writeRedisArgs p.2.longitude ++ writeRedisArgs p.2.latitude ++ writeRedisArgs p.1 := by
  induction membersPositions generalizing c with
  | nil => simp [argMembers]
  | cons p rest ih =>
      change (argMembers (((c.arg p.2.longitude).arg p.2.latitude).arg p.1) rest).args = _
      rw [ih]
      simp

end Geo

/-! ## Copying keys -/

section Copy

variable {S D : Type} [ToRedisArgs S] [ToRedisArgs D]

def copy (source : S) (destination : D) (replace : Bool) : Cmd :=
  addFlag replace "REPLACE" (((Cmd.new.arg "COPY").arg source).arg destination)

def copyWithOptions (source : S) (destination : D) (destinationDb : Option Int64)
    (replace : Bool) : Cmd :=
  addFlag replace "REPLACE" (addOption destinationDb (fun db c => (c.arg "DB").arg db)
    (((Cmd.new.arg "COPY").arg source).arg destination))

end Copy

/-! ## Touched options -/

inductive AddTouch where
  | makeStream
  | trim (trim : StreamTrimOptions)

inductive GroupTouch where
  | makeStream
  | entriesRead (n : Int64)

inductive GeoaddTouch where
  | condition (change : ConditionalChange)
  | changed

inductive SearchTouch where
  | order (order : OrderBy)
  | count (n : Int64)

/-- The arguments of a plain command and the option, if any, that is touched in
the other form; all other options have their default. -/
inductive Variant (K F V M S D : Type) where
  | xadd (key : K) (id : String) (fields : List (F × V)) (touched : Option AddTouch)
  | xgroupCreate (key : K) (group id : String) (touched : Option GroupTouch)
  | geoadd (key : K) (membersPositions : List (M × GeospatialData))
      (touched : Option GeoaddTouch)
  | geosearch (key : K) (member : M) (radius : F64) (unit : GeoUnit) (any : Bool)
      (touched : Option SearchTouch)
  | copy (source : S) (destination : D) (replace : Bool) (destinationDb : Option Int64)

/-- Default options of `XADD` with at most one of them touched. -/
def addOptions : Option AddTouch → StreamAddOptions
  | none => default
  | some .makeStream => { (default : StreamAddOptions) with makeStream := true }
  | some (.trim trim) => { (default : StreamAddOptions) with trim := some trim }

def groupOptions : Option GroupTouch → StreamGroupCreateOptions
  | none => default
  | some .makeStream => { (default : StreamGroupCreateOptions) with makeStream := true }
  | some (.entriesRead n) => { (default : StreamGroupCreateOptions) with entriesRead := some n }

namespace Variant

section Commands

variable {K F V M S D : Type} [ToRedisArgs K] [ToRedisArgs F] [ToRedisArgs V] [ToRedisArgs M]
variable [ToRedisArgs S] [ToRedisArgs D] [ToRedisArgs F64]

def plain : Variant K F V M S D → Cmd
  | xadd key id fields _ => StreamCommands.xadd key id fields
  | xgroupCreate key group id _ => StreamCommands.xgroupCreate key group id false
  | geoadd key membersPositions _ => OptionVariants.geoadd key membersPositions
  | geosearch key member radius unit _ _ => geosearchByRadiusFromMember key member radius unit
  | copy source destination replace _ => OptionVariants.copy source destination replace

/-- The form that takes options. -/
def optioned : Variant K F V M S D → Cmd
  | xadd key id fields touched => xaddOptions key id fields (addOptions touched)
  | xgroupCreate key group id touched => xgroupCreateOptions key group id (groupOptions touched)
  | geoadd key membersPositions none => geoaddOptions key membersPositions none false
  | geoadd key membersPositions (some (.condition change)) =>
      geoaddOptions key membersPositions (some change) false
  | geoadd key membersPositions (some .changed) => geoaddOptions key membersPositions none true
  | geosearch key member radius unit any none =>
      geosearchFromMember key member (.byRadius radius unit) none none any
  | geosearch key member radius unit any (some (.order order)) =>
      geosearchFromMember key member (.byRadius radius unit) (some order) none any
  | geosearch key member radius unit any (some (.count n)) =>
      geosearchFromMember key member (.byRadius radius unit) none (some n) any
  | copy source destination replace destinationDb =>
      copyWithOptions source destination destinationDb replace

/-- The tokens of the touched option. A stream is created unless `NOMKSTREAM` is
sent, so asking `XADD` to create it takes no token. -/
def clause : Variant K F V M S D → List Bytes
  | xadd _ _ _ none | xadd _ _ _ (some .makeStream) => []
  | xadd _ _ _ (some (.trim trim)) => trim.tokens
  | xgroupCreate _ _ _ none => []
  | xgroupCreate _ _ _ (some .makeStream) => [utf8 "MKSTREAM"]
  | xgroupCreate _ _ _ (some (.entriesRead n)) => integerTokens "ENTRIESREAD" (some n)
  | geoadd _ _ none => []
  | geoadd _ _ (some (.condition .onlyIfExists)) => [utf8 "XX"]
  | geoadd _ _ (some (.condition .onlyIfDoesNotExist)) => [utf8 "NX"]
  | geoadd _ _ (some .changed) => [utf8 "CH"]
  | geosearch _ _ _ _ _ none => []
  | geosearch _ _ _ _ _ (some (.order order)) => [order.token]
  | geosearch _ _ _ _ any (some (.count n)) =>
      integerTokens "COUNT" (some n) ++ if any then [utf8 "ANY"] else []
  | copy _ _ _ destinationDb => integerTokens "DB" destinationDb

/-- The tokens of the plain command before the place of the clause. -/
def beforeClause : Variant K F V M S D → List Bytes
  | xadd key _ _ _ => [utf8 "XADD"] ++ writeRedisArgs key
  | xgroupCreate key group id _ =>
      [utf8 "XGROUP", utf8 "CREATE"] ++ writeRedisArgs key ++ [utf8 group, utf8 id]
  | geoadd key _ _ => [utf8 "GEOADD"] ++ writeRedisArgs key
  | geosearch key member radius unit _ _ =>
      [utf8 "GEOSEARCH"] ++ writeRedisArgs key ++ [utf8 "FROMMEMBER"] ++ writeRedisArgs member ++
        [utf8 "BYRADIUS"] ++ writeRedisArgs radius ++ [unit.token]
  | copy source destination _ _ =>
      [utf8 "COPY"] ++ writeRedisArgs source ++ writeRedisArgs destination

/-- The tokens of the plain command behind the place of the clause. -/
def afterClause : Variant K F V M S D → List Bytes
  | xadd _ id fields _ =>
      [utf8 id] ++ fields.flatMap fun p => writeRedisArgs p.1 ++ writeRedisArgs p.2
  | xgroupCreate _ _ _ _ => []
  | geoadd _ membersPositions _ => membersPositions.flatMap fun p =>
      writeRedisArgs p.2.longitude ++ writeRedisArgs p.2.latitude ++ writeRedisArgs p.1
  | geosearch _ _ _ _ _ _ => []
  | copy _ _ replace _ => if replace then [utf8 "REPLACE"] else []

/-- Whether no option is touched. -/
def Untouched : Variant K F V M S D → Prop
  | xadd _ _ _ touched => touched = none
  | xgroupCreate _ _ _ touched => touched = none
  | geoadd _ _ touched => touched = none
  | geosearch _ _ _ _ _ touched => touched = none
  | copy _ _ _ destinationDb => destinationDb = none

/-- The touched option adds its clause and leaves the plain command as it is. -/
def AddsOnlyClause (v : Variant K F V M S D) : Prop :=
  ∃ head tail : List Bytes,
    v.plain.args = head ++ tail ∧ v.optioned.args = head ++ v.clause ++ tail

/-- The clause of the touched option stands at its place in the plain command, and
the command has no other tokens. -/
def AddsClauseInPlace (v : Variant K F V M S D) : Prop :=
  v.plain.args = v.beforeClause ++ v.afterClause ∧
    v.optioned.args = v.beforeClause ++ v.clause ++ v.afterClause

/-- An `XADD` whose `make_stream` keeps its default. -/
def KeepsMakeStream : Variant K F V M S D → Prop
  | xadd _ _ _ none => True
  | xadd _ _ _ (some (.trim _)) => True
  | _ => False

/-! ## What touching an option does -/

/-- The default `make_stream` is not neutral: it sends a token of its own. -/
theorem length_optioned_of_keepsMakeStream {v : Variant K F V M S D} (h : v.KeepsMakeStream) :
    v.optioned.args.length = v.plain.args.length + v.clause.length + 1 := by
  obtain ⟨key, id, fields, _ | _ | trim⟩ | _ | _ | _ | _ := v
  · simp [optioned, plain, clause, xaddOptions, StreamCommands.xadd, addOptions,
      StreamAddOptions.args_addTo, StreamAddOptions.tokens, default]
    omega
  · cases h
  · simp [optioned, plain, clause, xaddOptions, StreamCommands.xadd, addOptions,
      StreamAddOptions.args_addTo, StreamAddOptions.tokens, default]
    omega
  all_goals cases h

theorem not_addsOnlyClause_of_keepsMakeStream {v : Variant K F V M S D} (h : v.KeepsMakeStream) :
    ¬v.AddsOnlyClause := by
  rintro ⟨head, tail, hplain, hoptioned⟩
  have hlength := length_optioned_of_keepsMakeStream h
  rw [hplain, hoptioned] at hlength
  simp only [List.length_append] at hlength
  omega

theorem args_plain (v : Variant K F V M S D) : v.plain.args = v.beforeClause ++ v.afterClause := by
  cases v with
  | xadd key id fields touched =>
      simp [plain, beforeClause, afterClause, StreamCommands.xadd]
  | xgroupCreate key group id touched =>
      simp [plain, beforeClause, afterClause, StreamCommands.xgroupCreate]
  | geoadd key membersPositions touched =>
      simp [plain, beforeClause, afterClause, OptionVariants.geoadd]
  | geosearch key member radius unit any touched =>
      simp [plain, beforeClause, afterClause, geosearchByRadiusFromMember]
  | copy source destination replace destinationDb =>
      simp [plain, beforeClause, afterClause, OptionVariants.copy]

/-- Where `make_stream` is not left at its default, the clause is put in its place. -/
theorem args_optioned {v : Variant K F V M S D} (h : ¬v.KeepsMakeStream) :
    v.optioned.args = v.beforeClause ++ v.clause ++ v.afterClause := by
  cases v with
  | xadd key id fields touched =>
      obtain _ | _ | trim := touched
      · exact absurd trivial h
      · simp [optioned, beforeClause, clause, afterClause, xaddOptions, addOptions,
          StreamAddOptions.args_addTo, StreamAddOptions.tokens, default]
      · exact absurd trivial h
  | xgroupCreate key group id touched =>
      obtain _ | _ | n := touched <;>
        simp [optioned, beforeClause, clause, afterClause, xgroupCreateOptions, groupOptions,
          StreamGroupCreateOptions.args_addTo, StreamGroupCreateOptions.tokens, integerTokens,
          default]
  | geoadd key membersPositions touched =>
      obtain _ | ⟨_ | _⟩ | _ := touched <;>
        simp [optioned, beforeClause, clause, afterClause, geoaddOptions, addOption,
          ConditionalChange.addTo]
  | geosearch key member radius unit any touched =>
      obtain _ | order | n := touched <;>
        simp [optioned, beforeClause, clause, afterClause, geosearchFromMember,
          GeoSearchShape.addTo, addSearchTail, addOption, integerTokens]
  | copy source destination replace destinationDb =>
      cases destinationDb <;>
        simp [optioned, beforeClause, clause, afterClause, copyWithOptions, addOption,
          integerTokens]

theorem AddsClauseInPlace.addsOnlyClause {v : Variant K F V M S D} (h : v.AddsClauseInPlace) :
    v.AddsOnlyClause :=
  ⟨v.beforeClause, v.afterClause, h⟩

/-- The clause is put in its place exactly where `make_stream` is not left at its
default. -/
theorem addsClauseInPlace_iff (v : Variant K F V M S D) :
    v.AddsClauseInPlace ↔ ¬v.KeepsMakeStream := by
  constructor
  · intro hadds hkeeps
    exact not_addsOnlyClause_of_keepsMakeStream hkeeps hadds.addsOnlyClause
  · intro hkeeps
    exact ⟨v.args_plain, args_optioned hkeeps⟩

/-- Touching an option adds its clause and nothing else, except that an `XADD`
which leaves `make_stream` alone is told not to create the stream. -/
theorem addsOnlyClause_iff (v : Variant K F V M S D) :
    v.AddsOnlyClause ↔ ¬v.KeepsMakeStream := by
  constructor
  · intro hadds hkeeps
    exact not_addsOnlyClause_of_keepsMakeStream hkeeps hadds
  · intro hkeeps
    exact (v.addsClauseInPlace_iff.mpr hkeeps).addsOnlyClause

/-- With nothing touched, adding only the clause is sending the plain command. -/
theorem addsOnlyClause_iff_of_untouched {v : Variant K F V M S D} (h : v.Untouched) :
    v.AddsOnlyClause ↔ v.optioned.args = v.plain.args := by
  have hclause : v.clause = [] := by
    cases v <;> cases h <;> rfl
  rw [AddsOnlyClause, hclause]
  constructor
  · rintro ⟨head, tail, hplain, hoptioned⟩
    rw [hplain, hoptioned, List.append_nil]
  · intro hsame
    exact ⟨v.plain.args, [], by simp, by simp [hsame]⟩

end Commands

end Variant

section Agreement

variable {K F V M S D : Type} [ToRedisArgs K] [ToRedisArgs F] [ToRedisArgs V] [ToRedisArgs M]
variable [ToRedisArgs S] [ToRedisArgs D] [ToRedisArgs F64]

/-- The forms with options agree with the plain commands exactly where they are
not an `XADD` that leaves `make_stream` at its default: with nothing touched they
send the same tokens, with one option touched they add its clause and no more, and
put it behind the key, the id, the radius or the names. -/
theorem options_only_add_their_clause_iff (v : Variant K F V M S D) :
    (v.Untouched → (v.optioned.args = v.plain.args ↔ ¬v.KeepsMakeStream)) ∧
      (v.AddsOnlyClause ↔ ¬v.KeepsMakeStream) ∧
      (v.AddsClauseInPlace ↔ ¬v.KeepsMakeStream) := by
  refine ⟨?_, v.addsOnlyClause_iff, v.addsClauseInPlace_iff⟩
  intro huntouched
  rw [← v.addsOnlyClause_iff_of_untouched huntouched, v.addsOnlyClause_iff]

end Agreement

theorem options_only_add_their_clause_iff_copy :
    (copyWithOptions "a" "b" none true).args = (copy "a" "b" true).args ∧
      (copyWithOptions "a" "b" (some 2) true).args =
        [utf8 "COPY", utf8 "a", utf8 "b", utf8 "DB", utf8 "2", utf8 "REPLACE"] := by
  -- no float is written here
  let _ : ToRedisArgs F64 := ⟨fun _ => []⟩
  have hagree := options_only_add_their_clause_iff
    (.copy "a" "b" true none : Variant String String String String String String)
  have hplace := options_only_add_their_clause_iff
    (.copy "a" "b" true (some 2) : Variant String String String String String String)
  exact ⟨(hagree.1 rfl).mpr not_false, (hplace.2.2.mpr not_false).2⟩

/-- With default options an entry is not added to a missing stream. -/
theorem xadd_default_sends_nomkstream :
    (xaddOptions "s" "*" [("f", "v")] default).args =
        [utf8 "XADD", utf8 "s", utf8 "NOMKSTREAM", utf8 "*", utf8 "f", utf8 "v"] ∧
      (xadd "s" "*" [("f", "v")]).args = [utf8 "XADD", utf8 "s", utf8 "*", utf8 "f", utf8 "v"] ∧
      (xaddOptions "s" "*" [("f", "v")] default).args ≠ (xadd "s" "*" [("f", "v")]).args := by
  refine ⟨rfl, rfl, ?_⟩
  decide

end GlideRust.Commands.OptionVariants
