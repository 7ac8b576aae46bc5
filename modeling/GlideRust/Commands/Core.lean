import GlideRust.Commands.ScanCompleteness

/-!
# The scan methods of the two command traits

`AsyncCommands` and `Commands` each define eight methods that differ in the
command name, the key and the pattern they hand to the iterator's constructor.

## Implementation notes

`decode` is `from_owned_redis_value` at `(u64, Vec<RV>)`; the element type `RV`
is the caller's.
-/

namespace GlideRust.Commands.Core

open Redis Scan ScanCompleteness

variable {α : Type} {K P : Type*} [ToRedisArgs K] [ToRedisArgs P]
variable (decode : Value → RedisResult (UInt64 × List α))

/-! ## Asynchronous -/

namespace AsyncCommands

def scan : List Await → NewTrace (ScanIter α) Await :=
  ScanIter.new decode [utf8 "SCAN"] []

def scanMatch (pattern : P) : List Await → NewTrace (ScanIter α) Await :=
  ScanIter.new decode [utf8 "SCAN"] ([utf8 "MATCH"] ++ writeRedisArgs pattern)

def hscan (key : K) : List Await → NewTrace (ScanIter α) Await :=
  ScanIter.new decode ([utf8 "HSCAN"] ++ writeRedisArgs key) []

def hscanMatch (key : K) (pattern : P) : List Await → NewTrace (ScanIter α) Await :=
  ScanIter.new decode ([utf8 "HSCAN"] ++ writeRedisArgs key)
    ([utf8 "MATCH"] ++ writeRedisArgs pattern)

def sscan (key : K) : List Await → NewTrace (ScanIter α) Await :=
  ScanIter.new decode ([utf8 "SSCAN"] ++ writeRedisArgs key) []

def sscanMatch (key : K) (pattern : P) : List Await → NewTrace (ScanIter α) Await :=
  ScanIter.new decode ([utf8 "SSCAN"] ++ writeRedisArgs key)
    ([utf8 "MATCH"] ++ writeRedisArgs pattern)

def zscan (key : K) : List Await → NewTrace (ScanIter α) Await :=
  ScanIter.new decode ([utf8 "ZSCAN"] ++ writeRedisArgs key) []

def zscanMatch (key : K) (pattern : P) : List Await → NewTrace (ScanIter α) Await :=
  ScanIter.new decode ([utf8 "ZSCAN"] ++ writeRedisArgs key)
    ([utf8 "MATCH"] ++ writeRedisArgs pattern)

end AsyncCommands

/-! ## Blocking

The trait is called `Commands` in the source. -/

namespace SyncCommands

/-- What a blocking scan method returns. -/
abbrev Created (α : Type) :=
  List (RedisResult Value) → NewTrace (SyncScanIter α) (RedisResult Value)

def scan : Created α :=
  SyncScanIter.new decode [utf8 "SCAN"] []

def scanMatch (pattern : P) : Created α :=
  SyncScanIter.new decode [utf8 "SCAN"] ([utf8 "MATCH"] ++ writeRedisArgs pattern)

def hscan (key : K) : Created α :=
  SyncScanIter.new decode ([utf8 "HSCAN"] ++ writeRedisArgs key) []

def hscanMatch (key : K) (pattern : P) : Created α :=
  SyncScanIter.new decode ([utf8 "HSCAN"] ++ writeRedisArgs key)
    ([utf8 "MATCH"] ++ writeRedisArgs pattern)

def sscan (key : K) : Created α :=
  SyncScanIter.new decode ([utf8 "SSCAN"] ++ writeRedisArgs key) []

def sscanMatch (key : K) (pattern : P) : Created α :=
  SyncScanIter.new decode ([utf8 "SSCAN"] ++ writeRedisArgs key)
    ([utf8 "MATCH"] ++ writeRedisArgs pattern)

def zscan (key : K) : Created α :=
  SyncScanIter.new decode ([utf8 "ZSCAN"] ++ writeRedisArgs key) []

def zscanMatch (key : K) (pattern : P) : Created α :=
  SyncScanIter.new decode ([utf8 "ZSCAN"] ++ writeRedisArgs key)
    ([utf8 "MATCH"] ++ writeRedisArgs pattern)

end SyncCommands

/-! ## Completeness of all of them -/

/-- The tokens of a scan request: the name, the key tokens, the cursor in
decimal, and the pattern tokens behind `MATCH`. -/
def scanTokens (name : String) (key : List Bytes) (pattern : Option (List Bytes))
    (cursor : UInt64) : List Bytes :=
  utf8 name :: key ++ [Lib.Decimal.render cursor.toNat] ++
    match pattern with
    | none => []
    | some tokens => utf8 "MATCH" :: tokens

/-- Both flavours of a method complete with the requests of `tokens`. -/
def BothComplete (create : List Await → NewTrace (ScanIter α) Await)
    (syncCreate : SyncCommands.Created α) (tokens : UInt64 → List Bytes) : Prop :=
  Completes decode create tokens ∧ SyncCompletes decode syncCreate tokens

theorem bothComplete_new (spec : PageSpec) :
    BothComplete decode (ScanIter.new decode spec.prefixArgs spec.suffixArgs)
      (SyncScanIter.new decode spec.prefixArgs spec.suffixArgs) (pageTokens spec) :=
  ⟨new_completes spec, sync_new_completes spec⟩

/-- All scan methods, asynchronous and blocking, are complete and send exactly
the requests their names announce. -/
theorem scan_methods_complete (key : K) (pattern : P) :
    BothComplete decode (AsyncCommands.scan decode) (SyncCommands.scan decode)
      (scanTokens "SCAN" [] none) ∧
    BothComplete decode (AsyncCommands.scanMatch decode pattern)
      (SyncCommands.scanMatch decode pattern)
      (scanTokens "SCAN" [] (some (writeRedisArgs pattern))) ∧
    BothComplete decode (AsyncCommands.hscan decode key) (SyncCommands.hscan decode key)
      (scanTokens "HSCAN" (writeRedisArgs key) none) ∧
    BothComplete decode (AsyncCommands.hscanMatch decode key pattern)
      (SyncCommands.hscanMatch decode key pattern)
      (scanTokens "HSCAN" (writeRedisArgs key) (some (writeRedisArgs pattern))) ∧
    BothComplete decode (AsyncCommands.sscan decode key) (SyncCommands.sscan decode key)
      (scanTokens "SSCAN" (writeRedisArgs key) none) ∧
    BothComplete decode (AsyncCommands.sscanMatch decode key pattern)
      (SyncCommands.sscanMatch decode key pattern)
      (scanTokens "SSCAN" (writeRedisArgs key) (some (writeRedisArgs pattern))) ∧
    BothComplete decode (AsyncCommands.zscan decode key) (SyncCommands.zscan decode key)
      (scanTokens "ZSCAN" (writeRedisArgs key) none) ∧
    BothComplete decode (AsyncCommands.zscanMatch decode key pattern)
      (SyncCommands.zscanMatch decode key pattern)
      (scanTokens "ZSCAN" (writeRedisArgs key) (some (writeRedisArgs pattern))) := by
  refine ⟨?_, ?_, ?_, ?_, ?_, ?_, ?_, ?_⟩
  · exact bothComplete_new decode ⟨[utf8 "SCAN"], []⟩
  · exact bothComplete_new decode
      ⟨[utf8 "SCAN"], [utf8 "MATCH"] ++ writeRedisArgs pattern⟩
  · exact bothComplete_new decode ⟨[utf8 "HSCAN"] ++ writeRedisArgs key, []⟩
  · exact bothComplete_new decode
      ⟨[utf8 "HSCAN"] ++ writeRedisArgs key, [utf8 "MATCH"] ++ writeRedisArgs pattern⟩
  · exact bothComplete_new decode ⟨[utf8 "SSCAN"] ++ writeRedisArgs key, []⟩
  · exact bothComplete_new decode
      ⟨[utf8 "SSCAN"] ++ writeRedisArgs key, [utf8 "MATCH"] ++ writeRedisArgs pattern⟩
  · exact bothComplete_new decode ⟨[utf8 "ZSCAN"] ++ writeRedisArgs key, []⟩
  · exact bothComplete_new decode
      ⟨[utf8 "ZSCAN"] ++ writeRedisArgs key, [utf8 "MATCH"] ++ writeRedisArgs pattern⟩

theorem scan_methods_complete_empty_page :
    ∃ iter,
      (AsyncCommands.hscanMatch bytesPage "h" "f*"
        [.ready (.ok (pageReply "3" [])), .ready (.ok (pageReply "0" ["f1"]))]).outcome =
          .created iter ∧
      (ScanIter.callMany bytesPage 3 iter [.ready (.ok (pageReply "0" ["f1"]))]).results =
        [.returned (some (utf8 "f1")), .returned none, .returned none] := by
  have h := (scan_methods_complete bytesPage "h" "f*").2.2.2.1.1 3 [] [(0, [utf8 "f1"])]
    [pageReply "3" [], pageReply "0" ["f1"]] [] ⟨by decide, rfl⟩ rfl
  obtain ⟨iter, hcreated, hm⟩ := h
  exact ⟨iter, hcreated, (hm 3).1⟩

end GlideRust.Commands.Core
