import GlideRust.Commands.Core
import GlideRust.Commands.Options
import GlideRust.ValueConversion
import GlideRust.Lib.Fallible
import GlideRust.Lib.PagedWalk

/-!
# Scans by hand

`scan_cursor` and `hscan_novalues` hand their caller the cursor of the next page,
as text, and the caller loops until it is `"0"`. A call that fails is repeated
with the cursor at hand. The loop collects every page of the server's walk once,
whatever fails in between, and where an iterator offers the same options it sends
the same commands.
-/

namespace GlideRust.Commands.CursorScan

open Redis Error ValueConversion Lib
open Options (ObjectType addOption args_addOption)
open Scan ScanCompleteness

variable {K : Type*} [ToRedisArgs K]

/-! ## The two commands -/

/-- The `TYPE` argument: the crate's name of the type in lower case. -/
def ObjectType.asTypeArg : ObjectType → String
  | .string => "string"
  | .list => "list"
  | .set => "set"
  | .zSet => "zset"
  | .hash => "hash"
  | .stream => "stream"

/-- The command of `scan_cursor`. -/
def scanCursor (cursor : String) (pattern : Option Bytes) (count : Option Int64)
    (typeFilter : Option ObjectType) : Cmd :=
  ((Cmd.new.arg "SCAN").arg cursor)
    |> addOption pattern (fun p c => (c.arg "MATCH").arg p)
    |> addOption count (fun n c => (c.arg "COUNT").arg n)
    |> addOption typeFilter (fun t c => (c.arg "TYPE").arg (ObjectType.asTypeArg t))

/-- The command of `hscan_novalues`. -/
def hscanNovalues (key : K) (cursor : String) (pattern : Option Bytes) (count : Option Int64) :
    Cmd :=
  let c := (((Cmd.new.arg "HSCAN").arg key).arg cursor)
    |> addOption pattern (fun p c => (c.arg "MATCH").arg p)
    |> addOption count (fun n c => (c.arg "COUNT").arg n)
  c.arg "NOVALUES"

/-- The tokens of an optional clause with an argument. -/
def clauseTokens (word : String) : Option Bytes → List Bytes
  | none => []
  | some argument => [utf8 word, argument]

/-- The tokens of an optional `TYPE` clause. -/
def typeTokens : Option ObjectType → List Bytes
  | none => []
  | some .string => [utf8 "TYPE", utf8 "string"]
  | some .list => [utf8 "TYPE", utf8 "list"]
  | some .set => [utf8 "TYPE", utf8 "set"]
  | some .zSet => [utf8 "TYPE", utf8 "zset"]
  | some .hash => [utf8 "TYPE", utf8 "hash"]
  | some .stream => [utf8 "TYPE", utf8 "stream"]

theorem args_scanCursor (cursor : String) (pattern : Option Bytes) (count : Option Int64)
    (typeFilter : Option ObjectType) :
    (scanCursor cursor pattern count typeFilter).args = [utf8 "SCAN", utf8 cursor] ++
      clauseTokens "MATCH" pattern ++
      clauseTokens "COUNT" (count.map fun n => Decimal.renderInt n.toInt) ++
      typeTokens typeFilter := by
  have htype : ∀ c : Cmd, (addOption typeFilter
      (fun t c => (c.arg "TYPE").arg (ObjectType.asTypeArg t)) c).args =
        c.args ++ typeTokens typeFilter := by
    intro c
    cases typeFilter with
    | none => simp [addOption, typeTokens]
    | some t => cases t <;> simp [addOption, typeTokens, ObjectType.asTypeArg]
  rw [scanCursor, htype]
  cases pattern <;> cases count <;> simp [addOption, clauseTokens]

theorem args_hscanNovalues (key : K) (cursor : String) (pattern : Option Bytes)
    (count : Option Int64) :
    (hscanNovalues key cursor pattern count).args = [utf8 "HSCAN"] ++ writeRedisArgs key ++
      [utf8 cursor] ++ clauseTokens "MATCH" pattern ++
      clauseTokens "COUNT" (count.map fun n => Decimal.renderInt n.toInt) ++
      [utf8 "NOVALUES"] := by
  cases pattern <;> cases count <;> simp [hscanNovalues, addOption, clauseTokens]

/-! ## Their reply -/

section Reply

variable (R : RedisCrate)

/-- The `match` on the keys in `parse_scan_reply`. -/
def scanKeys : Value → Result (List Bytes)
  | .array elems => elems.mapM (toBytes R)
  | .nil => .ok []
  | other => .error (.request ("unexpected SCAN keys shape: " ++ R.debug other))

/-- `parse_scan_reply`. -/
def parseScanReply : Value → Result (String × List Bytes)
  | .array [cursorVal, keysVal] => do
      let cursor ← toText R cursorVal
      let keys ← scanKeys R keysVal
      return (cursor, keys)
  | _ => .error (.request "unexpected SCAN reply shape")

/-- What both methods return for the reply of the client. -/
def scanResult (reply : RedisResult Value) : Result (String × List Bytes) := do
  let value ← mapErr reply
  parseScanReply R value

variable {R}

/-- Exactly the pairs of a cursor text and an array of strings are pages; a
missing array is an empty page. -/
theorem parseScanReply_eq_ok_iff (reply : Value) (cursor : String) (keys : List Bytes) :
    parseScanReply R reply = .ok (cursor, keys) ↔
      ∃ cursorVal keysVal, reply = .array [cursorVal, keysVal] ∧ toText R cursorVal = .ok cursor ∧
        ((∃ elems, keysVal = .array elems ∧ elems.mapM (toBytes R) = .ok keys) ∨
          (keysVal = .nil ∧ keys = [])) := by
  constructor
  · intro h
    unfold parseScanReply at h
    split at h
    · rename_i cursorVal keysVal
      obtain ⟨cursor', hcursor, h⟩ := Fallible.bind_eq_ok_iff.mp h
      obtain ⟨keys', hkeys, hpure⟩ := Fallible.bind_eq_ok_iff.mp h
      cases hpure
      refine ⟨cursorVal, keysVal, rfl, hcursor, ?_⟩
      unfold scanKeys at hkeys
      split at hkeys
      · exact Or.inl ⟨_, rfl, hkeys⟩
      · cases hkeys
        exact Or.inr ⟨rfl, rfl⟩
      · cases hkeys
    · cases h
  · rintro ⟨cursorVal, keysVal, rfl, hcursor, ⟨elems, rfl, hkeys⟩ | ⟨rfl, rfl⟩⟩
    · simp only [parseScanReply, scanKeys, hcursor, hkeys]
      rfl
    · simp only [parseScanReply, scanKeys, hcursor]
      rfl

end Reply

/-! ## The loop -/

/-- A loop so far: the keys it has collected, the commands it has sent, whether
it has met the end, and the replies that it has not looked at. -/
structure LoopTrace where
  keys : List Bytes
  sent : List Cmd
  finished : Bool
  rest : List (RedisResult Value)

/-- Put a request and the keys of its page before the rest of the loop. -/
def LoopTrace.after (request : Cmd) (keys : List Bytes) (t : LoopTrace) : LoopTrace :=
  { t with keys := keys ++ t.keys, sent := request :: t.sent }

/-- The caller's loop on the given replies: it repeats a call that failed and goes
on with the returned cursor until that is `"0"`. -/
def cursorLoop (R : RedisCrate) (request : String → Cmd) :
    String → List (RedisResult Value) → LoopTrace
  | cursor, [] => ⟨[], [request cursor], false, []⟩
  | cursor, reply :: rest =>
      match scanResult R reply with
      | .error _ => (cursorLoop R request cursor rest).after (request cursor) []
      | .ok (next, keys) =>
          if next = "0" then ⟨keys, [request cursor], true, rest⟩
          else (cursorLoop R request next rest).after (request cursor) keys

/-! ## A walk of the server -/

/-- What asking for a cursor gives: the keys of its page and, unless that ends the
scan, the cursor to ask for next. `page` is what the server answers. -/
def ask (page : String → String × List Bytes) (cursor : String) : List Bytes × Option String :=
  ((page cursor).2, if (page cursor).1 = "0" then none else some (page cursor).1)

/-- The pages that follow a cursor, to the end of the scan. -/
abbrev Walk (page : String → String × List Bytes) : String → List (List Bytes) → Prop :=
  PagedWalk.Walk (ask page)

/-- The cursors of a walk. -/
abbrev OnWalk (page : String → String × List Bytes) : String → String → Prop :=
  PagedWalk.OnWalk (ask page)

theorem ask_last {page : String → String × List Bytes} {cursor : String}
    (hends : (page cursor).1 = "0") : ask page cursor = ((page cursor).2, none) := by
  rw [ask, if_pos hends]

theorem ask_next {page : String → String × List Bytes} {cursor : String}
    (hgoes : (page cursor).1 ≠ "0") :
    ask page cursor = ((page cursor).2, some (page cursor).1) := by
  rw [ask, if_neg hgoes]

/-- Each reply is a failure, of the connection or of the decoding, or the page
that the server has for the cursor that was asked for. -/
def Answered (R : RedisCrate) (page : String → String × List Bytes) :
    String → List (RedisResult Value) → Prop
  | _, [] => True
  | cursor, reply :: rest =>
      (∃ err, scanResult R reply = .error err ∧ Answered R page cursor rest) ∨
      (scanResult R reply = .ok (page cursor) ∧
        ((page cursor).1 ≠ "0" → Answered R page (page cursor).1 rest))

section Loop

variable {R : RedisCrate} {request : String → Cmd} {page : String → String × List Bytes}

theorem cursorLoop_error {reply : RedisResult Value} {err : GlideError}
    (h : scanResult R reply = .error err) (cursor : String) (rest : List (RedisResult Value)) :
    cursorLoop R request cursor (reply :: rest) =
      (cursorLoop R request cursor rest).after (request cursor) [] := by
  simp only [cursorLoop, h]

theorem cursorLoop_last {reply : RedisResult Value} {next : String} {keys : List Bytes}
    (h : scanResult R reply = .ok (next, keys)) (hends : next = "0") (cursor : String)
    (rest : List (RedisResult Value)) :
    cursorLoop R request cursor (reply :: rest) = ⟨keys, [request cursor], true, rest⟩ := by
  simp only [cursorLoop, h, hends, if_true]

theorem cursorLoop_page {reply : RedisResult Value} {next : String} {keys : List Bytes}
    (h : scanResult R reply = .ok (next, keys)) (hgoes : next ≠ "0") (cursor : String)
    (rest : List (RedisResult Value)) :
    cursorLoop R request cursor (reply :: rest) =
      (cursorLoop R request next rest).after (request cursor) keys := by
  simp only [cursorLoop, h, hgoes, if_false]

/-- A loop that has finished has collected the whole walk; one that has not has
collected the first pages of every walk. -/
theorem cursorLoop_collects (request : String → Cmd) {cursor : String}
    {env : List (RedisResult Value)} (h : Answered R page cursor env) :
    ((cursorLoop R request cursor env).finished = true →
      ∃ pages, Walk page cursor pages ∧ (cursorLoop R request cursor env).keys = pages.flatten) ∧
    (∀ pages, Walk page cursor pages →
      (cursorLoop R request cursor env).keys <+: pages.flatten) := by
  induction env generalizing cursor with
  | nil =>
      refine ⟨?_, ?_⟩
      · intro hfinished
        cases hfinished
      · intro pages _
        exact List.nil_prefix
  | cons reply rest ih =>
      rcases h with ⟨err, herr, hrest⟩ | ⟨hpage, hrest⟩
      · rw [cursorLoop_error herr]
        exact ih hrest
      · by_cases hends : (page cursor).1 = "0"
        · rw [cursorLoop_last hpage hends]
          refine ⟨fun _ => ⟨_, .last (ask_last hends), by simp⟩, ?_⟩
          intro pages hwalk
          rw [hwalk.eq_of_last (ask_last hends)]
          simp
        · rw [cursorLoop_page hpage hends]
          obtain ⟨hfinished, hprefix⟩ := ih (hrest hends)
          constructor
          · intro hdone
            obtain ⟨pages, hwalk, hkeys⟩ := hfinished hdone
            refine ⟨_, .next (ask_next hends) hwalk, ?_⟩
            rw [LoopTrace.after, hkeys, List.flatten_cons]
          · intro pages hwalk
            obtain ⟨rest', rfl, tail⟩ := hwalk.eq_of_next (ask_next hends)
            rw [LoopTrace.after, List.flatten_cons, List.prefix_append_right_inj]
            exact hprefix _ tail

/-- The loop only ever asks for cursors that the server gave it. -/
theorem cursorLoop_sent {start cursor : String} {env : List (RedisResult Value)}
    (hstart : OnWalk page start cursor) (h : Answered R page cursor env) :
    ∀ c ∈ (cursorLoop R request cursor env).sent, ∃ asked, OnWalk page start asked ∧
      c = request asked := by
  induction env generalizing cursor with
  | nil =>
      intro c hc
      rw [List.mem_singleton.mp hc]
      exact ⟨cursor, hstart, rfl⟩
  | cons reply rest ih =>
      have hafter {t : LoopTrace} {keys : List Bytes}
          (ht : ∀ c ∈ t.sent, ∃ asked, OnWalk page start asked ∧ c = request asked) :
          ∀ c ∈ (t.after (request cursor) keys).sent, ∃ asked, OnWalk page start asked ∧
            c = request asked := by
        intro c hc
        rcases List.mem_cons.mp hc with rfl | hlater
        · exact ⟨cursor, hstart, rfl⟩
        · exact ht c hlater
      rcases h with ⟨err, herr, hrest⟩ | ⟨hpage, hrest⟩
      · rw [cursorLoop_error herr]
        exact hafter (ih hstart hrest)
      · by_cases hends : (page cursor).1 = "0"
        · rw [cursorLoop_last hpage hends]
          intro c hc
          rw [List.mem_singleton.mp hc]
          exact ⟨cursor, hstart, rfl⟩
        · rw [cursorLoop_page hpage hends]
          exact hafter (ih (.next hstart (ask_next hends)) (hrest hends))

end Loop

/-! ## The loop and the iterator -/

/-- The page of a server that sends cursors in decimal and keys as strings. -/
def pageValue (p : UInt64 × List Bytes) : Value :=
  .array [.bulkString (Decimal.render p.1.toNat), .array (p.2.map .bulkString)]

theorem scanResult_pageValue {R : RedisCrate} (hR : DecodesText R) (p : UInt64 × List Bytes) :
    scanResult R (.ok (pageValue p)) = .ok (Nat.repr p.1.toNat, p.2) := by
  have hcursor : toText R (.bulkString (Decimal.render p.1.toNat)) = .ok (Nat.repr p.1.toNat) := by
    rw [← utf8_repr]
    exact toText_bulkString hR _
  have hkeys : (p.2.map Value.bulkString).mapM (toBytes R) = .ok p.2 := by
    rw [Fallible.mapM_eq_ok_iff]
    induction p.2 with
    | nil => exact .nil
    | cons key keys ih => exact .cons rfl ih
  change parseScanReply R (pageValue p) = _
  rw [parseScanReply_eq_ok_iff]
  exact ⟨_, _, rfl, hcursor, Or.inl ⟨_, rfl, hkeys⟩⟩

theorem repr_eq_zero_iff (c : UInt64) : Nat.repr c.toNat = "0" ↔ c = 0 := by
  constructor
  · intro h
    have hbytes : Decimal.render c.toNat = Decimal.render 0 := by
      rw [← utf8_repr, ← utf8_repr, h]
      rfl
    have hread := congrArg Decimal.read hbytes
    rw [Decimal.read_render, Decimal.read_render, Option.some.injEq] at hread
    exact UInt64.toNat_inj.mp hread
  · rintro rfl
    rfl

/-- On a server run the loop sends the requests for its pages and collects their
keys. -/
theorem cursorLoop_served {R : RedisCrate} (hR : DecodesText R) (request : String → Cmd)
    (tokens : UInt64 → List Bytes)
    (htokens : ∀ cursor : UInt64, request (Nat.repr cursor.toNat) = ⟨tokens cursor⟩)
    (cursor : UInt64) (p : UInt64 × List Bytes) (ps : List (UInt64 × List Bytes))
    (hends : EndsAfter p.1 ps) (extra : List (RedisResult Value)) :
    cursorLoop R request (Nat.repr cursor.toNat)
        (((p :: ps).map fun page => .ok (pageValue page)) ++ extra) =
      ⟨(p :: ps).flatMap Prod.snd, requests tokens cursor (p :: ps), true, extra⟩ := by
  induction ps generalizing cursor p with
  | nil =>
      have hlast := (repr_eq_zero_iff p.1).mpr hends
      rw [List.map_singleton, List.singleton_append,
        cursorLoop_last (scanResult_pageValue hR p) hlast, htokens, requests_cons]
      simp [requests]
  | cons q qs ih =>
      have hgoes : Nat.repr p.1.toNat ≠ "0" := by
        rw [Ne, repr_eq_zero_iff]
        exact hends.1
      rw [List.map_cons, List.cons_append, cursorLoop_page (scanResult_pageValue hR p) hgoes,
        ih p.1 q hends.2, htokens, LoopTrace.after, requests_cons]
      rfl

theorem scanCursor_injective (pattern : Option Bytes) (count : Option Int64)
    (typeFilter : Option ObjectType) :
    Function.Injective fun cursor => scanCursor cursor pattern count typeFilter := by
  intro cursor cursor' h
  have hargs := congrArg Cmd.args h
  simpa [args_scanCursor, utf8_injective.eq_iff] using hargs

theorem hscanNovalues_injective (key : K) (pattern : Option Bytes) (count : Option Int64) :
    Function.Injective fun cursor => hscanNovalues key cursor pattern count := by
  intro cursor cursor' h
  have hargs := congrArg Cmd.args h
  simpa [args_hscanNovalues, utf8_injective.eq_iff] using hargs

/-- The commands of `scan_cursor` with at most a pattern are those of the
iterators `scan` and `scan_match`. -/
theorem scanCursor_eq (pattern : Option Bytes) (cursor : UInt64) :
    scanCursor (Nat.repr cursor.toNat) pattern none none =
      ⟨Core.scanTokens "SCAN" [] (pattern.map fun p => [p]) cursor⟩ := by
  have hargs : (scanCursor (Nat.repr cursor.toNat) pattern none none).args =
      Core.scanTokens "SCAN" [] (pattern.map fun p => [p]) cursor := by
    cases pattern <;> simp [args_scanCursor, clauseTokens, typeTokens, Core.scanTokens, utf8_repr]
  rw [← hargs]

/-- The iterator for a pattern that may be missing. -/
def scanIter (decode : Value → RedisResult (UInt64 × List Bytes)) :
    Option Bytes → List Await → NewTrace (ScanIter Bytes) Await
  | none => Core.AsyncCommands.scan decode
  | some pattern => Core.AsyncCommands.scanMatch decode pattern

theorem scanIter_completes (decode : Value → RedisResult (UInt64 × List Bytes))
    (pattern : Option Bytes) :
    Completes decode (scanIter decode pattern)
      (Core.scanTokens "SCAN" [] (pattern.map fun p => [p])) := by
  cases pattern with
  | none => exact new_completes ⟨[utf8 "SCAN"], []⟩
  | some pattern => exact new_completes ⟨[utf8 "SCAN"], [utf8 "MATCH", pattern]⟩

/-- The caller's loop over `scan_cursor` or `hscan_novalues`, with any options and
through any failures that are retried with the cursor at hand, collects the pages
of the server's walk from cursor `"0"`, each once and in order, and all of them
when it ends; it asks only for cursors that the server gave it. A request holds
the name of its command, the key where there is one, the cursor, and a clause for
each option that was given, and no other tokens. On a run of a server that sends
decimal cursors, the loop over `scan_cursor` sends the very commands of the
iterators `scan` and `scan_match`, and collects what they hand out. -/
theorem cursor_loop_collects_the_walk {R : RedisCrate} (hR : DecodesText R) :
    (∀ (request : String → Cmd) (page : String → String × List Bytes) env,
      Answered R page "0" env →
      let t := cursorLoop R request "0" env
      (t.finished = true → ∃ pages, Walk page "0" pages ∧ t.keys = pages.flatten) ∧
      (∀ pages, Walk page "0" pages → t.keys <+: pages.flatten) ∧
      (∀ c ∈ t.sent, ∃ asked, OnWalk page "0" asked ∧ c = request asked)) ∧
    (∀ cursor pattern count typeFilter,
      (scanCursor cursor pattern count typeFilter).args = [utf8 "SCAN", utf8 cursor] ++
        clauseTokens "MATCH" pattern ++
        clauseTokens "COUNT" (count.map fun n => Decimal.renderInt n.toInt) ++
        typeTokens typeFilter) ∧
    (∀ (key : K) cursor pattern count,
      (hscanNovalues key cursor pattern count).args = [utf8 "HSCAN"] ++ writeRedisArgs key ++
        [utf8 cursor] ++ clauseTokens "MATCH" pattern ++
        clauseTokens "COUNT" (count.map fun n => Decimal.renderInt n.toInt) ++
        [utf8 "NOVALUES"]) ∧
    (∀ pattern count typeFilter,
      Function.Injective fun cursor => scanCursor cursor pattern count typeFilter) ∧
    (∀ (key : K) pattern count,
      Function.Injective fun cursor => hscanNovalues key cursor pattern count) ∧
    (∀ (decode : Value → RedisResult (UInt64 × List Bytes)) pattern c b ps,
      EndsAfter c ps → Serves decode (((c, b) :: ps).map pageValue) ((c, b) :: ps) →
      let t := cursorLoop R (fun cursor => scanCursor cursor pattern none none) "0"
        (((c, b) :: ps).map fun page => .ok (pageValue page))
      let created := scanIter decode pattern
        ((((c, b) :: ps).map pageValue).map fun reply => .ready (.ok reply))
      t.finished = true ∧
      ∃ iter, created.outcome = .created iter ∧ ∀ m, t.keys.length < m →
        let s := ScanIter.callMany decode m iter created.rest
        s.results = (List.range m).map (fun i => .returned t.keys[i]?) ∧
          created.log.map Exchange.cmd ++ s.sent = t.sent) := by
  refine ⟨?_, args_scanCursor, args_hscanNovalues, scanCursor_injective,
    hscanNovalues_injective, ?_⟩
  · intro request page env hanswered t
    obtain ⟨hfinished, hprefix⟩ := cursorLoop_collects request hanswered
    exact ⟨hfinished, hprefix, cursorLoop_sent .start hanswered⟩
  · intro decode pattern c b ps hends hserves t created
    have hloop := cursorLoop_served hR (fun cursor => scanCursor cursor pattern none none)
      (Core.scanTokens "SCAN" [] (pattern.map fun p => [p])) (scanCursor_eq pattern) 0 (c, b) ps
      hends []
    rw [List.append_nil] at hloop
    have ht : t = ⟨((c, b) :: ps).flatMap Prod.snd,
        requests (Core.scanTokens "SCAN" [] (pattern.map fun p => [p])) 0 ((c, b) :: ps), true,
        []⟩ := hloop
    obtain ⟨iter, hiter, hcalls⟩ :=
      scanIter_completes decode pattern c b ps _ [] hends hserves
    rw [List.append_nil] at hiter hcalls
    rw [ht]
    refine ⟨rfl, iter, hiter, ?_⟩
    intro m hm
    obtain ⟨hresults, -, hdone⟩ := hcalls m
    exact ⟨hresults, (hdone hm).1⟩

/-- Two pages: cursor `"0"` leads to cursor `"7"`, which leads to the end. -/
def twoPages (cursor : String) : String × List Bytes :=
  if cursor = "0" then ("7", [[97]]) else ("0", [[98]])

/-- The second page is lost once. -/
def lostPage : List (RedisResult Value) :=
  [.ok (pageValue (7, [[97]])), .error ⟨.ioError, "lost", false⟩, .ok (pageValue (0, [[98]]))]

theorem scanResult_first : scanResult .stringsOnly (.ok (pageValue (7, [[97]]))) =
    .ok ("7", [[97]]) :=
  scanResult_pageValue decodesText_stringsOnly (7, [[97]])

theorem scanResult_second : scanResult .stringsOnly (.ok (pageValue (0, [[98]]))) =
    .ok ("0", [[98]]) :=
  scanResult_pageValue decodesText_stringsOnly (0, [[98]])

theorem cursorLoop_lostPage (request : String → Cmd) :
    cursorLoop .stringsOnly request "0" lostPage =
      ⟨[[97], [98]], [request "0", request "7", request "7"], true, []⟩ := by
  rw [lostPage, cursorLoop_page scanResult_first (by decide), cursorLoop_error rfl,
    cursorLoop_last scanResult_second rfl]
  rfl

/-- The page that is lost is asked for again, with the same tokens. -/
theorem cursor_loop_collects_lost_page :
    let t := cursorLoop .stringsOnly
      (fun cursor => hscanNovalues (utf8 "h") cursor (some (utf8 "f*")) (some 2)) "0" lostPage
    (∃ pages, Walk twoPages "0" pages ∧ t.keys = pages.flatten) ∧ t.keys = [[97], [98]] ∧
    t.sent.map Cmd.args = ["0", "7", "7"].map (fun cursor => [utf8 "HSCAN", utf8 "h", utf8 cursor,
      utf8 "MATCH", utf8 "f*", utf8 "COUNT", utf8 "2", utf8 "NOVALUES"]) ∧
    (scanCursor "7" none (some 2) (some .zSet)).args =
      [utf8 "SCAN", utf8 "7", utf8 "COUNT", utf8 "2", utf8 "TYPE", utf8 "zset"] := by
  have hanswered : Answered .stringsOnly twoPages "0" lostPage := by
    refine Or.inr ⟨scanResult_first, fun _ => Or.inl ⟨_, rfl, Or.inr ⟨scanResult_second, ?_⟩⟩⟩
    intro hgoes
    exact absurd rfl hgoes
  obtain ⟨hloop, hscan, hhscan, -⟩ :=
    cursor_loop_collects_the_walk (K := Bytes) decodesText_stringsOnly
  refine ⟨(hloop _ twoPages lostPage hanswered).1 ?_, ?_, ?_, ?_⟩
  · rw [cursorLoop_lostPage]
  · rw [cursorLoop_lostPage]
  · rw [cursorLoop_lostPage]
    simp only [List.map_cons, List.map_nil, hhscan]
    decide
  · rw [hscan]
    decide

end GlideRust.Commands.CursorScan
