import GlideRust.Redis

/-!
# Cursor-driven scan iterators

`ScanIter` and its blocking counterpart `SyncScanIter`. The connection is what
it looks like from the iterator: a list of what happens at its successive
awaits. A call that meets the end of that list is still suspended there.

## Implementation notes

The loops recurse over the environment, so a server that sends empty pages
forever is an environment that never suffices, and no fuel is needed. Dropping
a pending call is an entry of the environment, because it can only happen where
the call awaits a reply.
-/

namespace GlideRust.Commands.Scan

open Redis

/-- Argument layout of one scan page: prefix tokens, cursor, suffix tokens. -/
structure PageSpec where
  prefixArgs : List Bytes
  suffixArgs : List Bytes
  deriving DecidableEq, Repr

/-- `PageSpec::to_cmd`. -/
def PageSpec.toCmd (spec : PageSpec) (cursor : UInt64) : Cmd :=
  ((Cmd.new.argEach spec.prefixArgs).arg cursor).argEach spec.suffixArgs

/-- The tokens of a page request: the cursor in decimal digits between the two
fixed parts. -/
def pageTokens (spec : PageSpec) (cursor : UInt64) : List Bytes :=
  spec.prefixArgs ++ [Lib.Decimal.render cursor.toNat] ++ spec.suffixArgs

theorem args_toCmd (spec : PageSpec) (cursor : UInt64) :
    (spec.toCmd cursor).args = pageTokens spec cursor := by
  simp [PageSpec.toCmd, pageTokens]

theorem toCmd_eq (spec : PageSpec) (cursor : UInt64) :
    spec.toCmd cursor = ⟨pageTokens spec cursor⟩ := by
  rw [← args_toCmd]

/-- What happens at an await of an asynchronous call. -/
inductive Await where
  | ready (reply : RedisResult Value)
  | dropped

/-- A command that was sent, and what its await came to. -/
structure Exchange (ε : Type) where
  cmd : Cmd
  outcome : ε

/-- How a call ends: with its `Option` result, dropped, or still awaiting the
reply to a command. -/
inductive Outcome (α : Type) where
  | returned (item : Option α)
  | cancelled
  | pending (cmd : Cmd)

/-- A call of the iterator: how it ended, the iterator after it, its completed
exchanges and the rest of the environment. -/
structure CallTrace (ι ε α : Type) where
  outcome : Outcome α
  iter : ι
  log : List (Exchange ε)
  rest : List ε

/-- Put an exchange before the ones already logged. -/
def CallTrace.after {ι ε α : Type} (e : Exchange ε) (t : CallTrace ι ε α) :
    CallTrace ι ε α :=
  { t with log := e :: t.log }

/-- How the construction of an iterator ends. -/
inductive NewOutcome (ι : Type) where
  | created (iter : ι)
  | failed (err : RedisError)
  | cancelled
  | pending (cmd : Cmd)

structure NewTrace (ι ε : Type) where
  outcome : NewOutcome ι
  log : List (Exchange ε)
  rest : List ε

/-- Several calls in a row. -/
structure Session (ι ε α : Type) where
  results : List (Outcome α)
  iter : ι
  log : List (Exchange ε)
  rest : List ε

/-- The elements handed out by a list of calls. -/
def items {α : Type} (results : List (Outcome α)) : List α :=
  results.filterMap fun
    | .returned item => item
    | _ => none

/-- Commands awaiting their reply. -/
def awaiting {α : Type} (results : List (Outcome α)) : List Cmd :=
  results.filterMap fun
    | .pending cmd => some cmd
    | _ => none

/-- All commands a session has sent. -/
def Session.sent {ι ε α : Type} (s : Session ι ε α) : List Cmd :=
  s.log.map Exchange.cmd ++ awaiting s.results

/-! ## A page decoder -/

/-- `from_owned_redis_value` at `(u64, Vec<Vec<u8>>)`, for the reply shape of `SCAN`. -/
def bytesPage : Value → RedisResult (UInt64 × List Bytes)
  | .array [.bulkString cursor, .array keys] =>
      match Lib.Decimal.read cursor, keys.mapM RedisCrate.stringsOnly.fromBytes with
      | some c, .ok keys =>
          if c < UInt64.size then .ok (UInt64.ofNat c, keys)
          else .error ⟨.typeError, "not a cursor", false⟩
      | _, _ => .error ⟨.typeError, "not a page", false⟩
  | _ => .error ⟨.typeError, "not a page", false⟩

/-- The reply that carries a page of keys. -/
def pageReply (cursor : String) (keys : List String) : Value :=
  .array [.bulkString (utf8 cursor), .array (keys.map fun k => .bulkString (utf8 k))]

/-! ## The asynchronous iterator -/

/-- `ScanIter`, without the borrowed connection. -/
structure ScanIter (α : Type) where
  spec : PageSpec
  cursor : UInt64
  batch : List α

namespace ScanIter

variable {α : Type} (decode : Value → RedisResult (UInt64 × List α))

/-- `ScanIter::new`: the first page is fetched eagerly, and its errors surface. -/
def new (prefixArgs suffixArgs : List Bytes) (env : List Await) :
    NewTrace (ScanIter α) Await :=
  let spec : PageSpec := ⟨prefixArgs, suffixArgs⟩
  match env with
  | [] => ⟨.pending (spec.toCmd 0), [], []⟩
  | .dropped :: rest => ⟨.cancelled, [⟨spec.toCmd 0, .dropped⟩], rest⟩
  | .ready (.error err) :: rest =>
      ⟨.failed err, [⟨spec.toCmd 0, .ready (.error err)⟩], rest⟩
  | .ready (.ok reply) :: rest =>
      match decode reply with
      | .error err => ⟨.failed err, [⟨spec.toCmd 0, .ready (.ok reply)⟩], rest⟩
      | .ok (cursor, batch) =>
          ⟨.created ⟨spec, cursor, batch⟩, [⟨spec.toCmd 0, .ready (.ok reply)⟩], rest⟩

/-- `ScanIter::next_item`. -/
def nextItem (iter : ScanIter α) (env : List Await) : CallTrace (ScanIter α) Await α :=
  match iter.batch with
  | v :: batch => ⟨.returned (some v), { iter with batch := batch }, [], env⟩
  | [] =>
      if iter.cursor = 0 then ⟨.returned none, iter, [], env⟩
      else
        let cmd := iter.spec.toCmd iter.cursor
        match env with
        | [] => ⟨.pending cmd, iter, [], []⟩
        | .dropped :: rest => ⟨.cancelled, iter, [⟨cmd, .dropped⟩], rest⟩
        | .ready (.error err) :: rest =>
            ⟨.returned none, iter, [⟨cmd, .ready (.error err)⟩], rest⟩
        | .ready (.ok reply) :: rest =>
            match decode reply with
            | .error _ => ⟨.returned none, iter, [⟨cmd, .ready (.ok reply)⟩], rest⟩
            | .ok (cursor, batch) =>
                (nextItem { iter with cursor := cursor, batch := batch } rest).after
                  ⟨cmd, .ready (.ok reply)⟩
termination_by structural env

/-- `n` calls of `next_item`. A suspended call keeps the iterator borrowed, so
no further call can follow it. -/
def callMany : Nat → ScanIter α → List Await → Session (ScanIter α) Await α
  | 0, iter, env => ⟨[], iter, [], env⟩
  | n + 1, iter, env =>
      let t := nextItem decode iter env
      match t.outcome with
      | .pending cmd => ⟨[.pending cmd], t.iter, t.log, t.rest⟩
      | outcome =>
          let s := callMany n t.iter t.rest
          ⟨outcome :: s.results, s.iter, t.log ++ s.log, s.rest⟩

variable {decode} {iter : ScanIter α}

theorem nextItem_item {v : α} {batch : List α} (hb : iter.batch = v :: batch)
    (env : List Await) : iter.nextItem decode env =
      ⟨.returned (some v), { iter with batch := batch }, [], env⟩ := by
  cases env <;> simp [nextItem, hb]

theorem nextItem_end (hb : iter.batch = []) (hc : iter.cursor = 0) (env : List Await) :
    iter.nextItem decode env = ⟨.returned none, iter, [], env⟩ := by
  cases env <;> simp [nextItem, hb, hc]

theorem nextItem_pending (hb : iter.batch = []) (hc : iter.cursor ≠ 0) :
    iter.nextItem decode [] = ⟨.pending (iter.spec.toCmd iter.cursor), iter, [], []⟩ := by
  simp [nextItem, hb, hc]

theorem nextItem_dropped (hb : iter.batch = []) (hc : iter.cursor ≠ 0) (rest : List Await) :
    iter.nextItem decode (.dropped :: rest) =
      ⟨.cancelled, iter, [⟨iter.spec.toCmd iter.cursor, .dropped⟩], rest⟩ := by
  simp [nextItem, hb, hc]

theorem nextItem_error (hb : iter.batch = []) (hc : iter.cursor ≠ 0) (err : RedisError)
    (rest : List Await) : iter.nextItem decode (.ready (.error err) :: rest) =
      ⟨.returned none, iter, [⟨iter.spec.toCmd iter.cursor, .ready (.error err)⟩], rest⟩ := by
  simp [nextItem, hb, hc]

theorem nextItem_undecoded (hb : iter.batch = []) (hc : iter.cursor ≠ 0) {reply : Value}
    {err : RedisError} (hd : decode reply = .error err) (rest : List Await) :
    iter.nextItem decode (.ready (.ok reply) :: rest) =
      ⟨.returned none, iter, [⟨iter.spec.toCmd iter.cursor, .ready (.ok reply)⟩], rest⟩ := by
  simp [nextItem, hb, hc, hd]

theorem nextItem_page (hb : iter.batch = []) (hc : iter.cursor ≠ 0) {reply : Value}
    {p : UInt64 × List α} (hd : decode reply = .ok p) (rest : List Await) :
    iter.nextItem decode (.ready (.ok reply) :: rest) =
      (ScanIter.nextItem decode { iter with cursor := p.1, batch := p.2 } rest).after
        ⟨iter.spec.toCmd iter.cursor, .ready (.ok reply)⟩ := by
  rw [nextItem.eq_def, hb]
  simp only [hc, if_false, hd]

end ScanIter

/-! ## The blocking iterator -/

/-- `SyncScanIter`, without the borrowed connection. -/
structure SyncScanIter (α : Type) where
  spec : PageSpec
  cursor : UInt64
  batch : List α

namespace SyncScanIter

variable {α : Type} (decode : Value → RedisResult (UInt64 × List α))

/-- `SyncScanIter::new`. A blocking send cannot be dropped, so its environment
holds replies only. -/
def new (prefixArgs suffixArgs : List Bytes) (env : List (RedisResult Value)) :
    NewTrace (SyncScanIter α) (RedisResult Value) :=
  let spec : PageSpec := ⟨prefixArgs, suffixArgs⟩
  match env with
  | [] => ⟨.pending (spec.toCmd 0), [], []⟩
  | .error err :: rest => ⟨.failed err, [⟨spec.toCmd 0, .error err⟩], rest⟩
  | .ok reply :: rest =>
      match decode reply with
      | .error err => ⟨.failed err, [⟨spec.toCmd 0, .ok reply⟩], rest⟩
      | .ok (cursor, batch) =>
          ⟨.created ⟨spec, cursor, batch⟩, [⟨spec.toCmd 0, .ok reply⟩], rest⟩

/-- `SyncScanIter::next`. -/
def next (iter : SyncScanIter α) (env : List (RedisResult Value)) :
    CallTrace (SyncScanIter α) (RedisResult Value) α :=
  match iter.batch with
  | v :: batch => ⟨.returned (some v), { iter with batch := batch }, [], env⟩
  | [] =>
      if iter.cursor = 0 then ⟨.returned none, iter, [], env⟩
      else
        let cmd := iter.spec.toCmd iter.cursor
        match env with
        | [] => ⟨.pending cmd, iter, [], []⟩
        | .error err :: rest => ⟨.returned none, iter, [⟨cmd, .error err⟩], rest⟩
        | .ok reply :: rest =>
            match decode reply with
            | .error _ => ⟨.returned none, iter, [⟨cmd, .ok reply⟩], rest⟩
            | .ok (cursor, batch) =>
                (next { iter with cursor := cursor, batch := batch } rest).after
                  ⟨cmd, .ok reply⟩
termination_by structural env

def callMany : Nat → SyncScanIter α → List (RedisResult Value) →
    Session (SyncScanIter α) (RedisResult Value) α
  | 0, iter, env => ⟨[], iter, [], env⟩
  | n + 1, iter, env =>
      let t := next decode iter env
      match t.outcome with
      | .pending cmd => ⟨[.pending cmd], t.iter, t.log, t.rest⟩
      | outcome =>
          let s := callMany n t.iter t.rest
          ⟨outcome :: s.results, s.iter, t.log ++ s.log, s.rest⟩

/-! ## Both flavours run the same loop -/

def toAsync (iter : SyncScanIter α) : ScanIter α := ⟨iter.spec, iter.cursor, iter.batch⟩

end SyncScanIter

/-- A blocking exchange, seen as an asynchronous one that was not dropped. -/
def Exchange.toAsync (e : Exchange (RedisResult Value)) : Exchange Await :=
  ⟨e.cmd, .ready e.outcome⟩

namespace SyncScanIter

variable {α : Type} (decode : Value → RedisResult (UInt64 × List α))

/-- The blocking loop is the asynchronous loop on an environment of replies. -/
theorem nextItem_toAsync (iter : SyncScanIter α) (env : List (RedisResult Value)) :
    iter.toAsync.nextItem decode (env.map .ready) =
      let t := iter.next decode env
      ⟨t.outcome, t.iter.toAsync, t.log.map Exchange.toAsync, t.rest.map .ready⟩ := by
  induction env generalizing iter with
  | nil =>
      cases hb : iter.batch with
      | cons v batch =>
          rw [ScanIter.nextItem_item (by exact hb)]
          simp [next, hb, toAsync]
      | nil =>
          by_cases hc : iter.cursor = 0
          · rw [ScanIter.nextItem_end (by exact hb) (by exact hc)]
            simp [next, hb, hc]
          · rw [List.map_nil, ScanIter.nextItem_pending (by exact hb) (by exact hc)]
            simp [next, hb, hc, toAsync]
  | cons reply rest ih =>
      cases hb : iter.batch with
      | cons v batch =>
          rw [ScanIter.nextItem_item (by exact hb)]
          simp [next, hb, toAsync]
      | nil =>
          by_cases hc : iter.cursor = 0
          · rw [ScanIter.nextItem_end (by exact hb) (by exact hc)]
            simp [next, hb, hc]
          · cases reply with
            | error err =>
                rw [List.map_cons, ScanIter.nextItem_error (by exact hb) (by exact hc)]
                simp [next, hb, hc, toAsync, Exchange.toAsync]
            | ok reply =>
                cases hd : decode reply with
                | error err =>
                    rw [List.map_cons,
                      ScanIter.nextItem_undecoded (by exact hb) (by exact hc) hd]
                    simp [next, hb, hc, hd, toAsync, Exchange.toAsync]
                | ok p =>
                    have h := ih { iter with cursor := p.1, batch := p.2 }
                    rw [List.map_cons, ScanIter.nextItem_page (by exact hb) (by exact hc) hd]
                    rw [next.eq_def, hb]
                    simp only [hc, if_false, hd]
                    exact congrArg (CallTrace.after _) h

/-- So are whole sessions. -/
theorem callMany_toAsync (n : Nat) (iter : SyncScanIter α) (env : List (RedisResult Value)) :
    ScanIter.callMany decode n iter.toAsync (env.map .ready) =
      let s := callMany decode n iter env
      ⟨s.results, s.iter.toAsync, s.log.map Exchange.toAsync, s.rest.map .ready⟩ := by
  induction n generalizing iter env with
  | zero => rfl
  | succ n ih =>
      simp only [ScanIter.callMany, callMany, nextItem_toAsync]
      cases ho : (iter.next decode env).outcome with
      | pending cmd => rfl
      | returned item => simp [ih]
      | cancelled => simp [ih]

/-- A blocking session has the results and sends the commands of the
asynchronous session on the same replies. -/
theorem session_toAsync (n : Nat) (iter : SyncScanIter α) (env : List (RedisResult Value)) :
    let s := callMany decode n iter env
    let s' := ScanIter.callMany decode n iter.toAsync (env.map .ready)
    s.results = s'.results ∧ s.sent = s'.sent ∧ s.rest.map .ready = s'.rest := by
  simp only [callMany_toAsync, Session.sent, List.map_map]
  exact ⟨trivial, rfl, trivial⟩

variable {decode} in
/-- Construction, too. -/
theorem new_toAsync {prefixArgs suffixArgs : List Bytes} {env rest : List (RedisResult Value)}
    {iter : SyncScanIter α} {log : List (Exchange (RedisResult Value))}
    (h : new decode prefixArgs suffixArgs env = ⟨.created iter, log, rest⟩) :
    ScanIter.new decode prefixArgs suffixArgs (env.map .ready) =
      ⟨.created iter.toAsync, log.map Exchange.toAsync, rest.map .ready⟩ := by
  cases env with
  | nil => simp [new] at h
  | cons reply env =>
      cases reply with
      | error err => simp [new] at h
      | ok reply =>
          cases hd : decode reply with
          | error err => simp [new, hd] at h
          | ok p =>
              simp only [new, hd, NewTrace.mk.injEq, NewOutcome.created.injEq] at h
              obtain ⟨rfl, rfl, rfl⟩ := h
              simp [ScanIter.new, hd, toAsync, Exchange.toAsync]

end SyncScanIter

end GlideRust.Commands.Scan
