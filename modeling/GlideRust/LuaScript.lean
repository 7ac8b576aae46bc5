import GlideRust.Redis
import GlideRust.Lib.CountedSection
import GlideRust.Lib.Dialogue

/-!
# Lua scripts: `EVALSHA` with `EVAL` fallback

`Script` and `ScriptInvocation`, and a server with a script cache that other
clients load, flush and evaluate scripts on at the same time.

## Implementation notes

The server is not part of the repository. It is modelled by its documented
script commands over two unknowns: the digest it files scripts under, and what
running a script body does to its data. `T`'s decoding is the parameter
`decode`, as in the scan iterators.
-/

namespace GlideRust.LuaScript

open Redis Lib
open Lib.CountedSection (readCounted readCounted_eq_some_iff)

/-! ## The client -/

/-- `Script`. -/
structure Script where
  code : String
  hash : String

/-- `Script::new`; `sha1` is the hexadecimal digest of `sha1_smol`. -/
def Script.new (sha1 : Bytes → String) (code : String) : Script := ⟨code, sha1 (utf8 code)⟩

/-- `ScriptInvocation`. -/
structure ScriptInvocation where
  script : Script
  args : List Bytes
  keys : List Bytes

/-- `Script::prepare_invoke`. -/
def Script.prepareInvoke (script : Script) : ScriptInvocation := ⟨script, [], []⟩

namespace ScriptInvocation

def arg {T : Type} [ToRedisArgs T] (inv : ScriptInvocation) (a : T) : ScriptInvocation :=
  { inv with args := inv.args ++ writeRedisArgs a }

def key {T : Type} [ToRedisArgs T] (inv : ScriptInvocation) (k : T) : ScriptInvocation :=
  { inv with keys := inv.keys ++ writeRedisArgs k }

/-- `evalsha_cmd`. -/
def evalshaCmd (inv : ScriptInvocation) : Cmd :=
  ((((cmd "EVALSHA").arg (utf8 inv.script.hash)).arg inv.keys.length).arg inv.keys).arg inv.args

/-- `eval_cmd`. -/
def evalCmd (inv : ScriptInvocation) : Cmd :=
  ((((cmd "EVAL").arg (utf8 inv.script.code)).arg inv.keys.length).arg inv.keys).arg inv.args

variable {τ : Type} (decode : Value → RedisResult τ)

/-- `ScriptInvocation::invoke_async`. -/
def invokeAsync (inv : ScriptInvocation) : Dialogue Cmd (RedisResult Value) (RedisResult τ) :=
  .send inv.evalshaCmd fun
    | .error err =>
        if err.kind = .noScriptError then
          .send inv.evalCmd fun reply => .done (reply >>= decode)
        else .done (.error err)
    | .ok value => .done (decode value)

/-- `ScriptInvocation::invoke`. -/
def invoke (inv : ScriptInvocation) : Dialogue Cmd (RedisResult Value) (RedisResult τ) :=
  .send inv.evalshaCmd fun
    | .error err =>
        if err.kind = .noScriptError then
          .send inv.evalCmd fun reply => .done (reply >>= decode)
        else .done (.error err)
    | .ok value => .done (decode value)

end ScriptInvocation

/-- The command of `Script::load_async` and `Script::load`. -/
def Script.loadCmd (script : Script) : Cmd := ((cmd "SCRIPT").arg "LOAD").arg (utf8 script.code)

/-- `Script::load_async`. -/
def Script.loadAsync (R : RedisCrate) (script : Script) :
    Dialogue Cmd (RedisResult Value) (RedisResult String) :=
  .send script.loadCmd fun reply => .done (reply >>= R.fromString)

/-- `Script::load`. -/
def Script.load (R : RedisCrate) (script : Script) :
    Dialogue Cmd (RedisResult Value) (RedisResult String) :=
  .send script.loadCmd fun reply => .done (reply >>= R.fromString)

/-- `Script::arg`. -/
def Script.arg {T : Type} [ToRedisArgs T] (script : Script) (a : T) : ScriptInvocation :=
  script.prepareInvoke.arg a

/-- `Script::key`. -/
def Script.key {T : Type} [ToRedisArgs T] (script : Script) (k : T) : ScriptInvocation :=
  script.prepareInvoke.key k

/-- One builder call on an invocation, with an argument of any type. -/
inductive BuilderCall : Type 1 where
  | key {T : Type} [ToRedisArgs T] (k : T)
  | arg {T : Type} [ToRedisArgs T] (a : T)

def BuilderCall.apply (inv : ScriptInvocation) : BuilderCall → ScriptInvocation
  | @key _ _ k => inv.key k
  | @arg _ _ a => inv.arg a

/-- The tokens a builder call adds to `KEYS`. -/
def BuilderCall.keyTokens : BuilderCall → List Bytes
  | @key _ _ k => writeRedisArgs k
  | @arg _ _ _ => []

/-- The tokens a builder call adds to `ARGV`. -/
def BuilderCall.argTokens : BuilderCall → List Bytes
  | @key _ _ _ => []
  | @arg _ _ a => writeRedisArgs a

/-- An invocation built by any builder calls in any order. -/
def Script.build (script : Script) (calls : List BuilderCall) : ScriptInvocation :=
  calls.foldl BuilderCall.apply script.prepareInvoke

theorem foldl_apply_eq (calls : List BuilderCall) (inv : ScriptInvocation) :
    calls.foldl BuilderCall.apply inv =
      ⟨inv.script, inv.args ++ calls.flatMap BuilderCall.argTokens,
        inv.keys ++ calls.flatMap BuilderCall.keyTokens⟩ := by
  induction calls generalizing inv with
  | nil => simp
  | cons call calls ih =>
      rw [List.foldl_cons, ih]
      cases call with
      | key k =>
          simp [BuilderCall.apply, ScriptInvocation.key, BuilderCall.keyTokens,
            BuilderCall.argTokens]
      | arg a =>
          simp [BuilderCall.apply, ScriptInvocation.arg, BuilderCall.keyTokens,
            BuilderCall.argTokens]

/-- Keys and arguments collect separately, each in call order. -/
theorem build_eq (script : Script) (calls : List BuilderCall) :
    script.build calls = ⟨script, calls.flatMap BuilderCall.argTokens,
      calls.flatMap BuilderCall.keyTokens⟩ := by
  simp [Script.build, foldl_apply_eq, Script.prepareInvoke]

/-- An invocation begun on the script itself: `Script::key` or `Script::arg`. -/
def Script.begin (script : Script) : BuilderCall → ScriptInvocation
  | @BuilderCall.key _ _ k => script.key k
  | @BuilderCall.arg _ _ a => script.arg a

/-- It is the invocation that `prepare_invoke` and the same call begin. -/
theorem foldl_begin (script : Script) (call : BuilderCall) (calls : List BuilderCall) :
    calls.foldl BuilderCall.apply (script.begin call) = script.build (call :: calls) := by
  cases call <;> rfl

/-! ## The server -/

/-- One run of a script body. -/
structure Execution where
  code : Bytes
  keys : List Bytes
  argv : List Bytes
  deriving DecidableEq, Repr

/-- What is unknown about the server: its digest, its script engine and its
other commands. -/
structure Engine (σ : Type) where
  sha1 : Bytes → String
  exec : Execution → σ → σ × RedisResult Value
  other : Cmd → σ → σ × RedisResult Value

/-- The script cache and the data of a server. -/
structure ServerState (σ : Type) where
  cache : List Bytes
  data : σ

/-- File a script in the cache. -/
def ServerState.load {σ : Type} (s : ServerState σ) (code : Bytes) : ServerState σ :=
  if code ∈ s.cache then s else { s with cache := code :: s.cache }

def noScript : RedisError := ⟨.noScriptError, "NOSCRIPT No matching script.", false⟩

def badNumkeys : RedisError :=
  ⟨.responseError, "Number of keys can't be greater than number of args", false⟩

namespace Engine

variable {σ : Type} (engine : Engine σ)

/-- Run a script body on the server's data. -/
def execute (run : Execution) (s : ServerState σ) :
    Dialogue.Handled (ServerState σ) (RedisResult Value) Execution :=
  let (data, reply) := engine.exec run s.data
  ⟨{ s with data := data }, reply, [run]⟩

/-- `EVAL script numkeys ...`: runs the script and files it in the cache. -/
def eval (code : Bytes) (rest : List Bytes) (s : ServerState σ) :
    Dialogue.Handled (ServerState σ) (RedisResult Value) Execution :=
  match readCounted 1 rest with
  | some (keys, argv) => engine.execute ⟨code, keys, argv⟩ (s.load code)
  | none => ⟨s, .error badNumkeys, []⟩

/-- `EVALSHA hash numkeys ...`: runs the cached script with that digest. -/
def evalsha (hash : Bytes) (rest : List Bytes) (s : ServerState σ) :
    Dialogue.Handled (ServerState σ) (RedisResult Value) Execution :=
  match readCounted 1 rest with
  | some (keys, argv) =>
      match s.cache.find? fun code => utf8 (engine.sha1 code) = hash with
      | some code => engine.execute ⟨code, keys, argv⟩ s
      | none => ⟨s, .error noScript, []⟩
  | none => ⟨s, .error badNumkeys, []⟩

/-- The server's handling of one command. -/
def handle (request : Cmd) (s : ServerState σ) :
    Dialogue.Handled (ServerState σ) (RedisResult Value) Execution :=
  match request.args with
  | name :: subject :: rest =>
      if name = utf8 "EVAL" then engine.eval subject rest s
      else if name = utf8 "EVALSHA" then engine.evalsha subject rest s
      else if name = utf8 "SCRIPT" ∧ subject = utf8 "LOAD" then
        match rest with
        | [code] => ⟨s.load code, .ok (.bulkString (utf8 (engine.sha1 code))), []⟩
        | _ => ⟨s, .error ⟨.responseError, "wrong number of arguments", false⟩, []⟩
      else if name = utf8 "SCRIPT" ∧ subject = utf8 "FLUSH" then
        ⟨{ s with cache := [] }, .ok .okay, []⟩
      else
        let (data, reply) := engine.other request s.data
        ⟨{ s with data := data }, reply, []⟩
  | _ =>
      let (data, reply) := engine.other request s.data
      ⟨{ s with data := data }, reply, []⟩

end Engine

/-! ## What the two commands do on the server -/

/-- The server's split of `numkeys` and the tokens after it. -/
theorem readCounted_keys (keys args : List Bytes) :
    readCounted 1 (Decimal.render keys.length :: (keys ++ args)) = some (keys, args) :=
  (readCounted_eq_some_iff 1 keys.length keys args).mpr (Nat.one_mul _).symm

/-- The run that an invocation asks for. -/
def ScriptInvocation.execution (inv : ScriptInvocation) : Execution :=
  ⟨utf8 inv.script.code, inv.keys, inv.args⟩

/-- No other cached script has the digest of this one. -/
def Engine.Unambiguous {σ : Type} (engine : Engine σ) (code : Bytes) (s : ServerState σ) : Prop :=
  ∀ other ∈ s.cache, engine.sha1 other = engine.sha1 code → other = code

section Serving

variable {σ : Type} {engine : Engine σ} {inv : ScriptInvocation} {s : ServerState σ}

theorem handle_evalCmd :
    engine.handle inv.evalCmd s =
      engine.execute inv.execution (s.load (utf8 inv.script.code)) := by
  have hargs : inv.evalCmd.args = utf8 "EVAL" :: utf8 inv.script.code ::
      Decimal.render inv.keys.length :: (inv.keys ++ inv.args) := by
    simp [ScriptInvocation.evalCmd]
  simp only [Engine.handle, hargs, if_true, Engine.eval, readCounted_keys]
  rfl

theorem handle_evalshaCmd :
    engine.handle inv.evalshaCmd s =
      match s.cache.find? fun code => utf8 (engine.sha1 code) = utf8 inv.script.hash with
      | some code => engine.execute { inv.execution with code := code } s
      | none => ⟨s, .error noScript, []⟩ := by
  have hargs : inv.evalshaCmd.args = utf8 "EVALSHA" :: utf8 inv.script.hash ::
      Decimal.render inv.keys.length :: (inv.keys ++ inv.args) := by
    simp [ScriptInvocation.evalshaCmd]
  have hname : utf8 "EVALSHA" ≠ utf8 "EVAL" := by decide
  simp only [Engine.handle, hargs, hname, if_false, if_true, Engine.evalsha, readCounted_keys]
  rfl

/-- Without a collision, the digest of a script finds that script or nothing. -/
theorem find?_cache {code : Bytes} (hsha : engine.Unambiguous code s) :
    s.cache.find? (fun c => utf8 (engine.sha1 c) = utf8 (engine.sha1 code)) =
      if code ∈ s.cache then some code else none := by
  by_cases hmem : code ∈ s.cache
  · rw [if_pos hmem]
    cases hfind : s.cache.find? (fun c => utf8 (engine.sha1 c) = utf8 (engine.sha1 code)) with
    | none =>
        have hnone := List.find?_eq_none.mp hfind code hmem
        simp at hnone
    | some found =>
        have hfound := List.find?_some hfind
        have heq : engine.sha1 found = engine.sha1 code :=
          utf8_injective (of_decide_eq_true hfound)
        rw [hsha found (List.mem_of_find?_eq_some hfind) heq]
  · rw [if_neg hmem]
    apply List.find?_eq_none.mpr
    intro found hfound heq
    have hsame := hsha found hfound (utf8_injective (of_decide_eq_true heq))
    exact hmem (hsame ▸ hfound)

end Serving

/-! ## One invocation among other clients -/

section Invocation

variable {σ τ : Type} (engine : Engine σ) (decode : Value → RedisResult τ)

/-- Served among the requests `others` of other clients, the dialogue comes to
one direct `EVAL` of the script with the given keys and arguments, either where
it sent its first or where it sent its second command. -/
def AsOneEval (script : Script) (keys args : List Bytes)
    (dialogue : Dialogue Cmd (RedisResult Value) (RedisResult τ))
    (others : Nat → List Cmd) (s : ServerState σ) : Prop :=
  ∃ before after,
    (before = others 0 ∧ after = others 1 ∨ before = others 0 ++ others 1 ∧ after = others 2) ∧
    let start := Dialogue.handleAll engine.handle before s
    let direct := engine.execute ⟨utf8 script.code, keys, args⟩ (start.load (utf8 script.code))
    dialogue.serve engine.handle others s =
      ⟨direct.reply >>= decode, Dialogue.handleAll engine.handle after direct.state,
        [⟨utf8 script.code, keys, args⟩]⟩

/-- The invocation finds its script in the cache, and the script itself answers
with the error that a missing script has. -/
def AnswersNoScript (script : Script) (keys args : List Bytes) (others : Nat → List Cmd)
    (s : ServerState σ) : Prop :=
  let start := Dialogue.handleAll engine.handle (others 0) s
  utf8 script.code ∈ start.cache ∧
    ∃ err, (engine.exec ⟨utf8 script.code, keys, args⟩ start.data).2 = .error err ∧
      err.kind = .noScriptError

/-- At most two commands are sent, the second only after a `NoScriptError`. -/
def FallsBackOnce (inv : ScriptInvocation)
    (dialogue : Dialogue Cmd (RedisResult Value) (RedisResult τ)) : Prop :=
  ∀ replies, dialogue.sent replies = inv.evalshaCmd ::
    match replies with
    | .error err :: _ => if err.kind = .noScriptError then [inv.evalCmd] else []
    | _ => []

variable {engine decode}

/-- The fallback of an invocation whose script is not cached, or answers
`NoScriptError` itself, is a direct `EVAL`. -/
theorem serve_fallback (inv : ScriptInvocation) (others : Nat → List Cmd) (s : ServerState σ) :
    (Dialogue.send inv.evalCmd fun reply =>
        (Dialogue.done (reply >>= decode) : Dialogue Cmd (RedisResult Value) (RedisResult τ))).serve
      engine.handle others s =
    let start := Dialogue.handleAll engine.handle (others 0) s
    let direct := engine.execute inv.execution (start.load (utf8 inv.script.code))
    ⟨direct.reply >>= decode, Dialogue.handleAll engine.handle (others 1) direct.state,
      [inv.execution]⟩ := by
  simp only [Dialogue.serve, handle_evalCmd]
  rfl

theorem fallsBackOnce_invokeAsync (inv : ScriptInvocation) :
    FallsBackOnce inv (inv.invokeAsync decode) := by
  intro replies
  match replies with
  | [] => rfl
  | .ok value :: replies => rfl
  | .error err :: replies =>
      simp only [ScriptInvocation.invokeAsync, Dialogue.sent]
      by_cases hkind : err.kind = .noScriptError
      · rw [if_pos hkind, if_pos hkind]
        cases replies with
        | nil => rfl
        | cons reply replies => rfl
      · rw [if_neg hkind, if_neg hkind]
        rfl

section Served

variable {inv : ScriptInvocation} {others : Nat → List Cmd} {s : ServerState σ}
variable (hhash : inv.script.hash = engine.sha1 (utf8 inv.script.code))
include hhash

theorem handle_evalshaCmd_cached (hsha : engine.Unambiguous (utf8 inv.script.code) s)
    (hmem : utf8 inv.script.code ∈ s.cache) :
    engine.handle inv.evalshaCmd s = engine.execute inv.execution s := by
  rw [handle_evalshaCmd, hhash, find?_cache hsha, if_pos hmem]
  rfl

theorem handle_evalshaCmd_missing (hsha : engine.Unambiguous (utf8 inv.script.code) s)
    (hmem : utf8 inv.script.code ∉ s.cache) :
    engine.handle inv.evalshaCmd s = ⟨s, .error noScript, []⟩ := by
  rw [handle_evalshaCmd, hhash, find?_cache hsha, if_neg hmem]

variable (hsha : engine.Unambiguous (utf8 inv.script.code)
  (Dialogue.handleAll engine.handle (others 0) s))
include hsha

/-- Not cached: the first command changes nothing and the fallback runs the script. -/
theorem serve_missing
    (hmem : utf8 inv.script.code ∉ (Dialogue.handleAll engine.handle (others 0) s).cache) :
    (inv.invokeAsync decode).serve engine.handle others s =
      let start := Dialogue.handleAll engine.handle (others 0 ++ others 1) s
      let direct := engine.execute inv.execution (start.load (utf8 inv.script.code))
      ⟨direct.reply >>= decode, Dialogue.handleAll engine.handle (others 2) direct.state,
        [inv.execution]⟩ := by
  have hfirst := handle_evalshaCmd_missing hhash hsha hmem
  refine (Dialogue.serve_send_unchanged hfirst).trans ?_
  rw [Dialogue.handleAll_append]
  exact serve_fallback inv (fun i => others (i + 1)) _

/-- Cached, and answered with anything but `NoScriptError`: the first command
runs the script and settles the invocation. -/
theorem serve_cached
    (hmem : utf8 inv.script.code ∈ (Dialogue.handleAll engine.handle (others 0) s).cache)
    (hreply : ∀ err, (engine.exec inv.execution
      (Dialogue.handleAll engine.handle (others 0) s).data).2 = .error err →
        err.kind ≠ .noScriptError) :
    (inv.invokeAsync decode).serve engine.handle others s =
      let start := Dialogue.handleAll engine.handle (others 0) s
      let direct := engine.execute inv.execution (start.load (utf8 inv.script.code))
      ⟨direct.reply >>= decode, Dialogue.handleAll engine.handle (others 1) direct.state,
        [inv.execution]⟩ := by
  have hfirst := handle_evalshaCmd_cached hhash hsha hmem
  have hload : (Dialogue.handleAll engine.handle (others 0) s).load (utf8 inv.script.code) =
      Dialogue.handleAll engine.handle (others 0) s := if_pos hmem
  simp only [hload]
  apply (Dialogue.serve_send_done ?_).trans
  · rw [hfirst]
    rfl
  · rw [hfirst]
    simp only [Engine.execute]
    cases hexec : (engine.exec inv.execution
        (Dialogue.handleAll engine.handle (others 0) s).data).2 with
    | ok value => rfl
    | error err => exact if_neg (hreply err hexec)

/-- Cached, but answered with `NoScriptError` by the script itself: it runs twice. -/
theorem effects_of_answersNoScript {err : RedisError}
    (hmem : utf8 inv.script.code ∈ (Dialogue.handleAll engine.handle (others 0) s).cache)
    (hexec : (engine.exec inv.execution
      (Dialogue.handleAll engine.handle (others 0) s).data).2 = .error err)
    (hkind : err.kind = .noScriptError) :
    ((inv.invokeAsync decode).serve engine.handle others s).effects =
      [inv.execution, inv.execution] := by
  have hfirst := handle_evalshaCmd_cached hhash hsha hmem
  simp only [ScriptInvocation.invokeAsync, Dialogue.serve, hfirst, Engine.execute, hexec, hkind,
    if_true, handle_evalCmd]
  rfl

end Served

/-- The asynchronous invocation is one direct `EVAL` unless its cached script
answers `NoScriptError` itself. -/
theorem asOneEval_iff (decode : Value → RedisResult τ) (script : Script)
    (keys args : List Bytes) (hhash : script.hash = engine.sha1 (utf8 script.code))
    (others : Nat → List Cmd) (s : ServerState σ)
    (hsha : engine.Unambiguous (utf8 script.code)
      (Dialogue.handleAll engine.handle (others 0) s)) :
    AsOneEval engine decode script keys args
        (ScriptInvocation.invokeAsync decode ⟨script, args, keys⟩) others s ↔
      ¬ AnswersNoScript engine script keys args others s := by
  constructor
  · rintro ⟨before, after, -, heq⟩ ⟨hmem, err, hexec, hkind⟩
    have htwice : (Dialogue.serve engine.handle
        (ScriptInvocation.invokeAsync decode ⟨script, args, keys⟩) others s).effects =
          [⟨utf8 script.code, keys, args⟩, ⟨utf8 script.code, keys, args⟩] :=
      effects_of_answersNoScript hhash hsha hmem hexec hkind
    rw [heq] at htwice
    simp at htwice
  · intro hnot
    by_cases hmem : utf8 script.code ∈ (Dialogue.handleAll engine.handle (others 0) s).cache
    · refine ⟨others 0, others 1, .inl ⟨rfl, rfl⟩, ?_⟩
      apply serve_cached hhash hsha hmem
      intro err hexec hkind
      exact hnot ⟨hmem, err, hexec, hkind⟩
    · refine ⟨others 0 ++ others 1, others 2, .inr ⟨rfl, rfl⟩, ?_⟩
      exact serve_missing hhash hsha hmem

/-- Both flavours of an invocation, built by any builder calls, send at most two
commands, and are one direct `EVAL` of the script with all key tokens as `KEYS`
and all argument tokens as `ARGV`, unless the cached script answers
`NoScriptError` itself. An invocation may as well begin on the script itself. -/
theorem invocation_runs_once_iff (engine : Engine σ) (decode : Value → RedisResult τ)
    (code : String) (calls : List BuilderCall) (others : Nat → List Cmd) (s : ServerState σ)
    (hsha : engine.Unambiguous (utf8 code) (Dialogue.handleAll engine.handle (others 0) s)) :
    let script := Script.new engine.sha1 code
    let inv := script.build calls
    let keys := calls.flatMap BuilderCall.keyTokens
    let args := calls.flatMap BuilderCall.argTokens
    FallsBackOnce inv (inv.invokeAsync decode) ∧ FallsBackOnce inv (inv.invoke decode) ∧
    (AsOneEval engine decode script keys args (inv.invokeAsync decode) others s ↔
      ¬ AnswersNoScript engine script keys args others s) ∧
    (AsOneEval engine decode script keys args (inv.invoke decode) others s ↔
      ¬ AnswersNoScript engine script keys args others s) ∧
    (∀ call rest, calls = call :: rest → rest.foldl BuilderCall.apply (script.begin call) = inv) := by
  intro script inv keys args
  have hbegun : ∀ call rest, calls = call :: rest →
      rest.foldl BuilderCall.apply (script.begin call) = inv := by
    rintro call rest rfl
    exact foldl_begin script call rest
  have hsync : inv.invoke decode = inv.invokeAsync decode := rfl
  have hinv : inv = ⟨script, args, keys⟩ := build_eq script calls
  have hiff := asOneEval_iff decode script keys args rfl others s hsha
  refine ⟨?_, ?_, ?_, ?_, hbegun⟩
  · exact fallsBackOnce_invokeAsync inv
  · exact fallsBackOnce_invokeAsync inv
  · rw [hinv]
    exact hiff
  · rw [hsync, hinv]
    exact hiff

end Invocation

/-! ## Two scripts -/

/-- A server that has seen one script so far: it files the script under its
digest, and a run of it counts itself and gives the script's reply. -/
def countingEngine (code digest : String) (reply : RedisResult Value) : Engine Nat where
  sha1 other := if other = utf8 code then digest else ""
  exec _ runs := (runs + 1, reply)
  other _ runs := (runs, .ok .okay)

def returnOne : Engine Nat :=
  countingEngine "return 1" "e0e1f9fabfc9d4800c877a703b823ac0578ff8db" (.ok (.int 1))

/-- Another client flushes the cache before the first command and loads the
script between the two: the script still runs once. -/
def flushThenLoad : Nat → List Cmd
  | 0 => [(cmd "SCRIPT").arg "FLUSH"]
  | 1 => [((cmd "SCRIPT").arg "LOAD").arg "return 1"]
  | _ => []

theorem invocation_runs_once_flushed :
    ¬ AnswersNoScript returnOne (Script.new returnOne.sha1 "return 1") [utf8 "k"] [utf8 "a"]
      flushThenLoad ⟨[utf8 "return 1"], 0⟩ ∧
    AsOneEval returnOne RedisCrate.stringsOnly.fromBytes (Script.new returnOne.sha1 "return 1")
      [utf8 "k"] [utf8 "a"]
      (((Script.new returnOne.sha1 "return 1").build [.arg "a", .key "k"]).invokeAsync
        RedisCrate.stringsOnly.fromBytes) flushThenLoad ⟨[utf8 "return 1"], 0⟩ := by
  have hnot : ¬ AnswersNoScript returnOne (Script.new returnOne.sha1 "return 1") [utf8 "k"]
      [utf8 "a"] flushThenLoad ⟨[utf8 "return 1"], 0⟩ := by
    rintro ⟨_, err, hexec, _⟩
    cases hexec
  have hsha : returnOne.Unambiguous (utf8 "return 1")
      (Dialogue.handleAll returnOne.handle (flushThenLoad 0) ⟨[utf8 "return 1"], 0⟩) := by
    intro other hmem
    cases hmem
  refine ⟨hnot, ?_⟩
  exact (invocation_runs_once_iff returnOne RedisCrate.stringsOnly.fromBytes "return 1"
    [.arg "a", .key "k"] flushThenLoad ⟨[utf8 "return 1"], 0⟩ hsha).2.2.1.mpr hnot

/-- A script that answers with a `NOSCRIPT` error of its own. -/
def goneScript : String := "return redis.error_reply('NOSCRIPT gone')"

def goneEngine : Engine Nat :=
  countingEngine goneScript "ef7e21df4467ea1fa84f8c4073e8047e67aabb40"
    (.error ⟨.noScriptError, "NOSCRIPT: gone", false⟩)

/-- Found in the cache, such a script is executed twice by one invocation. -/
theorem invocation_runs_twice :
    let script := Script.new goneEngine.sha1 goneScript
    let run := (script.prepareInvoke.invokeAsync RedisCrate.stringsOnly.fromBytes).serve
      goneEngine.handle (fun _ => []) ⟨[utf8 goneScript], 0⟩
    run.effects = [⟨utf8 goneScript, [], []⟩, ⟨utf8 goneScript, [], []⟩] ∧ run.state.data = 2 ∧
      ¬ AsOneEval goneEngine RedisCrate.stringsOnly.fromBytes script [] []
        (script.prepareInvoke.invokeAsync RedisCrate.stringsOnly.fromBytes) (fun _ => [])
        ⟨[utf8 goneScript], 0⟩ := by
  refine ⟨by decide, by decide, ?_⟩
  rintro ⟨before, after, -, heq⟩
  have hlen : 2 = 1 := congrArg (fun completed => completed.effects.length) heq
  omega

end GlideRust.LuaScript
