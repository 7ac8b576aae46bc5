import GlideRust.LuaScript
import GlideRust.Lib.Tasks

/-!
# The script cache under concurrent use

Tasks invoke and load scripts at the same time, on asynchronous and blocking
clients, while other clients send requests of their own. As long as nobody
flushes the cache, the body of a script is sent only by invocations that asked
for it before it was cached, and every invocation that returns has run its
script once.

## Implementation notes

A task that invokes a script stands at its lookup (`EVALSHA`) or at its fallback
(`EVAL`). The stages name these points; a task's dialogue is that of its stage.
-/

namespace GlideRust.ScriptCache

open Redis Lib LuaScript Tasks

/-- What a task returns, at the type of its method. -/
inductive Outcome (τ : Type) where
  | invoked (result : RedisResult τ)
  | loaded (result : RedisResult String)

/-- A method call on a script, on an asynchronous or on a blocking client. -/
inductive Operation where
  | invoke (blocking : Bool) (code : String) (keys args : List Bytes)
  | load (blocking : Bool) (code : String)

/-- Where a task stands. -/
inductive Stage where
  | lookup (code : String) (keys args : List Bytes)
  | fallback (code : String) (keys args : List Bytes)
  | load (code : String)

section Dialogues

variable {τ : Type} (sha1 : Bytes → String) (R : RedisCrate) (decode : Value → RedisResult τ)

def invocation (code : String) (keys args : List Bytes) : ScriptInvocation :=
  ⟨Script.new sha1 code, args, keys⟩

/-- The dialogue of a method call. -/
def Operation.dialogue : Operation → Dialogue Cmd (RedisResult Value) (Outcome τ)
  | .invoke blocking code keys args =>
      let inv := invocation sha1 code keys args
      (if blocking then inv.invoke decode else inv.invokeAsync decode).map .invoked
  | .load blocking code =>
      let script := Script.new sha1 code
      (if blocking then script.load R else script.loadAsync R).map .loaded

/-- The rest of the dialogue at a stage. -/
def Stage.dialogue : Stage → Dialogue Cmd (RedisResult Value) (Outcome τ)
  | .lookup code keys args => ((invocation sha1 code keys args).invokeAsync decode).map .invoked
  | .fallback code keys args =>
      .send (invocation sha1 code keys args).evalCmd fun reply => .done (.invoked (reply >>= decode))
  | .load code =>
      .send (Script.new sha1 code).loadCmd fun reply => .done (.loaded (reply >>= R.fromString))

def Operation.stage : Operation → Stage
  | .invoke _ code keys args => .lookup code keys args
  | .load _ code => .load code

/-- Both flavours of a method begin at the same stage. -/
theorem Operation.dialogue_eq (op : Operation) :
    op.dialogue sha1 R decode = op.stage.dialogue sha1 R decode := by
  cases op with
  | invoke blocking code keys args => cases blocking <;> rfl
  | load blocking code => cases blocking <;> rfl

/-- The command that is sent at a stage. -/
def Stage.request : Stage → Cmd
  | .lookup code keys args => (invocation sha1 code keys args).evalshaCmd
  | .fallback code keys args => (invocation sha1 code keys args).evalCmd
  | .load code => (Script.new sha1 code).loadCmd

theorem Stage.dialogue_eq_send (stage : Stage) :
    ∃ next, stage.dialogue sha1 R decode = .send (stage.request sha1) next := by
  cases stage <;> exact ⟨_, rfl⟩

end Dialogues

/-! ## Requests on the server -/

/-- `SCRIPT FLUSH`, with any options. -/
def Flushes (request : Cmd) : Prop :=
  ∃ rest, request.args = utf8 "SCRIPT" :: utf8 "FLUSH" :: rest

section Server

variable {σ : Type} {engine : Engine σ}

theorem cache_subset_load (s : ServerState σ) (code : Bytes) : s.cache ⊆ (s.load code).cache := by
  unfold ServerState.load
  split
  · exact List.Subset.refl _
  · exact List.subset_cons_self code s.cache

theorem mem_cache_load (s : ServerState σ) (code : Bytes) : code ∈ (s.load code).cache := by
  unfold ServerState.load
  split
  · assumption
  · exact List.mem_cons_self

/-- A request that is no flush takes nothing out of the cache. -/
theorem cache_subset_handle {request : Cmd} (hflush : ¬Flushes request) (s : ServerState σ) :
    s.cache ⊆ (engine.handle request s).state.cache := by
  have hsame : s.cache ⊆ s.cache := List.Subset.refl _
  unfold Engine.handle
  split
  · rename_i name subject rest hargs
    split_ifs with heval hevalsha hload hscript
    · unfold Engine.eval
      split
      · exact cache_subset_load s subject
      · exact hsame
    · unfold Engine.evalsha
      split
      · split
        · exact hsame
        · exact hsame
      · exact hsame
    · split
      · exact cache_subset_load s _
      · exact hsame
    · obtain ⟨rfl, rfl⟩ := hscript
      exact absurd ⟨rest, hargs⟩ hflush
    · exact hsame
  · exact hsame

theorem handle_loadCmd (script : Script) (s : ServerState σ) :
    engine.handle script.loadCmd s =
      ⟨s.load (utf8 script.code), .ok (.bulkString (utf8 (engine.sha1 (utf8 script.code)))), []⟩ := by
  have hargs : script.loadCmd.args = [utf8 "SCRIPT", utf8 "LOAD", utf8 script.code] := by
    simp [Script.loadCmd]
  have heval : utf8 "SCRIPT" ≠ utf8 "EVAL" := by decide
  have hevalsha : utf8 "SCRIPT" ≠ utf8 "EVALSHA" := by decide
  simp only [Engine.handle, hargs, heval, hevalsha, if_false, and_self, if_true]

theorem not_flushes_request (sha1 : Bytes → String) (stage : Stage) :
    ¬Flushes (stage.request sha1) := by
  have heval : utf8 "EVAL" ≠ utf8 "SCRIPT" := by decide
  have hevalsha : utf8 "EVALSHA" ≠ utf8 "SCRIPT" := by decide
  have hload : utf8 "LOAD" ≠ utf8 "FLUSH" := by decide
  rintro ⟨rest, hargs⟩
  cases stage with
  | lookup code keys args =>
      simp [Stage.request, ScriptInvocation.evalshaCmd, hevalsha] at hargs
  | fallback code keys args => simp [Stage.request, ScriptInvocation.evalCmd, heval] at hargs
  | load code => simp [Stage.request, Script.loadCmd, hload] at hargs

end Server

/-! ## One step of a task -/

section Run

variable {σ τ : Type} (engine : Engine σ) (R : RedisCrate) (decode : Value → RedisResult τ)

abbrev System (σ τ : Type) := State Cmd (RedisResult Value) (Outcome τ) (ServerState σ)
abbrev Input (τ : Type) := Event Cmd (RedisResult Value) (Outcome τ)
abbrev Output (τ : Type) := Observation Cmd (Outcome τ) Execution

/-- Every waiting task stands at a stage. -/
def Staged (s : System σ τ) : Prop :=
  ∀ i dialogue, s.tasks i = .pending dialogue →
    ∃ stage : Stage, dialogue = stage.dialogue engine.sha1 R decode

/-- Tasks are method calls on scripts, and no other client flushes the cache. -/
def Allowed : Input τ → Prop
  | .start _ dialogue => ∃ op : Operation, dialogue = op.dialogue engine.sha1 R decode
  | .other request => ¬Flushes request
  | .handle _ | .cancel _ => True

/-- What comes of handling the request of a task: the task returns, or it was at
its lookup, was told that there is no such script, and falls back. -/
inductive Handling (s : System σ τ) (i : Nat) (stage : Stage) : System σ τ → List (Output τ) → Prop
  | returned {result : Outcome τ}
      (answered : ∀ code keys args err, stage = .lookup code keys args →
        (engine.handle (stage.request engine.sha1) s.server).reply = .error err →
          err.kind ≠ .noScriptError) :
      Handling s i stage
        ({ s with server := (engine.handle (stage.request engine.sha1) s.server).state }.set i .ended)
        [.handled i (stage.request engine.sha1)
          (engine.handle (stage.request engine.sha1) s.server).effects, .returned i result]
  | missing {code : String} {keys args : List Bytes} {err : RedisError}
      (lookup : stage = .lookup code keys args)
      (reply : (engine.handle (stage.request engine.sha1) s.server).reply = .error err)
      (kind : err.kind = .noScriptError) :
      Handling s i stage
        ({ s with server := (engine.handle (stage.request engine.sha1) s.server).state }.set i
          (.pending ((Stage.fallback code keys args).dialogue engine.sha1 R decode)))
        [.handled i (stage.request engine.sha1)
          (engine.handle (stage.request engine.sha1) s.server).effects]

variable {engine R decode}

theorem handling_of_pending {s t : System σ τ} {i : Nat} {stage : Stage} {out : List (Output τ)}
    (hpending : s.tasks i = .pending (stage.dialogue engine.sha1 R decode))
    (h : step engine.handle s (.handle i) = some (t, out)) :
    Handling engine R decode s i stage t out := by
  obtain ⟨request, next, hsend, hadvance⟩ := step_handle_cases h
  have hstage := Task.pending.inj (hsend.symm.trans hpending)
  cases stage with
  | lookup code keys args =>
      cases hstage
      cases hreply : (engine.handle (invocation engine.sha1 code keys args).evalshaCmd
          s.server).reply with
      | ok value =>
          rw [advance_done (by rw [hreply]; rfl)] at hadvance
          cases hadvance
          refine .returned ?_
          intro _ _ _ err _ herr
          cases hreply.symm.trans herr
      | error err =>
          by_cases hkind : err.kind = .noScriptError
          · rw [advance_send (by rw [hreply]; simp only [hkind, if_true]; rfl)] at hadvance
            cases hadvance
            exact .missing rfl hreply hkind
          · rw [advance_done (by rw [hreply]; simp only [hkind, if_false]; rfl)] at hadvance
            cases hadvance
            refine .returned ?_
            intro _ _ _ err' _ herr
            cases hreply.symm.trans herr
            exact hkind
  | fallback code keys args | load code =>
      cases hstage
      simp only [advance, Prod.mk.injEq] at hadvance
      obtain ⟨rfl, rfl⟩ := hadvance
      refine .returned ?_
      intro _ _ _ _ hlookup
      cases hlookup

theorem handling_of_step {s t : System σ τ} {i : Nat} {out : List (Output τ)}
    (hstaged : Staged engine R decode s) (h : step engine.handle s (.handle i) = some (t, out)) :
    ∃ stage : Stage, s.tasks i = .pending (stage.dialogue engine.sha1 R decode) ∧
      Handling engine R decode s i stage t out := by
  obtain ⟨request, next, hsend, -⟩ := step_handle_cases h
  obtain ⟨stage, hstage⟩ := hstaged i _ hsend
  rw [hstage] at hsend
  exact ⟨stage, hsend, handling_of_pending hsend h⟩

/-! ## Every run -/

theorem Handling.cache_subset {s t : System σ τ} {i : Nat} {stage : Stage} {out : List (Output τ)}
    (h : Handling engine R decode s i stage t out) : s.server.cache ⊆ t.server.cache := by
  have hgrows : s.server.cache ⊆
      (engine.handle (stage.request engine.sha1) s.server).state.cache :=
    cache_subset_handle (not_flushes_request engine.sha1 stage) s.server
  cases h with
  | returned => exact hgrows
  | missing => exact hgrows

/-- A step of any party keeps the tasks at stages and takes nothing out of the
cache. -/
theorem step_staged {s t : System σ τ} {event : Input τ} {out : List (Output τ)}
    (hallowed : Allowed engine R decode event) (hstaged : Staged engine R decode s)
    (h : step engine.handle s event = some (t, out)) :
    Staged engine R decode t ∧ s.server.cache ⊆ t.server.cache := by
  have hset {u : System σ τ} {i : Nat} {task : Task Cmd (RedisResult Value) (Outcome τ)}
      (htasks : u.tasks = s.tasks)
      (htask : ∀ dialogue, task = .pending dialogue →
        ∃ stage : Stage, dialogue = stage.dialogue engine.sha1 R decode) :
      Staged engine R decode (u.set i task) := by
    intro j dialogue hj
    by_cases hji : j = i
    · rw [hji, State.set_tasks_self] at hj
      exact htask dialogue hj
    · rw [State.set_tasks_of_ne u task hji, htasks] at hj
      exact hstaged j dialogue hj
  cases event with
  | start i dialogue =>
      obtain ⟨-, rfl, -⟩ := step_start_cases h
      obtain ⟨op, hop⟩ := hallowed
      refine ⟨hset rfl ?_, List.Subset.refl _⟩
      intro dialogue' hsame
      cases hsame
      exact ⟨op.stage, hop.trans (op.dialogue_eq engine.sha1 R decode)⟩
  | handle i =>
      obtain ⟨stage, -, hhandling⟩ := handling_of_step hstaged h
      refine ⟨?_, hhandling.cache_subset⟩
      cases hhandling with
      | returned =>
          apply hset rfl
          intro dialogue hsame
          cases hsame
      | @missing code keys args err lookup reply kind =>
          apply hset rfl
          intro dialogue hsame
          cases hsame
          exact ⟨.fallback code keys args, rfl⟩
  | other request =>
      obtain ⟨rfl, -⟩ := step_other_cases h
      exact ⟨hstaged, cache_subset_handle hallowed s.server⟩
  | cancel i =>
      obtain ⟨-, rfl, -⟩ := step_cancel_cases h
      refine ⟨hset rfl ?_, List.Subset.refl _⟩
      intro dialogue hsame
      cases hsame

/-- No part of a run takes anything out of the cache. -/
theorem run_staged {s t : System σ τ} {events : List (Input τ)} {outs : List (Output τ)}
    (hallowed : ∀ event ∈ events, Allowed engine R decode event)
    (hstaged : Staged engine R decode s)
    (hrun : Machine.run (step engine.handle) s events = some (t, outs)) :
    Staged engine R decode t ∧ s.server.cache ⊆ t.server.cache := by
  induction events generalizing s outs with
  | nil =>
      cases hrun
      exact ⟨hstaged, List.Subset.refl _⟩
  | cons event rest ih =>
      obtain ⟨mid, out, later, hstep, hrest, -⟩ := Machine.run_cons_eq_some.mp hrun
      rw [List.forall_mem_cons] at hallowed
      have hmid := step_staged hallowed.1 hstaged hstep
      have hlast := ih hallowed.2 hmid.1 hrest
      exact ⟨hlast.1, List.Subset.trans hmid.2 hlast.2⟩

/-! ## One script -/

/-- Only the fallback of an invocation sends its `EVAL`. -/
theorem eq_fallback_of_request {sha1 : Bytes → String} {stage : Stage} {code : String}
    {keys args : List Bytes}
    (h : stage.request sha1 = (Stage.fallback code keys args).request sha1) :
    stage = .fallback code keys args := by
  have hevalsha : utf8 "EVALSHA" ≠ utf8 "EVAL" := by decide
  have hscript : utf8 "SCRIPT" ≠ utf8 "EVAL" := by decide
  have hargs := congrArg Cmd.args h
  cases stage with
  | lookup code' keys' args' =>
      simp [Stage.request, ScriptInvocation.evalshaCmd, ScriptInvocation.evalCmd, hevalsha] at hargs
  | load code' =>
      simp [Stage.request, Script.loadCmd, ScriptInvocation.evalCmd, hscript] at hargs
  | fallback code' keys' args' =>
      simp only [Stage.request, ScriptInvocation.evalCmd, invocation, Script.new, Cmd.args_arg,
        args_cmd, writeRedisArgs_bytes, writeRedisArgs_nat, writeRedisArgs_list,
        flatMap_writeRedisArgs_bytes, List.cons_append, List.nil_append,
        List.cons.injEq, true_and] at hargs
      obtain ⟨hcode, htail⟩ := hargs
      have hcounted : CountedSection.readCounted 1 (Decimal.render keys'.length :: (keys' ++ args')) =
          CountedSection.readCounted 1 (Decimal.render keys.length :: (keys ++ args)) := by
        rw [htail.1, htail.2]
      rw [readCounted_keys, readCounted_keys, Option.some.injEq, Prod.mk.injEq] at hcounted
      rw [utf8_injective hcode, hcounted.1, hcounted.2]

theorem eq_fallback_of_dialogue {stage : Stage} {code : String} {keys args : List Bytes}
    (h : stage.dialogue engine.sha1 R decode =
      (Stage.fallback code keys args).dialogue engine.sha1 R decode) :
    stage = .fallback code keys args := by
  obtain ⟨next, hnext⟩ := stage.dialogue_eq_send engine.sha1 R decode
  obtain ⟨next', hnext'⟩ := (Stage.fallback code keys args).dialogue_eq_send engine.sha1 R decode
  rw [hnext, hnext'] at h
  exact eq_fallback_of_request (Dialogue.send.inj h).1

/-- A script that never answers with the error of a missing script. -/
def Quiet (engine : Engine σ) (code : String) : Prop :=
  ∀ keys args data err, (engine.exec ⟨utf8 code, keys, args⟩ data).2 = .error err →
    err.kind ≠ .noScriptError

section Script

variable {code : String} {keys args : List Bytes} {s t : System σ τ} {i : Nat}
variable {out : List (Output τ)}

/-- The lookup of a cached script runs it and returns. -/
theorem Handling.lookup_cached (hquiet : Quiet engine code)
    (hsha : engine.Unambiguous (utf8 code) s.server) (hmem : utf8 code ∈ s.server.cache)
    (h : Handling engine R decode s i (.lookup code keys args) t out) :
    ∃ result, t.tasks = Function.update s.tasks i .ended ∧
      out = [.handled i ((Stage.lookup code keys args).request engine.sha1)
        [⟨utf8 code, keys, args⟩], .returned i result] := by
  have hhandle : engine.handle ((Stage.lookup code keys args).request engine.sha1) s.server =
      engine.execute ⟨utf8 code, keys, args⟩ s.server :=
    handle_evalshaCmd_cached rfl hsha hmem
  cases h with
  | @returned result answered =>
      refine ⟨result, rfl, ?_⟩
      rw [hhandle]
      rfl
  | missing lookup reply kind =>
      rw [hhandle] at reply
      exact absurd kind (hquiet keys args _ _ reply)

/-- The lookup of a missing script runs nothing and leads to the fallback. -/
theorem Handling.lookup_missing (hsha : engine.Unambiguous (utf8 code) s.server)
    (hmem : utf8 code ∉ s.server.cache)
    (h : Handling engine R decode s i (.lookup code keys args) t out) :
    t.tasks = Function.update s.tasks i
        (.pending ((Stage.fallback code keys args).dialogue engine.sha1 R decode)) ∧
      out = [.handled i ((Stage.lookup code keys args).request engine.sha1) []] := by
  have hhandle : engine.handle ((Stage.lookup code keys args).request engine.sha1) s.server =
      ⟨s.server, .error noScript, []⟩ :=
    handle_evalshaCmd_missing rfl hsha hmem
  cases h with
  | returned answered =>
      rw [hhandle] at answered
      exact absurd rfl (answered code keys args noScript rfl rfl)
  | missing lookup reply kind =>
      cases lookup
      refine ⟨rfl, ?_⟩
      rw [hhandle]

/-- The fallback files the script, runs it and returns. -/
theorem Handling.fallback (h : Handling engine R decode s i (.fallback code keys args) t out) :
    utf8 code ∈ t.server.cache ∧
      ∃ result, t.tasks = Function.update s.tasks i .ended ∧
        out = [.handled i ((Stage.fallback code keys args).request engine.sha1)
          [⟨utf8 code, keys, args⟩], .returned i result] := by
  have hhandle : engine.handle ((Stage.fallback code keys args).request engine.sha1) s.server =
      engine.execute ⟨utf8 code, keys, args⟩ (s.server.load (utf8 code)) :=
    handle_evalCmd
  cases h with
  | @returned result answered =>
      refine ⟨?_, result, rfl, ?_⟩
      · simp only [State.set_server, hhandle]
        exact mem_cache_load s.server (utf8 code)
      · rw [hhandle]
        rfl
  | missing lookup => cases lookup

end Script

/-! ## When the body is sent -/

theorem unambiguous_of_subset {code : Bytes} {s t : ServerState σ} (hsub : s.cache ⊆ t.cache)
    (hsha : engine.Unambiguous code t) : engine.Unambiguous code s := by
  intro other hother
  exact hsha other (hsub hother)

/-- While the script is cached, no task comes to its fallback anew, and only a
task at its fallback sends the body. -/
theorem step_cached {code : String} (hquiet : Quiet engine code) {s t : System σ τ}
    {event : Input τ} {out : List (Output τ)} (hallowed : Allowed engine R decode event)
    (hstaged : Staged engine R decode s) (hsha : engine.Unambiguous (utf8 code) s.server)
    (hmem : utf8 code ∈ s.server.cache) (h : step engine.handle s event = some (t, out))
    (i : Nat) (keys args : List Bytes) :
    (t.tasks i = .pending ((Stage.fallback code keys args).dialogue engine.sha1 R decode) →
      s.tasks i = .pending ((Stage.fallback code keys args).dialogue engine.sha1 R decode)) ∧
    (∀ effects, .handled i ((Stage.fallback code keys args).request engine.sha1) effects ∈ out →
      s.tasks i = .pending ((Stage.fallback code keys args).dialogue engine.sha1 R decode)) := by
  have hset {u : System σ τ} {j : Nat} {task : Task Cmd (RedisResult Value) (Outcome τ)}
      (htasks : u.tasks = Function.update s.tasks j task)
      (hnot : task ≠ .pending ((Stage.fallback code keys args).dialogue engine.sha1 R decode))
      (hu : u.tasks i = .pending ((Stage.fallback code keys args).dialogue engine.sha1 R decode)) :
      s.tasks i = .pending ((Stage.fallback code keys args).dialogue engine.sha1 R decode) := by
    rw [htasks] at hu
    by_cases hij : i = j
    · rw [hij, Function.update_self] at hu
      exact absurd hu hnot
    · rw [Function.update_of_ne hij] at hu
      exact hu
  cases event with
  | start j dialogue =>
      obtain ⟨-, rfl, rfl⟩ := step_start_cases h
      refine ⟨hset rfl ?_, by simp⟩
      obtain ⟨op, rfl⟩ := hallowed
      intro hsame
      rw [op.dialogue_eq] at hsame
      have hstage := eq_fallback_of_dialogue (Task.pending.inj hsame)
      cases op <;> cases hstage
  | other request =>
      obtain ⟨rfl, rfl⟩ := step_other_cases h
      exact ⟨id, by simp⟩
  | cancel j =>
      obtain ⟨-, rfl, rfl⟩ := step_cancel_cases h
      exact ⟨hset rfl (by simp), by simp⟩
  | handle j =>
      obtain ⟨stage, hpending, hhandling⟩ := handling_of_step hstaged h
      have hsent (effects : List Execution)
          (hmem : .handled i ((Stage.fallback code keys args).request engine.sha1) effects ∈ out) :
          s.tasks i = .pending ((Stage.fallback code keys args).dialogue engine.sha1 R decode) := by
        have hsame : i = j ∧ (Stage.fallback code keys args).request engine.sha1 =
            stage.request engine.sha1 := by
          cases hhandling with
          | returned | missing =>
              simp only [List.mem_cons, List.not_mem_nil, or_false, reduceCtorEq,
                Observation.handled.injEq] at hmem
              exact ⟨hmem.1, hmem.2.1⟩
        rw [hsame.1, hpending, eq_fallback_of_request hsame.2.symm]
      refine ⟨?_, hsent⟩
      cases hhandling with
      | returned => exact hset rfl (by simp)
      | @missing code' keys' args' err lookup reply kind =>
          subst lookup
          apply hset rfl
          intro hsame
          have hstage := eq_fallback_of_dialogue (Task.pending.inj hsame)
          cases hstage
          have hreturns := (Handling.missing rfl reply kind :
            Handling engine R decode s j _ _ _).lookup_cached hquiet hsha hmem
          obtain ⟨result, -, hout⟩ := hreturns
          have hlength := congrArg List.length hout
          simp at hlength

theorem run_cached {code : String} (hquiet : Quiet engine code) {s t : System σ τ}
    {events : List (Input τ)} {outs : List (Output τ)}
    (hallowed : ∀ event ∈ events, Allowed engine R decode event)
    (hstaged : Staged engine R decode s) (hsha : engine.Unambiguous (utf8 code) t.server)
    (hmem : utf8 code ∈ s.server.cache)
    (hrun : Machine.run (step engine.handle) s events = some (t, outs))
    (i : Nat) (keys args : List Bytes) (effects : List Execution)
    (hsent : .handled i ((Stage.fallback code keys args).request engine.sha1) effects ∈ outs) :
    s.tasks i = .pending ((Stage.fallback code keys args).dialogue engine.sha1 R decode) := by
  induction events generalizing s outs with
  | nil =>
      cases hrun
      cases hsent
  | cons event rest ih =>
      have hsub := (run_staged hallowed hstaged hrun).2
      obtain ⟨mid, out, later, hstep, hrest, rfl⟩ := Machine.run_cons_eq_some.mp hrun
      rw [List.forall_mem_cons] at hallowed
      obtain ⟨hmid, hgrows⟩ := step_staged hallowed.1 hstaged hstep
      have hcached := step_cached hquiet hallowed.1 hstaged (unambiguous_of_subset hsub hsha) hmem
        hstep i keys args
      rcases List.mem_append.mp hsent with hnow | hlater
      · exact hcached.2 effects hnow
      · exact hcached.1 (ih hallowed.2 hmid (hgrows hmem) hrest hlater)

/-- The requests that file a script in the cache: its `EVAL` and its `SCRIPT LOAD`. -/
def FiledBy (sha1 : Bytes → String) (code : String) (outs : List (Output τ)) : Prop :=
  ∃ i request effects, .handled i request effects ∈ outs ∧
    (request = (Stage.load code).request sha1 ∨
      ∃ keys args, request = (Stage.fallback code keys args).request sha1)

theorem mem_cache_of_request {code : String} {request : Cmd} (s : ServerState σ)
    (h : request = (Stage.load code).request engine.sha1 ∨
      ∃ keys args, request = (Stage.fallback code keys args).request engine.sha1) :
    utf8 code ∈ (engine.handle request s).state.cache := by
  rcases h with rfl | ⟨keys, args, rfl⟩
  · rw [Stage.request, handle_loadCmd]
    exact mem_cache_load s (utf8 code)
  · rw [Stage.request, handle_evalCmd]
    exact mem_cache_load s (utf8 code)

/-- A script that was filed by any task is in the cache. -/
theorem mem_cache_of_filed {code : String} {s t : System σ τ} {events : List (Input τ)}
    {outs : List (Output τ)} (hallowed : ∀ event ∈ events, Allowed engine R decode event)
    (hstaged : Staged engine R decode s)
    (hrun : Machine.run (step engine.handle) s events = some (t, outs))
    (hfiled : FiledBy engine.sha1 code outs) : utf8 code ∈ t.server.cache := by
  induction events generalizing s outs with
  | nil =>
      cases hrun
      obtain ⟨i, request, effects, hmem, -⟩ := hfiled
      cases hmem
  | cons event rest ih =>
      obtain ⟨mid, out, later, hstep, hrest, rfl⟩ := Machine.run_cons_eq_some.mp hrun
      rw [List.forall_mem_cons] at hallowed
      obtain ⟨hmid, -⟩ := step_staged hallowed.1 hstaged hstep
      obtain ⟨i, request, effects, hmem, hrequest⟩ := hfiled
      rcases List.mem_append.mp hmem with hnow | hlater
      · apply (run_staged hallowed.2 hmid hrest).2
        cases event with
        | start j dialogue =>
            obtain ⟨-, -, rfl⟩ := step_start_cases hstep
            cases hnow
        | other request =>
            obtain ⟨-, rfl⟩ := step_other_cases hstep
            cases hnow
        | cancel j =>
            obtain ⟨-, -, rfl⟩ := step_cancel_cases hstep
            cases hnow
        | handle j =>
            obtain ⟨stage, -, hhandling⟩ := handling_of_step hstaged hstep
            cases hhandling with
            | returned | missing =>
                simp only [List.mem_cons, List.not_mem_nil, or_false, reduceCtorEq,
                  Observation.handled.injEq] at hnow
                rw [hnow.2.1] at hrequest
                exact mem_cache_of_request s.server hrequest
      · exact ih hallowed.2 hmid hrest ⟨i, request, effects, hlater, hrequest⟩

/-! ## How often a script runs -/

variable (engine R decode)

/-- What the history says about one task. If it invokes the script, it has run
nothing while it waits, and has run the script once when it has returned. -/
structure Follows (code : String) (events : List (Input τ)) (outs : List (Output τ)) (i : Nat)
    (task : Task Cmd (RedisResult Value) (Outcome τ)) : Prop where
  idle : task = .idle → (∀ dialogue, .start i dialogue ∉ events) ∧ ∀ o ∈ outs, o.task ≠ i
  waiting : ∀ keys args dialogue,
    .start i ((Stage.lookup code keys args).dialogue engine.sha1 R decode) ∈ events →
    task = .pending dialogue →
      (dialogue = (Stage.lookup code keys args).dialogue engine.sha1 R decode ∨
        dialogue = (Stage.fallback code keys args).dialogue engine.sha1 R decode) ∧
      effectsOf i outs = [] ∧ ∀ result, .returned i result ∉ outs
  ended : ∀ keys args result,
    .start i ((Stage.lookup code keys args).dialogue engine.sha1 R decode) ∈ events →
    task = .ended → .returned i result ∈ outs → effectsOf i outs = [⟨utf8 code, keys, args⟩]

variable {engine R decode}

/-- A task is not concerned by what others do. -/
theorem Follows.frame {code : String} {events : List (Input τ)} {outs out : List (Output τ)}
    {i : Nat} {task : Task Cmd (RedisResult Value) (Outcome τ)} {event : Input τ}
    (h : Follows engine R decode code events outs i task)
    (hevent : ∀ dialogue, event ≠ .start i dialogue) (hout : ∀ o ∈ out, o.task ≠ i) :
    Follows engine R decode code (events ++ [event]) (outs ++ out) i task := by
  have hstart (dialogue) : .start i dialogue ∈ events ++ [event] → .start i dialogue ∈ events := by
    intro hmem
    rcases List.mem_append.mp hmem with hold | hnew
    · exact hold
    · exact absurd (List.mem_singleton.mp hnew).symm (hevent dialogue)
  have hreturned (result) : .returned i result ∈ outs ++ out → .returned i result ∈ outs := by
    intro hmem
    rcases List.mem_append.mp hmem with hold | hnew
    · exact hold
    · exact absurd rfl (hout _ hnew)
  have heffects : effectsOf i (outs ++ out) = effectsOf i outs := by
    rw [effectsOf_append, effectsOf_of_ne hout, List.append_nil]
  constructor
  · intro hidle
    obtain ⟨hnone, hquiet⟩ := h.idle hidle
    refine ⟨fun dialogue hmem => hnone dialogue (hstart dialogue hmem), ?_⟩
    rw [List.forall_mem_append]
    exact ⟨hquiet, hout⟩
  · intro keys args dialogue hmem htask
    obtain ⟨hstage, hnone, hno⟩ := h.waiting keys args dialogue (hstart _ hmem) htask
    rw [heffects]
    exact ⟨hstage, hnone, fun result hret => hno result (hreturned result hret)⟩
  · intro keys args result hmem htask hret
    rw [heffects]
    exact h.ended keys args result (hstart _ hmem) htask (hreturned result hret)

/-- A task that invokes the script and whose request is handled has run it once
if it returns, and nothing if it goes on. -/
theorem Follows.handled {code : String} (hquiet : Quiet engine code) {events : List (Input τ)}
    {outs out : List (Output τ)} {s t : System σ τ} {i : Nat}
    (hsha : engine.Unambiguous (utf8 code) s.server)
    (h : Follows engine R decode code events outs i (s.tasks i))
    (hstaged : Staged engine R decode s) (hstep : step engine.handle s (.handle i) = some (t, out)) :
    Follows engine R decode code (events ++ [.handle i]) (outs ++ out) i (t.tasks i) := by
  have hstart (dialogue) :
      .start i dialogue ∈ events ++ [.handle i] → .start i dialogue ∈ events := by
    intro hmem
    simpa using hmem
  obtain ⟨request, next, hsend, -⟩ := step_handle_cases hstep
  -- the three ways in which the request of an invocation of the script can be handled
  have hcases {keys args : List Bytes}
      (hmem : .start i ((Stage.lookup code keys args).dialogue engine.sha1 R decode) ∈ events) :
      (t.tasks i = .ended ∧ ∃ request result, out =
        [.handled i request [⟨utf8 code, keys, args⟩], .returned i result]) ∨
      (t.tasks i = .pending ((Stage.fallback code keys args).dialogue engine.sha1 R decode) ∧
        ∃ request, out = [.handled i request []]) := by
    obtain ⟨hstage | hstage, -, -⟩ := h.waiting keys args _ hmem hsend
    · rw [hstage] at hsend
      have hhandling := handling_of_pending hsend hstep
      by_cases hcached : utf8 code ∈ s.server.cache
      · obtain ⟨result, htasks, hout⟩ := hhandling.lookup_cached hquiet hsha hcached
        refine Or.inl ⟨?_, _, result, hout⟩
        rw [htasks, Function.update_self]
      · obtain ⟨htasks, hout⟩ := hhandling.lookup_missing hsha hcached
        refine Or.inr ⟨?_, _, hout⟩
        rw [htasks, Function.update_self]
    · rw [hstage] at hsend
      obtain ⟨-, result, htasks, hout⟩ := (handling_of_pending hsend hstep).fallback
      refine Or.inl ⟨?_, _, result, hout⟩
      rw [htasks, Function.update_self]
  constructor
  · intro hidle
    obtain ⟨stage, -, hhandling⟩ := handling_of_step hstaged hstep
    cases hhandling with
    | returned | missing =>
        rw [State.set_tasks_self] at hidle
        cases hidle
  · intro keys args dialogue hmem htask
    obtain ⟨-, hnone, hno⟩ := h.waiting keys args _ (hstart _ hmem) hsend
    rcases hcases (hstart _ hmem) with ⟨hover, -⟩ | ⟨hpending, request', rfl⟩
    · rw [hover] at htask
      cases htask
    · rw [hpending] at htask
      refine ⟨Or.inr (Task.pending.inj htask).symm, ?_, ?_⟩
      · rw [effectsOf_append, hnone]
        simp [effectsOf, Observation.effectsOf]
      · intro result hret
        rcases List.mem_append.mp hret with hold | hnew
        · exact hno result hold
        · cases List.mem_singleton.mp hnew
  · intro keys args result hmem htask _
    obtain ⟨-, hnone, -⟩ := h.waiting keys args _ (hstart _ hmem) hsend
    rcases hcases (hstart _ hmem) with ⟨-, request', result', rfl⟩ | ⟨hpending, -⟩
    · rw [effectsOf_append, hnone]
      simp [effectsOf, Observation.effectsOf]
    · rw [hpending] at htask
      cases htask

theorem step_follows {code : String} (hquiet : Quiet engine code) {events : List (Input τ)}
    {outs out : List (Output τ)} {s t : System σ τ} {event : Input τ}
    (hsha : engine.Unambiguous (utf8 code) s.server) (hstaged : Staged engine R decode s)
    (h : ∀ i, Follows engine R decode code events outs i (s.tasks i))
    (hstep : step engine.handle s event = some (t, out)) (i : Nat) :
    Follows engine R decode code (events ++ [event]) (outs ++ out) i (t.tasks i) := by
  cases event with
  | start j dialogue =>
      obtain ⟨hidle, rfl, rfl⟩ := step_start_cases hstep
      by_cases hij : i = j
      · subst hij
        obtain ⟨hnone, hsilent⟩ := (h i).idle hidle
        rw [State.set_tasks_self, List.append_nil]
        constructor
        · intro hsame
          cases hsame
        · intro keys args dialogue' hmem hsame
          cases hsame
          refine ⟨Or.inl ?_, effectsOf_of_ne hsilent, fun result hret => hsilent _ hret rfl⟩
          rcases List.mem_append.mp hmem with hold | hnew
          · exact absurd hold (hnone _)
          · exact (Event.start.inj (List.mem_singleton.mp hnew)).2.symm
        · intro keys args result hmem hsame
          cases hsame
      · rw [State.set_tasks_of_ne s _ hij]
        refine (h i).frame ?_ (by simp)
        intro dialogue' hsame
        exact hij (Event.start.inj hsame).1.symm
  | handle j =>
      by_cases hij : i = j
      · subst hij
        exact (h i).handled hquiet hsha hstaged hstep
      · obtain ⟨request, next, -, hadvance⟩ := step_handle_cases hstep
        have htask := advance_task engine.handle s j request next
        rw [hadvance] at htask
        have hkeep : t.tasks i = s.tasks i := by
          obtain ⟨stage, -, hhandling⟩ := handling_of_step hstaged hstep
          cases hhandling with
          | returned | missing => exact State.set_tasks_of_ne _ _ hij
        rw [hkeep]
        refine (h i).frame (by simp) ?_
        intro o ho
        rw [htask o ho]
        exact Ne.symm hij
  | other request =>
      obtain ⟨rfl, rfl⟩ := step_other_cases hstep
      exact (h i).frame (by simp) (by simp)
  | cancel j =>
      obtain ⟨⟨dialogue, hpending⟩, rfl, rfl⟩ := step_cancel_cases hstep
      by_cases hij : i = j
      · subst hij
        rw [State.set_tasks_self]
        have hframe : Follows engine R decode code (events ++ [.cancel i]) (outs ++ []) i
            (s.tasks i) := (h i).frame (by simp) (by simp)
        constructor
        · intro hsame
          cases hsame
        · intro keys args dialogue' hmem hsame
          cases hsame
        · intro keys args result hmem _ hret
          obtain ⟨-, -, hno⟩ := hframe.waiting keys args dialogue hmem hpending
          exact absurd hret (hno result)
      · rw [State.set_tasks_of_ne s _ hij]
        exact (h i).frame (by simp) (by simp)

theorem staged_init (server : ServerState σ) :
    Staged engine R decode (State.init server : System σ τ) := by
  intro i dialogue hi
  cases hi

theorem run_follows {code : String} (hquiet : Quiet engine code) {server : ServerState σ}
    {s : System σ τ} {events : List (Input τ)} {outs : List (Output τ)}
    (hallowed : ∀ event ∈ events, Allowed engine R decode event)
    (hsha : engine.Unambiguous (utf8 code) s.server)
    (hrun : Machine.run (step engine.handle) (State.init server) events = some (s, outs)) :
    ∀ i, Follows engine R decode code events outs i (s.tasks i) := by
  have hkept := Machine.run_invariant
    (fun events outs (s : System σ τ) => (∀ event ∈ events, Allowed engine R decode event) →
      Staged engine R decode s ∧ (engine.Unambiguous (utf8 code) s.server →
        ∀ i, Follows engine R decode code events outs i (s.tasks i))) ?_ ?_ events s outs hrun
  · exact (hkept hallowed).2 hsha
  · intro _
    refine ⟨staged_init server, ?_⟩
    intro _ i
    constructor
    · intro _
      refine ⟨?_, ?_⟩
      · intro _ hmem
        cases hmem
      · intro _ hmem
        cases hmem
    · intro _ _ _ hmem
      cases hmem
    · intro _ _ _ hmem
      cases hmem
  · intro events outs s event t out ih hstep hallowed
    rw [List.forall_mem_append, List.forall_mem_singleton] at hallowed
    obtain ⟨hstaged, hfollows⟩ := ih hallowed.1
    obtain ⟨hstaged', hsub⟩ := step_staged hallowed.2 hstaged hstep
    refine ⟨hstaged', ?_⟩
    intro hsha'
    have hsha := unambiguous_of_subset hsub hsha'
    exact step_follows hquiet hsha hstaged (hfollows hsha) hstep

/-- Any number of tasks invoke and load scripts on one server, on asynchronous
and blocking clients, among requests of others that never flush the cache. Take
a script whose digest no other cached script has, and that does not itself
answer with the error of a missing script. Once any task has sent its body, by
`EVAL` or by `SCRIPT LOAD`, it is cached; from any point at which it is cached,
the body is sent again only by tasks that were already told it was missing; and
every invocation of it that returns has run it exactly once, with its own keys
and arguments. -/
theorem script_body_sent_only_while_missing {code : String} (hquiet : Quiet engine code)
    {server : ServerState σ} {s : System σ τ} {events : List (Input τ)} {outs : List (Output τ)}
    (hallowed : ∀ event ∈ events, Allowed engine R decode event)
    (hsha : engine.Unambiguous (utf8 code) s.server)
    (hrun : Machine.run (step engine.handle) (State.init server) events = some (s, outs)) :
    (∀ before later, events = before ++ later → ∃ mid first rest,
      Machine.run (step engine.handle) (State.init server) before = some (mid, first) ∧
      outs = first ++ rest ∧
      (FiledBy engine.sha1 code first → utf8 code ∈ mid.server.cache) ∧
      (utf8 code ∈ mid.server.cache → ∀ i keys args effects,
        .handled i (invocation engine.sha1 code keys args).evalCmd effects ∈ rest →
          mid.tasks i = .pending
            ((Stage.fallback code keys args).dialogue engine.sha1 R decode))) ∧
    (∀ i blocking keys args result,
      .start i ((Operation.invoke blocking code keys args).dialogue engine.sha1 R decode) ∈ events →
      .returned i result ∈ outs → effectsOf i outs = [⟨utf8 code, keys, args⟩]) := by
  have hinit : Staged engine R decode (State.init server : System σ τ) := staged_init server
  constructor
  · rintro before later rfl
    obtain ⟨mid, first, rest, hbefore, hlater, houts⟩ := Machine.run_append_eq_some.mp hrun
    rw [List.forall_mem_append] at hallowed
    have hmid := (run_staged hallowed.1 hinit hbefore).1
    refine ⟨mid, first, rest, hbefore, houts, ?_, ?_⟩
    · intro hfiled
      exact mem_cache_of_filed hallowed.1 hinit hbefore hfiled
    · intro hmem i keys args effects hsent
      exact run_cached hquiet hallowed.2 hmid hsha hmem hlater i keys args effects hsent
  · intro i blocking keys args result hstart hreturned
    have hfollows := run_follows hquiet hallowed hsha hrun i
    rw [Operation.dialogue_eq] at hstart
    cases htask : s.tasks i with
    | idle => exact absurd rfl ((hfollows.idle htask).2 _ hreturned)
    | pending dialogue =>
        exact absurd hreturned ((hfollows.waiting keys args dialogue hstart htask).2.2 result)
    | ended => exact hfollows.ended keys args result hstart htask hreturned

end Run

/-! ## Two invocations that cross, and a third -/

def invokeReturnOne : Operation := .invoke false "return 1" [utf8 "k"] []

/-- Two tasks look the script up before either sends its body; a third comes later. -/
def crossing : List (Input Value) :=
  let dialogue := invokeReturnOne.dialogue returnOne.sha1 .stringsOnly Except.ok
  [.start 0 dialogue, .start 1 dialogue, .handle 0, .handle 1, .handle 0, .handle 1,
    .start 2 dialogue, .handle 2]

/-- What a run of the script is observed as. -/
def ranReturnOne (i : Nat) (request : Cmd) : List (Output Value) :=
  [.handled i request [⟨utf8 "return 1", [utf8 "k"], []⟩], .returned i (.invoked (.ok (.int 1)))]

theorem run_crossing : ∃ s : System Nat Value,
    Machine.run (step returnOne.handle) (State.init ⟨[], 0⟩) crossing =
      some (s, [.handled 0 ((invocation returnOne.sha1 "return 1" [utf8 "k"] []).evalshaCmd) [],
          .handled 1 ((invocation returnOne.sha1 "return 1" [utf8 "k"] []).evalshaCmd) []] ++
        ranReturnOne 0 (invocation returnOne.sha1 "return 1" [utf8 "k"] []).evalCmd ++
        ranReturnOne 1 (invocation returnOne.sha1 "return 1" [utf8 "k"] []).evalCmd ++
        ranReturnOne 2 (invocation returnOne.sha1 "return 1" [utf8 "k"] []).evalshaCmd) :=
  ⟨_, rfl⟩

/-- Both crossing tasks send the body, and each of the three has run it once. -/
theorem script_body_sent_only_while_missing_crossing :
    ∃ (s : System Nat Value) (outs : List (Output Value)),
      Machine.run (step returnOne.handle) (State.init ⟨[], 0⟩) crossing = some (s, outs) ∧
      .handled 1 (invocation returnOne.sha1 "return 1" [utf8 "k"] []).evalCmd
        [⟨utf8 "return 1", [utf8 "k"], []⟩] ∈ outs ∧
      effectsOf 2 outs = [⟨utf8 "return 1", [utf8 "k"], []⟩] := by
  obtain ⟨s, hrun⟩ := run_crossing
  have hquiet : Quiet returnOne "return 1" := by
    intro keys args data err herr
    cases herr
  have hsha : returnOne.Unambiguous (utf8 "return 1") s.server := by
    intro other _ hsame
    simp only [returnOne, countingEngine, if_true] at hsame
    split at hsame
    · assumption
    · exact absurd hsame (by decide)
  have hallowed : ∀ event ∈ crossing, Allowed returnOne .stringsOnly Except.ok event := by
    simp only [crossing, List.forall_mem_cons, Allowed, true_and]
    exact ⟨⟨_, rfl⟩, ⟨_, rfl⟩, ⟨_, rfl⟩, by simp⟩
  have hbody := script_body_sent_only_while_missing hquiet hallowed hsha hrun
  refine ⟨s, _, hrun, by simp [ranReturnOne], ?_⟩
  refine hbody.2 2 false [utf8 "k"] [] (.invoked (.ok (.int 1))) ?_ (by simp [ranReturnOne])
  exact List.mem_of_getElem? (i := 6) rfl

end GlideRust.ScriptCache
