import GlideRust.Commands.StreamAdmin

/-!
# One language of command lines

A server reads the lines of all methods on one connection and tells them apart
by their first token. The families of commands have no name in common, so a line
that is sent by a call of one family is never read as a request of another.
-/

namespace GlideRust.Commands.CommandLanguage

open Redis
open StreamGrammar (SingleToken)
open Lib.TokenGrammar

/-- What a server is asked, by family. -/
inductive Request where
  | stream (request : StreamGrammar.Request)
  | admin (request : StreamAdmin.Request)
  | clause (request : ClauseGrammar.Request)
  | counted (request : CountedGrammar.Request)

/-- The calls of all families. -/
inductive Call (D K A F V : Type) where
  | stream (call : StreamGrammar.Call K F V)
  | admin (call : StreamAdmin.Call K)
  | clause (call : ClauseGrammar.Call K)
  | counted (call : CountedGrammar.Call D K A F V)

/-! ## The reader -/

def streamNames : List Bytes := ["XADD", "XREAD", "XREADGROUP", "XCLAIM"].map utf8

def adminNames : List Bytes := StreamAdmin.commands.map Command.name

def clauseNames : List Bytes :=
  ["SORT", "SORT_RO", "COPY", "RESTORE", "MIGRATE", "GEOSEARCH", "GEOSEARCHSTORE",
    "FAILOVER"].map utf8

def countedNames : List Bytes := CountedGrammar.commands.map Command.name

/-- The names of a family, each with the reader of the family. -/
def family {ρ : Type} (names : List Bytes) (read : List Bytes → Option ρ) (wrap : ρ → Request) :
    List (Command Bytes Request) :=
  names.map fun name => ⟨name, fun rest => (read (name :: rest)).map wrap⟩

def commands : List (Command Bytes Request) :=
  family streamNames StreamGrammar.parse .stream ++
    family adminNames StreamAdmin.parse .admin ++
    family clauseNames ClauseGrammar.parse .clause ++
    family countedNames CountedGrammar.parse .counted

/-- Read a line of any family. -/
def parse (tokens : List Bytes) : Option Request := readCommand commands tokens

theorem commands_distinct : (commands.map Command.name).Nodup := by decide

/-- A line that a family reads is read so by the whole language. -/
theorem parse_family {ρ : Type} {names : List Bytes} {read : List Bytes → Option ρ}
    {wrap : ρ → Request} (hsubset : family names read wrap ⊆ commands) {tokens : List Bytes}
    {request : ρ} (hname : ∃ name ∈ names, tokens.head? = some name)
    (hread : read tokens = some request) : parse tokens = some (wrap request) := by
  obtain ⟨name, hmem, hhead⟩ := hname
  cases tokens with
  | nil => cases hhead
  | cons t rest =>
      obtain rfl : t = name := Option.some.inj hhead
      have hcommand : ⟨t, fun rest => (read (t :: rest)).map wrap⟩ ∈ commands :=
        hsubset (List.mem_map_of_mem hmem)
      refine (readCommand_cons commands_distinct hcommand rest).trans ?_
      change (read (t :: rest)).map wrap = _
      rw [hread, Option.map_some]

/-! ## Names -/

theorem clause_head (request : ClauseGrammar.Request) :
    ∃ name ∈ clauseNames, request.encode.head? = some name := by
  cases request <;> exact ⟨_, by decide, rfl⟩

theorem counted_head (request : CountedGrammar.Request) :
    ∃ name ∈ countedNames, request.encode.head? = some name := by
  cases request with
  | script name _ _ _ => cases name <;> exact ⟨_, by decide, rfl⟩
  | combine op _ _ _ => cases op <;> exact ⟨_, by decide, rfl⟩
  | combineStore op _ _ _ => cases op <;> exact ⟨_, by decide, rfl⟩
  | expire op _ _ _ _ => cases op <;> exact ⟨_, by decide, rfl⟩
  | inspect op _ _ => cases op <;> exact ⟨_, by decide, rfl⟩
  | _ => exact ⟨_, by decide, rfl⟩

theorem admin_head (request : StreamAdmin.Request) :
    ∃ name ∈ adminNames, request.encode.head? = some name := by
  cases request with
  | trim _ threshold _ => cases threshold <;> exact ⟨_, by decide, rfl⟩
  | _ => exact ⟨_, by decide, rfl⟩

theorem stream_head {K F V : Type} [ToRedisArgs K] [ToRedisArgs F] [ToRedisArgs V]
    (call : StreamGrammar.Call K F V) (h : call.Admissible) :
    ∃ name ∈ streamNames, call.command.args.head? = some name := by
  cases call with
  | xadd key id fields =>
      refine ⟨utf8 "XADD", by decide, ?_⟩
      rw [StreamGrammar.Call.command, StreamCommands.xadd_eq_xaddOptions,
        StreamGrammar.args_xaddOptions h.1 id h.2.1, List.head?_cons]
  | xaddOptions key id fields options =>
      refine ⟨utf8 "XADD", by decide, ?_⟩
      rw [StreamGrammar.Call.command, StreamGrammar.args_xaddOptions h.1 id h.2.1,
        List.head?_cons]
  | xread keysIds options =>
      refine ⟨utf8 "XREAD", by decide, ?_⟩
      rw [StreamGrammar.Call.command, StreamCommands.xread, StreamGrammar.args_streams h,
        Options.args_addOption StreamCommands.StreamReadOptions.args_addTo]
      rfl
  | xreadgroup group consumer keysIds options =>
      refine ⟨utf8 "XREADGROUP", by decide, ?_⟩
      rw [StreamGrammar.Call.command, StreamCommands.xreadgroup, StreamGrammar.args_streams h,
        Options.args_addOption StreamCommands.StreamReadGroupOptions.args_addTo]
      rfl
  | xclaim key group consumer minIdleTimeMs ids options =>
      refine ⟨utf8 "XCLAIM", by decide, ?_⟩
      rw [StreamGrammar.Call.command, StreamGrammar.args_xclaim h.1, List.head?_cons]
  | xclaimJustid key group consumer minIdleTimeMs ids options =>
      refine ⟨utf8 "XCLAIM", by decide, ?_⟩
      change ((StreamCommands.xclaim key group consumer minIdleTimeMs ids options).args ++
        [utf8 "JUSTID"]).head? = _
      rw [StreamGrammar.args_xclaim h.1, List.cons_append, List.head?_cons]

/-! ## The language -/

section Calls

variable {D K A F V : Type} [ToRedisArgs D] [ToRedisArgs K] [ToRedisArgs A] [ToRedisArgs F]
  [ToRedisArgs V] [ToRedisArgs F64]

namespace Call

def command : Call D K A F V → Cmd
  | stream call => call.command
  | admin call => call.command
  | clause call => call.command
  | counted call => call.command

def Admissible : Call D K A F V → Prop
  | stream call => call.Admissible
  | admin call => call.Admissible
  | clause call => call.Admissible
  | counted call => call.Admissible

def request : Call D K A F V → Request
  | stream call => .stream call.request
  | admin call => .admin call.request
  | clause call => .clause call.request
  | counted call => .counted call.request

end Call

theorem parse_command (hfloat : ∀ x : F64, SingleToken x) (call : Call D K A F V)
    (h : call.Admissible) : parse call.command.args = some call.request := by
  cases call with
  | stream call =>
      have hsubset : family streamNames StreamGrammar.parse .stream ⊆ commands := by
        intro c hc
        simp [commands, hc]
      exact parse_family hsubset (stream_head call h) (StreamGrammar.parse_command call h)
  | admin call =>
      have hargs := StreamAdmin.args_command call h
      have hsubset : family adminNames StreamAdmin.parse .admin ⊆ commands := by
        intro c hc
        simp [commands, hc]
      refine parse_family hsubset ?_ ?_
      · rw [Call.command, hargs]
        exact admin_head call.request
      · rw [Call.command, hargs, StreamAdmin.parse_encode]
  | clause call =>
      have hargs := ClauseGrammar.args_command hfloat call h
      have hsubset : family clauseNames ClauseGrammar.parse .clause ⊆ commands := by
        intro c hc
        simp [commands, hc]
      refine parse_family hsubset ?_ ?_
      · rw [Call.command, hargs]
        exact clause_head call.request
      · rw [Call.command, hargs, ClauseGrammar.parse_encode]
  | counted call =>
      have hargs := CountedGrammar.args_command call h
      have hsubset : family countedNames CountedGrammar.parse .counted ⊆ commands := by
        intro c hc
        simp [commands, hc]
      refine parse_family hsubset ?_ ?_
      · rw [Call.command, hargs]
        exact counted_head call.request
      · rw [Call.command, hargs, CountedGrammar.parse_encode]

/-- A server that sees only the line of a call knows which request it is, among
all requests of all families: no two calls of any two methods that ask for
different things send the same line. Within stream administration, keys, groups,
consumers and ids may have any name, and the same request is always the same line. -/
theorem command_language_unambiguous (hfloat : ∀ x : F64, SingleToken x) :
    (∀ call : Call D K A F V, call.Admissible → parse call.command.args = some call.request) ∧
    (∀ call other : Call D K A F V, call.Admissible → other.Admissible →
      call.request ≠ other.request → call.command.args ≠ other.command.args) ∧
    ∀ call other : StreamAdmin.Call K, call.Admissible → other.Admissible →
      (call.command.args = other.command.args ↔ call.request = other.request) := by
  have hunique (call other : Call D K A F V) (hcall : call.Admissible) (hother : other.Admissible)
      (hsame : call.command.args = other.command.args) : call.request = other.request :=
    eq_of_read (parse_command hfloat call hcall) (parse_command hfloat other hother) hsame
  refine ⟨parse_command hfloat, ?_, ?_⟩
  · intro call other hcall hother hne hsame
    exact hne (hunique call other hcall hother hsame)
  · intro call other hcall hother
    constructor
    · intro hsame
      have hrequest := hunique (.admin call) (.admin other) hcall hother hsame
      exact Request.admin.inj hrequest
    · intro hsame
      rw [StreamAdmin.args_command call hcall, StreamAdmin.args_command other hother, hsame]

end Calls

/-- A range that starts at `IDLE`, and the two forms of `XTRIM` at an id `~`. -/
theorem command_language_unambiguous_idle :
    let _ : ToRedisArgs F64 := ⟨fun _ => [utf8 "0.0"]⟩
    parse (StreamAdmin.xpendingRange "s" "g" "IDLE" "5" 10 none (some "c")).args =
      some (.admin (.pendingRange (utf8 "s") (utf8 "g") none (utf8 "IDLE") (utf8 "5") 10
        (some (utf8 "c")))) ∧
    (StreamAdmin.xtrimMinid "s" "~" true).args ≠ (StreamAdmin.xtrimMinid "s" "~" false).args := by
  let _ : ToRedisArgs F64 := ⟨fun _ => [utf8 "0.0"]⟩
  obtain ⟨hparse, -, hadmin⟩ := command_language_unambiguous (D := String) (K := String)
    (A := String) (F := String) (V := String) fun _ => rfl
  constructor
  · exact hparse (.admin (.xpendingRange "s" "g" "IDLE" "5" 10 none (some "c"))) rfl
  · intro hsame
    have hrequest := (hadmin (.xtrimMinid "s" "~" true) (.xtrimMinid "s" "~" false) rfl rfl).mp
      hsame
    cases hrequest

end GlideRust.Commands.CommandLanguage
