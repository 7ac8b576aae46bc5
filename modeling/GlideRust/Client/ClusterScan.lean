import GlideRust.Commands.Options
import GlideRust.ValueConversion
import GlideRust.Lib.Fallible
import GlideRust.Lib.Machine
import Mathlib.Data.List.Nodup
import Mathlib.Logic.Function.Basic

/-!
# Cluster scans and their states

`glide-core` keeps the states of unfinished cluster scans in one container of the
process, under ids that the client hands out as cursors. The machine below moves
one party at a time: a cursor is made, cloned or dropped, a scan call looks its
state up and is sent, the core answers a call, or a call is dropped while it
waits.

## Implementation notes

What is missing here of `glide-core` is what the client sees of it: a reply that
does not end the scan stores the new state under a fresh id and returns the id,
and a lookup only looks. A call borrows its cursor, which therefore outlives it;
the machine does not insist on that.
-/

namespace GlideRust.Client.ClusterScan

open Redis Error ValueConversion Lib
open Commands.Options (ObjectType)

/-- `ClusterScanCursor`. -/
structure ClusterScanCursor where
  id : String
  deriving DecidableEq, Repr

namespace ClusterScanCursor

/-- `ClusterScanCursor::FINISHED`. -/
def finished : String := "finished"

def new : ClusterScanCursor := ⟨""⟩

def fromId (id : String) : ClusterScanCursor := ⟨id⟩

def isFinished (cursor : ClusterScanCursor) : Bool := cursor.id == finished

end ClusterScanCursor

/-- `redis::ClusterScanArgs`, as `cluster_scan` builds them. -/
structure ClusterScanArgs where
  matchPattern : Option Bytes
  count : Option UInt32
  objectType : Option ObjectType
  deriving DecidableEq, Repr

/-- What `glide-core` fixes about scan states: the state of a new scan and the
error of a lookup that finds nothing. -/
structure GlideCore (σ : Type) where
  newState : σ
  missing : String → RedisError

section Wrapper

variable {σ : Type} (core : GlideCore σ) (R : RedisCrate)

/-- `get_cluster_scan_cursor`. -/
def getClusterScanCursor (container : List (String × σ)) (id : String) : RedisResult σ :=
  match container.lookup id with
  | some state => .ok state
  | none => .error (core.missing id)

/-- The state that a call starts from. -/
def scanState (container : List (String × σ)) (cursor : ClusterScanCursor) : Result σ :=
  if cursor.id = "" ∨ cursor.id = "0" then .ok core.newState
  else mapErr (getClusterScanCursor core container cursor.id)

/-- The `{:?}` text of a vector of replies. -/
def debugItems (items : List Value) : String :=
  "[" ++ String.intercalate ", " (items.map R.debug) ++ "]"

/-- The keys of a page. -/
def decodeKeys : Value → Result (List Bytes)
  | .array elems => elems.mapM (toBytes R)
  | .nil => .ok []
  | other => do
      let key ← toBytes R other
      return [key]

/-- What `cluster_scan` makes of the core's reply. -/
def decodeReply : Value → Result (ClusterScanCursor × List Bytes)
  | .array [cursorVal, keysVal] => do
      let next ← toText R cursorVal
      let keys ← decodeKeys R keysVal
      return (⟨next⟩, keys)
  | .array items =>
      .error (.request ("unexpected cluster scan reply arity: " ++ debugItems R items))
  | other => .error (.request ("unexpected cluster scan reply: " ++ R.debug other))

end Wrapper

/-! ## The machine -/

/-- A call that waits for the core. -/
structure ScanCall (σ : Type) where
  scanState : σ
  args : ClusterScanArgs

/-- Live cursors and waiting calls are named by numbers. -/
structure State (σ : Type) where
  container : List (String × σ)
  cursors : Nat → Option ClusterScanCursor
  calls : Nat → Option (ScanCall σ)

/-- A process that has not scanned yet. -/
def State.init {σ : Type} : State σ := ⟨[], fun _ => none, fun _ => none⟩

/-- How the core ends a call: with an error, with the last page, or with a page
and the state of the rest under a new id. -/
inductive CoreReply (σ : Type) where
  | failed (err : RedisError)
  | finished (keys : Value)
  | page (id : String) (state : σ) (keys : Value)

inductive Event (σ : Type) where
  | new (h : Nat)
  | fromId (h : Nat) (id : String)
  | clone (h h' : Nat)
  | drop (h : Nat)
  | start (c h : Nat) (args : ClusterScanArgs)
  | reply (c h : Nat) (reply : CoreReply σ)
  | cancel (c : Nat)

/-- The result of a call. -/
abbrev Observation := Nat × Result (ClusterScanCursor × List Bytes)

/-- An id is fresh when it is not in use and none of the reserved ones. -/
def Fresh {σ : Type} (container : List (String × σ)) (id : String) : Prop :=
  id ∉ container.map Prod.fst ∧ id ∉ ["", "0", ClusterScanCursor.finished]

instance {σ : Type} (container : List (String × σ)) (id : String) :
    Decidable (Fresh container id) :=
  inferInstanceAs (Decidable (_ ∧ _))

section Machine

variable {σ : Type}

/-- A cursor value comes to life under a name that is not in use. -/
def State.bind (s : State σ) (h : Nat) (cursor : ClusterScanCursor) : Option (State σ) :=
  match s.cursors h with
  | some _ => none
  | none => some { s with cursors := Function.update s.cursors h (some cursor) }

/-- A call ends with a result; a returned cursor becomes a live value. -/
def State.deliver (s : State σ) (c h : Nat) (result : Result (ClusterScanCursor × List Bytes)) :
    Option (State σ × List Observation) :=
  let s := { s with calls := Function.update s.calls c none }
  match result with
  | .ok (cursor, keys) => (s.bind h cursor).map fun t => (t, [(c, .ok (cursor, keys))])
  | .error err => some (s, [(c, .error err)])

variable (core : GlideCore σ) (R : RedisCrate)

def step (s : State σ) : Event σ → Option (State σ × List Observation)
  | .new h => (s.bind h .new).map (·, [])
  | .fromId h id => (s.bind h (.fromId id)).map (·, [])
  | .clone h h' =>
      match s.cursors h with
      | some cursor => (s.bind h' cursor).map (·, [])
      | none => none
  | .drop h =>
      match s.cursors h with
      | some _ => some ({ s with cursors := Function.update s.cursors h none }, [])
      | none => none
  | .start c h args =>
      match s.cursors h, s.calls c with
      | some cursor, none =>
          match scanState core s.container cursor with
          | .ok state =>
              some ({ s with calls := Function.update s.calls c (some ⟨state, args⟩) }, [])
          | .error err => some (s, [(c, .error err)])
      | _, _ => none
  | .reply c h reply =>
      match s.calls c with
      | none => none
      | some _ =>
          match reply with
          | .failed err => s.deliver c h (.error (GlideError.fromRedis err))
          | .finished keys =>
              s.deliver c h (decodeReply R
                (.array [.bulkString (utf8 ClusterScanCursor.finished), keys]))
          | .page id state keys =>
              if Fresh s.container id then
                { s with container := s.container ++ [(id, state)] }.deliver c h
                  (decodeReply R (.array [.bulkString (utf8 id), keys]))
              else none
  | .cancel c =>
      match s.calls c with
      | some _ => some ({ s with calls := Function.update s.calls c none }, [])
      | none => none

/-- The entry that an event stores in the container. -/
def Event.stored : Event σ → List (String × σ)
  | .reply _ _ (.page id state _) => [(id, state)]
  | _ => []

/-! ## What a step does to the container -/

variable {core : GlideCore σ} {R : RedisCrate}

theorem State.bind_container {s t : State σ} {h : Nat} {cursor : ClusterScanCursor}
    (hbind : s.bind h cursor = some t) : t.container = s.container := by
  unfold State.bind at hbind
  split at hbind
  · cases hbind
  · cases hbind
    rfl

theorem State.deliver_eq_some {s t : State σ} {c h : Nat} {out : List Observation}
    {result : Result (ClusterScanCursor × List Bytes)}
    (hdeliver : s.deliver c h result = some (t, out)) :
    t.container = s.container ∧ out = [(c, result)] := by
  unfold State.deliver at hdeliver
  cases result with
  | ok page =>
      obtain ⟨u, hbind, hsame⟩ := Option.map_eq_some_iff.mp hdeliver
      have hcontainer := State.bind_container hbind
      cases hsame
      exact ⟨hcontainer, rfl⟩
  | error err =>
      cases hdeliver
      exact ⟨rfl, rfl⟩

/-- A reply that is decoded returns the cursor that the core sent. -/
theorem decodeReply_cursor (hR : DecodesText R) {id : String} {keysVal : Value}
    {cursor : ClusterScanCursor} {keys : List Bytes}
    (h : decodeReply R (.array [.bulkString (utf8 id), keysVal]) = .ok (cursor, keys)) :
    cursor.id = id := by
  simp only [decodeReply, toText_bulkString hR, Fallible.bind_eq_ok_iff] at h
  obtain ⟨next, hnext, keys', -, hpure⟩ := h
  cases hnext
  cases hpure
  rfl

/-- An unfinished cursor that a call returns has its state in the container. -/
def Resumable (container : List (String × σ)) (outs : List Observation) : Prop :=
  ∀ c cursor keys, (c, .ok (cursor, keys)) ∈ outs → cursor.isFinished = false →
    cursor.id ∈ container.map Prod.fst

theorem resumable_nil (container : List (String × σ)) : Resumable container [] := by
  intro c cursor keys h
  cases h

/-- A step keeps the entries that there are and adds those that its event stores,
under fresh ids; a cursor that it returns can be resumed. -/
structure StepKeeps (s : State σ) (event : Event σ) (t : State σ) (out : List Observation) :
    Prop where
  container_eq : t.container = s.container ++ event.stored
  fresh : ∀ entry ∈ event.stored, Fresh s.container entry.1
  resumable : Resumable t.container out

/-- A step that stores nothing and returns no cursor. -/
theorem StepKeeps.quiet {s t : State σ} {event : Event σ} {out : List Observation}
    (hcontainer : t.container = s.container) (hstored : event.stored = [])
    (hout : Resumable t.container out) : StepKeeps s event t out := by
  refine ⟨?_, ?_, hout⟩
  · rw [hstored, List.append_nil, hcontainer]
  · intro entry hentry
    rw [hstored] at hentry
    cases hentry

theorem resumable_error (container : List (String × σ)) (c : Nat) (err : GlideError) :
    Resumable container [(c, .error err)] := by
  intro c' cursor keys h
  rw [List.mem_singleton] at h
  cases h

/-- The last reply of a scan returns the finished cursor. -/
theorem resumable_finished (hR : DecodesText R) (container : List (String × σ)) (c : Nat)
    (keysVal : Value) :
    Resumable container [(c, decodeReply R
      (.array [.bulkString (utf8 ClusterScanCursor.finished), keysVal]))] := by
  intro c' cursor keys h hunfinished
  rw [List.mem_singleton, Prod.mk.injEq] at h
  rw [ClusterScanCursor.isFinished, decodeReply_cursor hR h.2.symm, beq_self_eq_true] at hunfinished
  cases hunfinished

theorem resumable_page (hR : DecodesText R) {container : List (String × σ)} {id : String}
    (hid : id ∈ container.map Prod.fst) (c : Nat) (keysVal : Value) :
    Resumable container [(c, decodeReply R (.array [.bulkString (utf8 id), keysVal]))] := by
  intro c' cursor keys h _
  rw [List.mem_singleton, Prod.mk.injEq] at h
  rw [decodeReply_cursor hR h.2.symm]
  exact hid

theorem stepKeeps_reply (hR : DecodesText R) {s t : State σ} {c i : Nat} {reply : CoreReply σ}
    {out : List Observation} (h : step core R s (.reply c i reply) = some (t, out)) :
    StepKeeps s (.reply c i reply) t out := by
  simp only [step] at h
  split at h
  · cases h
  · cases reply with
    | failed err =>
        obtain ⟨hcontainer, rfl⟩ := State.deliver_eq_some h
        exact .quiet hcontainer rfl (resumable_error _ c _)
    | finished keys =>
        obtain ⟨hcontainer, rfl⟩ := State.deliver_eq_some h
        exact .quiet hcontainer rfl (resumable_finished hR _ c keys)
    | page id state keys =>
        simp only at h
        split at h
        · rename_i hfresh
          obtain ⟨hcontainer, rfl⟩ := State.deliver_eq_some h
          refine ⟨hcontainer, ?_, resumable_page hR ?_ c keys⟩
          · intro entry hentry
            rw [List.mem_singleton.mp hentry]
            exact hfresh
          · simp [hcontainer]
        · cases h

theorem step_keeps (hR : DecodesText R) {s t : State σ} {event : Event σ}
    {out : List Observation} (h : step core R s event = some (t, out)) :
    StepKeeps s event t out := by
  cases event with
  | new i =>
      obtain ⟨u, hbind, hsame⟩ := Option.map_eq_some_iff.mp h
      cases hsame
      exact .quiet (State.bind_container hbind) rfl (resumable_nil _)
  | fromId i id =>
      obtain ⟨u, hbind, hsame⟩ := Option.map_eq_some_iff.mp h
      cases hsame
      exact .quiet (State.bind_container hbind) rfl (resumable_nil _)
  | clone i j =>
      simp only [step] at h
      split at h
      · obtain ⟨u, hbind, hsame⟩ := Option.map_eq_some_iff.mp h
        cases hsame
        exact .quiet (State.bind_container hbind) rfl (resumable_nil _)
      · cases h
  | drop i =>
      simp only [step] at h
      split at h
      · cases h
        exact .quiet rfl rfl (resumable_nil _)
      · cases h
  | start c i args =>
      simp only [step] at h
      split at h
      · split at h
        · cases h
          exact .quiet rfl rfl (resumable_nil _)
        · cases h
          exact .quiet rfl rfl (resumable_error _ c _)
      · cases h
  | reply c i reply => exact stepKeeps_reply hR h
  | cancel c =>
      simp only [step] at h
      split at h
      · cases h
        exact .quiet rfl rfl (resumable_nil _)
      · cases h

/-! ## What a run leaves in the container -/

/-- The container holds what the replies so far have stored, each id once. -/
structure Kept (events : List (Event σ)) (outs : List Observation) (s : State σ) : Prop where
  container_eq : s.container = events.flatMap Event.stored
  nodup : (s.container.map Prod.fst).Nodup
  resumable : Resumable s.container outs

theorem kept_step (hR : DecodesText R) {events : List (Event σ)} {outs out : List Observation}
    {s t : State σ} {event : Event σ} (hkept : Kept events outs s)
    (h : step core R s event = some (t, out)) : Kept (events ++ [event]) (outs ++ out) t := by
  obtain ⟨hcontainer, hfresh, hout⟩ := step_keeps hR h
  constructor
  · rw [hcontainer, hkept.container_eq, List.flatMap_append, List.flatMap_singleton]
  · have hnew : (event.stored.map Prod.fst).Nodup := by
      unfold Event.stored
      split
      · exact List.nodup_singleton _
      · exact List.nodup_nil
    rw [hcontainer, List.map_append]
    refine hkept.nodup.append hnew ?_
    rintro id hold hstored
    obtain ⟨entry, hentry, rfl⟩ := List.mem_map.mp hstored
    exact (hfresh entry hentry).1 hold
  · intro c cursor keys hmem hunfinished
    rcases List.mem_append.mp hmem with hearlier | hnow
    · rw [hcontainer, List.map_append]
      exact List.mem_append_left _ (hkept.resumable c cursor keys hearlier hunfinished)
    · exact hout c cursor keys hnow hunfinished

theorem kept_run (hR : DecodesText R) {events : List (Event σ)} {t : State σ}
    {outs : List Observation} (hrun : Machine.run (step core R) State.init events = some (t, outs)) :
    Kept events outs t := by
  have hinit : Kept [] [] (State.init : State σ) := ⟨rfl, List.nodup_nil, resumable_nil _⟩
  refine Machine.run_invariant Kept hinit ?_ events t outs hrun
  intro events outs s event t out hkept hstep
  exact kept_step hR hkept hstep

/-- The states of unfinished scans are kept. At every point of every run the
container holds exactly the entries that unfinished replies have stored, each id
once; no event takes one away, dropping every cursor included; and every cursor
that a call has returned and that is not the finished one can be resumed. -/
theorem scan_states_are_kept (hR : DecodesText R) {events : List (Event σ)} {t : State σ}
    {outs : List Observation}
    (hrun : Machine.run (step core R) State.init events = some (t, outs)) :
    t.container = events.flatMap Event.stored ∧
    (t.container.map Prod.fst).Nodup ∧
    (∀ earlier later, events = earlier ++ later → ∃ s outs',
      Machine.run (step core R) State.init earlier = some (s, outs') ∧
        s.container <+: t.container) ∧
    (∀ c cursor keys, (c, .ok (cursor, keys)) ∈ outs → cursor.isFinished = false →
      cursor.id ∈ t.container.map Prod.fst) := by
  have hkept := kept_run hR hrun
  refine ⟨hkept.container_eq, hkept.nodup, ?_, hkept.resumable⟩
  rintro earlier later rfl
  obtain ⟨s, first, rest, hearlier, -, -⟩ := Machine.run_append_eq_some.mp hrun
  refine ⟨s, first, hearlier, ?_⟩
  rw [hkept.container_eq, (kept_run hR hearlier).container_eq, List.flatMap_append]
  exact List.prefix_append _ _

end Machine

/-! ## A scan that is given up -/

def unitCore : GlideCore Unit where
  newState := ()
  missing _ := ⟨.responseError, "unknown cursor", false⟩

/-- One page is fetched, and both cursors are dropped. -/
def abandonedScan : List (Event Unit) :=
  [.new 0, .start 0 0 ⟨none, none, none⟩, .reply 0 1 (.page "a" () (.array [])), .drop 0, .drop 1]

def abandonedState : State Unit where
  container := [("a", ())]
  cursors := Function.update (Function.update (Function.update (Function.update (fun _ => none)
    0 (some .new)) 1 (some ⟨"a"⟩)) 0 none) 1 none
  calls := Function.update (Function.update (fun _ => none) 0
    (some ⟨(), ⟨none, none, none⟩⟩)) 0 none

theorem run_abandonedScan :
    Machine.run (step unitCore .stringsOnly) State.init abandonedScan =
      some (abandonedState, [(0, .ok (⟨"a"⟩, []))]) := by
  have hdecode : decodeReply .stringsOnly (.array [.bulkString (utf8 "a"), .array []]) =
      .ok (⟨"a"⟩, []) := by
    simp only [decodeReply, toText_bulkString decodesText_stringsOnly]
    rfl
  have hreply : step unitCore .stringsOnly
      ⟨[], Function.update (fun _ => none) 0 (some .new),
        Function.update (fun _ => none) 0 (some ⟨(), ⟨none, none, none⟩⟩)⟩
      (.reply 0 1 (.page "a" () (.array []))) =
      some (⟨[("a", ())],
        Function.update (Function.update (fun _ => none) 0 (some .new)) 1 (some ⟨"a"⟩),
        abandonedState.calls⟩, [(0, .ok (⟨"a"⟩, []))]) := by
    simp only [step, hdecode]
    rfl
  rw [abandonedScan, Machine.run_cons_eq_some]
  refine ⟨_, _, _, rfl, ?_, rfl⟩
  rw [Machine.run_cons_eq_some]
  refine ⟨_, _, _, rfl, ?_, rfl⟩
  rw [Machine.run_cons_eq_some]
  exact ⟨_, _, _, hreply, rfl, rfl⟩

theorem abandonedState_cursors (h : Nat) : abandonedState.cursors h = none := by
  simp only [abandonedState, Function.update_apply]
  split_ifs <;> rfl

theorem scan_states_are_kept_abandoned :
    abandonedState.container.map Prod.fst = ["a"] ∧ ∀ h, abandonedState.cursors h = none := by
  have hkept := scan_states_are_kept decodesText_stringsOnly run_abandonedScan
  refine ⟨?_, abandonedState_cursors⟩
  rw [hkept.1]
  rfl

/-- An entry stays behind although no cursor is alive. -/
theorem abandoned_scan_leaves_its_state :
    ¬∀ s : State Unit, Machine.Reachable (step unitCore .stringsOnly) State.init s →
      ∀ id ∈ s.container.map Prod.fst, ∃ h cursor, s.cursors h = some cursor ∧ cursor.id = id := by
  intro hheld
  obtain ⟨h, cursor, hlive, -⟩ :=
    hheld abandonedState ⟨_, _, run_abandonedScan⟩ "a" (List.mem_singleton_self _)
  rw [abandonedState_cursors h] at hlive
  cases hlive

end GlideRust.Client.ClusterScan
