import GlideRust.Client.ClusterScan
import GlideRust.Lib.PagedWalk

/-!
# Cluster scans that run side by side

Any number of cluster scans share one container of states. A call that resumes a
cursor starts from the state that was stored with that cursor's page, and so a
scan loop collects the pages of its own scan, each once and in order, whatever
other scans, clones, drops and cancelled calls come in between.

## Implementation notes

The loop is the one that the documentation of the cursor asks for: start with a
new cursor, go on with the returned one until it is finished. A call that fails
is repeated with the cursor at hand.
-/

namespace GlideRust.Client.ScanIsolation

open Redis Error ValueConversion Lib
open ClusterScan

variable {σ : Type} {core : GlideCore σ} {R : RedisCrate}

/-! ## Lookups -/

/-- With unique ids a lookup finds the entry itself. -/
theorem lookup_of_mem {container : List (String × σ)} (hnodup : (container.map Prod.fst).Nodup)
    {id : String} {state : σ} (hmem : (id, state) ∈ container) :
    container.lookup id = some state := by
  induction container with
  | nil => cases hmem
  | cons entry rest ih =>
      obtain ⟨id', state'⟩ := entry
      rw [List.map_cons, List.nodup_cons] at hnodup
      rcases List.mem_cons.mp hmem with hhead | htail
      · cases hhead
        exact List.lookup_cons_self
      · have hne : id ≠ id' := by
          rintro rfl
          exact hnodup.1 (List.mem_map.mpr ⟨_, htail, rfl⟩)
        rw [List.lookup_cons, beq_false_of_ne hne]
        exact ih hnodup.2 htail

theorem lookup_of_not_mem {container : List (String × σ)} {id : String}
    (hid : id ∉ container.map Prod.fst) : container.lookup id = none := by
  rw [List.lookup_eq_none_iff]
  intro entry hentry
  apply bne_iff_ne.mpr
  rintro rfl
  exact hid (List.mem_map.mpr ⟨entry, hentry, rfl⟩)

/-- Ids that stand for no stored scan. -/
def reserved : List String := ["", "0", ClusterScanCursor.finished]

/-- No reply ever stores a state under a reserved id. -/
theorem not_reserved_of_mem (hR : DecodesText R) {events : List (Event σ)} {s : State σ}
    {outs : List Observation} (hrun : Machine.run (step core R) State.init events = some (s, outs)) :
    ∀ id ∈ s.container.map Prod.fst, id ∉ reserved := by
  refine Machine.run_state_invariant (fun s => ∀ id ∈ s.container.map Prod.fst, id ∉ reserved)
    ?_ ?_ hrun
  · intro id hid
    cases hid
  · intro s event t out hs hstep id hid
    obtain ⟨hcontainer, hfresh, -⟩ := step_keeps hR hstep
    rw [hcontainer, List.map_append] at hid
    rcases List.mem_append.mp hid with hold | hnew
    · exact hs id hold
    · obtain ⟨entry, hentry, rfl⟩ := List.mem_map.mp hnew
      exact (hfresh entry hentry).2

/-- What the container holds are the states of the pages that were answered. -/
theorem mem_container_iff (hR : DecodesText R) {events : List (Event σ)} {s : State σ}
    {outs : List Observation} (hrun : Machine.run (step core R) State.init events = some (s, outs))
    (id : String) (state : σ) :
    (id, state) ∈ s.container ↔ ∃ c h keys, Event.reply c h (.page id state keys) ∈ events := by
  rw [(kept_run hR hrun).container_eq, List.mem_flatMap]
  constructor
  · rintro ⟨event, hevent, hstored⟩
    unfold Event.stored at hstored
    split at hstored
    · rename_i c h id' state' keys
      rw [List.mem_singleton] at hstored
      cases hstored
      exact ⟨c, h, keys, hevent⟩
    · cases hstored
  · rintro ⟨c, h, keys, hevent⟩
    exact ⟨_, hevent, List.mem_singleton_self _⟩

/-! ## Which state a call starts from -/

/-- A call that found its state waits for the core with it. -/
def State.waiting (s : State σ) (c : Nat) (state : σ) (args : ClusterScanArgs) : State σ :=
  { s with calls := Function.update s.calls c (some ⟨state, args⟩) }

section Start

variable {s : State σ} {i c : Nat} {cursor : ClusterScanCursor}
variable (hlive : s.cursors i = some cursor) (hidle : s.calls c = none)
include hlive hidle

theorem step_start_ok {state : σ} (hstate : scanState core s.container cursor = .ok state)
    (args : ClusterScanArgs) :
    step core R s (.start c i args) = some (State.waiting s c state args, []) := by
  simp only [step, hlive, hidle, hstate, State.waiting]

theorem step_start_error {err : GlideError}
    (hstate : scanState core s.container cursor = .error err) (args : ClusterScanArgs) :
    step core R s (.start c i args) = some (s, [(c, .error err)]) := by
  simp only [step, hlive, hidle, hstate]

end Start

theorem scanState_new {container : List (String × σ)} {cursor : ClusterScanCursor}
    (h : cursor.id = "" ∨ cursor.id = "0") : scanState core container cursor = .ok core.newState := by
  rw [scanState, if_pos h]

theorem scanState_stored {container : List (String × σ)} {cursor : ClusterScanCursor} {state : σ}
    (hid : cursor.id ∉ reserved) (hlookup : container.lookup cursor.id = some state) :
    scanState core container cursor = .ok state := by
  have hnew : ¬ (cursor.id = "" ∨ cursor.id = "0") := by
    simp only [reserved, List.mem_cons, not_or] at hid
    simp [hid.1, hid.2.1]
  rw [scanState, if_neg hnew, getClusterScanCursor, hlookup]
  rfl

theorem scanState_missing {container : List (String × σ)} {cursor : ClusterScanCursor}
    (hnew : ¬ (cursor.id = "" ∨ cursor.id = "0")) (hlookup : container.lookup cursor.id = none) :
    scanState core container cursor =
      .error (GlideError.fromRedis (core.missing cursor.id)) := by
  rw [scanState, if_neg hnew, getClusterScanCursor, hlookup]
  rfl

/-- After any history of any number of scans, a call starts from the state of a
new scan if its cursor is new, from the very state that was stored with its
cursor's page if there was such a page, and otherwise, the finished cursor
included, it fails with the core's error and changes nothing. -/
theorem calls_resume_their_own_scan (hR : DecodesText R) {events : List (Event σ)} {s : State σ}
    {outs : List Observation} (hrun : Machine.run (step core R) State.init events = some (s, outs))
    {i c : Nat} {cursor : ClusterScanCursor} (hlive : s.cursors i = some cursor)
    (hidle : s.calls c = none) (args : ClusterScanArgs) :
    (cursor.id = "" ∨ cursor.id = "0" →
      step core R s (.start c i args) = some (State.waiting s c core.newState args, [])) ∧
    (∀ c' h state keys, Event.reply c' h (.page cursor.id state keys) ∈ events →
      step core R s (.start c i args) = some (State.waiting s c state args, [])) ∧
    (¬ (cursor.id = "" ∨ cursor.id = "0") →
      (∀ c' h state keys, Event.reply c' h (.page cursor.id state keys) ∉ events) →
      step core R s (.start c i args) =
        some (s, [(c, .error (GlideError.fromRedis (core.missing cursor.id)))])) ∧
    (cursor.isFinished = true → step core R s (.start c i args) =
      some (s, [(c, .error (GlideError.fromRedis (core.missing cursor.id)))])) := by
  have hnodup := (kept_run hR hrun).nodup
  have hmissing (hnew : ¬ (cursor.id = "" ∨ cursor.id = "0"))
      (hid : cursor.id ∉ s.container.map Prod.fst) : step core R s (.start c i args) =
        some (s, [(c, .error (GlideError.fromRedis (core.missing cursor.id)))]) :=
    step_start_error hlive hidle (scanState_missing hnew (lookup_of_not_mem hid)) args
  refine ⟨?_, ?_, ?_, ?_⟩
  · intro hnew
    exact step_start_ok hlive hidle (scanState_new hnew) args
  · intro c' h state keys hpage
    have hmem := (mem_container_iff hR hrun cursor.id state).mpr ⟨c', h, keys, hpage⟩
    have hid := not_reserved_of_mem hR hrun cursor.id (List.mem_map.mpr ⟨_, hmem, rfl⟩)
    exact step_start_ok hlive hidle (scanState_stored hid (lookup_of_mem hnodup hmem)) args
  · intro hnew hnone
    apply hmissing hnew
    intro hid
    obtain ⟨⟨id, state⟩, hmem, hsame⟩ := List.mem_map.mp hid
    simp only at hsame
    rw [hsame] at hmem
    obtain ⟨c', h, keys, hpage⟩ := (mem_container_iff hR hrun cursor.id state).mp hmem
    exact hnone c' h state keys hpage
  · intro hfinished
    have hid : cursor.id = ClusterScanCursor.finished := by
      simpa [ClusterScanCursor.isFinished] using hfinished
    apply hmissing
    · rw [hid]
      decide
    · intro hmem
      apply not_reserved_of_mem hR hrun cursor.id hmem
      rw [hid]
      decide

/-! ## What others leave alone -/

/-- Inputs that neither drop a cursor in use nor touch the call that uses it. -/
def Foreign (c h : Nat) : Event σ → Prop
  | .new _ | .fromId _ _ | .clone _ _ => True
  | .drop i => i ≠ h
  | .start c' _ _ | .reply c' _ _ | .cancel c' => c' ≠ c

/-- The cursor and the call of a scan are where they were. -/
structure Untouched (c h : Nat) (s t : State σ) : Prop where
  cursor : ∀ cursor, s.cursors h = some cursor → t.cursors h = some cursor
  call : ∀ call, s.calls c = some call → t.calls c = some call

theorem Untouched.refl (c h : Nat) (s : State σ) : Untouched c h s s :=
  ⟨fun _ hcursor => hcursor, fun _ hcall => hcall⟩

theorem Untouched.trans {c h : Nat} {s t u : State σ} (hst : Untouched c h s t)
    (htu : Untouched c h t u) : Untouched c h s u :=
  ⟨fun cursor hcursor => htu.cursor cursor (hst.cursor cursor hcursor),
    fun call hcall => htu.call call (hst.call call hcall)⟩

/-- Ending another call, with whatever result, touches neither. -/
theorem Untouched.of_calls {c h c' : Nat} {s t : State σ} {value : Option (ScanCall σ)}
    (hne : c' ≠ c) (hcursors : t.cursors = s.cursors)
    (hcalls : t.calls = Function.update s.calls c' value) : Untouched c h s t := by
  constructor
  · intro cursor hcursor
    rw [hcursors]
    exact hcursor
  · intro call hcall
    rw [hcalls, Function.update_of_ne hne.symm]
    exact hcall

/-- A new cursor takes a name that is not in use. -/
theorem bind_eq_some {s t : State σ} {i : Nat} {cursor : ClusterScanCursor}
    (h : s.bind i cursor = some t) : s.cursors i = none ∧ t.container = s.container ∧
      t.cursors = Function.update s.cursors i (some cursor) ∧ t.calls = s.calls := by
  unfold State.bind at h
  split at h
  · cases h
  · rename_i hfree
    cases h
    exact ⟨hfree, rfl, rfl, rfl⟩

theorem Untouched.of_bind {c h i : Nat} {s t : State σ} {cursor : ClusterScanCursor}
    (hbind : s.bind i cursor = some t) : Untouched c h s t := by
  obtain ⟨hfree, -, hcursors, hcalls⟩ := bind_eq_some hbind
  constructor
  · intro cursor' hcursor
    have hne : h ≠ i := by
      rintro rfl
      rw [hfree] at hcursor
      cases hcursor
    rw [hcursors, Function.update_of_ne hne]
    exact hcursor
  · intro call hcall
    rw [hcalls]
    exact hcall

theorem Untouched.of_deliver {c h c' i : Nat} {s t : State σ} {out : List Observation}
    {result : Result (ClusterScanCursor × List Bytes)} (hne : c' ≠ c)
    (hdeliver : s.deliver c' i result = some (t, out)) : Untouched c h s t := by
  unfold State.deliver at hdeliver
  have hended : Untouched c h s { s with calls := Function.update s.calls c' none } :=
    .of_calls hne rfl rfl
  cases result with
  | ok page =>
      obtain ⟨u, hbind, hsame⟩ := Option.map_eq_some_iff.mp hdeliver
      cases hsame
      exact hended.trans (.of_bind hbind)
  | error err =>
      cases hdeliver
      exact hended

theorem step_foreign {c h : Nat} {s t : State σ} {event : Event σ} {out : List Observation}
    (hforeign : Foreign c h event) (hstep : step core R s event = some (t, out)) :
    Untouched c h s t := by
  cases event with
  | new i | fromId i id =>
      obtain ⟨u, hbind, hsame⟩ := Option.map_eq_some_iff.mp hstep
      cases hsame
      exact .of_bind hbind
  | clone i j =>
      simp only [step] at hstep
      split at hstep
      · obtain ⟨u, hbind, hsame⟩ := Option.map_eq_some_iff.mp hstep
        cases hsame
        exact .of_bind hbind
      · cases hstep
  | drop i =>
      simp only [step] at hstep
      split at hstep
      · cases hstep
        refine ⟨?_, fun _ hcall => hcall⟩
        intro cursor hcursor
        have hne : h ≠ i := Ne.symm hforeign
        simp only [Function.update_of_ne hne, hcursor]
      · cases hstep
  | start c' i args =>
      simp only [step] at hstep
      split at hstep
      · split at hstep
        · cases hstep
          exact .of_calls hforeign rfl rfl
        · cases hstep
          exact .refl c h _
      · cases hstep
  | reply c' i reply =>
      simp only [step] at hstep
      split at hstep
      · cases hstep
      · cases reply with
        | failed err | finished keys => exact .of_deliver hforeign hstep
        | page id state keys =>
            simp only at hstep
            split at hstep
            · have hdeliver := Untouched.of_deliver (h := h) hforeign hstep
              exact ⟨hdeliver.cursor, hdeliver.call⟩
            · cases hstep
  | cancel c' =>
      simp only [step] at hstep
      split at hstep
      · cases hstep
        exact .of_calls hforeign rfl rfl
      · cases hstep

theorem run_foreign {c h : Nat} {s t : State σ} {events : List (Event σ)}
    {outs : List Observation} (hforeign : ∀ event ∈ events, Foreign c h event)
    (hrun : Machine.run (step core R) s events = some (t, outs)) : Untouched c h s t := by
  induction events generalizing s outs with
  | nil =>
      cases hrun
      exact .refl c h _
  | cons event rest ih =>
      obtain ⟨mid, out, later, hstep, hrest, -⟩ := Machine.run_cons_eq_some.mp hrun
      rw [List.forall_mem_cons] at hforeign
      exact (step_foreign hforeign.1 hstep).trans (ih hforeign.2 hrest)

/-- A cursor that leads to a state goes on leading to it. -/
theorem scanState_append {container : List (String × σ)} {cursor : ClusterScanCursor} {state : σ}
    (h : scanState core container cursor = .ok state) (more : List (String × σ)) :
    scanState core (container ++ more) cursor = .ok state := by
  unfold scanState at h ⊢
  split
  · rename_i hnew
    rw [if_pos hnew] at h
    exact h
  · rename_i hnew
    rw [if_neg hnew] at h
    unfold getClusterScanCursor at h ⊢
    rw [List.lookup_append]
    cases hlookup : container.lookup cursor.id with
    | none =>
        rw [hlookup] at h
        cases h
    | some state' =>
        rw [hlookup] at h
        exact h

theorem run_container (hR : DecodesText R) {s t : State σ} {events : List (Event σ)}
    {outs : List Observation} (hrun : Machine.run (step core R) s events = some (t, outs)) :
    ∃ more, t.container = s.container ++ more := by
  induction events generalizing s outs with
  | nil =>
      cases hrun
      exact ⟨[], (List.append_nil _).symm⟩
  | cons event rest ih =>
      obtain ⟨mid, out, later, hstep, hrest, -⟩ := Machine.run_cons_eq_some.mp hrun
      obtain ⟨more, hmore⟩ := ih hrest
      refine ⟨event.stored ++ more, ?_⟩
      rw [hmore, (step_keeps hR hstep).container_eq, List.append_assoc]

/-! ## The scan loop -/

/-- How the core answers a state: with the keys of a page, and the state of the
rest unless the scan ends with it. -/
abbrev Answer (σ : Type) := σ → ClusterScanArgs → Value × Option σ

/-- A reply is the core's answer to the call that it ends. An error says nothing. -/
def Answers (answer : Answer σ) (call : ScanCall σ) : CoreReply σ → Prop
  | .failed _ => True
  | .finished keys => answer call.scanState call.args = (keys, none)
  | .page _ state keys => answer call.scanState call.args = (keys, some state)

/-- The pages of a scan from a state to its end. -/
abbrev Walk (answer : Answer σ) (args : ClusterScanArgs) : σ → List Value → Prop :=
  PagedWalk.Walk fun state => answer state args

section Loop

variable (core R) (answer : Answer σ) (args : ClusterScanArgs)

/-- A call is sent with the cursor under the name `h` and waits in state `t`;
other parties move before it is sent and while it waits. -/
structure Sent (s : State σ) (h c : Nat) (t : State σ) : Prop where
  sent : ∃ before s₁ outs₁ s₂ during outs₂,
    (∀ event ∈ before, Foreign c h event) ∧
    Machine.run (step core R) s before = some (s₁, outs₁) ∧
    step core R s₁ (.start c h args) = some (s₂, []) ∧
    (∀ event ∈ during, Foreign c h event) ∧
    Machine.run (step core R) s₂ during = some (t, outs₂)

/-- The documented loop over a cluster scan, with the keys that it collects. -/
inductive ScanLoop : State σ → Nat → List Bytes → State σ → Prop
  | last {s t u : State σ} {h c h' : Nat} {call : ScanCall σ} {reply : CoreReply σ}
      {cursor : ClusterScanCursor} {keys : List Bytes} (hsent : Sent core R args s h c t)
      (hcall : t.calls c = some call) (hanswer : Answers answer call reply)
      (hreply : step core R t (.reply c h' reply) = some (u, [(c, .ok (cursor, keys))]))
      (hfinished : cursor.isFinished = true) : ScanLoop s h keys u
  | next {s t u v : State σ} {h c h' : Nat} {call : ScanCall σ} {reply : CoreReply σ}
      {cursor : ClusterScanCursor} {keys rest : List Bytes} (hsent : Sent core R args s h c t)
      (hcall : t.calls c = some call) (hanswer : Answers answer call reply)
      (hreply : step core R t (.reply c h' reply) = some (u, [(c, .ok (cursor, keys))]))
      (hunfinished : cursor.isFinished = false) (tail : ScanLoop u h' rest v) :
      ScanLoop s h (keys ++ rest) v
  | failed {s t u v : State σ} {h c h' : Nat} {call : ScanCall σ} {reply : CoreReply σ}
      {err : GlideError} {keys : List Bytes} (hsent : Sent core R args s h c t)
      (hcall : t.calls c = some call) (hanswer : Answers answer call reply)
      (hreply : step core R t (.reply c h' reply) = some (u, [(c, .error err)]))
      (tail : ScanLoop u h keys v) : ScanLoop s h keys v
  | cancelled {s t u v : State σ} {h c : Nat} {keys : List Bytes}
      (hsent : Sent core R args s h c t) (hcancel : step core R t (.cancel c) = some (u, []))
      (tail : ScanLoop u h keys v) : ScanLoop s h keys v

end Loop

section Collect

variable {answer : Answer σ} {args : ClusterScanArgs}

/-- While a call waits, it keeps the state that its cursor led to, and the cursor
goes on leading there. -/
theorem Sent.waiting (hR : DecodesText R) {s t : State σ} {h c : Nat}
    {cursor : ClusterScanCursor} {state : σ} (hsent : Sent core R args s h c t)
    (hlive : s.cursors h = some cursor) (hstate : scanState core s.container cursor = .ok state) :
    t.calls c = some ⟨state, args⟩ ∧ t.cursors h = some cursor ∧
      scanState core t.container cursor = .ok state := by
  obtain ⟨before, s₁, outs₁, s₂, during, outs₂, hbefore, hrun₁, hstart, hduring, hrun₂⟩ :=
    hsent.sent
  obtain ⟨more₁, hmore₁⟩ := run_container hR hrun₁
  have hlive₁ := (run_foreign hbefore hrun₁).cursor cursor hlive
  have hstate₁ : scanState core s₁.container cursor = .ok state := by
    rw [hmore₁]
    exact scanState_append hstate more₁
  have hidle : s₁.calls c = none := by
    cases hcall : s₁.calls c with
    | none => rfl
    | some call => simp [step, hlive₁, hcall] at hstart
  rw [step_start_ok hlive₁ hidle hstate₁, Option.some.injEq, Prod.mk.injEq] at hstart
  obtain ⟨rfl, -⟩ := hstart
  have huntouched := run_foreign hduring hrun₂
  obtain ⟨more₂, hmore₂⟩ := run_container hR hrun₂
  refine ⟨huntouched.call _ (Function.update_self ..), huntouched.cursor _ hlive₁, ?_⟩
  rw [hmore₂]
  exact scanState_append hstate₁ more₂

/-- A delivered page puts the returned cursor under the new name. -/
theorem deliver_ok {s t : State σ} {c h : Nat} {cursor : ClusterScanCursor} {keys : List Bytes}
    {result : Result (ClusterScanCursor × List Bytes)}
    (hdeliver : s.deliver c h result = some (t, [(c, .ok (cursor, keys))])) :
    result = .ok (cursor, keys) ∧ t.cursors h = some cursor ∧ t.container = s.container := by
  obtain ⟨hcontainer, hout⟩ := State.deliver_eq_some hdeliver
  rw [List.singleton_inj, Prod.mk.injEq] at hout
  obtain rfl := hout.2
  unfold State.deliver at hdeliver
  obtain ⟨u, hbind, hsame⟩ := Option.map_eq_some_iff.mp hdeliver
  cases hsame
  refine ⟨rfl, ?_, hcontainer⟩
  rw [(bind_eq_some hbind).2.2.1]
  exact Function.update_self ..

theorem decodeReply_keys {id : String} {keysVal : Value} {cursor : ClusterScanCursor}
    {keys : List Bytes}
    (h : decodeReply R (.array [.bulkString (utf8 id), keysVal]) = .ok (cursor, keys)) :
    decodeKeys R keysVal = .ok keys := by
  simp only [decodeReply, Fallible.bind_eq_ok_iff] at h
  obtain ⟨next, -, keys', hkeys, hpure⟩ := h
  cases hpure
  exact hkeys

/-- A call that returns a cursor got the last page, or a page whose rest the
returned cursor leads to. -/
theorem reply_ok_cases (hR : DecodesText R) {s t : State σ} {c h : Nat} {call : ScanCall σ}
    {reply : CoreReply σ} {cursor : ClusterScanCursor} {keys : List Bytes}
    (hcall : s.calls c = some call)
    (hreply : step core R s (.reply c h reply) = some (t, [(c, .ok (cursor, keys))])) :
    (∃ keysVal, reply = .finished keysVal ∧ decodeKeys R keysVal = .ok keys ∧
      cursor.isFinished = true) ∨
    (∃ id state keysVal, reply = .page id state keysVal ∧ decodeKeys R keysVal = .ok keys ∧
      cursor.isFinished = false ∧ t.cursors h = some cursor ∧
      scanState core t.container cursor = .ok state) := by
  simp only [step, hcall] at hreply
  cases reply with
  | failed err =>
      obtain ⟨hresult, -⟩ := deliver_ok hreply
      cases hresult
  | finished keysVal =>
      obtain ⟨hresult, -⟩ := deliver_ok hreply
      refine Or.inl ⟨keysVal, rfl, decodeReply_keys hresult, ?_⟩
      rw [ClusterScanCursor.isFinished, decodeReply_cursor hR hresult, beq_self_eq_true]
  | page id state keysVal =>
      simp only at hreply
      split at hreply
      · rename_i hfresh
        obtain ⟨hresult, hcursor, hcontainer⟩ := deliver_ok hreply
        have hid := decodeReply_cursor hR hresult
        have hreserved : cursor.id ∉ reserved := by
          rw [hid]
          exact hfresh.2
        refine Or.inr ⟨id, state, keysVal, rfl, decodeReply_keys hresult, ?_, hcursor, ?_⟩
        · simp only [reserved, List.mem_cons, not_or] at hreserved
          simp [ClusterScanCursor.isFinished, hreserved.2.2.1]
        · apply scanState_stored hreserved
          rw [hcontainer, hid, List.lookup_append, lookup_of_not_mem hfresh.1]
          simp
      · cases hreply

/-- A call that ends with an error leaves the cursor that it used as it was. -/
theorem reply_error_keeps (hR : DecodesText R) {s t : State σ} {c h i : Nat}
    {reply : CoreReply σ} {err : GlideError} {cursor : ClusterScanCursor} {state : σ}
    (hreply : step core R s (.reply c h reply) = some (t, [(c, .error err)]))
    (hlive : s.cursors i = some cursor) (hstate : scanState core s.container cursor = .ok state) :
    t.cursors i = some cursor ∧ scanState core t.container cursor = .ok state := by
  have hdelivered {s' : State σ} {result : Result (ClusterScanCursor × List Bytes)}
      (hcursors : s'.cursors = s.cursors)
      (hdeliver : s'.deliver c h result = some (t, [(c, .error err)])) :
      t.cursors i = some cursor := by
    obtain ⟨-, hout⟩ := State.deliver_eq_some hdeliver
    rw [List.singleton_inj, Prod.mk.injEq] at hout
    obtain rfl := hout.2
    unfold State.deliver at hdeliver
    cases hdeliver
    rw [← hlive, ← hcursors]
  constructor
  · simp only [step] at hreply
    split at hreply
    · cases hreply
    · cases reply with
      | failed err' | finished keysVal => exact hdelivered rfl hreply
      | page id state' keysVal =>
          simp only at hreply
          split at hreply
          · refine hdelivered ?_ hreply
            rfl
          · cases hreply
  · rw [(step_keeps hR hreply).container_eq]
    exact scanState_append hstate _

/-- The pages that a loop collects, from the state that its cursor leads to. -/
theorem ScanLoop.collects (hR : DecodesText R) {s t : State σ} {h : Nat} {collected : List Bytes}
    (hloop : ScanLoop core R answer args s h collected t) {cursor : ClusterScanCursor} {state : σ}
    (hlive : s.cursors h = some cursor) (hstate : scanState core s.container cursor = .ok state) :
    ∃ pages batches, Walk answer args state pages ∧
      List.Forall₂ (fun page batch => decodeKeys R page = .ok batch) pages batches ∧
      collected = batches.flatten := by
  induction hloop generalizing cursor state with
  | @last s t u h c h' call reply cursor' keys hsent hcall hanswer hreply hfinished =>
      obtain ⟨hwaits, -, -⟩ := hsent.waiting hR hlive hstate
      obtain rfl : call = ⟨state, args⟩ := Option.some.inj (hcall.symm.trans hwaits)
      rcases reply_ok_cases hR hcall hreply with ⟨keysVal, rfl, hkeys, -⟩ | ⟨_, _, _, _, _, hnot, -⟩
      · exact ⟨[keysVal], [keys], .last hanswer, .cons hkeys .nil, by simp⟩
      · rw [hfinished] at hnot
        cases hnot
  | @next s t u v h c h' call reply cursor' keys rest hsent hcall hanswer hreply hun tail ih =>
      obtain ⟨hwaits, -, -⟩ := hsent.waiting hR hlive hstate
      obtain rfl : call = ⟨state, args⟩ := Option.some.inj (hcall.symm.trans hwaits)
      rcases reply_ok_cases hR hcall hreply with
        ⟨_, _, _, hfinished⟩ | ⟨id, state', keysVal, rfl, hkeys, -, hcursor, hstate'⟩
      · rw [hun] at hfinished
        cases hfinished
      · obtain ⟨pages, batches, hwalk, hbatches, rfl⟩ := ih hcursor hstate'
        exact ⟨keysVal :: pages, keys :: batches, .next hanswer hwalk, .cons hkeys hbatches,
          by simp⟩
  | failed hsent hcall hanswer hreply tail ih =>
      obtain ⟨-, hlive', hstate'⟩ := hsent.waiting hR hlive hstate
      obtain ⟨hcursor, hstate''⟩ := reply_error_keeps hR hreply hlive' hstate'
      exact ih hcursor hstate''
  | @cancelled s t u v h c keys hsent hcancel tail ih =>
      obtain ⟨hwaits, hlive', hstate'⟩ := hsent.waiting hR hlive hstate
      simp only [step, hwaits, Option.some.injEq, Prod.mk.injEq, and_true] at hcancel
      subst hcancel
      exact ih hlive' hstate'

/-- A scan loop that starts with a new cursor collects the keys of one whole scan
of the core: each of its pages once and in order, whatever other scans do with
the same container in between, and however many calls fail or are given up. -/
theorem scan_loop_collects_one_scan (hR : DecodesText R) {s t : State σ} {h : Nat}
    {collected : List Bytes} {cursor : ClusterScanCursor}
    (hloop : ScanLoop core R answer args s h collected t)
    (hlive : s.cursors h = some cursor) (hnew : cursor.id = "" ∨ cursor.id = "0") :
    ∃ pages batches, Walk answer args core.newState pages ∧
      (∀ pages', Walk answer args core.newState pages' → pages' = pages) ∧
      List.Forall₂ (fun page batch => decodeKeys R page = .ok batch) pages batches ∧
      collected = batches.flatten := by
  obtain ⟨pages, batches, hwalk, hbatches, hcollected⟩ :=
    hloop.collects hR hlive (scanState_new hnew)
  exact ⟨pages, batches, hwalk, fun _ hwalk' => hwalk.unique hwalk', hbatches, hcollected⟩

end Collect

/-! ## Two pages and a scan in between -/

/-- A core whose scans have two pages. -/
def twoPageCore : GlideCore Bool where
  newState := false
  missing id := ⟨.responseError, id, false⟩

def twoPageAnswer : Answer Bool := fun state _ =>
  match state with
  | false => (.array [.bulkString [97]], some true)
  | true => (.array [.bulkString [98]], none)

def noArgs : ClusterScanArgs := ⟨none, none, none⟩

theorem decodeReply_key {id : String} (b : Bytes) :
    decodeReply .stringsOnly (.array [.bulkString (utf8 id), .array [.bulkString b]]) =
      .ok (⟨id⟩, [b]) := by
  simp only [decodeReply, toText_bulkString decodesText_stringsOnly]
  rfl

/-- A page with one key, as the machine takes it. -/
theorem step_reply_page (core : GlideCore σ) {s : State σ} {c h : Nat} {call : ScanCall σ}
    {id : String} (state : σ) (b : Bytes) (hcall : s.calls c = some call) (hfresh : Fresh s.container id)
    (hfree : s.cursors h = none) :
    step core .stringsOnly s (.reply c h (.page id state (.array [.bulkString b]))) =
      some (⟨s.container ++ [(id, state)], Function.update s.cursors h (some ⟨id⟩),
        Function.update s.calls c none⟩, [(c, .ok (⟨id⟩, [b]))]) := by
  simp only [step, hcall, if_pos hfresh, decodeReply_key, State.deliver, State.bind, hfree,
    Option.map_some]

theorem step_reply_finished (core : GlideCore σ) {s : State σ} {c h : Nat}
    {call : ScanCall σ} (b : Bytes) (hcall : s.calls c = some call) (hfree : s.cursors h = none) :
    step core .stringsOnly s (.reply c h (.finished (.array [.bulkString b]))) =
      some (⟨s.container, Function.update s.cursors h (some ⟨ClusterScanCursor.finished⟩),
        Function.update s.calls c none⟩, [(c, .ok (⟨ClusterScanCursor.finished⟩, [b]))]) := by
  simp only [step, hcall, decodeReply_key, State.deliver, State.bind, hfree, Option.map_some]

/-- The state with a new cursor. -/
def fresh : State Bool := ⟨[], Function.update (fun _ => none) 0 (some .new), fun _ => none⟩

/-- The state with the first page's cursor. -/
def halfway : State Bool where
  container := [("rest", true)]
  cursors := Function.update fresh.cursors 1 (some ⟨"rest"⟩)
  calls := Function.update (Function.update fresh.calls 0 (some ⟨false, noArgs⟩)) 0 none

/-- The first page of a scan. -/
def firstPage : List (Event Bool) :=
  [.new 0, .start 0 0 noArgs, .reply 0 1 (.page "rest" true (.array [.bulkString [97]]))]

theorem run_firstPage : Machine.run (step twoPageCore .stringsOnly) State.init firstPage =
    some (halfway, [(0, .ok (⟨"rest"⟩, [[97]]))]) := by
  have hfresh : Fresh ([] : List (String × Bool)) "rest" := by decide
  have hreply := step_reply_page twoPageCore (s := State.waiting fresh 0 false noArgs)
    (c := 0) (h := 1) true [97] rfl hfresh rfl
  rw [firstPage, Machine.run_cons_eq_some]
  refine ⟨fresh, _, _, rfl, ?_, rfl⟩
  rw [Machine.run_cons_eq_some]
  refine ⟨State.waiting fresh 0 false noArgs, _, _, rfl, ?_, rfl⟩
  rw [Machine.run_cons_eq_some]
  exact ⟨_, _, _, hreply, rfl, rfl⟩

theorem calls_resume_their_own_scan_halfway :
    step twoPageCore .stringsOnly halfway (.start 7 1 noArgs) =
      some (State.waiting halfway 7 true noArgs, []) := by
  have hlive : halfway.cursors 1 = some ⟨"rest"⟩ := rfl
  refine (calls_resume_their_own_scan decodesText_stringsOnly run_firstPage hlive (c := 7) rfl
    noArgs).2.1 0 1 true (.array [.bulkString [97]]) ?_
  exact List.mem_of_getElem? (i := 2) rfl

/-- Another scan, which is started and gets its first page. -/
def otherScan : List (Event Bool) :=
  [.new 5, .start 9 5 noArgs, .reply 9 6 (.page "other" true (.array [.bulkString [97]]))]

/-- The state while the first call waits and the other scan has its first page. -/
def crossed : State Bool where
  container := [("other", true)]
  cursors := Function.update (Function.update fresh.cursors 5 (some .new)) 6 (some ⟨"other"⟩)
  calls := Function.update (Function.update (Function.update fresh.calls 0
    (some ⟨false, noArgs⟩)) 9 (some ⟨false, noArgs⟩)) 9 none

theorem run_otherScan : Machine.run (step twoPageCore .stringsOnly)
    (State.waiting fresh 0 false noArgs) otherScan =
      some (crossed, [(9, .ok (⟨"other"⟩, [[97]]))]) := by
  have hfresh : Fresh ([] : List (String × Bool)) "other" := by decide
  have hreply := step_reply_page twoPageCore
    (s := State.waiting ⟨[], Function.update fresh.cursors 5 (some .new),
      Function.update fresh.calls 0 (some ⟨false, noArgs⟩)⟩ 9 false noArgs)
    (c := 9) (h := 6) true [97] rfl hfresh rfl
  rw [otherScan, Machine.run_cons_eq_some]
  refine ⟨_, _, _, rfl, ?_, rfl⟩
  rw [Machine.run_cons_eq_some]
  refine ⟨_, _, _, rfl, ?_, rfl⟩
  rw [Machine.run_cons_eq_some]
  exact ⟨_, _, _, hreply, rfl, rfl⟩

/-- The state after the first page, with the other scan's entry before its own. -/
def crossedHalfway : State Bool where
  container := [("other", true), ("rest", true)]
  cursors := Function.update crossed.cursors 1 (some ⟨"rest"⟩)
  calls := Function.update crossed.calls 0 none

theorem scan_loop_collects_one_scan_crossed :
    ∃ (t : State Bool) (pages : List Value) (batches : List (List Bytes)),
      ScanLoop twoPageCore .stringsOnly twoPageAnswer noArgs fresh 0 [[97], [98]] t ∧
      Walk twoPageAnswer noArgs false pages ∧ [[97], [98]] = batches.flatten := by
  have hfirst : Sent twoPageCore .stringsOnly noArgs fresh 0 0 crossed := by
    refine ⟨[], fresh, [], _, otherScan, _, ?_, rfl, rfl, ?_, run_otherScan⟩
    · intro event hevent
      cases hevent
    · simp [otherScan, Foreign]
  have hfresh : Fresh crossed.container "rest" := by decide
  have hpage := step_reply_page twoPageCore (s := crossed) (c := 0) (h := 1) true [97] rfl hfresh
    rfl
  have hsecond : Sent twoPageCore .stringsOnly noArgs crossedHalfway 1 0
      (State.waiting crossedHalfway 0 true noArgs) := by
    refine ⟨[], crossedHalfway, [], _, [], [], ?_, rfl, rfl, ?_, rfl⟩ <;> simp
  have hlast := step_reply_finished twoPageCore
    (s := State.waiting crossedHalfway 0 true noArgs) (c := 0) (h := 2) [98] rfl rfl
  obtain ⟨t, hloop⟩ : ∃ t, ScanLoop twoPageCore .stringsOnly twoPageAnswer noArgs fresh 0
      [[97], [98]] t := by
    refine ⟨_, .next hfirst rfl ?_ hpage rfl (.last hsecond rfl ?_ hlast rfl)⟩
    · exact Eq.refl (twoPageAnswer false noArgs)
    · exact Eq.refl (twoPageAnswer true noArgs)
  obtain ⟨pages, batches, hwalk, -, -, hcollected⟩ :=
    scan_loop_collects_one_scan decodesText_stringsOnly hloop rfl (Or.inl rfl)
  exact ⟨t, pages, batches, hloop, hwalk, hcollected⟩

end GlideRust.Client.ScanIsolation
