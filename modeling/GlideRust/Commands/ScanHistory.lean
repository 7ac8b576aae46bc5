import GlideRust.Commands.Scan

/-!
# What a scan has requested, decoded and handed out

A page is an exchange whose reply arrived and decoded. The history of a scan is
its log of exchanges; the requested cursors, the pages and the elements handed
out are all read off it. One lemma says what a single call does to that
history, and sessions follow by induction on the number of calls.
-/

namespace GlideRust.Commands.ScanHistory

open Redis Scan

variable {α : Type} (decode : Value → RedisResult (UInt64 × List α))

/-! ## Histories -/

/-- The page an exchange brought, if its reply arrived and decoded. -/
def page? (e : Exchange Await) : Option (UInt64 × List α) :=
  match e.outcome with
  | .ready (.ok reply) => (decode reply).toOption
  | _ => none

/-- All successfully decoded pages of a log, in order. -/
def pages (log : List (Exchange Await)) : List (UInt64 × List α) :=
  log.filterMap (page? decode)

/-- The cursor to request next: a decoded page moves it, a failure does not. -/
def nextCursor (c : UInt64) (e : Exchange Await) : UInt64 :=
  ((page? decode e).map Prod.fst).getD c

/-- Every exchange of the log sent the tokens of a request for the cursor of the
last decoded page before it, starting at `c`, and the log ends at the cursor
`last`. -/
def Requested (spec : PageSpec) : UInt64 → List (Exchange Await) → UInt64 → Prop
  | c, [], last => last = c
  | c, e :: log, last =>
      e.cmd.args = spec.prefixArgs ++ [Lib.Decimal.render c.toNat] ++ spec.suffixArgs ∧
        Requested spec (nextCursor decode c e) log last

/-- Install decoded pages one after the other. -/
def install (iter : ScanIter α) (ps : List (UInt64 × List α)) : ScanIter α :=
  ps.foldl (fun it p => { it with cursor := p.1, batch := p.2 }) iter

variable {decode}

theorem Requested.append {spec : PageSpec} {c mid last : UInt64}
    {log later : List (Exchange Await)} (h : Requested decode spec c log mid)
    (h' : Requested decode spec mid later last) :
    Requested decode spec c (log ++ later) last := by
  induction log generalizing c with
  | nil =>
      have hmid : mid = c := h
      rw [← hmid]
      exact h'
  | cons e log ih => exact ⟨h.1, ih h.2⟩

@[simp] theorem pages_nil : pages decode [] = [] := rfl

@[simp] theorem pages_append (log later : List (Exchange Await)) :
    pages decode (log ++ later) = pages decode log ++ pages decode later := by
  simp [pages]

theorem pages_cons_page {e : Exchange Await} {p : UInt64 × List α}
    (h : page? decode e = some p) (log : List (Exchange Await)) :
    pages decode (e :: log) = p :: pages decode log := by
  simp [pages, h]

theorem pages_cons_failure {e : Exchange Await} (h : page? decode e = none)
    (log : List (Exchange Await)) : pages decode (e :: log) = pages decode log := by
  simp [pages, h]

theorem page?_decoded (cmd : Cmd) {reply : Value} {p : UInt64 × List α}
    (h : decode reply = .ok p) :
    page? decode (⟨cmd, .ready (.ok reply)⟩ : Exchange Await) = some p := by
  simp [page?, h, Except.toOption]

theorem page?_undecoded {cmd : Cmd} {reply : Value} {err : RedisError}
    (h : decode reply = .error err) :
    page? decode (⟨cmd, .ready (.ok reply)⟩ : Exchange Await) = none := by
  simp [page?, h, Except.toOption]

@[simp] theorem page?_error (cmd : Cmd) (err : RedisError) :
    page? decode (⟨cmd, .ready (.error err)⟩ : Exchange Await) = none := rfl

@[simp] theorem page?_dropped (cmd : Cmd) :
    page? decode (⟨cmd, .dropped⟩ : Exchange Await) = none := rfl

@[simp] theorem items_returned (item : Option α) (results : List (Outcome α)) :
    items (.returned item :: results) = item.toList ++ items results := by
  cases item <;> simp [items]

@[simp] theorem items_cancelled (results : List (Outcome α)) :
    items (.cancelled :: results) = items results := by
  simp [items]

@[simp] theorem items_pending (cmd : Cmd) (results : List (Outcome α)) :
    items (.pending cmd :: results) = items results := by
  simp [items]

@[simp] theorem items_nil : items ([] : List (Outcome α)) = [] := rfl

/-! ## One call -/

variable (decode) in
/-- What a call does to the history, whatever the environment. -/
structure CallSpec (iter : ScanIter α) (t : CallTrace (ScanIter α) Await α) : Prop where
  spec : t.iter.spec = iter.spec
  requested : Requested decode iter.spec iter.cursor t.log t.iter.cursor
  conserved : iter.batch ++ (pages decode t.log).flatMap Prod.snd =
    items [t.outcome] ++ t.iter.batch
  failed : ∀ e ∈ t.log, page? decode e = none → items [t.outcome] = []
  installed : items [t.outcome] = [] → t.iter = install iter (pages decode t.log)
  ended : t.outcome = .returned none → t.iter.batch = [] ∧
    (t.iter.cursor = 0 ↔ ∀ e ∈ t.log, page? decode e ≠ none)

/-- A call whose single exchange fails leaves the iterator as it was. -/
theorem CallSpec.of_failure {iter : ScanIter α} {e : Exchange Await} {outcome : Outcome α}
    {rest : List Await} (hb : iter.batch = []) (hc : iter.cursor ≠ 0)
    (hcmd : e.cmd.args = pageTokens iter.spec iter.cursor) (hp : page? decode e = none)
    (hout : items [outcome] = []) : CallSpec decode iter ⟨outcome, iter, [e], rest⟩ where
  spec := rfl
  requested := ⟨hcmd, by simp [Requested, nextCursor, hp]⟩
  conserved := by simp [pages_cons_failure hp, hb, hout]
  failed := fun _ _ _ => hout
  installed := by
    intro _
    simp [pages_cons_failure hp, install]
  ended := by
    intro _
    refine ⟨hb, fun h => absurd h hc, ?_⟩
    intro h
    exact absurd hp (h e List.mem_cons_self)

/-- A decoded page in front of a call from the iterator with that page installed. -/
theorem CallSpec.after_page {iter : ScanIter α} {e : Exchange Await} {p : UInt64 × List α}
    {t : CallTrace (ScanIter α) Await α} (hb : iter.batch = [])
    (hcmd : e.cmd.args = pageTokens iter.spec iter.cursor) (hp : page? decode e = some p)
    (h : CallSpec decode { iter with cursor := p.1, batch := p.2 } t) :
    CallSpec decode iter (t.after e) where
  spec := h.spec
  requested := by
    refine ⟨hcmd, ?_⟩
    have hc : nextCursor decode iter.cursor e = p.1 := by simp [nextCursor, hp]
    rw [hc]
    exact h.requested
  conserved := by
    have hcons := h.conserved
    simp only [CallTrace.after, pages_cons_page hp, List.flatMap_cons, hb, List.nil_append]
    exact hcons
  failed := by
    intro e' he' hfail
    rcases List.mem_cons.mp he' with rfl | he'
    · rw [hp] at hfail
      cases hfail
    · exact h.failed e' he' hfail
  installed := by
    intro hnone
    simp only [CallTrace.after, pages_cons_page hp, install, List.foldl_cons]
    exact h.installed hnone
  ended := by
    intro hnone
    obtain ⟨hbatch, hiff⟩ := h.ended hnone
    refine ⟨hbatch, ?_⟩
    simp only [CallTrace.after, List.mem_cons, forall_eq_or_imp, hp, ne_eq, reduceCtorEq,
      not_false_eq_true, true_and]
    exact hiff

/-- A call answered without any exchange. -/
theorem CallSpec.of_batch (iter : ScanIter α) (env : List Await)
    (h : iter.batch ≠ [] ∨ iter.cursor = 0) :
    CallSpec decode iter (iter.nextItem decode env) := by
  cases hb : iter.batch with
  | cons v batch =>
      rw [ScanIter.nextItem_item hb]
      exact ⟨rfl, rfl, by simp [hb], by simp, by simp, by simp⟩
  | nil =>
      have hc : iter.cursor = 0 := by
        rcases h with h | h
        · exact absurd hb h
        · exact h
      rw [ScanIter.nextItem_end hb hc]
      exact ⟨rfl, rfl, by simp, by simp, by simp [install], by simp [hb, hc]⟩

variable (decode) in
/-- Every call of the asynchronous iterator meets its specification. -/
theorem nextItem_spec (iter : ScanIter α) (env : List Await) :
    CallSpec decode iter (iter.nextItem decode env) := by
  induction env generalizing iter with
  | nil =>
      by_cases h : iter.batch ≠ [] ∨ iter.cursor = 0
      · exact .of_batch iter [] h
      · simp only [not_or, not_not] at h
        rw [ScanIter.nextItem_pending h.1 h.2]
        exact ⟨rfl, rfl, by simp, by simp, by simp [install], by simp⟩
  | cons await rest ih =>
      by_cases h : iter.batch ≠ [] ∨ iter.cursor = 0
      · exact .of_batch iter (await :: rest) h
      · simp only [not_or, not_not] at h
        obtain ⟨hb, hc⟩ := h
        cases await with
        | dropped =>
            rw [ScanIter.nextItem_dropped hb hc]
            exact .of_failure hb hc (args_toCmd _ _) rfl (by simp)
        | ready reply =>
            cases reply with
            | error err =>
                rw [ScanIter.nextItem_error hb hc]
                exact .of_failure hb hc (args_toCmd _ _) rfl (by simp)
            | ok reply =>
                cases hd : decode reply with
                | error err =>
                    rw [ScanIter.nextItem_undecoded hb hc hd]
                    exact .of_failure hb hc (args_toCmd _ _) (page?_undecoded hd) (by simp)
                | ok p =>
                    rw [ScanIter.nextItem_page hb hc hd]
                    exact .after_page hb (args_toCmd _ _) (page?_decoded _ hd) (ih _)

/-! ## Sessions -/

variable (decode) in
/-- The history `log` accounts for the elements handed out by `results` and for
the state of the iterator. -/
structure Accounts (spec : PageSpec) (log : List (Exchange Await)) (results : List (Outcome α))
    (iter : ScanIter α) : Prop where
  layout : iter.spec = spec
  requested : Requested decode spec 0 log iter.cursor
  conserved : items results ++ iter.batch = (pages decode log).flatMap Prod.snd

theorem items_append (results later : List (Outcome α)) :
    items (results ++ later) = items results ++ items later := by
  simp [items]

/-- A call extends an accounted history by its own exchanges. -/
theorem Accounts.call {spec : PageSpec} {log : List (Exchange Await)}
    {results : List (Outcome α)} {iter : ScanIter α} {t : CallTrace (ScanIter α) Await α}
    (h : Accounts decode spec log results iter) (ht : CallSpec decode iter t) :
    Accounts decode spec (log ++ t.log) (results ++ [t.outcome]) t.iter where
  layout := ht.spec.trans h.layout
  requested := by
    apply h.requested.append
    have hreq := ht.requested
    rw [h.layout] at hreq
    exact hreq
  conserved := by
    calc items (results ++ [t.outcome]) ++ t.iter.batch
        = items results ++ (items [t.outcome] ++ t.iter.batch) := by
          rw [items_append, List.append_assoc]
      _ = items results ++ (iter.batch ++ (pages decode t.log).flatMap Prod.snd) := by
          rw [ht.conserved]
      _ = (items results ++ iter.batch) ++ (pages decode t.log).flatMap Prod.snd := by
          rw [List.append_assoc]
      _ = (pages decode (log ++ t.log)).flatMap Prod.snd := by
          rw [h.conserved, pages_append, List.flatMap_append]

/-- So do any number of calls. -/
theorem Accounts.callMany {spec : PageSpec} {log : List (Exchange Await)}
    {results : List (Outcome α)} {iter : ScanIter α}
    (h : Accounts decode spec log results iter) (n : Nat) (env : List Await) :
    let s := ScanIter.callMany decode n iter env
    Accounts decode spec (log ++ s.log) (results ++ s.results) s.iter := by
  induction n generalizing log results iter env with
  | zero => simpa [ScanIter.callMany] using h
  | succ n ih =>
      have hcall := h.call (nextItem_spec decode iter env)
      have hlater := ih hcall (iter.nextItem decode env).rest
      simp only [ScanIter.callMany]
      cases ho : (iter.nextItem decode env).outcome with
      | pending cmd =>
          rw [ho] at hcall
          exact hcall
      | returned item =>
          rw [ho] at hlater
          simpa using hlater
      | cancelled =>
          rw [ho] at hlater
          simpa using hlater

/-- A new iterator starts with an accounted history. -/
theorem Accounts.new {prefixArgs suffixArgs : List Bytes} {env rest : List Await}
    {iter : ScanIter α} {log : List (Exchange Await)}
    (h : ScanIter.new decode prefixArgs suffixArgs env = ⟨.created iter, log, rest⟩) :
    Accounts decode ⟨prefixArgs, suffixArgs⟩ log [] iter := by
  match env with
  | [] => simp [ScanIter.new] at h
  | .dropped :: env => simp [ScanIter.new] at h
  | .ready (.error err) :: env => simp [ScanIter.new] at h
  | .ready (.ok reply) :: env =>
      cases hd : decode reply with
      | error err => simp [ScanIter.new, hd] at h
      | ok p =>
          simp only [ScanIter.new, hd, NewTrace.mk.injEq, NewOutcome.created.injEq] at h
          obtain ⟨rfl, rfl, rfl⟩ := h
          have hp := page?_decoded (PageSpec.toCmd ⟨prefixArgs, suffixArgs⟩ 0) hd
          refine ⟨rfl, ⟨args_toCmd _ _, ?_⟩, ?_⟩
          · simp [Requested, nextCursor, hp]
          · simp [pages_cons_page hp]

variable (decode) in
/-- The cursor of the last decoded page, 0 before the first. -/
def lastCursor (log : List (Exchange Await)) : UInt64 :=
  ((pages decode log).map Prod.fst).getLast?.getD 0

theorem Requested.last_eq {spec : PageSpec} {c last : UInt64} {log : List (Exchange Await)}
    (h : Requested decode spec c log last) :
    last = (((pages decode log).map Prod.fst).getLast?).getD c := by
  induction log generalizing c with
  | nil => exact h
  | cons e log ih =>
      have hlast := ih h.2
      cases hp : page? decode e with
      | none =>
          rw [pages_cons_failure hp]
          simpa [nextCursor, hp] using hlast
      | some p =>
          rw [pages_cons_page hp]
          simpa [nextCursor, hp, List.getLast?_cons] using hlast

variable (decode) in
/-- A call that met a failed fetch, an undecodable reply or its cancelation
hands out nothing and leaves the iterator as the last page decoded in it, if
any, has left it. -/
def FailureKeeps (iter : ScanIter α) (t : CallTrace (ScanIter α) Await α) : Prop :=
  ∀ e ∈ t.log, page? decode e = none →
    items [t.outcome] = [] ∧ t.iter = install iter (pages decode t.log)

theorem CallSpec.failureKeeps {iter : ScanIter α} {t : CallTrace (ScanIter α) Await α}
    (h : CallSpec decode iter t) : FailureKeeps decode iter t := by
  intro e he hfail
  have hnone := h.failed e he hfail
  exact ⟨hnone, h.installed hnone⟩

variable (decode) in
/-- The invariant of a scan after any number of calls of either flavour. -/
theorem scan_accounts_across_failures (prefixArgs suffixArgs : List Bytes) :
    (∀ env rest iter log,
      ScanIter.new decode prefixArgs suffixArgs env = ⟨.created iter, log, rest⟩ → ∀ n,
        let s := ScanIter.callMany decode n iter rest
        Accounts decode ⟨prefixArgs, suffixArgs⟩ (log ++ s.log) s.results s.iter ∧
        s.iter.cursor = lastCursor decode (log ++ s.log) ∧
        ∀ env', FailureKeeps decode s.iter (s.iter.nextItem decode env')) ∧
    (∀ env rest iter log,
      SyncScanIter.new decode prefixArgs suffixArgs env = ⟨.created iter, log, rest⟩ → ∀ n,
        let s := SyncScanIter.callMany decode n iter rest
        Accounts decode ⟨prefixArgs, suffixArgs⟩ ((log ++ s.log).map Exchange.toAsync)
          s.results s.iter.toAsync ∧
        s.iter.cursor = lastCursor decode ((log ++ s.log).map Exchange.toAsync) ∧
        ∀ env', let t := s.iter.next decode env'
          FailureKeeps decode s.iter.toAsync
            ⟨t.outcome, t.iter.toAsync, t.log.map Exchange.toAsync, t.rest.map .ready⟩) := by
  constructor
  · intro env rest iter log hnew n
    have hacc := (Accounts.new hnew).callMany n rest
    exact ⟨hacc, hacc.requested.last_eq, fun env' => (nextItem_spec decode _ env').failureKeeps⟩
  · intro env rest iter log hnew n
    have hasync := (Accounts.new (SyncScanIter.new_toAsync hnew)).callMany n (rest.map .ready)
    simp only [SyncScanIter.callMany_toAsync, ← List.map_append, List.nil_append] at hasync
    refine ⟨hasync, hasync.requested.last_eq, ?_⟩
    intro env'
    have hcall := nextItem_spec decode
      (SyncScanIter.callMany decode n iter rest).iter.toAsync (env'.map .ready)
    rw [SyncScanIter.nextItem_toAsync] at hcall
    exact hcall.failureKeeps

def lostConnection : RedisError := ⟨.ioError, "connection lost", false⟩

/-- A page with one key; then an empty page, a canceled call and a lost
connection before the last page arrives. -/
def interruptedScan : List Await :=
  [.ready (.ok (pageReply "7" ["a"])), .ready (.ok (pageReply "5" [])), .dropped,
    .ready (.error lostConnection), .ready (.ok (pageReply "0" ["b"]))]

theorem scan_accounts_across_failures_interrupted :
    ∃ iter log rest,
      ScanIter.new bytesPage [utf8 "SCAN"] [utf8 "COUNT", utf8 "2"] interruptedScan =
        ⟨.created iter, log, rest⟩ ∧
      let s := ScanIter.callMany bytesPage 5 iter rest
      items s.results = [utf8 "a", utf8 "b"] ∧
      (log ++ s.log).map (fun e => e.cmd.args) =
        ["0", "7", "5", "5", "5"].map (fun c => [utf8 "SCAN", utf8 c, utf8 "COUNT", utf8 "2"]) ∧
      Accounts bytesPage ⟨[utf8 "SCAN"], [utf8 "COUNT", utf8 "2"]⟩ (log ++ s.log) s.results
        s.iter :=
  ⟨_, _, _, rfl, rfl, by decide +kernel,
    ((scan_accounts_across_failures bytesPage [utf8 "SCAN"] [utf8 "COUNT", utf8 "2"]).1
      interruptedScan _ _ _ rfl 5).1⟩

/-! ## The end of a scan -/

section Ending

variable (decode)

/-- Every later call returns `None` and sends no command. -/
def StaysEnded (iter : ScanIter α) : Prop :=
  ∀ m env, let s := ScanIter.callMany decode m iter env
    s.results = List.replicate m (.returned none) ∧ s.sent = []

/-- The blocking counterpart of `StaysEnded`. -/
def SyncStaysEnded (iter : SyncScanIter α) : Prop :=
  ∀ m env, let s := SyncScanIter.callMany decode m iter env
    s.results = List.replicate m (.returned none) ∧ s.sent = []

/-- Fetching pages from the cursor `c` on, the environment fails before it
brings an element or the last page. -/
def FetchFails : UInt64 → List Await → Prop
  | _, [] => False
  | c, await :: rest => c ≠ 0 ∧
      match await with
      | .ready (.ok reply) =>
          match decode reply with
          | .ok (next, []) => FetchFails next rest
          | .ok (_, _ :: _) => False
          | .error _ => True
      | _ => True

variable {decode}

variable (decode) in
/-- A call meets a failed exchange exactly when it has to fetch and the fetch fails. -/
theorem nextItem_meets_failure_iff (iter : ScanIter α) (env : List Await) :
    (∃ e ∈ (iter.nextItem decode env).log, page? decode e = none) ↔
      iter.batch = [] ∧ FetchFails decode iter.cursor env := by
  induction env generalizing iter with
  | nil =>
      cases hb : iter.batch with
      | cons v batch => simp [ScanIter.nextItem_item hb]
      | nil =>
          by_cases hc : iter.cursor = 0
          · simp [ScanIter.nextItem_end hb hc, FetchFails]
          · simp [ScanIter.nextItem_pending hb hc, FetchFails]
  | cons await rest ih =>
      cases hb : iter.batch with
      | cons v batch => simp [ScanIter.nextItem_item hb]
      | nil =>
          by_cases hc : iter.cursor = 0
          · simp [ScanIter.nextItem_end hb hc, FetchFails, hc]
          · match await with
            | .dropped => simp [ScanIter.nextItem_dropped hb hc, FetchFails, hc]
            | .ready (.error err) => simp [ScanIter.nextItem_error hb hc, FetchFails, hc]
            | .ready (.ok reply) =>
                cases hd : decode reply with
                | error err =>
                    simp [ScanIter.nextItem_undecoded hb hc hd, page?_undecoded hd, FetchFails,
                      hc, hd]
                | ok p =>
                    have hrest := ih { iter with cursor := p.1, batch := p.2 }
                    rw [ScanIter.nextItem_page hb hc hd]
                    simp only [CallTrace.after, List.exists_mem_cons_iff, page?_decoded _ hd,
                      reduceCtorEq, false_or, hrest]
                    obtain ⟨next, batch⟩ := p
                    cases batch with
                    | nil => simp [FetchFails, hc, hd]
                    | cons v batch => simp [FetchFails, hc, hd]

/-- An iterator at cursor 0 with nothing buffered stays ended. -/
theorem staysEnded_of_cursor_zero {iter : ScanIter α} (hb : iter.batch = [])
    (hc : iter.cursor = 0) : StaysEnded decode iter := by
  intro m env
  induction m with
  | zero => exact ⟨rfl, rfl⟩
  | succ m ih =>
      obtain ⟨hres, hsent⟩ := ih
      simp only [ScanIter.callMany, ScanIter.nextItem_end hb hc]
      refine ⟨?_, ?_⟩
      · rw [hres, List.replicate_succ]
      · simpa [Session.sent, awaiting] using hsent

/-- With an empty batch, only an iterator at cursor 0 stays ended: any other one
sends the request for its cursor at the next call. -/
theorem StaysEnded.cursor_eq_zero {iter : ScanIter α} (hb : iter.batch = [])
    (h : StaysEnded decode iter) : iter.cursor = 0 := by
  by_contra hc
  have hsent := (h 1 []).2
  simp [ScanIter.callMany, ScanIter.nextItem_pending hb hc, Session.sent, awaiting] at hsent

/-- Whether a call that returned `None` has ended the iteration for good. -/
theorem staysEnded_iff {iter : ScanIter α} {env : List Await}
    (hnone : (iter.nextItem decode env).outcome = .returned none) :
    StaysEnded decode (iter.nextItem decode env).iter ↔ ¬ FetchFails decode iter.cursor env := by
  have hspec := nextItem_spec decode iter env
  obtain ⟨hbatch, hcursor⟩ := hspec.ended hnone
  have hmeets := nextItem_meets_failure_iff decode iter env
  have hempty : iter.batch = [] := by
    have hcons := hspec.conserved
    simp only [hnone, hbatch, items_returned, items_nil, Option.toList_none, List.append_nil,
      List.append_eq_nil_iff] at hcons
    exact hcons.1
  have hends : StaysEnded decode (iter.nextItem decode env).iter ↔
      (iter.nextItem decode env).iter.cursor = 0 :=
    ⟨StaysEnded.cursor_eq_zero hbatch, staysEnded_of_cursor_zero hbatch⟩
  rw [hends, hcursor]
  constructor
  · intro hall hfails
    obtain ⟨e, he, hp⟩ := hmeets.mpr ⟨hempty, hfails⟩
    exact hall e he hp
  · intro hok e he hp
    exact hok (hmeets.mp ⟨e, he, hp⟩).2

theorem syncStaysEnded_iff_toAsync {iter : SyncScanIter α} (hb : iter.batch = []) :
    SyncStaysEnded decode iter ↔ StaysEnded decode iter.toAsync := by
  constructor
  · intro h
    apply staysEnded_of_cursor_zero hb
    by_contra hc
    have hsent := (h 1 []).2
    rw [(SyncScanIter.session_toAsync decode 1 iter []).2.1] at hsent
    simp [ScanIter.callMany, ScanIter.nextItem_pending (by exact hb) hc, Session.sent,
      awaiting] at hsent
  · intro h m env
    obtain ⟨hres, hsent, _⟩ := SyncScanIter.session_toAsync decode m iter env
    simp only [hres, hsent]
    exact h m (env.map .ready)

variable (decode) in
/-- In every run, a call that returned `None` has ended the iteration for good
exactly when the pages it requested all arrived and decoded. -/
theorem ended_scan_stays_ended_iff (prefixArgs suffixArgs : List Bytes) (n : Nat) :
    (∀ env rest iter log env',
      ScanIter.new decode prefixArgs suffixArgs env = ⟨.created iter, log, rest⟩ →
      let s := ScanIter.callMany decode n iter rest
      let t := s.iter.nextItem decode env'
      t.outcome = .returned none →
        (StaysEnded decode t.iter ↔ ¬ FetchFails decode s.iter.cursor env')) ∧
    (∀ env rest iter log env',
      SyncScanIter.new decode prefixArgs suffixArgs env = ⟨.created iter, log, rest⟩ →
      let s := SyncScanIter.callMany decode n iter rest
      let t := s.iter.next decode env'
      t.outcome = .returned none →
        (SyncStaysEnded decode t.iter ↔
          ¬ FetchFails decode s.iter.cursor (env'.map .ready))) := by
  constructor
  · intro env rest iter log env' _ s t hnone
    exact staysEnded_iff hnone
  · intro env rest iter log env' _ s t hnone
    have hasync := SyncScanIter.nextItem_toAsync decode s.iter env'
    have hnone' : (s.iter.toAsync.nextItem decode (env'.map .ready)).outcome =
        .returned none := by
      rw [hasync]
      exact hnone
    have hiff := staysEnded_iff hnone'
    have hbatch := ((nextItem_spec decode _ _).ended hnone').1
    rw [hasync] at hiff hbatch
    rw [syncStaysEnded_iff_toAsync hbatch]
    exact hiff

/-- One page with a key, a lost connection, and the last page. -/
def recoveringReplies : List (RedisResult Value) :=
  [.ok (pageReply "7" ["a"]), .error lostConnection, .ok (pageReply "0" ["b"])]

/-- A server that recovers after the failed fetch: the iterator returns `None`
and then goes on. -/
theorem ended_scan_resumes :
    (∃ iter log rest,
      ScanIter.new bytesPage [utf8 "SCAN"] [] (recoveringReplies.map .ready) =
        ⟨.created iter, log, rest⟩ ∧
      (ScanIter.callMany bytesPage 3 iter rest).results =
        [.returned (some (utf8 "a")), .returned none, .returned (some (utf8 "b"))] ∧
      ¬ StaysEnded bytesPage (ScanIter.callMany bytesPage 2 iter rest).iter) ∧
    (∃ iter log rest,
      SyncScanIter.new bytesPage [utf8 "SCAN"] [] recoveringReplies =
        ⟨.created iter, log, rest⟩ ∧
      (SyncScanIter.callMany bytesPage 3 iter rest).results =
        [.returned (some (utf8 "a")), .returned none, .returned (some (utf8 "b"))] ∧
      ¬ SyncStaysEnded bytesPage (SyncScanIter.callMany bytesPage 2 iter rest).iter) := by
  refine ⟨⟨_, _, _, rfl, rfl, ?_⟩, ⟨_, _, _, rfl, rfl, ?_⟩⟩
  · intro h
    have hres := (h 1 [.ready (.ok (pageReply "0" ["b"]))]).1
    cases hres
  · intro h
    have hres := (h 1 [.ok (pageReply "0" ["b"])]).1
    cases hres

theorem ended_scan_stays_ended_last_page :
    ∃ iter log rest,
      ScanIter.new bytesPage [utf8 "SCAN"] [] [.ready (.ok (pageReply "7" ["a"]))] =
        ⟨.created iter, log, rest⟩ ∧
      let s := ScanIter.callMany bytesPage 1 iter rest
      let t := s.iter.nextItem bytesPage [.ready (.ok (pageReply "0" []))]
      t.outcome = .returned none ∧ StaysEnded bytesPage t.iter :=
  ⟨_, _, _, rfl, rfl, ((ended_scan_stays_ended_iff bytesPage [utf8 "SCAN"] [] 1).1
    [.ready (.ok (pageReply "7" ["a"]))] _ _ _ [.ready (.ok (pageReply "0" []))] rfl rfl).mpr
    fun h => h.2.elim⟩

end Ending

end GlideRust.Commands.ScanHistory
