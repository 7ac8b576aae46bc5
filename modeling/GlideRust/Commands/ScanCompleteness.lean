import GlideRust.Commands.Scan

/-!
# Scans of a server that answers every request

A server run answers the successive requests of one scan with decodable pages,
the last of which carries cursor 0. What the iterator still has to hand out and
to request is determined by its state and the pages to come; a call takes the
first element off the one and its own requests off the other.
-/

namespace GlideRust.Commands.ScanCompleteness

open Redis Scan

variable {α : Type} (decode : Value → RedisResult (UInt64 × List α))

/-! ## Server runs -/

/-- After cursor `c`, the pages to come end the scan: every cursor but the last
is nonzero. -/
def EndsAfter : UInt64 → List (UInt64 × List α) → Prop
  | c, [] => c = 0
  | c, p :: ps => c ≠ 0 ∧ EndsAfter p.1 ps

/-- The replies decode to the pages. -/
def Serves (replies : List Value) (ps : List (UInt64 × List α)) : Prop :=
  replies.map decode = ps.map .ok

/-- The requests for the pages that follow cursor `c`. -/
def requests (tokens : UInt64 → List Bytes) (c : UInt64) (ps : List (UInt64 × List α)) :
    List Cmd :=
  (c :: ps.map Prod.fst).dropLast.map fun cursor => ⟨tokens cursor⟩

/-- The requests after `c`, the first page of which is `p`. -/
theorem requests_cons (tokens : UInt64 → List Bytes) (c : UInt64) (p : UInt64 × List α)
    (ps : List (UInt64 × List α)) :
    requests tokens c (p :: ps) = ⟨tokens c⟩ :: requests tokens p.1 ps := by
  simp [requests]

/-- The elements `todo` are to be handed out and the commands `cmds` to be sent
before the environment is down to `extra`. -/
structure Serving (iter : ScanIter α) (env : List Await) (todo : List α) (cmds : List Cmd)
    (extra : List Await) (replies : List Value) (ps : List (UInt64 × List α)) : Prop where
  env_eq : env = replies.map (fun reply => .ready (.ok reply)) ++ extra
  serves : Serves decode replies ps
  ends : EndsAfter iter.cursor ps
  todo_eq : todo = iter.batch ++ ps.flatMap Prod.snd
  cmds_eq : cmds = requests (pageTokens iter.spec) iter.cursor ps

variable {decode}

theorem Serves.cons {replies : List Value} {p : UInt64 × List α} {ps : List (UInt64 × List α)}
    (h : Serves decode replies (p :: ps)) :
    ∃ reply replies', replies = reply :: replies' ∧ decode reply = .ok p ∧
      Serves decode replies' ps := by
  cases replies with
  | nil => simp [Serves] at h
  | cons reply replies' =>
      simp only [Serves, List.map_cons, List.cons.injEq] at h
      exact ⟨reply, replies', rfl, h.1, h.2⟩

/-! ## One call -/

variable (decode) in
/-- What a call does while the server answers. -/
structure Served (t : CallTrace (ScanIter α) Await α) (todo : List α) (cmds : List Cmd)
    (extra : List Await) : Prop where
  outcome : t.outcome = .returned todo.head?
  serving : ∃ cmds' replies ps, Serving decode t.iter t.rest todo.tail cmds' extra replies ps ∧
    cmds = t.log.map Exchange.cmd ++ cmds' ∧ (todo = [] → cmds' = [] ∧ t.rest = extra)

/-- A call of the iterator while the server answers. The induction is on the
pages to come: an empty page is consumed within the call. -/
theorem nextItem_served {iter : ScanIter α} {env extra : List Await} {todo : List α}
    {cmds : List Cmd} {replies : List Value} {ps : List (UInt64 × List α)}
    (h : Serving decode iter env todo cmds extra replies ps) :
    Served decode (iter.nextItem decode env) todo cmds extra := by
  induction ps generalizing iter env cmds replies with
  | nil =>
      have hreplies : replies = [] := by simpa [Serves] using h.serves
      cases hb : iter.batch with
      | cons v batch =>
          rw [ScanIter.nextItem_item hb]
          have htodo : todo = v :: batch := by simpa [hb] using h.todo_eq
          rw [htodo]
          refine ⟨rfl, cmds, replies, [], ⟨h.env_eq, h.serves, h.ends, ?_, h.cmds_eq⟩, rfl, ?_⟩
          · simp
          · simp
      | nil =>
          have hc : iter.cursor = 0 := h.ends
          rw [ScanIter.nextItem_end hb hc]
          have htodo : todo = [] := by simpa [hb] using h.todo_eq
          have hcmds : cmds = [] := by simpa [requests] using h.cmds_eq
          have henv : env = extra := by simpa [hreplies] using h.env_eq
          rw [htodo, hcmds]
          refine ⟨rfl, [], replies, [], ⟨h.env_eq, h.serves, h.ends, ?_, rfl⟩, rfl, ?_⟩
          · simp [hb]
          · exact fun _ => ⟨rfl, henv⟩
  | cons p ps ih =>
      cases hb : iter.batch with
      | cons v batch =>
          rw [ScanIter.nextItem_item hb]
          have htodo : todo = v :: (batch ++ (p :: ps).flatMap Prod.snd) := by
            simpa [hb] using h.todo_eq
          rw [htodo]
          exact ⟨rfl, cmds, replies, p :: ps,
            ⟨h.env_eq, h.serves, h.ends, rfl, h.cmds_eq⟩, rfl, by simp⟩
      | nil =>
          obtain ⟨hc, hends⟩ := h.ends
          obtain ⟨reply, replies', rfl, hd, hserves⟩ := h.serves.cons
          have henv := h.env_eq
          rw [List.map_cons, List.cons_append] at henv
          rw [henv, ScanIter.nextItem_page hb hc hd]
          have htodo := h.todo_eq
          rw [hb, List.nil_append, List.flatMap_cons] at htodo
          have hnext : Serving decode { iter with cursor := p.1, batch := p.2 } _ todo _ extra
              replies' ps := ⟨rfl, hserves, hends, htodo, rfl⟩
          obtain ⟨houtcome, cmds', replies'', ps', hserving, hcmds, hlast⟩ := ih hnext
          refine ⟨houtcome, cmds', replies'', ps', hserving, ?_, hlast⟩
          calc cmds
              = requests (pageTokens iter.spec) iter.cursor (p :: ps) := h.cmds_eq
            _ = iter.spec.toCmd iter.cursor :: requests (pageTokens iter.spec) p.1 ps := by
                rw [requests_cons, toCmd_eq]
            _ = _ := by
                rw [hcmds]
                rfl

/-! ## Sessions -/

/-- The commands of a session whose first call returned. -/
theorem sent_returned (item : Option α) (t : CallTrace (ScanIter α) Await α)
    (s : Session (ScanIter α) Await α) :
    (⟨.returned item :: s.results, s.iter, t.log ++ s.log, s.rest⟩ :
      Session (ScanIter α) Await α).sent = t.log.map Exchange.cmd ++ s.sent := by
  simp [Session.sent, awaiting]

/-- What any number of calls do while the server answers. -/
theorem callMany_served {iter : ScanIter α} {env extra : List Await} {todo : List α}
    {cmds : List Cmd} {replies : List Value} {ps : List (UInt64 × List α)}
    (h : Serving decode iter env todo cmds extra replies ps) (m : Nat) :
    let s := ScanIter.callMany decode m iter env
    s.results = (List.range m).map (fun i => .returned todo[i]?) ∧ s.sent <+: cmds ∧
      (todo.length < m → s.sent = cmds ∧ s.rest = extra) := by
  induction m generalizing iter env todo cmds replies ps with
  | zero =>
      refine ⟨rfl, List.nil_prefix, ?_⟩
      intro hlt
      omega
  | succ m ih =>
      obtain ⟨houtcome, cmds', replies', ps', hserving, hcmds, hlast⟩ := nextItem_served h
      obtain ⟨hresults, hsent, hdone⟩ := ih hserving
      simp only [ScanIter.callMany, houtcome]
      refine ⟨?_, ?_, ?_⟩
      · rw [hresults, List.range_succ_eq_map, List.map_cons, List.map_map]
        congr 1
        · rw [List.head?_eq_getElem?]
        · apply List.map_congr_left
          intro i _
          simp
      · rw [sent_returned, hcmds]
        exact (List.prefix_append_right_inj _).mpr hsent
      · intro hlt
        rw [sent_returned, hcmds, List.append_cancel_left_eq]
        by_cases hm : todo.tail.length < m
        · exact hdone hm
        · have hzero : m = 0 := by
            rw [List.length_tail] at hm
            omega
          have htodo : todo = [] := List.eq_nil_of_length_eq_zero (by omega)
          obtain ⟨hnil, hrest⟩ := hlast htodo
          rw [hzero, hnil]
          exact ⟨rfl, hrest⟩

/-! ## Whole iterations -/

variable (decode) in
/-- Whatever pages the server answers with, the created iterator hands out
exactly their elements and then `None`, sends exactly the requests for them, and
leaves the rest of the environment alone. -/
def Completes (create : List Await → NewTrace (ScanIter α) Await)
    (tokens : UInt64 → List Bytes) : Prop :=
  ∀ (c : UInt64) (b : List α) ps replies extra,
    EndsAfter c ps → Serves decode replies ((c, b) :: ps) →
    let created := create (replies.map (fun reply => .ready (.ok reply)) ++ extra)
    let elements := ((c, b) :: ps).flatMap Prod.snd
    ∃ iter, created.outcome = .created iter ∧ ∀ m,
      let s := ScanIter.callMany decode m iter created.rest
      let sent := created.log.map Exchange.cmd ++ s.sent
      s.results = (List.range m).map (fun i => .returned elements[i]?) ∧
      sent <+: requests tokens 0 ((c, b) :: ps) ∧
      (elements.length < m → sent = requests tokens 0 ((c, b) :: ps) ∧ s.rest = extra)

variable (decode) in
/-- The blocking counterpart of `Completes`. -/
def SyncCompletes (create : List (RedisResult Value) →
    NewTrace (SyncScanIter α) (RedisResult Value)) (tokens : UInt64 → List Bytes) : Prop :=
  ∀ (c : UInt64) (b : List α) ps replies extra,
    EndsAfter c ps → Serves decode replies ((c, b) :: ps) →
    let created := create (replies.map .ok ++ extra)
    let elements := ((c, b) :: ps).flatMap Prod.snd
    ∃ iter, created.outcome = .created iter ∧ ∀ m,
      let s := SyncScanIter.callMany decode m iter created.rest
      let sent := created.log.map Exchange.cmd ++ s.sent
      s.results = (List.range m).map (fun i => .returned elements[i]?) ∧
      sent <+: requests tokens 0 ((c, b) :: ps) ∧
      (elements.length < m → sent = requests tokens 0 ((c, b) :: ps) ∧ s.rest = extra)

theorem new_completes (spec : PageSpec) :
    Completes decode (ScanIter.new decode spec.prefixArgs spec.suffixArgs)
      (pageTokens spec) := by
  intro c b ps replies extra hends hserves
  obtain ⟨reply, replies', rfl, hd, hserves'⟩ := hserves.cons
  simp only [List.map_cons, List.cons_append, ScanIter.new, hd, NewOutcome.created.injEq,
    exists_eq_left', toCmd_eq, requests_cons]
  intro m
  have hserving : Serving decode ⟨spec, c, b⟩
      (replies'.map (fun reply => .ready (.ok reply)) ++ extra)
      (((c, b) :: ps).flatMap Prod.snd) (requests (pageTokens spec) c ps) extra replies' ps :=
    ⟨rfl, hserves', hends, rfl, rfl⟩
  obtain ⟨hresults, hsent, hdone⟩ := callMany_served hserving m
  refine ⟨hresults, ?_, ?_⟩
  · exact List.cons_prefix_cons.mpr ⟨rfl, hsent⟩
  · intro hlt
    obtain ⟨hall, hrest⟩ := hdone hlt
    exact ⟨congrArg (List.cons _) hall, hrest⟩

theorem sync_new_completes (spec : PageSpec) :
    SyncCompletes decode (SyncScanIter.new decode spec.prefixArgs spec.suffixArgs)
      (pageTokens spec) := by
  intro c b ps replies extra hends hserves
  obtain ⟨iter, hiter, hm⟩ :=
    new_completes spec c b ps replies (extra.map .ready) hends hserves
  obtain ⟨reply, replies', rfl, hd, _⟩ := hserves.cons
  simp only [List.map_cons, List.cons_append, ScanIter.new, hd, NewOutcome.created.injEq]
    at hiter hm
  subst hiter
  simp only [List.map_cons, List.cons_append, SyncScanIter.new, hd, NewOutcome.created.injEq,
    exists_eq_left']
  intro m
  obtain ⟨hresults, hsent, hrest⟩ := SyncScanIter.session_toAsync decode m
    ⟨spec, c, b⟩ (replies'.map .ok ++ extra)
  have hm' := hm m
  simp only [List.map_append, List.map_map, Function.comp_def] at hresults hsent hrest
  rw [hresults, hsent]
  refine ⟨hm'.1, hm'.2.1, ?_⟩
  intro hlt
  obtain ⟨hall, hextra⟩ := hm'.2.2 hlt
  refine ⟨hall, ?_⟩
  have hinj : Function.Injective (Await.ready) := fun _ _ h => Await.ready.inj h
  exact List.map_injective_iff.mpr hinj (hrest.trans hextra)

end GlideRust.Commands.ScanCompleteness
