import GlideRust.Error
import GlideRust.Lib.Duration
import GlideRust.Lib.LastWrite

/-!
# Pipelines with execution options

`execute_pipeline` hands a pipeline to `glide-core` and normalises the reply to
a vector with one value for each command; `query_glide` reaches the core through
`dispatch_pipeline`, which normalises the same replies in its own way.

## Implementation notes

`glide-core` is not part of the repository. It is the record `CoreClient` of the
two entry points used here, over an arbitrary type `ρ` of routings.
-/

namespace GlideRust.PipelineExecution

open Redis Error Lib

/-- `redis::Pipeline`. -/
structure Pipeline where
  commands : List Cmd
  isAtomic : Bool

def Pipeline.isEmpty (pipeline : Pipeline) : Bool := pipeline.commands.isEmpty

/-- `redis::PipelineRetryStrategy`. -/
structure PipelineRetryStrategy where
  retryServerError : Bool
  retryConnectionError : Bool

/-- `PipelineRetryStrategy::default`. -/
def PipelineRetryStrategy.default : PipelineRetryStrategy := ⟨false, false⟩

structure PipelineOptions where
  timeout : Option Duration
  retryServerError : Bool
  retryConnectionError : Bool

namespace PipelineOptions

/-- `PipelineOptions::new` and the derived default. -/
def new : PipelineOptions := ⟨none, false, false⟩

def withTimeout (options : PipelineOptions) (timeout : Duration) : PipelineOptions :=
  { options with timeout := some timeout }

def withRetryServerError (options : PipelineOptions) (retry : Bool) : PipelineOptions :=
  { options with retryServerError := retry }

def withRetryConnectionError (options : PipelineOptions) (retry : Bool) : PipelineOptions :=
  { options with retryConnectionError := retry }

/-- `timeout_millis`: whole milliseconds, saturating at `u32::MAX`. -/
def timeoutMillis (options : PipelineOptions) : Option UInt32 :=
  options.timeout.map fun d => saturateU32 d.asMillis

end PipelineOptions

/-- The pipeline entry points of `glide_core::client::Client`. -/
structure CoreClient (ρ : Type) where
  sendTransaction : Pipeline → Option ρ → Option UInt32 → Bool → RedisResult Value
  sendPipeline :
    Pipeline → Option ρ → Bool → Option UInt32 → PipelineRetryStrategy → RedisResult Value

variable {ρ : Type}

/-- The request that `run_pipeline` makes of the core for a nonempty pipeline. -/
def sendToCore (core : CoreClient ρ) (pipeline : Pipeline) (routing : Option ρ)
    (raiseOnError : Bool) (options : PipelineOptions) : RedisResult Value :=
  let timeout := options.timeoutMillis
  if pipeline.isAtomic then core.sendTransaction pipeline routing timeout raiseOnError
  else
    core.sendPipeline pipeline routing raiseOnError timeout
      ⟨options.retryServerError, options.retryConnectionError⟩

/-- The final `match` of `run_pipeline`. -/
def normalize : Value → List Value
  | .array items => items
  | .nil => []
  | other => [other]

/-- `run_pipeline`. -/
def runPipeline (core : CoreClient ρ) (pipeline : Pipeline) (routing : Option ρ)
    (raiseOnError : Bool) (options : PipelineOptions) : Result (List Value) :=
  if pipeline.isEmpty then .ok []
  else do
    let value ← mapErr (sendToCore core pipeline routing raiseOnError options)
    return normalize value

/-- `GlideClient::execute_pipeline`. -/
def GlideClient.executePipeline (core : CoreClient ρ) (pipeline : Pipeline)
    (raiseOnError : Bool) (options : PipelineOptions) : Result (List Value) :=
  runPipeline core pipeline none raiseOnError options

/-- `GlideClusterClient::execute_pipeline`; `toRoutingInfo` is
`Route::to_routing_info` without a command. -/
def GlideClusterClient.executePipeline {Route : Type} (toRoutingInfo : Route → ρ)
    (core : CoreClient ρ) (pipeline : Pipeline) (raiseOnError : Bool) (route : Option Route)
    (options : PipelineOptions) : Result (List Value) :=
  runPipeline core pipeline (route.map toRoutingInfo) raiseOnError options

/-- `dispatch_pipeline`. -/
def dispatchPipeline (R : RedisCrate) (core : CoreClient ρ) (pipeline : Pipeline)
    (retry : Option PipelineRetryStrategy) : RedisResult (List Value) :=
  if pipeline.isAtomic then do
    let value ← core.sendTransaction pipeline none none true
    return [value]
  else do
    let value ← core.sendPipeline pipeline none true none (retry.getD .default)
    match value with
    | .array items => .ok items
    | other => .error ⟨.responseError,
        "unexpected non-array pipeline reply from glide-core: " ++ R.debug other, false⟩

/-! ## What the core is given -/

/-- A builder call on the options. -/
inductive OptionCall where
  | timeout (timeout : Duration)
  | retryServerError (retry : Bool)
  | retryConnectionError (retry : Bool)

def OptionCall.apply (options : PipelineOptions) : OptionCall → PipelineOptions
  | .timeout d => options.withTimeout d
  | .retryServerError retry => options.withRetryServerError retry
  | .retryConnectionError retry => options.withRetryConnectionError retry

def OptionCall.timeout? : OptionCall → Option Duration
  | .timeout d => some d
  | _ => none

def OptionCall.retryServerError? : OptionCall → Option Bool
  | .retryServerError retry => some retry
  | _ => none

def OptionCall.retryConnectionError? : OptionCall → Option Bool
  | .retryConnectionError retry => some retry
  | _ => none

/-- Options built by any calls in any order. -/
def PipelineOptions.build (calls : List OptionCall) : PipelineOptions :=
  calls.foldl OptionCall.apply .new

/-- The last call for each option decides. -/
theorem PipelineOptions.build_eq (calls : List OptionCall) :
    PipelineOptions.build calls =
      ⟨LastWrite.lastGiven OptionCall.timeout? calls,
        (LastWrite.lastGiven OptionCall.retryServerError? calls).getD false,
        (LastWrite.lastGiven OptionCall.retryConnectionError? calls).getD false⟩ := by
  have htimeout : (PipelineOptions.build calls).timeout =
      ((LastWrite.lastGiven OptionCall.timeout? calls).map some).getD none :=
    LastWrite.get_foldl (fun _ call => by cases call <;> rfl) calls _
  have hserver : (PipelineOptions.build calls).retryServerError =
      ((LastWrite.lastGiven OptionCall.retryServerError? calls).map id).getD false :=
    LastWrite.get_foldl (fun _ call => by cases call <;> rfl) calls _
  have hconnection : (PipelineOptions.build calls).retryConnectionError =
      ((LastWrite.lastGiven OptionCall.retryConnectionError? calls).map id).getD false :=
    LastWrite.get_foldl (fun _ call => by cases call <;> rfl) calls _
  rw [Option.map_id_fun, id] at hserver hconnection
  have hlast : ((LastWrite.lastGiven OptionCall.timeout? calls).map some).getD none =
      LastWrite.lastGiven OptionCall.timeout? calls := by
    cases LastWrite.lastGiven OptionCall.timeout? calls <;> rfl
  rw [hlast] at htimeout
  rw [← htimeout, ← hserver, ← hconnection]

/-- An atomic pipeline is sent with the last timeout alone, any other one also
with what was last said about retries. -/
theorem sendToCore_build (core : CoreClient ρ) (pipeline : Pipeline) (routing : Option ρ)
    (raiseOnError : Bool) (calls : List OptionCall) :
    sendToCore core pipeline routing raiseOnError (.build calls) =
      let timeout := (LastWrite.lastGiven OptionCall.timeout? calls).map fun d =>
        UInt32.ofNat (min d.asMillis 4294967295)
      if pipeline.isAtomic then core.sendTransaction pipeline routing timeout raiseOnError
      else
        core.sendPipeline pipeline routing raiseOnError timeout
          ⟨(LastWrite.lastGiven OptionCall.retryServerError? calls).getD false,
            (LastWrite.lastGiven OptionCall.retryConnectionError? calls).getD false⟩ := by
  simp only [sendToCore, PipelineOptions.build_eq, PipelineOptions.timeoutMillis,
    saturateU32_eq_ofNat_min]

/-! ## One reply for each command -/

theorem runPipeline_eq {core : CoreClient ρ} {pipeline : Pipeline} {routing : Option ρ}
    {raiseOnError : Bool} {options : PipelineOptions} (hne : pipeline.commands ≠ []) :
    runPipeline core pipeline routing raiseOnError options =
      match sendToCore core pipeline routing raiseOnError options with
      | .ok value => .ok (normalize value)
      | .error err => .error (GlideError.fromRedis err) := by
  have hempty : pipeline.isEmpty = false := by
    simpa [Pipeline.isEmpty] using hne
  simp only [runPipeline, hempty]
  cases sendToCore core pipeline routing raiseOnError options with
  | ok value => rfl
  | error err => rfl

/-- What is assumed of the core: an array reply holds the replies to the
commands of the pipeline, in order. -/
def ArrayContract (pipeline : Pipeline) (replyTo : Fin pipeline.commands.length → Value)
    (reply : RedisResult Value) : Prop :=
  ∀ items, reply = .ok (.array items) → items = List.ofFn replyTo

/-- A successful result comes from an array reply and has at each position the
reply to the command there. -/
def OneReplyPerCommand (pipeline : Pipeline) (replyTo : Fin pipeline.commands.length → Value)
    (reply : RedisResult Value) (result : Result (List Value)) : Prop :=
  ∀ values, result = .ok values →
    (∃ items, reply = .ok (.array items)) ∧ values.length = pipeline.commands.length ∧
      ∀ i, values[i.val]? = some (replyTo i)

/-- The core answered with an error or with an array. -/
def ErrorOrArray (reply : RedisResult Value) : Prop :=
  ∀ value, reply = .ok value → ∃ items, value = .array items

/-- The result of `run_pipeline` has one reply for each command exactly when the
core answered with an error or with an array. -/
theorem oneReplyPerCommand_iff {core : CoreClient ρ} {pipeline : Pipeline} {routing : Option ρ}
    {raiseOnError : Bool} {options : PipelineOptions}
    {replyTo : Fin pipeline.commands.length → Value} (hne : pipeline.commands ≠ [])
    (hcontract : ArrayContract pipeline replyTo
      (sendToCore core pipeline routing raiseOnError options)) :
    OneReplyPerCommand pipeline replyTo
        (sendToCore core pipeline routing raiseOnError options)
        (runPipeline core pipeline routing raiseOnError options) ↔
      ErrorOrArray (sendToCore core pipeline routing raiseOnError options) := by
  rw [runPipeline_eq hne]
  cases hreply : sendToCore core pipeline routing raiseOnError options with
  | error err =>
      have hleft : OneReplyPerCommand pipeline replyTo (.error err)
          (.error (GlideError.fromRedis err)) := by
        intro values hvalues
        cases hvalues
      have hright : ErrorOrArray (.error err) := by
        intro value hvalue
        cases hvalue
      exact ⟨fun _ => hright, fun _ => hleft⟩
  | ok value =>
      constructor
      · intro hone value' hvalue'
        obtain ⟨⟨items, hitems⟩, -, -⟩ := hone (normalize value) rfl
        cases hvalue'
        exact ⟨items, Except.ok.inj hitems⟩
      · intro harray values hvalues
        obtain ⟨items, rfl⟩ := harray value rfl
        have hitems : items = List.ofFn replyTo := hcontract items hreply
        have hsame : values = items := (Except.ok.inj hvalues).symm
        refine ⟨⟨items, rfl⟩, ?_, ?_⟩
        · rw [hsame, hitems, List.length_ofFn]
        · intro i
          rw [hsame, hitems, List.getElem?_ofFn]
          simp

/-- An error of the core is returned with its text. -/
theorem runPipeline_error {core : CoreClient ρ} {pipeline : Pipeline} {routing : Option ρ}
    {raiseOnError : Bool} {options : PipelineOptions} {err : RedisError}
    (hne : pipeline.commands ≠ [])
    (herr : sendToCore core pipeline routing raiseOnError options = .error err) :
    ∃ e, runPipeline core pipeline routing raiseOnError options = .error e ∧
      e.message = err.message := by
  refine ⟨GlideError.fromRedis err, ?_, GlideError.message_fromRedis err⟩
  rw [runPipeline_eq hne, herr]

/-- A nonempty pipeline comes back with one reply for each command exactly when
the core answered with an error or with an array, for `run_pipeline` itself and
for `execute_pipeline` of both clients; an error comes back with its text. -/
theorem runPipeline_one_reply_per_command_iff (core : CoreClient ρ) (pipeline : Pipeline)
    (routing : Option ρ) (raiseOnError : Bool) (options : PipelineOptions)
    (replyTo : Fin pipeline.commands.length → Value) (hne : pipeline.commands ≠ [])
    (hcontract : ArrayContract pipeline replyTo
      (sendToCore core pipeline routing raiseOnError options)) :
    (OneReplyPerCommand pipeline replyTo
        (sendToCore core pipeline routing raiseOnError options)
        (runPipeline core pipeline routing raiseOnError options) ↔
      ErrorOrArray (sendToCore core pipeline routing raiseOnError options)) ∧
    (routing = none →
      (OneReplyPerCommand pipeline replyTo
          (sendToCore core pipeline routing raiseOnError options)
          (GlideClient.executePipeline core pipeline raiseOnError options) ↔
        ErrorOrArray (sendToCore core pipeline routing raiseOnError options))) ∧
    (∀ (Route : Type) (toRoutingInfo : Route → ρ) (route : Option Route),
      routing = route.map toRoutingInfo →
      (OneReplyPerCommand pipeline replyTo
          (sendToCore core pipeline routing raiseOnError options)
          (GlideClusterClient.executePipeline toRoutingInfo core pipeline raiseOnError route
            options) ↔
        ErrorOrArray (sendToCore core pipeline routing raiseOnError options))) ∧
    (∀ err, sendToCore core pipeline routing raiseOnError options = .error err →
      ∃ e, runPipeline core pipeline routing raiseOnError options = .error e ∧
        e.message = err.message) := by
  refine ⟨oneReplyPerCommand_iff hne hcontract, ?_, ?_, fun _ => runPipeline_error hne⟩
  · rintro rfl
    exact oneReplyPerCommand_iff hne hcontract
  · rintro Route toRoutingInfo route rfl
    exact oneReplyPerCommand_iff hne hcontract

/-- A core that answers everything with the given reply. -/
def constantCore (reply : RedisResult Value) : CoreClient Unit where
  sendTransaction _ _ _ _ := reply
  sendPipeline _ _ _ _ _ := reply

/-- `MULTI`/`EXEC` of a single `INCR`. -/
def incrTransaction : Pipeline := ⟨[(cmd "INCR").arg "w"], true⟩

/-- Three commands that are answered differently. -/
def setGetIncr : Pipeline :=
  ⟨[((cmd "SET").arg "k").arg "v", (cmd "GET").arg "k", (cmd "INCR").arg "n"], false⟩

def setGetIncrReplies : Fin 3 → Value
  | 0 => .okay
  | 1 => .bulkString (utf8 "v")
  | 2 => .int 2

/-- The replies arrive at the places of their commands, over either client. -/
theorem runPipeline_one_reply_incr :
    let core := constantCore (.ok (.array [.okay, .bulkString (utf8 "v"), .int 2]))
    let options := PipelineOptions.build [.retryServerError true, .timeout (.fromSecs 1),
      .retryServerError false, .retryConnectionError true]
    (∃ values, GlideClient.executePipeline core setGetIncr true options = .ok values ∧
      values.length = 3 ∧ ∀ i, values[i.val]? = some (setGetIncrReplies i)) ∧
    ∃ values, GlideClusterClient.executePipeline (fun route : Unit => route) core setGetIncr true
        (some ()) options = .ok values ∧
      values.length = 3 ∧ ∀ i, values[i.val]? = some (setGetIncrReplies i) := by
  intro core options
  have hcontract (routing : Option Unit) : ArrayContract setGetIncr setGetIncrReplies
      (sendToCore core setGetIncr routing true options) := by
    intro items h
    cases h
    rfl
  have harray (routing : Option Unit) :
      ErrorOrArray (sendToCore core setGetIncr routing true options) := by
    intro value h
    cases h
    exact ⟨_, rfl⟩
  obtain ⟨-, hstandalone, -, -⟩ := runPipeline_one_reply_per_command_iff core setGetIncr none true
    options setGetIncrReplies (by decide) (hcontract none)
  obtain ⟨-, -, hcluster, -⟩ := runPipeline_one_reply_per_command_iff core setGetIncr (some ())
    true options setGetIncrReplies (by decide) (hcontract (some ()))
  have hone := (hstandalone rfl).mpr (harray none)
  have hone' := (hcluster Unit (fun route => route) (some ()) rfl).mpr (harray (some ()))
  exact ⟨⟨_, rfl, (hone _ rfl).2⟩, ⟨_, rfl, (hone' _ rfl).2⟩⟩

/-- A transaction discarded because a watched key changed is reported as the
success of no command, while the sibling path refuses a reply that is no array. -/
theorem discarded_transaction_reported_ok :
    runPipeline (constantCore (.ok .nil)) incrTransaction none true PipelineOptions.new =
        .ok [] ∧
      (∀ replyTo, ArrayContract incrTransaction replyTo
        (sendToCore (constantCore (.ok .nil)) incrTransaction none true PipelineOptions.new)) ∧
      (∀ replyTo, ¬ OneReplyPerCommand incrTransaction replyTo
        (sendToCore (constantCore (.ok .nil)) incrTransaction none true PipelineOptions.new)
        (runPipeline (constantCore (.ok .nil)) incrTransaction none true PipelineOptions.new)) ∧
      ∃ err, dispatchPipeline RedisCrate.stringsOnly (constantCore (.ok .nil))
        { incrTransaction with isAtomic := false } none = .error err := by
  refine ⟨rfl, ?_, ?_, ⟨_, rfl⟩⟩
  · intro replyTo items h
    cases h
  · intro replyTo hone
    have hlen : 0 = 1 := (hone [] rfl).2.1
    omega

end GlideRust.PipelineExecution
