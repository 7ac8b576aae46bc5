import GlideRust.Redis

/-!
# Error types of the client

`GlideError` mirrors the exception classes of the other wrappers; an error of
the `redis` crate is sorted into them by its kind and its timeout flag.
-/

namespace GlideRust.Error

open Redis

inductive GlideError where
  | closing (message : String)
  | configuration (message : String)
  | connection (message : String)
  | execAbort (message : String)
  | request (message : String)
  | timeout (message : String)
  | circuitBreaker (message : String)
  deriving DecidableEq, Repr

abbrev Result (α : Type*) := Except GlideError α

/-- `glide_core::client::ConnectionError`: the two variants that are told apart,
and the text of any other. -/
inductive ConnectionError where
  | timeout
  | configuration (message : String)
  | other (text : String)
  deriving DecidableEq, Repr

namespace GlideError

/-- `From<RedisError>`. -/
def fromRedis (err : RedisError) : GlideError :=
  match err.kind with
  | .ioError | .clientError =>
      if err.isTimeout then .timeout err.message else .connection err.message
  | .execAbortError => .execAbort err.message
  | .circuitBreakerOpen => .circuitBreaker err.message
  | .invalidClientConfig => .configuration err.message
  | _ => if err.isTimeout then .timeout err.message else .request err.message

/-- The message payload of the error. -/
def message : GlideError → String
  | closing m | configuration m | connection m | execAbort m | request m | timeout m
  | circuitBreaker m => m

/-- Every conversion keeps the text of the underlying error. -/
theorem message_fromRedis (err : RedisError) : (fromRedis err).message = err.message := by
  obtain ⟨kind, text, isTimeout⟩ := err
  cases kind <;> cases isTimeout <;> rfl

/-- `From<ConnectionError>`. -/
def fromConnection : ConnectionError → GlideError
  | .timeout => .timeout "connection attempt timed out"
  | .configuration message => .configuration message
  | .other text => .connection text

end GlideError

/-- `.map_err(GlideError::from)`. -/
def mapErr {α : Type*} : RedisResult α → Result α
  | .ok a => .ok a
  | .error err => .error (GlideError.fromRedis err)

/-- `.map_err(GlideError::from)` on the result of a connection attempt. -/
def mapConnectionErr {α : Type*} : Except ConnectionError α → Result α
  | .ok a => .ok a
  | .error err => .error (GlideError.fromConnection err)

@[simp] theorem mapErr_ok {α : Type*} (a : α) : mapErr (.ok a) = .ok a := rfl

@[simp] theorem mapErr_error {α : Type*} (err : RedisError) :
    mapErr (.error err : RedisResult α) = .error (GlideError.fromRedis err) := rfl

end GlideRust.Error
