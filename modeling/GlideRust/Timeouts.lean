import GlideRust.Config.Clients
import GlideRust.PipelineExecution

/-!
# Timeouts in whole milliseconds

The connection request carries the request and the connection timeout, a
pipeline its own per-call timeout. Both conversions are written separately and
narrow a duration to a 32-bit number of milliseconds.
-/

namespace GlideRust.Timeouts

open Lib Config PipelineExecution

/-- `timeout_millis` computes the number that the configuration lowers to. -/
theorem timeoutMillis_eq (options : PipelineOptions) :
    options.timeoutMillis = options.timeout.map durationAsMillisU32 := rfl

theorem requestTimeout_commonRequest {ω : Type} (core : ConnectionRequest ω) {cfg : CommonConfig}
    {d : Duration} (h : cfg.requestTimeout = some d) :
    (cfg.commonRequest core).requestTimeout = some (durationAsMillisU32 d) := by
  rw [CommonConfig.commonRequest_eq]
  simp only [h, Option.map_some, Option.some_or]

theorem connectionTimeout_commonRequest {ω : Type} (core : ConnectionRequest ω)
    {cfg : CommonConfig} {d : Duration} (h : cfg.connectionTimeout = some d) :
    (cfg.commonRequest core).connectionTimeout = some (durationAsMillisU32 d) := by
  rw [CommonConfig.commonRequest_eq]
  simp only [h, Option.map_some, Option.some_or]

/-- A pipeline with a timeout hands the lowered number to the core, on either path. -/
theorem sendToCore_timeout {ρ : Type} (core : CoreClient ρ) (pipeline : Pipeline)
    (routing : Option ρ) (raiseOnError : Bool) {options : PipelineOptions} {d : Duration}
    (h : options.timeout = some d) :
    sendToCore core pipeline routing raiseOnError options =
      if pipeline.isAtomic then
        core.sendTransaction pipeline routing (some (durationAsMillisU32 d)) raiseOnError
      else
        core.sendPipeline pipeline routing raiseOnError (some (durationAsMillisU32 d))
          ⟨options.retryServerError, options.retryConnectionError⟩ := by
  simp only [sendToCore, timeoutMillis_eq, h, Option.map_some]

theorem durationAsMillisU32_mono {d e : Duration} (h : d.asNanos ≤ e.asNanos) :
    durationAsMillisU32 d ≤ durationAsMillisU32 e := by
  apply saturateU32_mono
  rw [Duration.asMillis_eq, Duration.asMillis_eq]
  exact Nat.div_le_div_right h

/-- What is shorter than a millisecond, and nothing else, becomes zero. -/
theorem durationAsMillisU32_eq_zero_iff (d : Duration) :
    durationAsMillisU32 d = 0 ↔ d.asNanos < 1000000 := by
  rw [durationAsMillisU32, saturateU32_eq_zero_iff, Duration.asMillis_eq]
  omega

/-- The three timeouts of a duration are one number. It is monotone, exact while
the whole milliseconds fit, the largest value beyond, and zero exactly below one
millisecond. -/
theorem timeouts_saturate_and_truncate :
    (∀ (ω : Type) (core : ConnectionRequest ω) (cfg : CommonConfig) (d : Duration),
      (cfg.requestTimeout = some d →
        (cfg.commonRequest core).requestTimeout = some (durationAsMillisU32 d)) ∧
      (cfg.connectionTimeout = some d →
        (cfg.commonRequest core).connectionTimeout = some (durationAsMillisU32 d))) ∧
    (∀ (ρ : Type) (core : CoreClient ρ) (pipeline : Pipeline) (routing : Option ρ)
      (raiseOnError : Bool) (options : PipelineOptions) (d : Duration),
      options.timeout = some d →
        sendToCore core pipeline routing raiseOnError options =
          if pipeline.isAtomic then
            core.sendTransaction pipeline routing (some (durationAsMillisU32 d)) raiseOnError
          else
            core.sendPipeline pipeline routing raiseOnError (some (durationAsMillisU32 d))
              ⟨options.retryServerError, options.retryConnectionError⟩) ∧
    (∀ d e : Duration, d.asNanos ≤ e.asNanos → durationAsMillisU32 d ≤ durationAsMillisU32 e) ∧
    (∀ d : Duration, d.asMillis < UInt32.size → (durationAsMillisU32 d).toNat = d.asMillis) ∧
    (∀ d : Duration, UInt32.size ≤ d.asMillis →
      durationAsMillisU32 d = UInt32.ofNat (UInt32.size - 1)) ∧
    (∀ d : Duration, durationAsMillisU32 d = 0 ↔ d.asNanos < 1000000) := by
  refine ⟨?_, ?_, fun _ _ => durationAsMillisU32_mono, ?_, fun _ => saturateU32_of_le,
    durationAsMillisU32_eq_zero_iff⟩
  · intro ω core cfg d
    exact ⟨requestTimeout_commonRequest core, connectionTimeout_commonRequest core⟩
  · intro ρ core pipeline routing raiseOnError options d
    exact sendToCore_timeout core pipeline routing raiseOnError
  · intro d hfits
    rw [durationAsMillisU32, toNat_saturateU32]
    omega

/-- Half a millisecond. -/
def halfMillisecond : Duration := ⟨0, 500000, by decide⟩

/-- A timeout that is not zero but is lowered to zero milliseconds. -/
theorem halfMillisecond_lowered_to_zero :
    ¬ ∀ d : Duration, durationAsMillisU32 d = 0 → d.asNanos = 0 := by
  intro h
  have hzero : halfMillisecond.asNanos = 0 := h halfMillisecond (by decide)
  exact absurd hzero (by decide)

/-- A core that answers with the timeout it was given. -/
def echoTimeout : CoreClient Unit where
  sendTransaction _ _ timeout _ := .ok (.int (Int64.ofNat (timeout.getD 0).toNat))
  sendPipeline _ _ _ timeout _ := .ok (.int (Int64.ofNat (timeout.getD 0).toNat))

def fiftyDays : Duration := .fromSecs (UInt64.ofNat 4320000)

/-- A pipeline that may take fifty days is sent with the largest timeout. -/
theorem timeouts_saturate_and_truncate_fifty_days :
    sendToCore echoTimeout ⟨[], false⟩ none true (PipelineOptions.new.withTimeout fiftyDays) =
        .ok (.int 4294967295) ∧
      durationAsMillisU32 halfMillisecond = 0 := by
  constructor
  · rw [timeouts_saturate_and_truncate.2.1 Unit echoTimeout ⟨[], false⟩ none true
      (PipelineOptions.new.withTimeout fiftyDays) fiftyDays rfl]
    rfl
  · exact (timeouts_saturate_and_truncate.2.2.2.2.2 halfMillisecond).mpr (by decide)

end GlideRust.Timeouts
