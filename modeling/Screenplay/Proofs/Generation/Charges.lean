/-
What the calls for a case are billed for. Calls are made again only after a
fault, so of all calls for a case at most the last one is completed
(`charges_callFrom`). The resolution of the case records the tokens of that
completion, also when there was no code in it, and records nothing when there was
none (`charges_reportCase`).
-/
import Screenplay.Report.Basic

namespace Screenplay

/-! ## Charges -/

/-- What a completion is billed for. -/
structure Charge where
  model : String
  inputTokens : Nat
  outputTokens : Nat
  deriving Repr, DecidableEq

def Usage.charge (u : Usage) : Charge := ⟨u.model, u.inputTokens, u.outputTokens⟩

def Completion.charge (c : Completion) (call : Call) : Charge := ⟨call.model, c.inputTokens, c.outputTokens⟩

/-- The charges for the calls of a dialogue: a call is charged if it is completed within the limit. -/
def charges (limit : Nat) : Service → List (Nat × Call) → List Charge
  | _, [] => []
  | service, (_, call) :: calls =>
    let rest := charges limit (fun k => service (k + 1)) calls
    match (service 0 call).within limit with
    | .ok completion => completion.charge call :: rest
    | .error _ => rest

/-- What is recorded with a resolution, if anything was billed for it. -/
def Resolution.usage? : Resolution → Option Usage
  | .template _ _ => none
  | .generated g => some g.usage
  | .failed f => f.usage

def Resolution.charges (r : Resolution) : List Charge := (r.usage?.map Usage.charge).toList

/-- The report has the usage of a case if something was billed for it, and only then. -/
theorem Resolution.get?_usage (r : Resolution) : r.toJson.get? "usage" = r.usage?.map Usage.toJson := by
  cases r with
  | template flow code => rfl
  | generated g => rfl
  | failed f =>
    obtain ⟨kind, message, retryable, attempts, usage⟩ := f
    cases usage <;> rfl

/-- An answer that was billed, without code in it. -/
example : (Resolution.failed (.noCode ⟨.fast, "m", 10, 5, 0.5⟩ 2)).toJson.compact =
    "\x7b\"path\":\"failed\",\"kind\":\"provider\",\"message\":\"completion contained no code\"," ++
      "\"retryable\":false,\"attempts\":2,\"usage\":\x7b\"tier\":\"fast\",\"model\":\"m\"," ++
      "\"cost_usd\":0.5,\"input_tokens\":10,\"output_tokens\":5\x7d\x7d" := by
  decide +kernel

/-! ## Calls until one is completed -/

theorem Dialogue.run_map {α β : Type} (f : α → β) (d : Dialogue α) (now : Nat) (service : Service) :
    ((d.map f).run now service).calls = (d.run now service).calls ∧
      ((d.map f).run now service).result = f (d.run now service).result := by
  induction d generalizing now service with
  | done a => exact ⟨rfl, rfl⟩
  | pause ms next ih => exact ih (now + ms) service
  | ask call limit next ih =>
    obtain ⟨hcalls, hresult⟩ := ih ((service 0 call).within limit) (now + min (service 0 call).delay limit)
      fun k => service (k + 1)
    exact ⟨congrArg _ hcalls, hresult⟩

/-- What calls in a row are charged for and what has come of them. -/
inductive Charged (call : Call) : List Charge → Except Failure (Completion × Nat) → Prop
  | completed (completion : Completion) (attempts : Nat) :
      Charged call [completion.charge call] (.ok (completion, attempts))
  | faulty (failure : Failure) : failure.usage = none → Charged call [] (.error failure)

/-- Only the call that ends the row is charged, and only if it is completed. -/
theorem charged_callFrom (p : RetryPolicy) (limit : Nat) (call : Call) (left made now : Nat) (service : Service) :
    Charged call (charges limit service ((p.callFrom limit call left made).run now service).calls)
      ((p.callFrom limit call left made).run now service).result := by
  induction left generalizing made now service with
  | zero =>
    rw [RetryPolicy.callFrom]
    simp only [Dialogue.run, charges]
    cases (service 0 call).within limit with
    | ok completion => exact .completed completion (made + 1)
    | error fault => exact .faulty _ rfl
  | succ left ih =>
    rw [RetryPolicy.callFrom]
    simp only [Dialogue.run, charges]
    cases (service 0 call).within limit with
    | ok completion => exact .completed completion (made + 1)
    | error fault =>
      dsimp only
      split
      · exact ih (made + 1) _ fun k => service (k + 1)
      · exact .faulty _ rfl

/-! ## A case -/

namespace Config

theorem charges_conclude (config : Config) (key : String) (c : Case) {billed : List Charge}
    {result : Except Failure (Completion × Nat)} (h : Charged (config.callFor key c) billed result) :
    (Resolution.ofGeneration (config.conclude (config.tiers.tier c) result)).charges = billed := by
  cases h with
  | faulty failure hu =>
    rw [conclude, Resolution.ofGeneration, Resolution.charges, Resolution.usage?, hu]
    rfl
  | completed completion attempts =>
    rw [conclude]
    split <;> rfl

theorem charges_generate (config : Config) (keys : Keys) (caller : String) (c : Case) (now : Nat)
    (service : Service) :
    charges config.timeoutMs service ((config.generate keys caller c).run now service).calls =
      ((config.generate keys caller c).run now service).result.charges := by
  cases keys with
  | none => rfl
  | some key =>
    obtain ⟨hcalls, hresult⟩ := (config.refine (key caller) caller c).run_map Resolution.ofGeneration now service
    rw [generate, hcalls, hresult, refine]
    cases (key caller).filter (!Text.isVacant ·) with
    | none => rfl
    | some key =>
      dsimp only
      obtain ⟨hcalls, hresult⟩ := (config.retry.persist config.timeoutMs (config.callFor key c)).run_map
        (config.conclude (config.tiers.tier c)) now service
      rw [hcalls, hresult]
      exact (config.charges_conclude key c (charged_callFrom config.retry _ _ _ _ now service)).symm

/-- **What a case is charged for is recorded with it.** -/
theorem charges_reportCase (config : Config) (keys : Keys) (caller : String) (screen : Screen) (c : Case)
    (now : Nat) (service : Service) :
    charges config.timeoutMs service ((config.reportCase keys caller screen c).run now service).calls =
      ((config.reportCase keys caller screen c).run now service).result.resolution.charges := by
  obtain ⟨hcalls, hresult⟩ := (config.resolve keys caller screen c (config.catalog.select c)).run_map
    (fun resolution => CaseReport.mk c.name (config.catalog.select c) resolution) now service
  rw [reportCase, hcalls, hresult, resolve]
  split
  · rfl
  · exact config.charges_generate keys caller c now service

end Config

end Screenplay
