/-
The calls for one case. They are made in a row with the same call, as long as each
has a fault worth another try and calls are left (`row_callFrom`); so only the last
of them can have been completed, and what was heard last decides what becomes of
the case (`calls_refine`). The estimate for a case goes by the same tier and the
same rates.
-/
import Screenplay.Proofs.Generation.Charges
import Screenplay.Proofs.Text.Blanks

namespace Screenplay

/-! ## Calls in a row -/

/-- What is heard of a call that is made time after time, the first time being number 0. -/
def Service.heard (service : Service) (limit : Nat) (call : Call) (k : Nat) : Except Fault Completion :=
  (service k call).within limit

/-- What is reported of calls in a row when `n` were made and the last one had this outcome. -/
def rowResult (n : Nat) : Except Fault Completion → Except Failure (Completion × Nat)
  | .ok completion => .ok (completion, n)
  | .error fault => .error (.ofFault fault n)

/-- Calls in a row of which the last one is number `last`, with at most `left` more allowed after the first
one and `made` counted before it. -/
structure Row (limit : Nat) (call : Call) (service : Service) (left made last : Nat)
    (t : Transcript (Except Failure (Completion × Nat))) : Prop where
  last_le : last ≤ left
  calls : t.calls.map (·.2) = List.replicate (last + 1) call
  /-- The calls before the last one had faults. -/
  faulty : ∀ k < last, ∃ fault, service.heard limit call k = .error fault
  result : t.result = rowResult (made + last + 1) (service.heard limit call last)

section

variable {limit : Nat} {call : Call} {service : Service} {left made : Nat}

theorem Row.single {outcome : Except Fault Completion} (left time finish : Nat)
    (h : service.heard limit call 0 = outcome) :
    Row limit call service left made 0 ⟨[(time, call)], finish, rowResult (made + 1) outcome⟩ where
  last_le := Nat.zero_le left
  calls := rfl
  faulty := fun k hk => absurd hk (Nat.not_lt_zero k)
  result := by rw [h]

theorem Row.cons {last : Nat} {t : Transcript (Except Failure (Completion × Nat))} {fault : Fault} (time : Nat)
    (hfault : service.heard limit call 0 = .error fault)
    (h : Row limit call (fun k => service (k + 1)) left (made + 1) last t) :
    Row limit call service (left + 1) made (last + 1) { t with calls := (time, call) :: t.calls } where
  last_le := Nat.succ_le_succ h.last_le
  calls := by rw [List.map_cons, h.calls, List.replicate_succ (n := last + 1)]
  faulty := by
    intro k hk
    cases k with
    | zero => exact ⟨fault, hfault⟩
    | succ k => exact h.faulty k (Nat.lt_of_succ_lt_succ hk)
  result := by
    have hcount : made + 1 + last + 1 = made + (last + 1) + 1 := by omega
    exact hcount ▸ h.result

end

/-- **The calls of a dialogue that tries again make up a row.** -/
theorem row_callFrom (p : RetryPolicy) (limit : Nat) (call : Call) (left made now : Nat) (service : Service) :
    ∃ last, Row limit call service left made last ((p.callFrom limit call left made).run now service) := by
  -- the calls after the first one hear the service from its second reply on
  induction left generalizing made now service with
  | zero =>
    refine ⟨0, ?_⟩
    rw [RetryPolicy.callFrom]
    simp only [Dialogue.run]
    cases hfirst : (service 0 call).within limit with
    | ok completion => exact .single 0 _ _ hfirst
    | error fault => exact .single 0 _ _ hfirst
  | succ left ih =>
    rw [RetryPolicy.callFrom]
    simp only [Dialogue.run]
    cases hfirst : (service 0 call).within limit with
    | ok completion => exact ⟨0, .single _ _ _ hfirst⟩
    | error fault =>
      dsimp only
      split
      · obtain ⟨last, hrow⟩ := ih (made + 1) _ fun k => service (k + 1)
        exact ⟨last + 1, hrow.cons now hfirst⟩
      · exact ⟨0, .single _ _ _ hfirst⟩

/-! ## A case -/

namespace Generation

/-- The calls that were made, as they are reported. -/
def attempts : Generation → Nat
  | .ok g => g.attempts
  | .error failure => failure.attempts

/-- What is recorded as billed. -/
def usage? : Generation → Option Usage
  | .ok g => some g.usage
  | .error failure => failure.usage

end Generation

namespace Config

/-- What a completion for a case is recorded with: its tokens, at the rates of the tier of the case. -/
def billed (config : Config) (c : Case) (completion : Completion) : Usage where
  tier := config.tiers.tier c
  model := (config.pricing.rates (config.tiers.tier c)).model
  inputTokens := completion.inputTokens
  outputTokens := completion.outputTokens
  cost := (config.pricing.rates (config.tiers.tier c)).cost completion.inputTokens completion.outputTokens

/-- What calls for a case have come to, number `last` being the last of them. -/
structure Settled (config : Config) (c : Case) (heard : Nat → Except Fault Completion) (last : Nat)
    (result : Generation) : Prop where
  attempts : result.attempts = last + 1
  faulty : ∀ k < last, ∀ completion, heard k ≠ .ok completion
  usage (usage : Usage) : result.usage? = some usage ↔
    ∃ completion, heard last = .ok completion ∧ usage = config.billed c completion
  code (g : Generated) : result = .ok g ↔
    ∃ completion, heard last = .ok completion ∧ Fence.codeOf completion.text ≠ "" ∧
      g = ⟨Fence.codeOf completion.text, config.billed c completion, last + 1⟩
  estimate (usage : Usage) : result.usage? = some usage →
    usage.tier = (config.estimate c).tier ∧ usage.model = (config.estimate c).model ∧
      (usage.inputTokens = (config.estimate c).inputTokens →
        usage.outputTokens = (config.estimate c).outputTokens → usage.cost = (config.estimate c).cost)

theorem usage?_conclude (config : Config) (c : Case) (result : Except Failure (Completion × Nat)) :
    (config.conclude (config.tiers.tier c) result).usage? =
      match result with
      | .ok (completion, _) => some (config.billed c completion)
      | .error failure => failure.usage := by
  rcases result with failure | ⟨completion, n⟩
  · rfl
  · rw [conclude]
    split <;> rfl

theorem attempts_conclude (config : Config) (tier : Tier) (result : Except Failure (Completion × Nat)) :
    (config.conclude tier result).attempts =
      match result with
      | .ok (_, n) => n
      | .error failure => failure.attempts := by
  rcases result with failure | ⟨completion, n⟩
  · rfl
  · rw [conclude]
    split <;> rfl

theorem conclude_eq_ok (config : Config) (c : Case) (result : Except Failure (Completion × Nat)) (g : Generated) :
    config.conclude (config.tiers.tier c) result = .ok g ↔
      ∃ completion n, result = .ok (completion, n) ∧ Fence.codeOf completion.text ≠ "" ∧
        g = ⟨Fence.codeOf completion.text, config.billed c completion, n⟩ := by
  rcases result with failure | ⟨completion, n⟩
  · simp [conclude]
  · by_cases hcode : Fence.codeOf completion.text = ""
    · simp [conclude, hcode]
    · have hok : config.conclude (config.tiers.tier c) (.ok (completion, n)) =
          .ok ⟨Fence.codeOf completion.text, config.billed c completion, n⟩ := by
        simp [conclude, hcode, billed, Pricing.usage]
      rw [hok]
      constructor
      · intro h
        cases h
        exact ⟨completion, n, rfl, hcode, rfl⟩
      · rintro ⟨_, _, h, -, rfl⟩
        cases h
        rfl

/-- The estimate for a case and what a completion for it is recorded with have their tier, their model and
their rates from the case alone. -/
theorem billed_estimate (config : Config) (c : Case) (completion : Completion) :
    (config.billed c completion).tier = (config.estimate c).tier ∧
      (config.billed c completion).model = (config.estimate c).model ∧
      ((config.billed c completion).inputTokens = (config.estimate c).inputTokens →
        (config.billed c completion).outputTokens = (config.estimate c).outputTokens →
          (config.billed c completion).cost = (config.estimate c).cost) := by
  refine ⟨rfl, rfl, ?_⟩
  intro hinput houtput
  have hcost : (config.estimate c).cost = (config.pricing.rates (config.tiers.tier c)).cost
      (config.estimate c).inputTokens (config.estimate c).outputTokens := rfl
  rw [hcost, ← hinput, ← houtput]
  rfl

/-- A million tokens at three dollars, and a fifth of it at fifteen dollars a million. -/
example : Rates.cost ⟨"m", 3.0, 15.0⟩ 1000000 200000 = 6.0 := by decide +kernel

theorem settled_conclude (config : Config) (c : Case) {limit : Nat} {call : Call} {service : Service} {left last : Nat}
    {t : Transcript (Except Failure (Completion × Nat))} (h : Row limit call service left 0 last t) :
    config.Settled c (service.heard limit call) last (config.conclude (config.tiers.tier c) t.result) := by
  have hresult := h.result
  have husage (usage : Usage) : (config.conclude (config.tiers.tier c) t.result).usage? = some usage ↔
      ∃ completion, service.heard limit call last = .ok completion ∧ usage = config.billed c completion := by
    rw [usage?_conclude, hresult]
    cases service.heard limit call last with
    | error fault => simp [rowResult, Failure.ofFault]
    | ok completion => simp [rowResult, eq_comm]
  refine ⟨?_, ?_, husage, ?_, ?_⟩
  · rw [attempts_conclude, hresult, Nat.zero_add]
    cases service.heard limit call last <;> rfl
  · intro k hk completion hok
    obtain ⟨fault, herror⟩ := h.faulty k hk
    rw [hok] at herror
    cases herror
  · intro g
    rw [conclude_eq_ok, hresult, Nat.zero_add]
    cases service.heard limit call last with
    | error fault => simp [rowResult]
    | ok completion => simp [rowResult]
  · intro usage hsome
    obtain ⟨completion, -, rfl⟩ := (husage usage).mp hsome
    exact config.billed_estimate c completion

/-- **The calls for a case, and what has come of them.** Without a key, or with a blank one, there is no call
and the case fails. With a key the same call is made so often as the policy allows at most, and what the case
costs and whether it has code follow from what was heard of the last call. -/
theorem calls_refine (config : Config) (lookup : String → Option String) (caller : String) (c : Case)
    (now : Nat) (service : Service) :
    let t := (config.refine (lookup caller) caller c).run now service
    match (lookup caller).filter (fun key => Text.trim key ≠ "") with
    | none =>
      t.calls = [] ∧ ∃ failure, t.result = .error failure ∧
        failure.kind = .credential ∧ failure.attempts = 0 ∧ failure.usage = none
    | some key =>
      let call : Call := ⟨(config.pricing.rates (config.tiers.tier c)).model, Prompt.ofCase c,
        config.request.maxTokens, key⟩
      ∃ last < max 1 config.retry.maxAttempts,
        t.calls.map (·.2) = List.replicate (last + 1) call ∧
          config.Settled c (service.heard config.timeoutMs call) last t.result := by
  have hblank : (fun key => decide (Text.trim key ≠ "")) = fun key => !Text.isVacant key := by
    funext key
    rw [Bool.eq_iff_iff]
    simp [Text.trim_eq_empty_iff]
  intro t
  rw [hblank]
  simp only [t, refine]
  cases (lookup caller).filter (!Text.isVacant ·) with
  | none => exact ⟨rfl, _, rfl, rfl, rfl, rfl⟩
  | some key =>
    dsimp only
    obtain ⟨last, hrow⟩ := row_callFrom config.retry config.timeoutMs (config.callFor key c)
      (config.retry.limit - 1) 0 now service
    obtain ⟨hcalls, hresult⟩ := (config.retry.persist config.timeoutMs (config.callFor key c)).run_map
      (config.conclude (config.tiers.tier c)) now service
    refine ⟨last, ?_, ?_, ?_⟩
    · have hle : last ≤ config.retry.limit - 1 := hrow.last_le
      have hpos : 1 ≤ config.retry.limit := Nat.le_max_left 1 _
      have hlimit : config.retry.limit = max 1 config.retry.maxAttempts := rfl
      omega
    · rw [hcalls]
      exact hrow.calls
    · rw [hresult]
      exact config.settled_conclude c hrow

end Config

end Screenplay
