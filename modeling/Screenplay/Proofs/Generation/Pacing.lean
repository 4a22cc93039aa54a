/-
When the calls in a row for a case are made. A further call follows an outcome that
is not final, and it follows after the pause for its number; nothing comes after the
last call. So the replies alone say how many calls there are, when each of them
begins, and when it is over (`paced_callFrom`, `persist_paced`).
-/
import Screenplay.Proofs.Generation.Attempts

namespace Screenplay

/-- Whether no further call is made after this outcome, however many are left. -/
def isFinal : Except Fault Completion → Bool
  | .ok _ => true
  | .error fault => !fault.retryable

namespace RetryPolicy

/-- When the call with this number begins, the first one being number 0: each call takes until its reply
comes or the limit has passed, and then there is a pause. So many calls were made before the first one. -/
def begins (p : RetryPolicy) (limit : Nat) (call : Call) (service : Service) (made now : Nat) : Nat → Nat
  | 0 => now
  | k + 1 =>
    p.begins limit call service made now k + min (service k call).delay limit + p.backoff (made + k + 1)

variable (p : RetryPolicy) (limit : Nat) (call : Call)

theorem begins_succ (service : Service) (made now k : Nat) :
    p.begins limit call service made now (k + 1) =
      p.begins limit call (fun k => service (k + 1)) (made + 1)
        (now + min (service 0 call).delay limit + p.backoff (made + 1)) k := by
  induction k with
  | zero => rfl
  | succ k ih =>
    have hnumber : made + (k + 1) + 1 = made + 1 + k + 1 := by omega
    rw [begins, ih, hnumber]
    rfl

/-- A row of calls with its times, of which the last one is number `last`: the outcomes before the last one
are not final, and the last one is, or no call is left. -/
structure Paced (service : Service) (left made now last : Nat)
    (t : Transcript (Except Failure (Completion × Nat))) : Prop extends
    Row limit call service left made last t where
  begun : t.calls.map (·.1) = (List.range (last + 1)).map (p.begins limit call service made now)
  finish : t.finish = p.begins limit call service made now last + min (service last call).delay limit
  retried : ∀ k < last, isFinal (service.heard limit call k) = false
  settled : isFinal (service.heard limit call last) = true ∨ last = left

variable {p limit call}

theorem Paced.single {service : Service} {left made : Nat} {outcome : Except Fault Completion} (now : Nat)
    (h : service.heard limit call 0 = outcome) (hlast : isFinal outcome = true ∨ left = 0) :
    p.Paced limit call service left made now 0
      ⟨[(now, call)], now + min (service 0 call).delay limit, rowResult (made + 1) outcome⟩ where
  toRow := .single left now _ h
  begun := rfl
  finish := rfl
  retried := fun k hk => absurd hk (Nat.not_lt_zero k)
  settled := by rw [h]; exact hlast.imp_right Eq.symm

theorem Paced.cons {service : Service} {left made now last : Nat}
    {t : Transcript (Except Failure (Completion × Nat))} {fault : Fault}
    (hfault : service.heard limit call 0 = .error fault) (hretryable : fault.retryable = true)
    (h : p.Paced limit call (fun k => service (k + 1)) left (made + 1)
      (now + min (service 0 call).delay limit + p.backoff (made + 1)) last t) :
    p.Paced limit call service (left + 1) made now (last + 1) { t with calls := (now, call) :: t.calls } where
  toRow := h.toRow.cons now hfault
  begun := by
    rw [List.map_cons, h.begun, List.range_succ_eq_map (n := last + 1), List.map_cons, List.map_map]
    exact congrArg _ (List.map_congr_left fun k _ => (p.begins_succ limit call service made now k).symm)
  finish := by rw [begins_succ]; exact h.finish
  retried := by
    intro k hk
    cases k with
    | zero => rw [hfault, isFinal, hretryable, Bool.not_true]
    | succ k => exact h.retried k (Nat.lt_of_succ_lt_succ hk)
  settled := h.settled.imp_right (congrArg (· + 1))

/-- **Calls in a row keep their times.** -/
theorem paced_callFrom (p : RetryPolicy) (limit : Nat) (call : Call) (left made now : Nat) (service : Service) :
    ∃ last, p.Paced limit call service left made now last
      ((p.callFrom limit call left made).run now service) := by
  -- after the first call its pause has passed, and the service is heard from its second reply on
  induction left generalizing made now service with
  | zero =>
    refine ⟨0, ?_⟩
    rw [callFrom]
    simp only [Dialogue.run]
    cases hfirst : (service 0 call).within limit with
    | ok completion => exact .single now hfirst (.inr rfl)
    | error fault => exact .single now hfirst (.inr rfl)
  | succ left ih =>
    rw [callFrom]
    simp only [Dialogue.run]
    cases hfirst : (service 0 call).within limit with
    | ok completion => exact ⟨0, .single now hfirst (.inl rfl)⟩
    | error fault =>
      dsimp only
      split
      · next hretryable =>
        obtain ⟨last, hpaced⟩ := ih (made + 1) (now + min (service 0 call).delay limit + p.backoff (made + 1))
          fun k => service (k + 1)
        exact ⟨last + 1, hpaced.cons hfirst hretryable⟩
      · next hstays =>
        have hfinal : isFinal (.error fault) = true := by simp [isFinal, hstays]
        exact ⟨0, .single now hfirst (.inl hfinal)⟩

/-- **How often a call is made, and when.** It is made until its outcome is final, and so often as the policy
allows at most. Each call but the first one begins a pause after the one before it is over, and there is no pause
after the last one. What is heard of the last call, with the number of calls, is the result; a failure that might
be worth another try comes only after all calls that are allowed. -/
theorem persist_paced (p : RetryPolicy) (limit : Nat) (call : Call) (service : Service) (now : Nat) :
    let t := (p.persist limit call).run now service
    let heard := service.heard limit call
    let most := max 1 p.maxAttempts
    ∃ last < most,
      (∀ k < last, isFinal (heard k) = false) ∧ (isFinal (heard last) = true ∨ last + 1 = most) ∧
      t.calls.map (·.2) = List.replicate (last + 1) call ∧
      t.calls.map (·.1) = (List.range (last + 1)).map (p.begins limit call service 0 now) ∧
      t.finish = p.begins limit call service 0 now last + min (service last call).delay limit ∧
      t.result = (match heard last with
        | .ok completion => .ok (completion, last + 1)
        | .error fault => .error ⟨fault.kind, fault.message, fault.retryable, last + 1, none⟩) ∧
      (∀ failure, t.result = .error failure → failure.retryable = true → last + 1 = most) ∧
      (p.maxAttempts < Nat.pow 2 32 → last + 1 < Nat.pow 2 32) := by
  intro t heard most
  obtain ⟨last, h⟩ := p.paced_callFrom limit call (p.limit - 1) 0 now service
  have hle : last ≤ p.limit - 1 := h.last_le
  have hpos : 1 ≤ p.limit := Nat.le_max_left 1 _
  have hmost : p.limit = most := rfl
  have hsettled : isFinal (heard last) = true ∨ last + 1 = most :=
    h.settled.imp_right fun hlast => by omega
  have hresult : t.result = rowResult (last + 1) (heard last) := by
    have hcounted : t.result = rowResult (0 + last + 1) (heard last) := h.result
    rwa [Nat.zero_add] at hcounted
  refine ⟨last, by omega, h.retried, hsettled, h.calls, h.begun, h.finish, ?_, ?_, ?_⟩
  · rw [hresult]
    cases heard last <;> rfl
  · intro failure hfailure hretryable
    refine hsettled.resolve_left fun hfinal => ?_
    rw [hresult] at hfailure
    cases hlast : heard last with
    | ok completion => rw [hlast] at hfailure; cases hfailure
    | error fault =>
      rw [hlast] at hfailure hfinal
      cases hfailure
      rw [isFinal, show fault.retryable = true from hretryable] at hfinal
      cases hfinal
  · intro hwidth
    have hpow : Nat.pow 2 32 = 4294967296 := rfl
    rw [hpow] at hwidth ⊢
    omega

/-- A reply that is late, one that asks for another try, and one that is just in time; and a reply that does not
ask for another try. -/
example :
    let t (replies : List Reply) :=
      (RetryPolicy.persist {} 100 ⟨"m", "prompt", 4096, "key"⟩).run 0 (Service.scripted replies)
    let tried := t [⟨101, .ok ⟨"code", 2, 3⟩⟩, ⟨0, .error (.status 503 "busy")⟩, ⟨100, .ok ⟨"code", 2, 3⟩⟩]
    tried.calls.map (·.1) = [0, 600, 1600] ∧ tried.finish = 1700 ∧
      (t [⟨20, .error (.status 404 "none")⟩]).finish = 20 := by
  decide +kernel

end RetryPolicy

end Screenplay
