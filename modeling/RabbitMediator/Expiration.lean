import RabbitMediator.Deadline
import RabbitMediator.System

namespace RabbitMediator

/-- How many milliseconds `Task.Delay` waits, if there is a limit. -/
def TimeSpan.delay (t : TimeSpan) : Option Int := if t.milliseconds = -1 then none else some t.milliseconds

theorem nonneg_of_toString {i : Int} {n : Nat} (h : toString i = toString n) : 0 ≤ i := by
  cases i with
  | ofNat k => exact Int.natCast_nonneg k
  | negSucc k =>
    -- a numeral has no sign
    have signed : toString (Int.negSucc k) = "-" ++ (k + 1).repr := rfl
    have sign : '-' ∈ (toString n).toList := by
      rw [← h, signed, String.toList_append]
      exact List.mem_append_left _ (List.mem_singleton.mpr rfl)
    rw [Nat.toString_eq_repr, Nat.toList_repr] at sign
    exact absurd (Nat.isDigit_of_mem_toDigits (by decide) (by decide) sign) (by decide)

/-- The wait of the sender, the expiration at the broker and the deadline at the receiver agree. A request that
arrives within the wait has time left, and is not answered as expired. -/
structure TimeoutsAgree (issued : Issued) : Prop where
  unlimited : issued.timeOut.delay = none → ∀ call, (RequestCall.publishing call issued).expiration = none
  limited : ∀ wait, issued.timeOut.delay = some wait → ∀ call, ∃ n : Nat,
    (RequestCall.publishing call issued).expiration = some (toString n) ∧ wait ≤ n
  received : ∀ (env : Environment) (q : Request) remaining, q.timeOut = issued.request.timeOut →
    (∀ wait, issued.timeOut.delay = some wait → env.elapsed.ticks < wait * 10000) →
    remainingTime env q = .ok remaining → 0 < remaining.ticks
  answered : ∀ (env : Environment) mediator (q : Request) queue r, q.timeOut = issued.request.timeOut →
    (∀ wait, issued.timeOut.delay = some wait → env.elapsed.ticks < wait * 10000) →
    .publishedResponse queue r ∈ (handleRequest env mediator q).effects → AnsweredAsExpired q r →
    ThrewAsExpired env mediator q

section Readings

variable {t : TimeSpan}

/-- The fraction of a millisecond is cut off on either side of zero. -/
theorem milliseconds_cases (t : TimeSpan) : 0 ≤ t.ticks ∧ t.milliseconds = t.ticks / 10000 ∨
    t.ticks < 0 ∧ t.milliseconds = -(-t.ticks / 10000) := by
  unfold TimeSpan.milliseconds
  rcases Int.lt_or_le t.ticks 0 with h | h
  · refine Or.inr ⟨h, ?_⟩
    rw [← Int.tdiv_eq_ediv_of_nonneg (by omega), Int.neg_tdiv, Int.neg_neg]
  · exact Or.inl ⟨h, Int.tdiv_eq_ediv_of_nonneg h⟩

theorem delay_of_nonneg (h : -10000 < t.ticks) : t.delay = some t.milliseconds := by
  have cut := milliseconds_cases t
  exact if_neg (by omega)

/-- What is rounded is not less than what is cut off. -/
theorem milliseconds_le_toInt64 (h : -5000 ≤ t.ticks) :
    0 ≤ t.toInt64Milliseconds ∧ t.milliseconds ≤ t.toInt64Milliseconds := by
  have cut := milliseconds_cases t
  unfold TimeSpan.toInt64Milliseconds
  simp only
  split <;> omega

theorem toInt64_neg (h : t.ticks < -5000) : t.toInt64Milliseconds < 0 := by
  unfold TimeSpan.toInt64Milliseconds
  simp only
  split <;> omega

/-- A request that comes within what the sender waits has time left. -/
theorem remaining_pos {env : Environment} {q : Request} {remaining : TimeSpan} (hq : q.timeOut = some t)
    (within : env.elapsed.ticks < t.milliseconds * 10000) (left : remainingTime env q = .ok remaining) :
    0 < remaining.ticks := by
  have hl : t.sub env.elapsed = .ok remaining := by rwa [remainingTime, hq] at left
  have ticks : remaining.ticks = t.ticks - env.elapsed.ticks := by
    unfold TimeSpan.sub TimeSpan.ofTicks at hl
    split at hl <;> cases hl
    rfl
  have cut := milliseconds_cases t
  have elapsed := env.elapsed_nonneg
  omega

end Readings

/-- The readings of a timeout agree just when it is not below minus half a millisecond. -/
theorem timeouts_agree_iff (hosts : Hosts) (w : World) (c : RequestCall) (id : Guid) (address : Address) :
    TimeoutsAgree (c.issuedAs hosts w id address) ↔ -5000 ≤ (c.useTimeout hosts).ticks := by
  obtain ⟨t, ht⟩ : ∃ t, t = c.useTimeout hosts := ⟨_, rfl⟩
  have timeOut : (c.issuedAs hosts w id address).timeOut = t := ht ▸ rfl
  have sent : (c.issuedAs hosts w id address).request.timeOut = some t := ht ▸ rfl
  rw [← ht]
  constructor
  · intro agree
    by_contra early
    have negative := toInt64_neg (t := t) (by omega)
    cases hd : t.delay with
    | none =>
      cases agree.unlimited (timeOut ▸ hd) 0
    | some wait =>
      obtain ⟨n, hn, _⟩ := agree.limited wait (timeOut ▸ hd) 0
      have numeral : toString t.toInt64Milliseconds = toString n := timeOut ▸ Option.some.inj hn
      have := nonneg_of_toString numeral
      omega
  · intro early
    obtain ⟨nonneg, covers⟩ := milliseconds_le_toInt64 early
    have waits : t.delay = some t.milliseconds := delay_of_nonneg (by omega)
    have received : ∀ (env : Environment) (q : Request) remaining, q.timeOut = some t →
        (∀ wait, t.delay = some wait → env.elapsed.ticks < wait * 10000) →
        remainingTime env q = .ok remaining → 0 < remaining.ticks :=
      fun env q remaining hq within => remaining_pos hq (within _ waits)
    refine ⟨fun none => ?_, fun wait hw call => ⟨t.toInt64Milliseconds.toNat, ?_, ?_⟩,
      fun env q remaining hq within => received env q remaining (hq.trans sent) (timeOut ▸ within), ?_⟩
    · rw [timeOut, waits] at none
      cases none
    · have numeral : toString t.toInt64Milliseconds = toString t.toInt64Milliseconds.toNat := by
        rw [← Int.toNat_of_nonneg nonneg]
        rfl
      exact congrArg some (timeOut ▸ numeral)
    · rw [timeOut, waits] at hw
      cases hw
      omega
    · intro env mediator q queue r hq within published answered
      rcases late_of_answeredAsExpired published answered with ⟨remaining, left, late⟩ | threw
      · have := received env q remaining (hq.trans sent) (timeOut ▸ within) left
        omega
      · exact threw

theorem unlimited_timeout_disagrees :
    ¬∀ hosts w (c : RequestCall) id address, (c.useTimeout hosts).timerAccepts = true →
      TimeoutsAgree (c.issuedAs hosts w id address) := by
  intro claim
  let c : RequestCall := { testCall with responseTimeOut := some .infinite }
  have address : Address := ⟨"", .direct, ""⟩
  cases (claim testHosts System.init.shared c ⟨7⟩ address (by decide)).unlimited rfl 0

end RabbitMediator
