import RabbitMediator.System

namespace RabbitMediator

open Interleaving

section OwnExceptions

/-- The exceptions the library throws before it asks the broker are its own. -/
theorem guardTargetIsSet_error {o : SentObject} {e : Exception} (h : guardTargetIsSet o = .error e) :
    e.isRabbitMQClientException = false := by
  unfold guardTargetIsSet at h
  split at h
  · split at h
    · cases h; rfl
    · split at h <;> cases h; rfl
  · cases h

theorem stripNamespace_error {s : String} {ns : Option String} {e : Exception}
    (h : RabbitNaming.stripNamespace s ns = .error e) : e.isRabbitMQClientException = false := by
  unfold RabbitNaming.stripNamespace at h
  split at h <;> cases h <;> rfl

theorem typeName_error {t : SentType} {e : Exception} (h : RabbitNaming.typeName t = .error e) :
    e.isRabbitMQClientException = false := by
  rcases except_bind_eq_error.mp h with h | ⟨name, _, h⟩
  · split at h
    · exact stripNamespace_error h
    · cases h
  · split at h <;> cases h
    rfl

theorem routingKeyFor_error {o : SentObject} {e : Exception} (h : routingKeyFor o = .error e) :
    e.isRabbitMQClientException = false := by
  unfold routingKeyFor at h
  split at h
  · cases h
  · split at h
    · cases h
    · split at h
      · split at h <;> cases h
        rfl
      · cases h; rfl

theorem exchangeNameFor_error {o : SentObject} {name : String} {e : Exception}
    (h : exchangeNameFor o name = .error e) : e.isRabbitMQClientException = false := by
  unfold exchangeNameFor at h
  split at h
  · cases h
  · split at h
    · cases h
    · split at h <;> cases h
      rfl

theorem addressOf_error {s : SentType} {o : SentObject} {e : Exception} (h : addressOf s o = .error e) :
    e.isRabbitMQClientException = false := by
  rcases except_bind_eq_error.mp h with h | ⟨name, _, h⟩
  · exact typeName_error h
  · rcases except_bind_eq_error.mp h with h | ⟨key, _, h⟩
    · exact routingKeyFor_error h
    · rcases except_bind_eq_error.mp h with h | ⟨exchange, _, h⟩
      · exact exchangeNameFor_error h
      · cases h

end OwnExceptions

section Prelude

variable {hosts : Hosts} {w w' : World} {call : Nat} {c c' : RequestCall} {x : Occurrence}

/-- What `EnsureReceiver` throws is its own, or just what an operation of it failed with. -/
theorem EnsureReceiver.next_threw {m : MediatorRef} {t : SentType} {s s' : MediatorState}
    {r : EnsureReceiver} {e : Exception} (h : r.next hosts m t s x = some (s', .threw e)) :
    x.failure = some e ∨ e.isRabbitMQClientException = false := by
  unfold EnsureReceiver.next at h
  split at h
  next =>
    split at h
    next => cases h
    next =>
      split at h
      next e' he => cases h; exact Or.inr (typeName_error he)
      next => cases h
  next =>
    split at h
    next => cases h
    next => cases h; exact Or.inr rfl
  next => split at h <;> cases h
  next => split at h <;> cases h
  next => cases h; exact Or.inl rfl
  next => split at h <;> cases h
  next operation _ =>
    cases ha : operation.after <;> simp [ha] at h
  next => cases h; exact Or.inl rfl
  next => cases h
  next => cases h
  next => cases h

/-- A call that ends before it has an awaiter threw an exception of the library, or just what an operation
of `EnsureReceiver` failed with. -/
theorem RequestCall.next_threw (before : c.phase.Unissued) (hn : c.next hosts w call x = some (w', c'))
    {o : Option Issued} {e : Exception} (he : c'.phase = .ended o (.threw e)) :
    x.failure = some e ∨ e.isRabbitMQClientException = false := by
  unfold next at hn
  split at hn
  next cancelled _ =>
    cases hn
    simp only [enter] at he
    split at he
    next => cases he; exact Or.inr rfl
    next =>
      split at he
      next => cases he; exact Or.inr rfl
      next =>
        split at he
        next e' hg => cases he; exact Or.inr (guardTargetIsSet_error hg)
        next => cases he
  next =>
    cases hn
    split at he
    next => cases he
    next => cases he; exact Or.inr rfl
  next receiver x _ =>
    obtain ⟨⟨s, receiver'⟩, hr, hp⟩ := Option.map_eq_some_iff.mp hn
    cases hp
    cases receiver' <;> cases he
    exact EnsureReceiver.next_threw hr
  next id _ =>
    split at hn
    next =>
      have hi := Option.some.inj hn
      unfold issue at hi
      split at hi
      next e' ha => cases hi; cases he; exact Or.inr (addressOf_error ha)
      next => cases hi; cases he
    next => cases hn
  all_goals simp_all [RequestPhase.Unissued]

/-- A failed operation of `EnsureReceiver` leaves the call as it is. -/
theorem RequestCall.next_failure (before : c.phase.Unissued)
    (hn : c.next hosts w call x = some (w', c')) {e : Exception} (he : x.failure = some e) :
    c'.phase = .ended none (.threw e) := by
  unfold next at hn
  split at hn
  next => cases he
  next => cases he
  next receiver x _ =>
    obtain ⟨⟨s, receiver'⟩, hr, hp⟩ := Option.map_eq_some_iff.mp hn
    cases hp
    cases EnsureReceiver.next_failure hr he
    rfl
  next => cases he
  all_goals simp_all [RequestPhase.Unissued]

/-- No timer runs before the awaiter is there. -/
theorem RequestCall.next_elapsed (before : c.phase.Unissued) (cancelled : Bool) :
    c.next hosts w call (.elapsed cancelled) = none := by
  unfold next
  cases hp : c.phase with
  | ensuring receiver => cases receiver <;> rfl
  | publishing operation issued => rw [hp] at before; exact before.elim
  | waiting issued => rw [hp] at before; exact before.elim
  | _ => rfl

end Prelude

section Classification

variable {hosts : Hosts} {w w' : World} {call : Nat} {c c' : RequestCall} {x : Occurrence}

/-- `Request` threw a send failure, and `TryRequest` returned one. -/
def SendFailed (c : RequestCall) (e : Exception) : Prop :=
  ∃ issued outcome, c.phase = .ended (some issued) outcome ∧
    if c.throwOnFailure then outcome = .threw (rabbitMediatorSendFailure issued.request e)
    else ∃ response : Response, outcome = .failed response ∧ response.success = false ∧
      response.sendFailure = true ∧ response.timedOut = false ∧
      response.correlationId = issued.request.correlationId

/-- All failures of the broker at the steps a call took are told as what they are. -/
structure Classified (trail : List (Thread × Occurrence)) (c : RequestCall) : Prop where
  sendFailure : ∀ t x e, (t, x) ∈ trail → x.failure = some e → e.isRabbitMQClientException = true →
    SendFailed c e
  timeOut : ∀ t, (t, .elapsed false) ∈ trail → c.throwOnFailure = false →
    ∃ issued response, c.phase = .ended issued (.failed response)
  noRaw : ∀ issued e, c.phase = .ended issued (.threw e) → e.isRabbitMQClientException = false

/-- The broker fails an operation of the publication only, and a failure response can be created where
one is to be returned. -/
structure Classifiable (c : RequestCall) (x : Occurrence) : Prop where
  publishing : ∀ e, x.failure = some e → e.isRabbitMQClientException = true →
    ∃ operation issued, c.phase = .publishing operation issued
  constructible : c.throwOnFailure = false →
    (x = .elapsed false ∨ ∃ e, x.failure = some e ∧ e.isRabbitMQClientException = true) →
    c.request.tResponse.constructible = true

/-- An occurrence that is no failure of the broker and no timeout. -/
def Harmless (x : Occurrence) : Prop :=
  (∀ e, x.failure = some e → e.isRabbitMQClientException = false) ∧ x ≠ .elapsed false

theorem Harmless.of_none (hf : x.failure = none) (hx : x ≠ .elapsed false) : Harmless x :=
  ⟨fun _ he => (nomatch hf.symm.trans he), hx⟩

def RequestCall.over (c : RequestCall) : Prop := ∃ issued outcome, c.phase = .ended issued outcome

theorem RequestCall.next_over (h : c.over) : c.next hosts w call x = none := by
  obtain ⟨issued, outcome, hp⟩ := h
  unfold next
  rw [hp]

theorem RequestCall.published_failed_over (hosts : Hosts) (w : World) (c : RequestCall) (issued : Issued)
    (e : Exception) : (c.published hosts w issued (.failed e)).2.over := by
  simp only [published]
  split <;> exact ⟨_, _, rfl⟩

theorem RequestCall.publishing_harmless {operation : PublishOperation} {issued : Issued}
    (before : c.phase = .publishing operation issued) (hn : c.next hosts w call x = some (w', c'))
    (running : ¬c'.over) : Harmless x := by
  unfold next at hn
  rw [before] at hn
  obtain ⟨⟨s, taken, step⟩, hs, he⟩ := Option.map_eq_some_iff.mp hn
  refine .of_none ?_ ?_
  · cases hf : x.failure with
    | none => rfl
    | some e =>
      rw [PublishOperation.next_failure hs hf] at he
      have ended := published_failed_over hosts (c.handOver w call issued s taken) c issued e
      rw [he] at ended
      exact absurd ended running
  · rintro rfl
    rw [PublishOperation.next_elapsed] at hs
    cases hs

/-- A call that goes on after a step has seen no failure and no timeout there. -/
theorem RequestCall.next_harmless (hn : c.next hosts w call x = some (w', c')) (running : ¬c'.over) :
    Harmless x := by
  cases step_of_next hn with
  | prelude before after =>
    refine .of_none ?_ ?_
    · cases he : x.failure with
      | none => rfl
      | some e => exact absurd ⟨_, _, next_failure before hn he⟩ running
    · rintro rfl
      rw [next_elapsed before] at hn
      cases hn
  | published before => exact publishing_harmless before hn running
  | issued => exact .of_none rfl nofun
  | delayed => exact .of_none rfl nofun
  | failed => exact absurd ⟨_, _, rfl⟩ running
  | escaped => exact absurd ⟨_, _, rfl⟩ running
  | rejected => exact absurd ⟨_, _, rfl⟩ running
  | answered => exact absurd ⟨_, _, rfl⟩ running
  | aborted => exact absurd ⟨_, _, rfl⟩ running
  | gaveUp => exact absurd ⟨_, _, rfl⟩ running

theorem Harmless.classifiable (h : Harmless x) (c : RequestCall) : Classifiable c x := by
  refine ⟨fun e he hr => ?_, fun _ hx => ?_⟩
  · rw [h.1 e he] at hr
    cases hr
  · rcases hx with hx | ⟨e, he, hr⟩
    · exact absurd hx h.2
    · rw [h.1 e he] at hr
      cases hr

/-- A harmless step matters only for what the call threw there itself. -/
theorem Harmless.classified_cons {t : Thread} {trail : List (Thread × Occurrence)} (h : Harmless x) :
    Classified ((t, x) :: trail) c ↔ Classified trail c := by
  constructor
  · intro hc
    exact ⟨fun u y e hm => hc.sendFailure u y e (List.mem_cons_of_mem _ hm),
      fun u hm => hc.timeOut u (List.mem_cons_of_mem _ hm), hc.noRaw⟩
  · intro hc
    refine ⟨fun u y e hm he hr => ?_, fun u hm => ?_, hc.noRaw⟩
    · rcases List.mem_cons.mp hm with heq | hm
      · cases heq
        rw [h.1 e he] at hr
        cases hr
      · exact hc.sendFailure u y e hm he hr
    · rcases List.mem_cons.mp hm with heq | hm
      · cases heq
        exact absurd rfl h.2
      · exact hc.timeOut u hm

theorem classified_nil (noRaw : ∀ issued e, c.phase = .ended issued (.threw e) →
    e.isRabbitMQClientException = false) : Classified [] c :=
  ⟨fun _ _ _ h => (nomatch h), fun _ h => (nomatch h), noRaw⟩

theorem Harmless.classified_iff {t : Thread} (h : Harmless x)
    (noRaw : ∀ issued e, c'.phase = .ended issued (.threw e) → e.isRabbitMQClientException = false) :
    Classified [(t, x)] c' ↔ Classifiable c x :=
  iff_of_true (h.classified_cons.mpr (classified_nil noRaw)) (h.classifiable c)

theorem classified_iff_of_unissued {t : Thread} (before : c.phase.Unissued)
    (hn : c.next hosts w call x = some (w', c')) :
    Classified [(t, x)] c' ↔ Classifiable c x := by
  have running : x ≠ .elapsed false := by
    rintro rfl
    rw [RequestCall.next_elapsed before] at hn
    cases hn
  by_cases hf : ∃ e, x.failure = some e ∧ e.isRabbitMQClientException = true
  · obtain ⟨e, he, hr⟩ := hf
    refine iff_of_false (fun h => ?_) fun h => ?_
    · have raw := h.noRaw none e (RequestCall.next_failure before hn he)
      rw [raw] at hr
      cases hr
    · obtain ⟨operation, issued, hp⟩ := h.publishing e he hr
      rw [hp] at before
      exact before.elim
  · have quiet : ∀ e, x.failure = some e → e.isRabbitMQClientException = false :=
      fun e he => Bool.eq_false_iff.mpr fun hr => hf ⟨e, he, hr⟩
    refine Harmless.classified_iff ⟨quiet, running⟩ fun issued e he => ?_
    rcases RequestCall.next_threw before hn he with hx | hx
    · exact quiet e hx
    · exact hx

/-- Giving up is told as it should be just when it needs no failure response, or one can be created. -/
theorem RequestCall.gaveUp_cases (hosts : Hosts) (c : RequestCall) (issued : Issued)
    (timedOut sendFailure : Bool) (e : Exception) :
    (c.throwOnFailure = true ∧ c.gaveUp hosts issued timedOut sendFailure e = .threw e) ∨
    (c.throwOnFailure = false ∧ c.request.tResponse.constructible = true ∧ ∃ response : Response,
      c.gaveUp hosts issued timedOut sendFailure e = .failed response ∧ response.success = false ∧
      response.timedOut = timedOut ∧ response.sendFailure = sendFailure ∧
      response.correlationId = issued.request.correlationId) ∨
    (c.throwOnFailure = false ∧ c.request.tResponse.constructible = false ∧
      c.gaveUp hosts issued timedOut sendFailure e =
        .threw (.new .missingMethod "Cannot dynamically create an instance of this type.")) := by
  unfold gaveUp
  cases ht : c.throwOnFailure with
  | true => exact Or.inl ⟨rfl, rfl⟩
  | false =>
    cases hc : c.request.tResponse.constructible with
    | true =>
      obtain ⟨r, hr, h⟩ := createFailureResponse_ok (hosts.mediator c.mediator) c.request.isResponse
        issued.request.correlationId timedOut sendFailure hc
      exact Or.inr (Or.inl ⟨rfl, rfl, r, by simp [hr], h⟩)
    | false => exact Or.inr (Or.inr ⟨rfl, rfl, by simp [createFailureResponse_error hc]⟩)

/-- A failed publication is told as it should be just when a failure response is not needed, or can be
created. -/
theorem RequestCall.failed_classified_iff {t : Thread} {operation : PublishOperation} {issued : Issued}
    {e : Exception} (before : c.phase = .publishing operation issued) (why : x.failure = some e)
    (known : e.isRabbitMQClientException = true) :
    Classified [(t, x)] (c.goesTo (.ended (some issued)
      (c.gaveUp hosts issued false true (rabbitMediatorSendFailure issued.request e)))) ↔
    Classifiable c x := by
  have timer : x ≠ .elapsed false := by
    rintro rfl
    cases why
  have publishing : ∀ f, x.failure = some f → f.isRabbitMQClientException = true →
      ∃ operation issued, c.phase = .publishing operation issued := fun _ _ _ => ⟨_, _, before⟩
  rcases c.gaveUp_cases hosts issued false true (rabbitMediatorSendFailure issued.request e) with
    ⟨ht, hg⟩ | ⟨ht, hc, response, hg, hr⟩ | ⟨ht, hc, hg⟩
  · rw [hg]
    refine iff_of_true ⟨fun u y f hm hf _ => ?_, fun u hm => ?_, fun _ f hp => ?_⟩
      ⟨publishing, fun hn => nomatch ht.symm.trans hn⟩
    · cases List.mem_singleton.mp hm
      cases why.symm.trans hf
      exact ⟨issued, _, rfl, by simp [goesTo, ht]⟩
    · cases List.mem_singleton.mp hm
      exact absurd rfl timer
    · cases hp
      rfl
  · rw [hg]
    refine iff_of_true ⟨fun u y f hm hf _ => ?_, fun u hm => ?_, fun _ f hp => ?_⟩
      ⟨publishing, fun _ _ => hc⟩
    · cases List.mem_singleton.mp hm
      exact ⟨issued, _, rfl, by simpa [goesTo, ht] using ⟨hr.1, hr.2.2.1, hr.2.1, hr.2.2.2⟩⟩
    · cases List.mem_singleton.mp hm
      exact absurd rfl timer
    · cases hp
  · rw [hg]
    refine iff_of_false (fun h => ?_) fun h => ?_
    · obtain ⟨_, _, hp, hs⟩ := h.sendFailure _ _ e (List.mem_singleton.mpr rfl) why known
      cases hp
      simp [goesTo, ht] at hs
    · cases hc.symm.trans (h.constructible ht (Or.inr ⟨e, why, known⟩))

theorem RequestCall.elapsed_classified_iff {t : Thread} {issued : Issued} (cancelled : Bool) :
    Classified [(t, .elapsed cancelled)]
      (c.goesTo (.ended (some issued) (c.gaveUpWaiting hosts issued cancelled))) ↔
    Classifiable c (.elapsed cancelled) := by
  cases cancelled with
  | true =>
    refine Harmless.classified_iff ⟨nofun, nofun⟩ fun _ e hp => ?_
    cases hp
    rfl
  | false =>
    rcases c.gaveUp_cases hosts issued true false (rabbitMediatorTimeout issued.request issued.timeOut) with
      ⟨ht, hg⟩ | ⟨ht, hc, response, hg, _⟩ | ⟨ht, hc, hg⟩
    · refine iff_of_true ⟨fun u y f hm hf => ?_, fun u hm hn => ?_, fun _ f hp => ?_⟩
        ⟨nofun, fun hn => nomatch ht.symm.trans hn⟩
      · cases List.mem_singleton.mp hm
        cases hf
      · cases ht.symm.trans hn
      · simp only [gaveUpWaiting, hg] at hp
        cases hp
        rfl
    · refine iff_of_true ⟨fun u y f hm hf => ?_, fun u hm hn => ?_, fun _ f hp => ?_⟩
        ⟨nofun, fun _ _ => hc⟩
      · cases List.mem_singleton.mp hm
        cases hf
      · exact ⟨some issued, response, by simp [goesTo, gaveUpWaiting, hg]⟩
      · simp only [gaveUpWaiting, hg] at hp
        cases hp
    · refine iff_of_false (fun h => ?_) fun h => ?_
      · obtain ⟨_, response, hp⟩ := h.timeOut _ (List.mem_singleton.mpr rfl) ht
        simp [goesTo, gaveUpWaiting, hg] at hp
      · cases hc.symm.trans (h.constructible ht (Or.inl rfl))

/-- The last step of a call is told as it should be just when it could be. -/
theorem classified_last_iff {t : Thread} (hn : c.next hosts w call x = some (w', c')) (ended : c'.over) :
    Classified [(t, x)] c' ↔ Classifiable c x := by
  cases RequestCall.step_of_next hn with
  | prelude before => exact classified_iff_of_unissued before hn
  | issued =>
    obtain ⟨_, _, hp⟩ := ended
    cases hp
  | published before same after =>
    obtain ⟨_, _, hp⟩ := ended
    rcases after with rfl | ⟨_, rfl⟩ <;> cases hp
  | delayed =>
    obtain ⟨_, _, hp⟩ := ended
    cases hp
  | failed before same why known => exact RequestCall.failed_classified_iff before why known
  | escaped before same why unknown =>
    refine Harmless.classified_iff ⟨fun f hf => ?_, ?_⟩ fun _ f hp => ?_
    · cases why.symm.trans hf
      exact unknown
    · rintro rfl
      cases why
    · cases hp
      exact unknown
  | rejected before why =>
    refine (Harmless.of_none (x := .go) rfl nofun).classified_iff fun _ f hp => ?_
    cases hp
    unfold TimeSpan.timer at why
    split at why <;> cases why
    rfl
  | answered =>
    refine (Harmless.of_none (x := .completed) rfl nofun).classified_iff fun _ f hp => ?_
    simp only [RequestCall.goesTo, RequestPhase.ended.injEq, RequestCall.castResult] at hp
    split at hp
    · split at hp <;> cases hp.2
      rfl
    · cases hp.2
      rfl
  | @aborted _ e =>
    refine (Harmless.of_none (x := .completed) rfl nofun).classified_iff fun _ f hp => ?_
    cases hp
    cases e
    rfl
  | @gaveUp issued cancelled => exact RequestCall.elapsed_classified_iff cancelled

/-- A call that is over takes no further step. -/
theorem path_over {t : Thread} {trail : List (Thread × Occurrence)} (h : c.over)
    (path : Path (system hosts) call (.request c) trail t) : trail = [] ∧ t = .request c := by
  cases path with
  | stay => exact ⟨rfl, rfl⟩
  | step first rest =>
    obtain ⟨p, hp, _⟩ := Option.map_eq_some_iff.mp first
    rw [RequestCall.next_over h] at hp
    cases hp

theorem classified_iff_of_path {t : Thread} {trail : List (Thread × Occurrence)}
    (path : Path (system hosts) call t trail (.request c')) {c : RequestCall} (ht : t = .request c)
    (running : ¬c.over) :
    Classified trail c' ↔ ∀ q x, (Thread.request q, x) ∈ trail → Classifiable q x := by
  generalize hu : Thread.request c' = u at path
  induction path generalizing c with
  | stay t =>
    cases hu.trans ht
    exact iff_of_true (classified_nil fun _ _ hp => absurd ⟨_, _, hp⟩ running)
      fun _ _ h => (nomatch h)
  | @step s s' t t' _ x trail first rest ih =>
    subst ht
    obtain ⟨⟨w, d⟩, hn, he⟩ := Option.map_eq_some_iff.mp first
    cases he
    by_cases hd : d.over
    · obtain ⟨rfl, rfl⟩ := path_over hd rest
      cases hu
      rw [classified_last_iff hn hd]
      constructor
      · intro h q y hm
        cases List.mem_singleton.mp hm
        exact h
      · exact fun h => h _ _ (List.mem_singleton.mpr rfl)
    · have harmless := RequestCall.next_harmless hn hd
      rw [harmless.classified_cons, ih rfl hd hu]
      constructor
      · intro h q y hm
        rcases List.mem_cons.mp hm with heq | hm
        · cases heq
          exact harmless.classifiable c
        · exact h q y hm
      · exact fun h q y hm => h q y (List.mem_cons_of_mem _ hm)

theorem request_of_path {t t' : Thread} {trail : List (Thread × Occurrence)}
    (path : Path (system hosts) call t trail t') (ht : t' = .request c') : ∃ q, t = .request q := by
  induction path with
  | stay => exact ⟨c', ht⟩
  | step first rest ih =>
    obtain ⟨q, rfl⟩ := ih ht
    cases Thread.step_of_next first with
    | request => exact ⟨_, rfl⟩

/-- Broker failures of a request are classified, in every run, just when the broker fails none of the
operations of `EnsureReceiver` and `CreateFailureResponse` can create what it has to. -/
theorem request_classified_iff {actions : List (Action Thread Occurrence)} {config : Config World Thread}
    {i : Nat} (hr : (system hosts).run (fun _ _ => true) System.init actions = some config)
    (hi : config.pool[i]? = some (.request c)) :
    Classified ((system hosts).trail i System.init actions) c ↔
      ∀ q x, (Thread.request q, x) ∈ (system hosts).trail i System.init actions → Classifiable q x := by
  obtain ⟨t, ht, path⟩ := path_of_run hr hi
  obtain ⟨s, hs⟩ : ∃ s, t.start s = true := by
    rcases ht with ht | ⟨_, s, hs⟩
    · cases ht
    · exact ⟨s, hs⟩
  obtain ⟨q, rfl⟩ := request_of_path path rfl
  refine classified_iff_of_path path rfl ?_
  rintro ⟨_, _, hp⟩
  simp [Thread.start, hp] at hs

end Classification

section Cases

/-- The check of `Classifiable`, over all steps of a trail. -/
def classifiable (trail : List (Thread × Occurrence)) : Bool := trail.all fun p => match p.1 with
  | .request c =>
    let known := p.2.failure.any Exception.isRabbitMQClientException
    let timedOut := match p.2 with
      | .elapsed false => true
      | _ => false
    (!known || (match c.phase with
      | .publishing _ _ => true
      | _ => false)) &&
    (c.throwOnFailure || !(timedOut || known) || c.request.tResponse.constructible)
  | _ => true

theorem classifiable_of_check {trail : List (Thread × Occurrence)} (h : classifiable trail = true)
    (c : RequestCall) (x : Occurrence) (hm : (.request c, x) ∈ trail) : Classifiable c x := by
  have hc := List.all_eq_true.mp h _ hm
  simp only [Bool.and_eq_true, Bool.or_eq_true, Bool.not_eq_true'] at hc
  obtain ⟨hp, hr⟩ := hc
  refine ⟨fun e he hk => ?_, fun ht hx => ?_⟩
  · rcases hp with hp | hp
    · simp [he, hk] at hp
    · split at hp
      next operation issued he => exact ⟨operation, issued, he⟩
      next => cases hp
  · rcases hr with (hr | hr) | hr
    · cases ht.symm.trans hr
    · rcases hx with rfl | ⟨e, he, hk⟩
      · simp at hr
      · simp [he, hk] at hr
    · exact hr

def accessRefused : Exception :=
  .new (.rabbitMQClient "RabbitMQ.Client.Exceptions.OperationInterruptedException")
    "The AMQP operation was interrupted: code=403, text='ACCESS_REFUSED'"

/-- A call of `TryRequest` that the broker refuses the exchange of its request. -/
def testRefusedRun : List (Action Thread Occurrence) :=
  .start (.request { testCall with throwOnFailure := false }) ::
    steps 0 (issues ⟨7⟩ ++ [.go, .ended (.ok ()), .ended (.error accessRefused)])

theorem testRefused_classified :
    ∃ config c, (system testHosts).run (fun _ _ => true) System.init testRefusedRun = some config ∧
      config.pool[0]? = some (.request c) ∧
      Classified ((system testHosts).trail 0 System.init testRefusedRun) c := by
  have h : ((system testHosts).run (fun _ _ => true) System.init testRefusedRun).any (fun config =>
      (config.pool[0]?.bind Thread.requestCall).isSome) = true := by decide
  obtain ⟨config, hr, hs⟩ := (Option.any_eq_true _ _).mp h
  obtain ⟨c, hb⟩ := Option.isSome_iff_exists.mp hs
  obtain ⟨t, hi, hq⟩ := Option.bind_eq_some_iff.mp hb
  cases Thread.eq_of_requestCall hq
  exact ⟨config, c, hr, hi, (request_classified_iff hr hi).mpr (classifiable_of_check (by decide))⟩

/-- The broker refuses the declaration of the response queue. -/
def testUndeclaredRun : List (Action Thread Occurrence) :=
  .start (.request testCall) :: steps 0 ([.checked false, .go, .go, .go, .go, .ended (.ok ()), .go] ++
    List.replicate 3 (.ended (.ok ())) ++ [.ended (.error accessRefused)])

/-- The token of the caller is cancelled at the step. -/
def Occurrence.cancelled : Occurrence → Bool
  | .checked cancelled | .elapsed cancelled => cancelled
  | _ => false

/-- The exception the call threw. -/
def RequestCall.thrown (c : RequestCall) : Option Exception :=
  match c.phase with
  | .ended _ (.threw e) => some e
  | _ => none

theorem RequestCall.ended_of_thrown {c : RequestCall} {e : Exception} (h : c.thrown = some e) :
    ∃ issued, c.phase = .ended issued (.threw e) := by
  unfold thrown at h
  split at h
  next issued f hp =>
    cases h
    exact ⟨issued, hp⟩
  next => cases h

/-- Nobody disposes anything, the target is valid and the token is never cancelled. -/
theorem undeclared_queue_escapes :
    ¬∀ hosts actions config c, (system hosts).run (fun _ _ => true) System.init actions = some config →
      config.pool = [.request c] → guardTargetIsSet (.request c.request) = .ok () →
      (∀ p ∈ (system hosts).trail 0 System.init actions, p.2.cancelled = false) →
      Classified ((system hosts).trail 0 System.init actions) c := by
  intro claim
  have h : ((system testHosts).run (fun _ _ => true) System.init testUndeclaredRun).any (fun config =>
      config.pool.length = 1 && (config.pool[0]?.bind Thread.requestCall).any fun c =>
        (guardTargetIsSet (.request c.request)).isOk &&
          c.thrown.any Exception.isRabbitMQClientException) = true := by decide
  obtain ⟨config, hr, hp⟩ := (Option.any_eq_true _ _).mp h
  obtain ⟨hl, hp⟩ := Bool.and_eq_true_iff.mp hp
  obtain ⟨c, hb, hp⟩ := (Option.any_eq_true _ _).mp hp
  obtain ⟨hg, hp⟩ := Bool.and_eq_true_iff.mp hp
  obtain ⟨e, he, hraw⟩ := (Option.any_eq_true _ _).mp hp
  obtain ⟨t, hi, hq⟩ := Option.bind_eq_some_iff.mp hb
  cases Thread.eq_of_requestCall hq
  have pool : config.pool = [.request c] := by
    obtain ⟨u, hu⟩ := List.length_eq_one_iff.mp (by simpa using hl)
    rw [hu] at hi ⊢
    exact congrArg (fun v => [v]) (Option.some.inj hi)
  have target : guardTargetIsSet (.request c.request) = .ok () := by
    cases ht : guardTargetIsSet (.request c.request) with
    | ok => rfl
    | error e => rw [ht] at hg; cases hg
  obtain ⟨issued, hc⟩ := RequestCall.ended_of_thrown he
  rw [(claim testHosts testUndeclaredRun config c hr pool target (by decide)).noRaw issued e hc] at hraw
  cases hraw

end Cases
end RabbitMediator
