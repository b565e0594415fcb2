import RabbitMediator.Rendezvous

namespace Rendezvous

open Interleaving Registry

variable {κ ω ρ ε : Type} [DecidableEq κ] {P : Protocol κ ρ} {r r' : Registry κ ω ρ ε}

/-- What every step of every party promises: the registry stays in order and only moves on. -/
structure Keeps (P : Protocol κ ρ) (r r' : Registry κ ω ρ ε) : Prop where
  kept : Kept P r'
  evolves : r.Evolves r'

theorem Kept.stays (hk : Kept P r) : Keeps P r r := ⟨hk, .refl r⟩

theorem Kept.removes (hk : Kept P r) (id : κ) : Keeps P r (r.remove id) :=
  ⟨hk.remove id, evolves_remove r id⟩

theorem Kept.writes (hk : Kept P r) {v : ρ} {w : Nat} (hw : Knows r (P.key v) w) :
    Keeps P r (r.writeResult w v) :=
  ⟨hk.writeResult hw, evolves_writeResult r w v⟩

/-- A reply whose entry has gone completes its awaiter, once it has a result. -/
theorem Kept.replies (hk : Kept P r) {id : κ} {w : Nat} (hw : Knows r id w)
    (hn : r.entries.lookup id = none) (ha : Answered r w) :
    Keeps P r (r.complete w .ranToCompletion) := by
  refine ⟨hk.complete (hw.gone hn) fun h _ => ?_, evolves_complete r w _⟩
  obtain ⟨b, hb, hs⟩ := ha
  exact Option.some.inj (h.symm.trans hb) ▸ hs

theorem Kept.aborts (hk : Kept P r) {id : κ} {w : Nat} (hw : Knows r id w)
    (hn : r.entries.lookup id = none) (e : ε) : Keeps P r (r.complete w (.faulted e)) :=
  ⟨hk.complete (hw.gone hn) (fun _ h => by cases h), evolves_complete r w _⟩

/-- Everything a party can do in one step, with what it saw in the registry. -/
inductive Party.Step (P : Protocol κ ρ) (r : Registry κ ω ρ ε) :
    Party κ ω ρ ε → Input κ ω ρ ε → Registry κ ω ρ ε → Party κ ω ρ ε → Prop
  | entered {id owner} (fresh : ∀ {w : Nat} {a : Awaiter κ ω ρ ε}, r.awaiters[w]? = some a →
      a.correlationId ≠ id) :
      Step P r .idle (.enter id owner) (r.add id owner) (.client id r.awaiters.length)
  | left {id w} : Step P r (.client id w) .leave (r.remove id) .idle
  | answered {id w} (h : r.completion w ≠ .pending) : Step P r (.client id w) .answered r .idle
  | abandoned {id w} : Step P r (.client id w) .abandon r .idle
  | missed {v} (h : r.entries.lookup (P.key v) = none) :
      Step P r (.handler (.received v)) .handle r (.handler .missed)
  | found {v w} (h : r.entries.lookup (P.key v) = some w) :
      Step P r (.handler (.received v)) .handle r (.handler (.found v w))
  | removed {v w} (h : P.fieldFirst = true) :
      Step P r (.handler (.found v w)) .handle (r.remove (P.key v)) (.handler (.removed v w))
  | taken {v w} (h : P.fieldFirst = false) :
      Step P r (.handler (.found v w)) .handle (r.remove (P.key v)) (.handler (.ready v w))
  | wrote {v w} :
      Step P r (.handler (.removed v w)) .handle (r.writeResult w v) (.handler (.ready v w))
  | completed {v w} (h : P.fieldFirst = true) (hp : r.completion w = .pending) :
      Step P r (.handler (.ready v w)) .handle (r.complete w .ranToCompletion) (.handler .completed)
  | answeredWith {v w} (h : P.fieldFirst = false) (hp : r.completion w = .pending) :
      Step P r (.handler (.ready v w)) .handle ((r.writeResult w v).complete w .ranToCompletion)
        (.handler .completed)
  | faulted {v w} (hp : r.completion w ≠ .pending) :
      Step P r (.handler (.ready v w)) .handle r (.handler (.faulted w))
  | aborting {mine e} : Step P r .idle (.abort mine e) r (.aborter mine e (.start r))
  | met {mine e remaining id w} (h : r.entries.lookup id = some w) :
      Step P r (.aborter mine e (.enumerating remaining)) (.advance (some id)) r
        (.aborter mine e (.visiting (remaining.erase id) id w))
  | ended {mine e remaining} :
      Step P r (.aborter mine e (.enumerating remaining)) (.advance none) r (.aborter mine e .done)
  | finished {mine e} : Step P r (.aborter mine e .done) .finish r .idle
  | claimed {mine e remaining id w choice} (h : (r.entries.lookup id).isSome = true) :
      Step P r (.aborter mine e (.visiting remaining id w)) (.advance choice) (r.remove id)
        (.aborter mine e (.removed remaining w))
  | passed {mine e remaining id w choice} :
      Step P r (.aborter mine e (.visiting remaining id w)) (.advance choice) r
        (.aborter mine e (.enumerating remaining))
  | aborted {mine e remaining w choice} :
      Step P r (.aborter mine e (.removed remaining w)) (.advance choice)
        (r.complete w (.faulted e)) (.aborter mine e (.enumerating remaining))

theorem fresh_of_all {id : κ} (h : (r.awaiters.all fun a => a.correlationId ≠ id) = true) {w : Nat}
    {a : Awaiter κ ω ρ ε} (ha : r.awaiters[w]? = some a) : a.correlationId ≠ id := by
  simpa using List.all_eq_true.mp h a (List.mem_of_getElem? ha)

theorem Handler.step_of_next {h h' : Handler ρ} (hn : h.next P r = some (r', h')) :
    Party.Step P r (.handler h) .handle r' (.handler h') := by
  cases h with
  | received v =>
    simp only [Handler.next] at hn
    split at hn
    next hw => cases hn; exact .missed hw
    next w hw => cases hn; exact .found hw
  | found v w =>
    cases hn
    split
    next hf => exact .removed hf
    next hf => exact .taken (by simpa using hf)
  | removed v w => cases hn; exact .wrote
  | ready v w =>
    simp only [Handler.next] at hn
    split at hn
    next hp =>
      cases hn
      split
      next hf => exact .completed hf hp
      next hf => exact .answeredWith (by simpa using hf) hp
    next hp => cases hn; exact .faulted hp
  | _ => cases hn

theorem Handler.reply_next {h h' : Handler ρ} (hn : h.next P r = some (r', h')) {v : ρ}
    (hv : h'.reply = some v) : h.reply = some v := by
  cases Handler.step_of_next hn with
  | found | wrote => exact hv
  | removed | taken => exact hv
  | _ => cases hv

/-- The awaiter a handler has found waits under the id of its reply. -/
theorem Handler.knows_target {h : Handler ρ} {v : ρ} {w : Nat}
    (hf : (Party.handler h : Party κ ω ρ ε).Fits P r) (ht : h.target = some (v, w)) :
    Knows r (P.key v) w := by
  cases h with
  | found => cases ht; exact hf
  | removed => cases ht; exact hf.1
  | ready => cases ht; exact hf.1
  | _ => cases ht

theorem Aborter.step_of_next {mine : ω → Bool} {e : ε} {choice : Option κ} {a a' : Aborter κ}
    (hn : a.next mine e r choice = some (r', a')) :
    Party.Step P r (.aborter mine e a) (.advance choice) r' (.aborter mine e a') := by
  cases a with
  | enumerating remaining =>
    cases choice with
    | some id =>
      obtain ⟨w, hw, he⟩ := Option.map_eq_some_iff.mp hn
      cases he
      exact .met hw
    | none =>
      simp only [Aborter.next] at hn
      split at hn
      next => cases hn; exact .ended
      next => cases hn
  | visiting remaining id w =>
    obtain ⟨b, _, he⟩ := Option.map_eq_some_iff.mp hn
    split at he
    next hc => cases he; exact .claimed (Bool.and_eq_true_iff.mp hc).2
    next => cases he; exact .passed
  | removed remaining w => cases hn; exact .aborted
  | done => cases hn

theorem Party.step_of_next {p p' : Party κ ω ρ ε} {x : Input κ ω ρ ε}
    (hn : p.next P r x = some (r', p')) : p.Step P r x r' p' := by
  cases p with
  | idle =>
    cases x with
    | enter id owner =>
      simp only [Party.next] at hn
      split at hn
      next hall => cases hn; exact .entered (fresh_of_all hall)
      next => cases hn
    | abort mine e => cases hn; exact .aborting
    | _ => cases hn
  | client id w =>
    cases x with
    | leave => cases hn; exact .left
    | answered =>
      simp only [Party.next] at hn
      split at hn
      next => cases hn
      next hc => cases hn; exact .answered hc
    | abandon => cases hn; exact .abandoned
    | _ => cases hn
  | handler h =>
    cases x with
    | handle =>
      obtain ⟨⟨s, h'⟩, hs, he⟩ := Option.map_eq_some_iff.mp hn
      cases he
      exact Handler.step_of_next hs
    | _ => cases hn
  | aborter mine e a =>
    cases x with
    | advance choice =>
      obtain ⟨⟨s, a'⟩, hs, he⟩ := Option.map_eq_some_iff.mp hn
      cases he
      exact Aborter.step_of_next hs
    | finish =>
      cases a with
      | done => cases hn; exact .finished
      | _ => cases hn
    | _ => cases hn

/-- Whatever a party does, it keeps the registry in order and finds itself where it may rely on what
it needs next. -/
theorem Party.Step.keeps {p p' : Party κ ω ρ ε} {x : Input κ ω ρ ε} (hs : p.Step P r x r' p')
    (hk : Kept P r) (hf : p.Fits P r) : Keeps P r r' ∧ p'.Fits P r' := by
  cases hs with
  | entered fresh => exact ⟨⟨hk.add fresh, evolves_add r _ _⟩, _, awaiters_add_new r _ _, rfl⟩
  | left => exact ⟨hk.removes _, trivial⟩
  | answered | abandoned | missed | aborting | ended | finished | passed => exact ⟨hk.stays, trivial⟩
  | found hw | met hw => exact ⟨hk.stays, hk.valid.entry hw⟩
  | removed => exact ⟨hk.removes _, Knows.evolves (evolves_remove r _) hf, lookup_remove r _⟩
  | taken h =>
    exact ⟨hk.removes _, Knows.evolves (evolves_remove r _) hf, lookup_remove r _, by simp [h]⟩
  | wrote =>
    obtain ⟨knows, gone⟩ := hf
    exact ⟨hk.writes knows, knows.evolves (evolves_writeResult r _ _), gone, fun _ => knows.answered _⟩
  | completed h =>
    obtain ⟨knows, gone, answered⟩ := hf
    exact ⟨hk.replies knows gone (answered h), trivial⟩
  | answeredWith =>
    obtain ⟨knows, gone, _⟩ := hf
    have written := hk.writes knows
    have done := written.kept.replies (knows.evolves written.evolves) gone (knows.answered _)
    exact ⟨⟨done.kept, written.evolves.trans done.evolves⟩, trivial⟩
  | faulted hp => exact ⟨hk.stays, hp⟩
  | claimed => exact ⟨hk.removes _, _, Knows.evolves (evolves_remove r _) hf, lookup_remove r _⟩
  | aborted =>
    obtain ⟨id, knows, gone⟩ := hf
    exact ⟨hk.aborts knows gone _, trivial⟩

theorem idle_or_received {i : Party κ ω ρ ε} (hs : (parties P).start r i = true) :
    i = .idle ∨ ∃ v, i = .handler (.received v) := by
  cases i with
  | idle => exact Or.inl rfl
  | handler h =>
    cases h with
    | received v => exact Or.inr ⟨v, rfl⟩
    | _ => cases hs
  | _ => cases hs

theorem parties_sound (P : Protocol κ ρ) : Sound (parties P : Threads (Registry κ ω ρ ε) _ _)
    (fun _ _ _ _ => True) (Kept P) (fun r _ p => p.Fits P r) (fun _ r r' => Keeps P r r') where
  start {r i p} _ hs := by
    rcases idle_or_received hs with rfl | ⟨v, rfl⟩ <;> trivial
  step hk hf _ hn := by
    obtain ⟨keeps, fits⟩ := (Party.step_of_next hn).keeps hk hf
    exact ⟨keeps.kept, fits, keeps⟩
  stable _ keeps _ hf := hf.evolves keeps.evolves keeps.kept.valid

/-- New awaiters come from clients that enter. -/
theorem Party.Step.correlationId {p p' : Party κ ω ρ ε} {x : Input κ ω ρ ε} (hs : p.Step P r x r' p')
    {w : Nat} {b : Awaiter κ ω ρ ε} (hb : r'.awaiters[w]? = some b) :
    (∃ (u : Nat) (a : Awaiter κ ω ρ ε), r.awaiters[u]? = some a ∧ a.correlationId = b.correlationId) ∨
      ∃ owner, x = .enter b.correlationId owner := by
  have modified : ∀ {s : Registry κ ω ρ ε}, s.Evolves r' → s.awaiters.length = r'.awaiters.length →
      ∃ (u : Nat) (a : Awaiter κ ω ρ ε), s.awaiters[u]? = some a ∧ a.correlationId = b.correlationId := by
    intro s he hl
    have hw := (List.getElem?_eq_some_iff.mp hb).1
    obtain ⟨a, ha⟩ : ∃ a, s.awaiters[w]? = some a := ⟨_, List.getElem?_eq_getElem (by omega)⟩
    obtain ⟨c, hc, hac⟩ := he.keep ha
    cases hb.symm.trans hc
    exact ⟨w, a, ha, hac.correlationId.symm⟩
  cases hs with
  | entered fresh =>
    rcases awaiters_add_cases hb with h | ⟨_, rfl⟩
    · exact Or.inl ⟨w, b, h, rfl⟩
    · exact Or.inr ⟨_, rfl⟩
  | wrote => exact Or.inl (modified (evolves_writeResult r _ _) (by simp [Registry.writeResult]))
  | completed => exact Or.inl (modified (evolves_complete r _ _) (by simp [Registry.complete]))
  | answeredWith =>
    exact Or.inl (modified ((evolves_writeResult r _ _).trans (evolves_complete _ _ _))
      (by simp [Registry.complete, Registry.writeResult]))
  | aborted => exact Or.inl (modified (evolves_complete r _ _) (by simp [Registry.complete]))
  | _ => exact Or.inl ⟨w, b, hb, rfl⟩

/-- A result that was not there before is the reply of the handler that stepped. -/
theorem Party.Step.result {p p' : Party κ ω ρ ε} {x : Input κ ω ρ ε} (hs : p.Step P r x r' p')
    {u : Nat} {b : Awaiter κ ω ρ ε} {v : ρ} (hb : r'.awaiters[u]? = some b) (hv : b.result = some v) :
    (∃ a : Awaiter κ ω ρ ε, r.awaiters[u]? = some a ∧ a.result = some v) ∨
      ∃ w, p = .handler (.removed v w) ∨ p = .handler (.ready v w) := by
  have completed : ∀ {s : Registry κ ω ρ ε} {w : Nat} {c : Completion ε},
      (s.complete w c).awaiters[u]? = some b → ∃ a : Awaiter κ ω ρ ε,
        s.awaiters[u]? = some a ∧ a.result = some v := by
    intro s w c h
    obtain ⟨a, ha, ⟨_, rfl⟩ | ⟨_, rfl⟩⟩ := awaiters_modify_cases h
    · refine ⟨a, ha, ?_⟩
      cases hc : a.completion <;> simp only [hc] at hv <;> exact hv
    · exact ⟨_, ha, hv⟩
  have written : ∀ {w : Nat} {y : ρ} {a : Awaiter κ ω ρ ε}, (r.writeResult w y).awaiters[u]? = some a →
      a.result = some v → (∃ a : Awaiter κ ω ρ ε, r.awaiters[u]? = some a ∧ a.result = some v) ∨ y = v := by
    intro w y a h hr
    obtain ⟨c, hc, ⟨_, rfl⟩ | ⟨_, rfl⟩⟩ := awaiters_modify_cases h
    · exact Or.inr (Option.some.inj hr)
    · exact Or.inl ⟨_, hc, hr⟩
  cases hs with
  | entered =>
    rcases awaiters_add_cases hb with h | ⟨_, rfl⟩
    · exact Or.inl ⟨b, h, hv⟩
    · cases hv
  | wrote =>
    rcases written hb hv with h | rfl
    · exact Or.inl h
    · exact Or.inr ⟨_, Or.inl rfl⟩
  | completed | aborted => exact Or.inl (completed hb)
  | answeredWith =>
    obtain ⟨a, ha, hr⟩ := completed hb
    rcases written ha hr with h | rfl
    · exact Or.inl h
    · exact Or.inr ⟨_, Or.inr rfl⟩
  | _ => exact Or.inl ⟨b, hb, hv⟩

def start : Config (Registry κ ω ρ ε) (Party κ ω ρ ε) := ⟨empty, []⟩

theorem kept_of_reachable {c : Config (Registry κ ω ρ ε) (Party κ ω ρ ε)}
    (h : Reachable (parties P) start c) :
    Kept P c.shared ∧ ∀ (i : Nat) (p : Party κ ω ρ ε), c.pool[i]? = some p → p.Fits P c.shared :=
  (parties_sound P).always (kept_empty P) rfl h

section Completing

/-- The party is past its lookup of awaiter `u` and before its end. -/
def Party.holds : Party κ ω ρ ε → Nat → Prop
  | .handler (.found _ w), u => u = w
  | .handler (.removed _ w), u => u = w
  | .handler (.ready _ w), u => u = w
  | _, _ => False

/-- A party comes to hold an awaiter only by looking it up. -/
theorem Party.Step.holds {p p' : Party κ ω ρ ε} {x : Input κ ω ρ ε} (hs : p.Step P r x r' p')
    {u : Nat} (hu : p'.holds u) : p.holds u ∨
      ∃ v, p = .handler (.received v) ∧ r.entries.lookup (P.key v) = some u ∧ r' = r := by
  cases hs with
  | found h => exact Or.inr ⟨_, rfl, (show u = _ from hu) ▸ h, rfl⟩
  | removed | taken | wrote => exact Or.inl hu
  | _ => exact hu.elim

/-- A completion changes only where a handler or a walk was about to complete it. -/
theorem Party.Step.completion {p p' : Party κ ω ρ ε} {x : Input κ ω ρ ε} (hs : p.Step P r x r' p')
    (u : Nat) : r'.completion u = r.completion u ∨
      ((∃ v, p = .handler (.ready v u)) ∧ p' = .handler .completed) ∨
      ∃ mine e remaining, p = .aborter mine e (.removed remaining u) := by
  cases hs with
  | entered => exact Or.inl (completion_add r _ _ u)
  | wrote => exact Or.inl (completion_writeResult r _ _ u)
  | @completed v w =>
    by_cases hw : w = u
    · exact Or.inr (Or.inl ⟨⟨v, by rw [hw]⟩, rfl⟩)
    · exact Or.inl (completion_complete_ne r _ hw)
  | @answeredWith v w =>
    by_cases hw : w = u
    · exact Or.inr (Or.inl ⟨⟨v, by rw [hw]⟩, rfl⟩)
    · exact Or.inl ((completion_complete_ne _ _ hw).trans (completion_writeResult r w v u))
  | @aborted mine e remaining w =>
    by_cases hw : w = u
    · exact Or.inr (Or.inr ⟨mine, e, remaining, by rw [hw]⟩)
    · exact Or.inl (completion_complete_ne r _ hw)
  | _ => exact Or.inl rfl

/-- The awaiters that the next step of the party takes for itself: the one a handler is about to find,
and the one a walk is about to fail. -/
def Party.claims (P : Protocol κ ρ) (r : Registry κ ω ρ ε) : Party κ ω ρ ε → Nat → Prop
  | .handler (.received v), u => r.entries.lookup (P.key v) = some u
  | .aborter _ _ (.removed _ w), u => u = w
  | _, _ => False

/-- Party number `i` claims no awaiter that a handler holds. -/
def Exclusive (P : Protocol κ ρ) (c : Config (Registry κ ω ρ ε) (Party κ ω ρ ε)) (i : Nat) : Prop :=
  ∀ p w, c.pool[i]? = some p → p.claims P c.shared w → ∀ (j : Nat) q, c.pool[j]? = some q → ¬q.holds w

theorem Party.claims.not_holds {p : Party κ ω ρ ε} {w : Nat} (h : p.claims P r w) (u : Nat) :
    ¬p.holds u := by
  unfold Party.claims at h
  split at h
  · exact fun h => h
  · exact fun h => h
  · exact h.elim

/-- Every awaiter has one holder at most, who finds it pending. -/
structure Alone (c : Config (Registry κ ω ρ ε) (Party κ ω ρ ε)) : Prop where
  unique : ∀ {i j : Nat} {p q w}, c.pool[i]? = some p → c.pool[j]? = some q → p.holds w → q.holds w →
    i = j
  pending : ∀ {i : Nat} {p w}, c.pool[i]? = some p → p.holds w → c.shared.completion w = .pending
  unfaulted : ∀ {i w : Nat}, c.pool[i]? ≠ some (.handler (.faulted w))

theorem Alone.step {c : Config (Registry κ ω ρ ε) (Party κ ω ρ ε)} (alone : Alone c)
    (hk : Kept P c.shared) {i : Nat} {p p' : Party κ ω ρ ε} {x : Input κ ω ρ ε}
    (hp : c.pool[i]? = some p) (exclusive : Exclusive P c i) (hs : p.Step P c.shared x r' p') :
    Alone ⟨r', c.pool.set i p'⟩ := by
  -- the stepping party never comes to hold what another one holds
  have apart : ∀ {j : Nat} {q : Party κ ω ρ ε} {w : Nat}, j ≠ i → c.pool[j]? = some q → q.holds w →
      ¬p'.holds w := by
    intro j q w hj hq hqw hpw
    rcases hs.holds hpw with hpw | ⟨v, rfl, hl, _⟩
    · exact hj (alone.unique hq hp hqw hpw)
    · exact exclusive _ w hp hl j q hq hqw
  constructor
  · intro j k q u w hj hk hq hu
    rcases pool_set_cases hp hj with ⟨rfl, rfl⟩ | ⟨hji, hjo⟩ <;>
      rcases pool_set_cases hp hk with ⟨rfl, rfl⟩ | ⟨hki, hko⟩
    · rfl
    · exact absurd hq (apart hki hko hu)
    · exact absurd hu (apart hji hjo hq)
    · exact alone.unique hjo hko hq hu
  · intro j q w hj hq
    rcases pool_set_cases hp hj with ⟨rfl, rfl⟩ | ⟨hji, hj⟩
    · rcases hs.holds hq with hw | ⟨v, rfl, hl, rfl⟩
      · rcases hs.completion w with he | ⟨_, rfl⟩ | ⟨_, _, _, rfl⟩
        · exact he.trans (alone.pending hp hw)
        · exact hq.elim
        · exact hw.elim
      · obtain ⟨a, ha, hid⟩ := hk.valid.entry hl
        by_contra hc
        have hn := hk.valid.closed ha (completion_of_awaiter ha ▸ hc)
        rw [hid, hl] at hn
        cases hn
    · rcases hs.completion w with he | ⟨⟨v, rfl⟩, _⟩ | ⟨_, _, _, rfl⟩
      · exact he.trans (alone.pending hj hq)
      · exact absurd (alone.unique hj hp hq rfl) hji
      · exact absurd hq (exclusive _ w hp rfl j q hj)
  · intro j w hj
    rcases pool_set_cases hp hj with ⟨_, he⟩ | ⟨_, hj⟩
    · subst he
      cases hs with
      | faulted hc => exact hc (alone.pending hp rfl)
    · exact alone.unfaulted hj

/-- While every party claims only what no handler holds, no completion ever throws. -/
theorem alone_of_exclusive {c : Config (Registry κ ω ρ ε) (Party κ ω ρ ε)}
    (h : ReachableWhere (parties P) (fun c a => ∀ i x, a = .step i x → Exclusive P c i) start c) :
    Alone c := by
  refine h.invariant ⟨by simp [start], by simp [start], by simp [start]⟩ ?_
  intro c d a hc alone allowed hd
  cases a with
  | start t =>
    obtain ⟨ht, rfl⟩ := act_start hd
    have nothing : ∀ w, ¬t.holds w := by
      rcases idle_or_received ht with rfl | ⟨v, rfl⟩ <;> exact fun _ h => h
    constructor
    · intro i j p q w hi hj hp hq
      rcases pool_append_cases hi with hi | ⟨_, rfl⟩
      · rcases pool_append_cases hj with hj | ⟨_, rfl⟩
        · exact alone.unique hi hj hp hq
        · exact absurd hq (nothing w)
      · exact absurd hp (nothing w)
    · intro i p w hi hp
      rcases pool_append_cases hi with hi | ⟨_, rfl⟩
      · exact alone.pending hi hp
      · exact absurd hp (nothing w)
    · intro i w hi
      rcases pool_append_cases hi with hi | ⟨_, rfl⟩
      · exact alone.unfaulted hi
      · rcases idle_or_received ht with he | ⟨_, he⟩ <;> cases he
  | step i x =>
    obtain ⟨p, s, p', hp, hn, rfl⟩ := act_step hd
    exact alone.step (kept_of_reachable hc.reachable).1 hp (allowed i x rfl) (Party.step_of_next hn)

end Completing

section Attending

/-- A new entry is that of a client which has just entered. -/
theorem Party.Step.entry {p p' : Party κ ω ρ ε} {x : Input κ ω ρ ε} (hs : p.Step P r x r' p')
    {id : κ} {w : Nat} (h : r'.entries.lookup id = some w) :
    r.entries.lookup id = some w ∨ p' = .client id w := by
  cases hs with
  | entered =>
    rcases ConcurrentDictionary.lookup_tryAdd_cases h with h | ⟨rfl, rfl, _⟩
    · exact Or.inl h
    · exact Or.inr rfl
  | left | removed | taken | claimed => exact Or.inl (ConcurrentDictionary.lookup_of_lookup_erase h).2
  | _ => exact Or.inl h

end Attending
end Rendezvous
