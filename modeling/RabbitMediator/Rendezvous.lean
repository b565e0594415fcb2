import RabbitMediator.Interleaving
import RabbitMediator.Registry

namespace Rendezvous

open Interleaving Registry

/-- How replies belong to awaiters. `fieldFirst` says that the result is a field written before the
source is completed, and not part of completing it. -/
structure Protocol (κ ρ : Type) where
  key : ρ → κ
  fieldFirst : Bool

/-- A reply on its way to its awaiter. Looking the entry up and removing it are two steps, and the
second does not say whether there was still an entry to remove. -/
inductive Handler (ρ : Type)
  | received (v : ρ)
  | found (v : ρ) (w : Nat)
  | removed (v : ρ) (w : Nat)
  | ready (v : ρ) (w : Nat)
  | completed
  | missed
  /-- Completing the source threw: it was completed already. -/
  | faulted (w : Nat)

/-- The reply on its way, until it is over. -/
def Handler.reply {ρ : Type} : Handler ρ → Option ρ
  | .received v | .found v _ | .removed v _ | .ready v _ => some v
  | _ => none

/-- The awaiter it is for, once it was looked up. -/
def Handler.target {ρ : Type} : Handler ρ → Option (ρ × Nat)
  | .found v w | .removed v w | .ready v w => some (v, w)
  | _ => none

/-- A walk over the entries that fails every awaiter it is meant for. -/
inductive Aborter (κ : Type)
  | enumerating (remaining : List κ)
  | visiting (remaining : List κ) (id : κ) (w : Nat)
  | removed (remaining : List κ) (w : Nat)
  | done

inductive Party (κ ω ρ ε : Type)
  | idle
  | client (id : κ) (w : Nat)
  | handler (h : Handler ρ)
  | aborter (mine : ω → Bool) (e : ε) (a : Aborter κ)

inductive Input (κ ω ρ ε : Type)
  /-- A client adds an awaiter of its own. -/
  | enter (id : κ) (owner : ω)
  /-- A client removes its entry and goes. -/
  | leave
  /-- A client sees its awaiter completed and goes. -/
  | answered
  /-- A client goes without a look at its entry. -/
  | abandon
  | handle
  | abort (mine : ω → Bool) (e : ε)
  | advance (choice : Option κ)
  | finish

variable {κ ω ρ ε : Type} [DecidableEq κ]

def Handler.next (P : Protocol κ ρ) (r : Registry κ ω ρ ε) :
    Handler ρ → Option (Registry κ ω ρ ε × Handler ρ)
  | .received v =>
    match r.entries.lookup (P.key v) with
    | none => some (r, .missed)
    | some w => some (r, .found v w)
  | .found v w => some (r.remove (P.key v), if P.fieldFirst then .removed v w else .ready v w)
  | .removed v w => some (r.writeResult w v, .ready v w)
  | .ready v w =>
    if r.completion w = .pending then
      some ((if P.fieldFirst then r else r.writeResult w v).complete w .ranToCompletion, .completed)
    else some (r, .faulted w)
  | _ => none

/-- Some steps of a handler with nobody in between. -/
def Handler.run (P : Protocol κ ρ) : Nat → Registry κ ω ρ ε × Handler ρ → Registry κ ω ρ ε × Handler ρ
  | 0, s => s
  | n + 1, s =>
    match s.2.next P s.1 with
    | some s' => Handler.run P n s'
    | none => s

theorem Handler.run_step {P : Protocol κ ρ} {r r' : Registry κ ω ρ ε} {h h' : Handler ρ}
    (hn : h.next P r = some (r', h')) (n : Nat) :
    Handler.run P (n + 1) (r, h) = Handler.run P n (r', h') := by
  simp only [Handler.run, hn]

/-- A handler alone with the registry either finds nothing, or completes what it found if nobody did so
before. -/
theorem Handler.run_received (P : Protocol κ ρ) (r : Registry κ ω ρ ε) (v : ρ) :
    (Handler.run P 4 (r, .received v)).2 = match r.entries.lookup (P.key v) with
      | none => .missed
      | some w => if r.completion w = .pending then .completed else .faulted w := by
  cases hl : r.entries.lookup (P.key v) with
  | none =>
    have missed : Handler.next P r (.received v) = some (r, .missed) := by
      simp only [Handler.next, hl]
    rw [Handler.run_step missed]
    rfl
  | some w =>
    have found : Handler.next P r (.received v) = some (r, .found v w) := by
      simp only [Handler.next, hl]
    rw [Handler.run_step found]
    cases hf : P.fieldFirst with
    | true =>
      have removed : Handler.next P r (.found v w) = some (r.remove (P.key v), .removed v w) := by
        simp only [Handler.next, hf, if_true]
      have written : Handler.next P (r.remove (P.key v)) (.removed v w) =
          some ((r.remove (P.key v)).writeResult w v, .ready v w) := rfl
      have same : ((r.remove (P.key v)).writeResult w v).completion w = r.completion w :=
        completion_writeResult _ _ _ _
      rw [Handler.run_step removed, Handler.run_step written]
      by_cases hp : r.completion w = .pending
      · simp [Handler.run, Handler.next, same, hp]
      · simp [Handler.run, Handler.next, same, hp]
    | false =>
      have removed : Handler.next P r (.found v w) = some (r.remove (P.key v), .ready v w) := by
        simp only [Handler.next, hf]
        rfl
      have same : (r.remove (P.key v)).completion w = r.completion w := rfl
      rw [Handler.run_step removed]
      by_cases hp : r.completion w = .pending
      · simp [Handler.run, Handler.next, same, hp]
      · simp [Handler.run, Handler.next, same, hp]

def Aborter.start (r : Registry κ ω ρ ε) : Aborter κ := .enumerating r.entries.keys

/-- An enumeration may meet entries added after it began. It ends only when each entry it began with
has been met or has gone. -/
def Aborter.next (mine : ω → Bool) (e : ε) (r : Registry κ ω ρ ε) (choice : Option κ) :
    Aborter κ → Option (Registry κ ω ρ ε × Aborter κ)
  | .enumerating remaining =>
    match choice with
    | some id => (r.entries.lookup id).map fun w => (r, .visiting (remaining.erase id) id w)
    | none =>
      if remaining.all fun id => (r.entries.lookup id).isNone then some (r, .done) else none
  | .visiting remaining id w => r.awaiters[w]?.map fun a =>
    if mine a.owner && (r.entries.lookup id).isSome then (r.remove id, .removed remaining w)
    else (r, .enumerating remaining)
  | .removed remaining w => some (r.complete w (.faulted e), .enumerating remaining)
  | .done => none

def Aborter.isDone : Aborter κ → Bool
  | .done => true
  | _ => false

def Party.next (P : Protocol κ ρ) (r : Registry κ ω ρ ε) :
    Party κ ω ρ ε → Input κ ω ρ ε → Option (Registry κ ω ρ ε × Party κ ω ρ ε)
  | .idle, .enter id owner =>
    if r.awaiters.all fun a => a.correlationId ≠ id then
      some (r.add id owner, .client id r.awaiters.length)
    else none
  | .idle, .abort mine e => some (r, .aborter mine e (.start r))
  | .client id _, .leave => some (r.remove id, .idle)
  | .client _ w, .answered => if r.completion w = .pending then none else some (r, .idle)
  | .client _ _, .abandon => some (r, .idle)
  | .handler h, .handle => (h.next P r).map fun x => (x.1, .handler x.2)
  | .aborter _ _ a, .finish => if a.isDone then some (r, .idle) else none
  | .aborter mine e a, .advance choice => (a.next mine e r choice).map fun x => (x.1, .aborter mine e x.2)
  | _, _ => none

/-- Between two states, a party took one of its steps at the registry with an input that is `ok`, or both
stayed as they were. -/
inductive Moves (P : Protocol κ ρ) (ok : Input κ ω ρ ε → Prop) (r r' : Registry κ ω ρ ε)
    (p p' : Party κ ω ρ ε) : Prop
  | stays (registry : r' = r) (party : p' = p)
  | steps (x : Input κ ω ρ ε) (step : p.next P r x = some (r', p')) (input : ok x)

theorem Moves.imp {P : Protocol κ ρ} {ok ok' : Input κ ω ρ ε → Prop} {r r' : Registry κ ω ρ ε}
    {p p' : Party κ ω ρ ε} (h : Moves P ok r r' p p') (imp : ∀ x, ok x → ok' x) :
    Moves P ok' r r' p p' := by
  cases h with
  | stays registry party => exact .stays registry party
  | steps x step input => exact .steps x step (imp x input)

/-- Any number of clients, replies and aborting walks at one registry. -/
def parties (P : Protocol κ ρ) : Threads (Registry κ ω ρ ε) (Party κ ω ρ ε) (Input κ ω ρ ε) where
  start _ p := match p with
    | .idle | .handler (.received _) => true
    | _ => false
  next r _ p x := p.next P r x

section Facts

/-- What holds of the awaiter `w` for whoever works on it under `id`. -/
def Knows (r : Registry κ ω ρ ε) (id : κ) (w : Nat) : Prop :=
  ∃ a : Awaiter κ ω ρ ε, r.awaiters[w]? = some a ∧ a.correlationId = id

theorem Knows.evolves {r r' : Registry κ ω ρ ε} (h : r.Evolves r') {id : κ} {w : Nat}
    (hk : Knows r id w) : Knows r' id w := by
  obtain ⟨a, ha, hid⟩ := hk
  obtain ⟨b, hb, hab⟩ := h.keep ha
  exact ⟨b, hb, hab.correlationId.trans hid⟩

theorem Knows.absent {r r' : Registry κ ω ρ ε} (h : r.Evolves r') (hv : r'.Valid) {id : κ} {w : Nat}
    (hk : Knows r id w) (hn : r.entries.lookup id = none) : r'.entries.lookup id = none := by
  obtain ⟨a, ha, rfl⟩ := hk
  exact h.absent hv ha hn

def Answered (r : Registry κ ω ρ ε) (w : Nat) : Prop :=
  ∃ a : Awaiter κ ω ρ ε, r.awaiters[w]? = some a ∧ a.result.isSome = true

theorem Answered.evolves {r r' : Registry κ ω ρ ε} (h : r.Evolves r') {w : Nat}
    (ha : Answered r w) : Answered r' w := by
  obtain ⟨a, ha, hs⟩ := ha
  obtain ⟨b, hb, hab⟩ := h.keep ha
  exact ⟨b, hb, hab.result hs⟩

/-- What a party may rely on at each of its steps. -/
def Party.Fits (P : Protocol κ ρ) (r : Registry κ ω ρ ε) : Party κ ω ρ ε → Prop
  | .client id w => Knows r id w
  | .handler (.found v w) => Knows r (P.key v) w
  | .handler (.removed v w) => Knows r (P.key v) w ∧ r.entries.lookup (P.key v) = none
  | .handler (.ready v w) => Knows r (P.key v) w ∧ r.entries.lookup (P.key v) = none ∧
      (P.fieldFirst = true → Answered r w)
  | .handler (.faulted w) => r.completion w ≠ .pending
  | .aborter _ _ (.visiting _ id w) => Knows r id w
  | .aborter _ _ (.removed _ w) => ∃ id, Knows r id w ∧ r.entries.lookup id = none
  | _ => True

theorem Party.Fits.evolves {P : Protocol κ ρ} {r r' : Registry κ ω ρ ε} (h : r.Evolves r')
    (hv : r'.Valid) {p : Party κ ω ρ ε} (hp : p.Fits P r) : p.Fits P r' := by
  cases p with
  | idle => trivial
  | client id w => exact Knows.evolves h hp
  | handler x =>
    cases x with
    | found v w => exact Knows.evolves h hp
    | removed v w => exact ⟨hp.1.evolves h, hp.1.absent h hv hp.2⟩
    | ready v w =>
      exact ⟨hp.1.evolves h, hp.1.absent h hv hp.2.1, fun hf => (hp.2.2 hf).evolves h⟩
    | faulted w => exact fun hc => hp (by rw [← h.completion_eq hp, hc])
    | _ => trivial
  | aborter mine e a =>
    cases a with
    | visiting remaining id w => exact Knows.evolves h hp
    | removed remaining w =>
      obtain ⟨id, hk, hn⟩ := hp
      exact ⟨id, hk.evolves h, hk.absent h hv hn⟩
    | _ => trivial

/-- A registry that its parties have kept in order: every result belongs to its awaiter. -/
structure Kept (P : Protocol κ ρ) (r : Registry κ ω ρ ε) : Prop where
  valid : r.Valid
  keyed : ∀ {w : Nat} {a : Awaiter κ ω ρ ε} {v : ρ}, r.awaiters[w]? = some a → a.result = some v →
    P.key v = a.correlationId

theorem kept_empty (P : Protocol κ ρ) : Kept P (empty : Registry κ ω ρ ε) :=
  ⟨valid_empty, by simp [empty]⟩

theorem Kept.add {P : Protocol κ ρ} {r : Registry κ ω ρ ε} (hk : Kept P r) {id : κ} {owner : ω}
    (fresh : ∀ {w : Nat} {a : Awaiter κ ω ρ ε}, r.awaiters[w]? = some a → a.correlationId ≠ id) :
    Kept P (r.add id owner) := by
  refine ⟨hk.valid.add fresh, fun h hv => ?_⟩
  rcases awaiters_add_cases h with h | ⟨_, rfl⟩
  · exact hk.keyed h hv
  · cases hv

theorem Kept.remove {P : Protocol κ ρ} {r : Registry κ ω ρ ε} (hk : Kept P r) (id : κ) :
    Kept P (r.remove id) :=
  ⟨hk.valid.remove id, hk.keyed⟩

theorem Kept.writeResult {P : Protocol κ ρ} {r : Registry κ ω ρ ε} (hk : Kept P r) {v : ρ} {w : Nat}
    (hw : Knows r (P.key v) w) : Kept P (r.writeResult w v) := by
  refine ⟨hk.valid.writeResult w v, fun h hr => ?_⟩
  obtain ⟨a, ha, ⟨rfl, rfl⟩ | ⟨_, rfl⟩⟩ := awaiters_modify_cases h
  · obtain ⟨b, hb, hid⟩ := hw
    cases ha.symm.trans hb
    cases hr
    exact hid.symm
  · exact hk.keyed ha hr

theorem Kept.complete {P : Protocol κ ρ} {r : Registry κ ω ρ ε} (hk : Kept P r) {w : Nat}
    {c : Completion ε}
    (gone : ∀ {a}, r.awaiters[w]? = some a → r.entries.lookup a.correlationId = none)
    (answered : ∀ {a}, r.awaiters[w]? = some a → c = .ranToCompletion → a.result.isSome) :
    Kept P (r.complete w c) := by
  refine ⟨hk.valid.complete gone answered, fun h hr => ?_⟩
  obtain ⟨a, ha, ⟨rfl, rfl⟩ | ⟨_, rfl⟩⟩ := awaiters_modify_cases h
  · cases hc : a.completion <;> simp only [hc] at hr ⊢ <;> exact hk.keyed ha hr
  · exact hk.keyed ha hr

theorem Knows.gone {r : Registry κ ω ρ ε} {id : κ} {w : Nat} (hk : Knows r id w)
    (hn : r.entries.lookup id = none) {a : Awaiter κ ω ρ ε} (ha : r.awaiters[w]? = some a) :
    r.entries.lookup a.correlationId = none := by
  obtain ⟨b, hb, rfl⟩ := hk
  cases ha.symm.trans hb
  exact hn

omit [DecidableEq κ] in
theorem Knows.answered {r : Registry κ ω ρ ε} {id : κ} {w : Nat} (hk : Knows r id w) (v : ρ) :
    Answered (r.writeResult w v) w := by
  obtain ⟨a, ha, _⟩ := hk
  exact ⟨{ a with result := some v }, by simp [Registry.writeResult, ha], rfl⟩

end Facts
end Rendezvous
