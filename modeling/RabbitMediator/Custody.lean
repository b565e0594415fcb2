import RabbitMediator.SharedQueue

namespace RabbitMediator.SharedQueue

open Interleaving

/-- What is true of a copy in every state. Where nothing gets lost, a copy that is settled for good has
been consumed. -/
structure Copy.Kept (lossless : Prop) (c : Copy) : Prop where
  once : c.consumed.length ≤ 1
  queued : c.place = .queued → c.consumed = []
  settled : lossless → c.place = .acked ∨ c.place = .discarded → c.consumed = [c.sentObject]

/-- What a handler is still going to do ends with the settlement and keeps the copy right until then. -/
def Copy.Pending (lossless : Prop) (c : Copy) (channel deliveryTag : Nat) (effects : List Effect) : Prop :=
  ∃ before how, effects = before ++ [.settled channel deliveryTag how] ∧
    before.countP Effect.settles = 0 ∧ (c.consumed ++ consumptions before).length ≤ 1 ∧
    (how = .reject true → c.consumed ++ consumptions before = []) ∧
    (lossless → how ≠ .reject true → c.consumed ++ consumptions before = [c.sentObject])

def State.Kept (lossless : Prop) (s : State) : Prop :=
  ∀ (k : Nat) (c : Copy), s.copies[k]? = some c → c.Kept lossless

/-- The delivery under the tag is not settled yet, and its copy is as it should be. -/
def State.Has (s : State) (copy channel deliveryTag : Nat) (good : Copy → Prop) : Prop :=
  ∃ c, s.copies[copy]? = some c ∧ c.place = .delivered channel deliveryTag ∧ good c

/-- A handler has its copy until it has settled it. -/
def Thread.Holds (lossless : Prop) (s : State) (i : Nat) : Thread → Prop
  | .delivery m (.acting copy (e :: rest)) =>
    s.Has copy m.multiplexer i fun c => c.Pending lossless m.multiplexer i (e :: rest)
  | .delivery m phase => ∀ copy, phase.reading = some copy →
    s.Has copy m.multiplexer i fun c => c.consumed = []
  | _ => True

/-- A thread touches no copy that was delivered under the tag of another one. -/
def Leaves (i : Nat) (s s' : State) : Prop :=
  ∀ (k : Nat) (c : Copy) (n j : Nat), s.copies[k]? = some c → c.place = .delivered n j → j ≠ i →
    s'.copies[k]? = some c

/-- At its last look a handler that is ready finds all it needs to consume its copy. -/
def Consumes (hosts : Hosts) (s : State) (_ : Nat) (t : Thread) (_ : Event) : Prop :=
  ∀ m copy environment c, t = .delivery m (.creating copy environment) → s.copies[copy]? = some c →
    environment.configureDone = true → environment.mediatorConfigureDone = true →
    Consumable { environment with configurationOfConsumer := (s.members m).configuration }
      (hosts.mediator m) c.sentObject

section Steps

variable {lossless : Prop} {hosts : Hosts} {s s' : State} {i : Nat} {t t' : Thread} {k : Nat}
  {f : Copy → Copy} {c : Copy}

theorem copies_modify_self (h : s.copies[k]? = some c) : (s.modify k f).copies[k]? = some (f c) := by
  simp [State.modify, h]

theorem copies_modify_ne {j : Nat} (hj : j ≠ k) : (s.modify k f).copies[j]? = s.copies[j]? := by
  simp [State.modify, Ne.symm hj]

theorem State.Kept.modify (hk : s.Kept lossless) (h : s.copies[k]? = some c)
    (good : (f c).Kept lossless) : (s.modify k f).Kept lossless := by
  intro j d hd
  by_cases hj : j = k
  · subst hj
    rw [copies_modify_self h] at hd
    exact Option.some.inj hd ▸ good
  · rw [copies_modify_ne hj] at hd
    exact hk j d hd

/-- A copy that no other thread holds may be changed. -/
theorem leaves_modify (h : s.copies[k]? = some c) (own : ∀ n j, c.place = .delivered n j → j = i) :
    Leaves i s (s.modify k f) := by
  intro j d n tag hd hp ht
  by_cases hj : j = k
  · subst hj
    cases h.symm.trans hd
    exact absurd (own n tag hp) ht
  · rwa [copies_modify_ne hj]

theorem State.Has.leaves {channel j : Nat} {good : Copy → Prop} (h : s.Has k channel j good)
    (leaves : Leaves i s s') (hj : j ≠ i) : s'.Has k channel j good := by
  obtain ⟨c, hc, hp, hg⟩ := h
  exact ⟨c, leaves k c channel j hc hp hj, hp, hg⟩

theorem Thread.Holds.leaves {j : Nat} (h : t.Holds lossless s j) (leaves : Leaves i s s') (hj : j ≠ i) :
    t.Holds lossless s' j := by
  unfold Holds at h ⊢
  split at h
  next => exact h.leaves leaves hj
  next m phase _ => exact fun copy hr => (h copy hr).leaves leaves hj
  next => trivial

/-- A handler that has decided will settle last, consume at most once, and give back nothing it consumed. -/
theorem pending_of_decided (environment : Environment) (mediator : Mediator) (channel : Nat)
    (fresh : c.consumed = [])
    (reaches : lossless → environment.configureDone = true → environment.mediatorConfigureDone = true →
      Consumable environment mediator c.sentObject) :
    c.Pending lossless channel i (handleSentObjectReceived environment mediator channel i).effects := by
  obtain ⟨before, how, he, _, hs, hc, hr, ha⟩ :=
    handleSentObjectReceived_settles environment mediator channel i
  rw [countP_consumes] at hc hr
  refine ⟨before, how, he, hs, ?_, fun hh => ?_, fun hl hh => ?_⟩
  · rwa [fresh, List.nil_append]
  · rw [fresh, List.nil_append]
    exact List.length_eq_zero_iff.mp (hr hh)
  · obtain ⟨hd, hm, rfl⟩ := ha hh
    rw [fresh, List.nil_append]
    exact (consumptions_eq_iff _ _ _).mpr (reaches hl hd hm)

theorem eq_of_singleton {e f : Effect} {before : List Effect} (h : [e] = before ++ [f]) :
    before = [] ∧ e = f := by
  cases before with
  | nil => exact ⟨rfl, List.singleton_inj.mp h⟩
  | cons d before => simp at h

/-- The last effect of a handler is the settlement, after which the copy is kept. -/
theorem kept_of_settled {channel deliveryTag : Nat} {how : Settlement}
    (h : c.Pending lossless channel deliveryTag [.settled channel deliveryTag how]) :
    Copy.Kept lossless { c with place := Settlement.place how } := by
  obtain ⟨before, how', he, _, hl, hq, hc⟩ := h
  obtain ⟨rfl, heq⟩ := eq_of_singleton he
  cases heq
  simp only [consumptions_nil, List.append_nil] at hl hq hc
  refine ⟨hl, fun hp => hq ?_, fun hless hp => hc hless ?_⟩
  · cases how with
    | ack => cases hp
    | reject requeue => cases requeue <;> first | rfl | cases hp
  · rintro rfl
    rcases hp with hp | hp <;> cases hp

/-- The effects before the settlement leave it pending. -/
theorem pending_of_performed {channel deliveryTag : Nat} {e e' : Effect} {rest : List Effect}
    (h : c.Pending lossless channel deliveryTag (e :: e' :: rest)) :
    e.settles = false ∧ Copy.Pending lossless { c with consumed := c.consumed ++ consumptions [e] }
      channel deliveryTag (e' :: rest) := by
  obtain ⟨before, how, he, hs, hl, hq, hc⟩ := h
  cases before with
  | nil => cases he
  | cons d before =>
    rw [List.cons_append, List.cons.injEq] at he
    obtain ⟨rfl, he⟩ := he
    rw [← List.singleton_append, consumptions_append, ← List.append_assoc] at hl hq hc
    rw [List.countP_cons] at hs
    refine ⟨?_, before, how, he, by omega, hl, hq, hc⟩
    cases hd : e.settles with
    | false => rfl
    | true => simp [hd] at hs

theorem leaves_of_same (same : s'.copies = s.copies) : Leaves i s s' := by
  intro k c n j hc _ _
  rwa [same]

theorem State.Kept.of_same (hk : s.Kept lossless) (same : s'.copies = s.copies) : s'.Kept lossless := by
  intro k c hc
  rw [same] at hc
  exact hk k c hc

theorem holds_of_reading {m : MediatorRef} {phase : DeliveryPhase} (hr : phase.reading = some k) :
    Thread.Holds lossless s i (.delivery m phase) ↔ s.Has k m.multiplexer i fun c => c.consumed = [] := by
  unfold Thread.Holds
  split
  next he => cases he; cases hr
  next _ he =>
    cases he
    constructor
    · exact fun h => h k hr
    · intro h copy hc
      cases hr.symm.trans hc
      exact h
  next _ h => exact absurd rfl (h m phase)

theorem holds_of_acting {m : MediatorRef} {es : List Effect}
    (h : s.Has k m.multiplexer i fun c => c.Pending lossless m.multiplexer i es) :
    Thread.Holds lossless s i (.delivery m (.acting k es)) := by
  cases es with
  | nil => exact fun _ hr => (nomatch hr)
  | cons e rest => exact h

/-- An effect of a handler changes its own copy only. -/
theorem keeps_of_performed {m : MediatorRef} {e : Effect} {rest : List Effect} (hk : s.Kept lossless)
    (hh : Thread.Holds lossless s i (.delivery m (.acting k (e :: rest)))) :
    (s.perform k e).Kept lossless ∧
      Thread.Holds lossless (s.perform k e) i (.delivery m (.acting k rest)) ∧ Leaves i s (s.perform k e) := by
  obtain ⟨c, hc, hp, pending⟩ := hh
  have own : ∀ n j, c.place = .delivered n j → j = i := by
    intro n j h
    cases hp.symm.trans h
    rfl
  cases rest with
  | nil =>
    obtain ⟨before, how, he, _⟩ := id pending
    obtain ⟨rfl, rfl⟩ := eq_of_singleton he
    have good := kept_of_settled pending
    refine ⟨hk.modify hc ?_, fun _ h => (nomatch h), leaves_modify hc own⟩
    simpa [hp] using good
  | cons e' rest =>
    obtain ⟨quiet, after⟩ := pending_of_performed pending
    cases e with
    | settled => cases quiet
    | consumed t o =>
      refine ⟨hk.modify hc ?_, ⟨_, copies_modify_self hc, hp, after⟩, leaves_modify hc own⟩
      obtain ⟨before, how, _, _, hl, _⟩ := after
      refine ⟨?_, fun hq => ?_, fun _ hq => ?_⟩
      · rw [List.length_append] at hl
        exact Nat.le_trans (Nat.le_add_right _ _) hl
      · cases hp.symm.trans hq
      · rcases hq with hq | hq <;> cases hp.symm.trans hq
    | _ =>
      simp only [consumptions, List.filterMap_cons, List.filterMap_nil, List.append_nil] at after
      exact ⟨hk, ⟨c, hc, hp, after⟩, leaves_of_same rfl⟩

theorem Thread.Step.keeps (hs : t.Step hosts s i s' t') (hk : s.Kept lossless)
    (hh : t.Holds lossless s i) {x : Event} (ok : lossless → Consumes hosts s i t x) :
    s'.Kept lossless ∧ t'.Holds lossless s' i ∧ Leaves i s s' := by
  cases hs with
  | @published o =>
    refine ⟨fun k c hc => ?_, trivial, fun k c n j hc _ _ => pool_append_of_old hc⟩
    rcases pool_append_cases hc with hc | ⟨_, rfl⟩
    · exact hk k c hc
    · exact ⟨Nat.zero_le _, fun _ => rfl, fun _ h => by rcases h with h | h <;> cases h⟩
  | configured same => exact ⟨hk.of_same same, trivial, leaves_of_same same⟩
  | disposed same => exact ⟨hk.of_same same, trivial, leaves_of_same same⟩
  | @took m k c hc queued =>
    have fresh := (hk k c hc).queued queued
    refine ⟨hk.modify hc ⟨(hk k c hc).once, fun h => (nomatch h), fun _ h => ?_⟩,
      (holds_of_reading rfl).mpr ⟨_, copies_modify_self hc, rfl, fresh⟩,
      leaves_modify hc fun n j h => (nomatch queued.symm.trans h)⟩
    rcases h with h | h <;> cases h
  | read before after =>
    exact ⟨hk, (holds_of_reading after).mpr ((holds_of_reading before).mp hh), leaves_of_same rfl⟩
  | @decided m k environment =>
    obtain ⟨c, hc, hp, fresh⟩ := (holds_of_reading rfl).mp hh
    exact ⟨hk, holds_of_acting ⟨c, hc, hp, pending_of_decided _ _ _ fresh
      fun hl => ok hl m k environment c rfl hc⟩, leaves_of_same rfl⟩
  | performed => exact keeps_of_performed hk hh

theorem kept_initial (hosts : Hosts) (lossless : Prop) : (State.initial hosts).Kept lossless := by
  intro k c hc
  simp [State.initial] at hc

theorem sound (hosts : Hosts) (type : SentType) (lossless : Prop) :
    Sound (sharedQueue hosts type) (fun s i t x => lossless → Consumes hosts s i t x)
      (State.Kept lossless) (Thread.Holds lossless) Leaves where
  start {s i t} _ hs := by
    cases t with
    | delivery m phase =>
      cases phase with
      | idle => exact fun _ h => (nomatch h)
      | _ => cases hs
    | _ => trivial
  step hk hh ok hn := (Thread.step_of_next hn).keeps hk hh ok
  stable _ leaves hj hh := hh.leaves leaves hj

end Steps
end RabbitMediator.SharedQueue
