import Mathlib.Data.List.Basic

/-- An unbounded channel: all that was ever written to it, how much of that was read, and whether its writer is
complete. -/
structure Channel (α : Type) where
  written : List α
  taken : Nat
  completed : Bool
deriving DecidableEq

namespace Channel

variable {α : Type}

def createUnbounded : Channel α := ⟨[], 0, false⟩

/-- `TryWrite`: only a channel that is not complete takes it. -/
def tryWrite (c : Channel α) (a : α) : Channel α :=
  if c.completed then c else { c with written := c.written ++ [a] }

/-- `Complete`, or nothing where it throws: on a channel that is complete already. -/
def complete (c : Channel α) : Option (Channel α) :=
  if c.completed then none else some { c with completed := true }

/-- `TryRead`: the oldest one that was not read. -/
def tryRead (c : Channel α) : Option (α × Channel α) :=
  c.written[c.taken]?.map fun a => (a, { c with taken := c.taken + 1 })

/-- What was read so far, in this order. -/
def read (c : Channel α) : List α := c.written.take c.taken

/-- What is still to be read. -/
def queued (c : Channel α) : List α := c.written.drop c.taken

theorem read_append_queued (c : Channel α) : c.read ++ c.queued = c.written :=
  List.take_append_drop ..

theorem tryWrite_of_completed {c : Channel α} (h : c.completed = true) (a : α) : c.tryWrite a = c := by
  simp [tryWrite, h]

@[simp] theorem taken_tryWrite (c : Channel α) (a : α) : (c.tryWrite a).taken = c.taken := by
  unfold tryWrite
  split <;> rfl

@[simp] theorem completed_tryWrite (c : Channel α) (a : α) : (c.tryWrite a).completed = c.completed := by
  unfold tryWrite
  split <;> rfl

/-- A write takes nothing away from what was written before. -/
theorem tryWrite_keeps (c : Channel α) (a : α) : c.written <+: (c.tryWrite a).written := by
  unfold tryWrite
  split
  · exact List.prefix_refl _
  · exact List.prefix_append ..

theorem tryRead_eq_some {c c' : Channel α} {a : α} (h : c.tryRead = some (a, c')) :
    c.written[c.taken]? = some a ∧ c' = { c with taken := c.taken + 1 } := by
  obtain ⟨b, found, same⟩ := Option.map_eq_some_iff.mp h
  cases same
  exact ⟨found, rfl⟩

theorem read_of_tryRead {c c' : Channel α} {a : α} (h : c.tryRead = some (a, c')) : c'.read = c.read ++ [a] := by
  obtain ⟨found, rfl⟩ := tryRead_eq_some h
  rw [read, read, List.take_add_one, found]
  rfl

theorem queued_of_tryRead {c c' : Channel α} {a : α} (h : c.tryRead = some (a, c')) :
    c.queued.length = c'.queued.length + 1 := by
  obtain ⟨found, rfl⟩ := tryRead_eq_some h
  have hlt := (List.getElem?_eq_some_iff.mp found).1
  simp only [queued, List.length_drop]
  omega

theorem tryRead_eq_none {c : Channel α} : c.tryRead = none ↔ c.written.length ≤ c.taken := by
  rw [tryRead, Option.map_eq_none_iff, List.getElem?_eq_none_iff]

theorem complete_eq_some {c c' : Channel α} (h : c.complete = some c') :
    c.completed = false ∧ c' = { c with completed := true } := by
  unfold complete at h
  split at h
  next => cases h
  next incomplete =>
    cases h
    exact ⟨by simpa using incomplete, rfl⟩

end Channel

/-- A channel with its one reader: what the reader is done with, and what it has read since. -/
structure Reader (α : Type) where
  channel : Channel α
  handled : List α
  hand : List α

namespace Reader

variable {α : Type} {r r' : Reader α}

/-- What may happen to a channel and its reader at once. -/
inductive Step (r : Reader α) : Reader α → Prop
  | idle : Step r r
  | write (a : α) : Step r { r with channel := r.channel.tryWrite a }
  | complete {channel} (h : r.channel.complete = some channel) : Step r { r with channel := channel }
  | read {a channel} (free : r.hand = []) (h : r.channel.tryRead = some (a, channel)) :
      Step r { r with channel := channel, hand := [a] }
  | handle : Step r { r with handled := r.handled ++ r.hand, hand := [] }

/-- The reader takes what is written, each once and in this order. -/
def InOrder (r : Reader α) : Prop := r.handled ++ r.hand = r.channel.read

/-- No more was read than was written. -/
def Within (r : Reader α) : Prop := r.channel.taken ≤ r.channel.written.length

theorem Step.within (h : r.Step r') (within : r.Within) : r'.Within := by
  cases h with
  | idle | handle => exact within
  | write a =>
    have longer := (Channel.tryWrite_keeps r.channel a).length_le
    simp only [Within, Channel.taken_tryWrite]
    exact Nat.le_trans within longer
  | complete h =>
    obtain ⟨_, rfl⟩ := Channel.complete_eq_some h
    exact within
  | read _ h =>
    obtain ⟨found, rfl⟩ := Channel.tryRead_eq_some h
    exact (List.getElem?_eq_some_iff.mp found).1

theorem Step.inOrder (h : r.Step r') (within : r.Within) (inOrder : r.InOrder) : r'.InOrder := by
  cases h with
  | idle => exact inOrder
  | write a =>
    have same : (r.channel.tryWrite a).read = r.channel.read := by
      obtain ⟨more, longer⟩ := Channel.tryWrite_keeps r.channel a
      rw [Channel.read, Channel.taken_tryWrite, ← longer, List.take_append_of_le_length within]
      rfl
    exact inOrder.trans same.symm
  | complete h =>
    obtain ⟨_, rfl⟩ := Channel.complete_eq_some h
    exact inOrder
  | read free h =>
    simp only [InOrder, Channel.read_of_tryRead h]
    rw [← show r.handled ++ r.hand = r.channel.read from inOrder, free, List.append_nil]
  | handle =>
    simp only [InOrder, List.append_nil]
    exact inOrder

/-- Nothing that was written goes away. -/
theorem Step.keeps (h : r.Step r') : r.channel.written <+: r'.channel.written := by
  cases h with
  | idle | handle => exact List.prefix_refl _
  | write a => exact Channel.tryWrite_keeps r.channel a
  | complete h =>
    obtain ⟨_, rfl⟩ := Channel.complete_eq_some h
    exact List.prefix_refl _
  | read _ h =>
    obtain ⟨_, rfl⟩ := Channel.tryRead_eq_some h
    exact List.prefix_refl _

/-- A complete channel takes nothing more, and stays complete. -/
theorem Step.closed (h : r.Step r') (closed : r.channel.completed = true) :
    r'.channel.written = r.channel.written ∧ r'.channel.completed = true := by
  cases h with
  | idle | handle => exact ⟨rfl, closed⟩
  | write a => exact (Channel.tryWrite_of_completed closed a).symm ▸ ⟨rfl, closed⟩
  | complete h =>
    obtain ⟨_, rfl⟩ := Channel.complete_eq_some h
    exact ⟨rfl, rfl⟩
  | read _ h =>
    obtain ⟨_, rfl⟩ := Channel.tryRead_eq_some h
    exact ⟨rfl, closed⟩

/-- The reader has come to the end of a complete channel. -/
def Drained (r : Reader α) : Prop := r.channel.completed = true ∧ r.channel.written.length ≤ r.channel.taken

theorem Step.drained (h : r.Step r') (drained : r.Drained) : r'.Drained := by
  obtain ⟨closed, all⟩ := drained
  obtain ⟨same, closed'⟩ := h.closed closed
  refine ⟨closed', ?_⟩
  rw [same]
  cases h with
  | idle | handle => exact all
  | write a => exact (Channel.taken_tryWrite r.channel a).symm ▸ all
  | complete h =>
    obtain ⟨_, rfl⟩ := Channel.complete_eq_some h
    exact all
  | read _ h =>
    obtain ⟨_, rfl⟩ := Channel.tryRead_eq_some h
    exact Nat.le_succ_of_le all

/-- No step but a write makes more to read, and a complete channel takes none. -/
theorem Step.queued_le (h : r.Step r') (closed : r.channel.completed = true) :
    r'.channel.queued.length ≤ r.channel.queued.length := by
  cases h with
  | idle | handle => exact Nat.le_refl _
  | write a => exact (Channel.tryWrite_of_completed closed a).symm ▸ Nat.le_refl _
  | complete h =>
    obtain ⟨_, rfl⟩ := Channel.complete_eq_some h
    exact Nat.le_refl _
  | read _ h =>
    obtain ⟨_, rfl⟩ := Channel.tryRead_eq_some h
    simp only [Channel.queued, List.length_drop]
    omega

theorem InOrder.handled_of_drained (inOrder : r.InOrder) (drained : r.Drained) :
    r.handled ++ r.hand = r.channel.written := by
  rw [show r.handled ++ r.hand = r.channel.read from inOrder, Channel.read, List.take_of_length_le drained.2]

end Reader
