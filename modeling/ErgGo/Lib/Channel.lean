import Mathlib.Data.List.Basic

/-!
# Buffered channels

A Go channel with a buffer, as a state that goroutines share. A send or a receive that would
block is not enabled.
-/

namespace Go

structure Channel (α : Type) where
  capacity : ℕ
  buffer : List α := []
  closed : Bool := false

namespace Channel

variable {α : Type}

/-- `ch <- a`, on an open channel. -/
def send (a : α) (ch : Channel α) : Option (Channel α) :=
  if ch.buffer.length < ch.capacity then some { ch with buffer := ch.buffer ++ [a] } else none

/-- `select { case ch <- a: default: }`. -/
def offer (a : α) (ch : Channel α) : Channel α := (ch.send a).getD ch

/-- One round of `range ch`: it takes a value, ends on a closed empty channel, or blocks. -/
def next (ch : Channel α) : Option (Option α × Channel α) :=
  match ch.buffer with
  | a :: rest => some (some a, { ch with buffer := rest })
  | [] => if ch.closed then some (none, ch) else none

def close (ch : Channel α) : Channel α := { ch with closed := true }

lemma send_eq_some {a : α} {ch ch' : Channel α} (h : ch.send a = some ch') :
    ch' = { ch with buffer := ch.buffer ++ [a] } := by
  unfold send at h
  split at h
  · exact (Option.some.inj h).symm
  · cases h

lemma offer_buffer (a : α) (ch : Channel α) :
    (ch.offer a).buffer = ch.buffer ++ [a] ∨ (ch.offer a).buffer = ch.buffer := by
  unfold offer send
  split
  · exact .inl rfl
  · exact .inr rfl

/-- From an open channel a value is taken. -/
lemma next_eq_some {ch ch' : Channel α} {received : Option α} (hopen : ch.closed = false)
    (h : ch.next = some (received, ch')) :
    ∃ a, received = some a ∧ ch.buffer = a :: ch'.buffer ∧ ch'.closed = false := by
  unfold next at h
  split at h
  · next a rest hbuffer =>
    cases h
    exact ⟨a, rfl, hbuffer, hopen⟩
  · rw [hopen] at h
    cases h

@[simp] lemma closed_offer (a : α) (ch : Channel α) : (ch.offer a).closed = ch.closed := by
  unfold offer send
  split <;> rfl

end Channel

end Go
