import Mathlib.Data.List.Basic

/-!
# A bounded channel

A channel carries values from its sender to its receiver in order and holds at most `cap` of them.
Sending waits for room and fails without a receiver; receiving waits for a value and fails without a
sender, once the queue is empty. What was in the queue when the receiver was dropped is kept in
`dropped`, so that `accepted` is everything the channel ever took.
-/

/-- A channel of capacity `cap`, with what went through it. The bound on the queue is part of the
type. -/
structure Channel (α : Type) (cap : Nat) where
  received : List α
  queue : List α
  dropped : List α
  senderOpen : Bool
  receiverOpen : Bool
  length_queue : queue.length ≤ cap
  dropped_of_open : receiverOpen = true → dropped = []

namespace Channel

section
variable {α : Type} {cap : Nat}

variable (α cap) in
/-- What sending comes to: an error, a wait for room, or the channel with the value in it. -/
inductive Sent where
  | closed
  | full
  | taken (c : Channel α cap)

variable (α cap) in
/-- What receiving comes to: an error, a wait for a value, or the value and the channel without
it. -/
inductive Received where
  | closed
  | empty
  | value (a : α) (c : Channel α cap)

variable (α cap) in
/-- A new channel: both ends are there, and nothing has gone through it. -/
def new : Channel α cap where
  received := []
  queue := []
  dropped := []
  senderOpen := true
  receiverOpen := true
  length_queue := Nat.zero_le cap
  dropped_of_open _ := rfl

/-- Everything the channel took, in order: what was received, what is in the queue, and what was
dropped with the receiver. -/
def accepted (c : Channel α cap) : List α := c.received ++ c.queue ++ c.dropped

/-- Send a value. Whether there is a receiver is looked at first, so that a full channel without one
fails. -/
def send (c : Channel α cap) (a : α) : Sent α cap :=
  if c.receiverOpen then
    if h : c.queue.length < cap then
      .taken { c with
        queue := c.queue ++ [a]
        length_queue := by rw [List.length_append]; exact h }
    else .full
  else .closed

/-- Receive a value. What is in the queue is received also after the sender was dropped. -/
def recv (c : Channel α cap) : Received α cap :=
  match h : c.queue with
  | a :: rest =>
    .value a { c with
      received := c.received ++ [a]
      queue := rest
      length_queue := by
        have hle := c.length_queue
        rw [h] at hle
        exact Nat.le_of_succ_le hle }
  | [] => if c.senderOpen then .empty else .closed

/-- The sender is dropped. The receiver still gets what is in the queue. -/
def dropSender (c : Channel α cap) : Channel α cap := { c with senderOpen := false }

/-- The receiver is dropped, and the queue with it: what was sent and not received is lost. -/
def dropReceiver (c : Channel α cap) : Channel α cap where
  received := c.received
  queue := []
  dropped := c.queue ++ c.dropped
  senderOpen := c.senderOpen
  receiverOpen := false
  length_queue := Nat.zero_le cap
  dropped_of_open h := by cases h

/-! ## What went through -/

@[simp] theorem accepted_new : (new α cap).accepted = [] := rfl

/-- While there is a receiver, all that was taken was received or is in the queue. -/
theorem accepted_of_open {c : Channel α cap} (h : c.receiverOpen = true) :
    c.accepted = c.received ++ c.queue := by
  rw [accepted, c.dropped_of_open h, List.append_nil]

/-- What was received is the beginning of what was taken: nothing is received out of order, or
twice. -/
theorem prefix_received (c : Channel α cap) : c.received <+: c.accepted := by
  rw [accepted, List.append_assoc]
  exact List.prefix_append _ _

@[simp] theorem accepted_dropSender (c : Channel α cap) : c.dropSender.accepted = c.accepted := rfl

@[simp] theorem accepted_dropReceiver (c : Channel α cap) :
    c.dropReceiver.accepted = c.accepted := by
  simp [accepted, dropReceiver]

/-- **Inversion of a send** that is taken: there was a receiver and room, and the value is the last
one taken. -/
theorem of_send_taken {c c' : Channel α cap} {a : α} (h : c.send a = .taken c') :
    c.receiverOpen = true ∧ c.queue.length < cap ∧ c'.received = c.received ∧
      c'.queue = c.queue ++ [a] ∧ c'.senderOpen = c.senderOpen ∧ c'.receiverOpen = true ∧
      c'.accepted = c.accepted ++ [a] := by
  rw [send] at h
  split at h
  · next hopen =>
    split at h
    · next hroom =>
      cases h
      refine ⟨hopen, hroom, rfl, rfl, rfl, hopen, ?_⟩
      simp [accepted, c.dropped_of_open hopen]
    · cases h
  · cases h

/-- A send fails without a receiver, and only then. A channel that is full makes it wait instead. -/
theorem send_closed_iff {c : Channel α cap} {a : α} :
    c.send a = .closed ↔ c.receiverOpen = false := by
  rw [send]
  constructor
  · intro h
    split at h
    · split at h <;> cases h
    · next hopen => simpa using hopen
  · intro h
    exact if_neg (by simp [h])

/-- **Inversion of a receive** of a value: it was the first in the queue. -/
theorem of_recv_value {c c' : Channel α cap} {a : α} (h : c.recv = .value a c') :
    c.queue = a :: c'.queue ∧ c'.received = c.received ++ [a] ∧ c'.senderOpen = c.senderOpen ∧
      c'.receiverOpen = c.receiverOpen ∧ c'.accepted = c.accepted := by
  rw [recv] at h
  split at h
  · next rest hqueue =>
    cases h
    refine ⟨hqueue, rfl, rfl, rfl, ?_⟩
    simp [accepted, hqueue]
  · split at h <;> cases h

/-- Receiving fails where nothing is left and the sender is gone. While there is a sender it
waits. -/
theorem of_recv_closed {c : Channel α cap} (h : c.recv = .closed) :
    c.queue = [] ∧ c.senderOpen = false := by
  rw [recv] at h
  split at h
  · cases h
  · next hqueue =>
    split at h
    · cases h
    · next hopen => exact ⟨hqueue, by simpa using hopen⟩

/-- A value is sent where there is a receiver and room for it in the queue. -/
theorem exists_send {c : Channel α cap} (hopen : c.receiverOpen = true)
    (hroom : c.queue.length < cap) (a : α) : ∃ c', c.send a = .taken c' :=
  ⟨_, (if_pos hopen).trans (dif_pos hroom)⟩

/-- A send waits where there is a receiver and no room in the queue. -/
theorem send_full {c : Channel α cap} (hopen : c.receiverOpen = true)
    (hfull : c.queue.length = cap) (a : α) : c.send a = .full :=
  (if_pos hopen).trans (dif_neg (Nat.not_lt.mpr (Nat.le_of_eq hfull.symm)))

/-- A value is received where there is one, whether or not the sender is still there. -/
theorem exists_recv {c : Channel α cap} {a : α} {rest : List α} (h : c.queue = a :: rest) :
    ∃ c', c.recv = .value a c' := by
  rw [recv]
  split
  · next hqueue =>
    cases hqueue.symm.trans h
    exact ⟨_, rfl⟩
  · next hqueue => cases hqueue.symm.trans h

end

end Channel
