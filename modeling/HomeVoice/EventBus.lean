/-!
# The event bus

Events are published to all who have subscribed before. The bus keeps only the last of them: who
reads too slowly is told once how many events were lost, and goes on with the oldest that is kept.
-/

namespace HomeVoice

/-- A bus of events of type `α`. Events are numbered from zero in the order in which they are
kept; a subscriber is the number of the event that it reads next. -/
structure EventBus (α : Type) where
  capacity : Nat
  /-- The number of events that are no longer kept. -/
  dropped : Nat
  /-- The events that are kept, the oldest first. -/
  kept : List α
  subscribers : List Nat
  isOpen : Bool
  capacity_pos : 0 < capacity
  length_kept_le : kept.length ≤ capacity

/-- What a subscriber gets. -/
inductive Delivery (α : Type) where
  | event (event : α)
  | lagged (lost : Nat)
  | empty
  | closed
  deriving DecidableEq

namespace EventBus

variable {α : Type}

/-- The capacity that a bus gets when `n` is asked for: the next power of two. -/
def roundedCapacity (n : Nat) : Nat :=
  n.nextPowerOfTwo

/-- An open bus without subscribers. There is none of capacity zero. -/
def ofCapacity? (n : Nat) : Option (EventBus α) :=
  if n = 0 then none
  else some {
    capacity := roundedCapacity n
    dropped := 0
    kept := []
    subscribers := []
    isOpen := true
    capacity_pos := Nat.pos_of_isPowerOfTwo (Nat.isPowerOfTwo_nextPowerOfTwo n)
    length_kept_le := Nat.zero_le _ }

/-- The number of the event that is published next. -/
def next (bus : EventBus α) : Nat :=
  bus.dropped + bus.kept.length

/-- The bus with one more subscriber, who reads what is published from now on, and the place of
that subscriber. -/
def subscribe (bus : EventBus α) : Nat × EventBus α :=
  (bus.subscribers.length, { bus with subscribers := bus.subscribers ++ [bus.next] })

/-- The bus after an event. Where nobody has subscribed it is not kept; where there is no room the
oldest event gives way. -/
def publish (bus : EventBus α) (event : α) : EventBus α :=
  if bus.subscribers.isEmpty || !bus.isOpen then bus
  else if h : bus.kept.length < bus.capacity then
    { bus with
      kept := bus.kept ++ [event]
      length_kept_le := by simpa [Nat.succ_le_iff] using h }
  else
    { bus with
      dropped := bus.dropped + 1
      kept := bus.kept.tail ++ [event]
      length_kept_le := by
        have := bus.capacity_pos
        have := bus.length_kept_le
        simp only [List.length_append, List.length_tail, List.length_singleton]
        omega }

/-- The bus when nothing more will be published. What is kept can still be read. -/
def close (bus : EventBus α) : EventBus α :=
  { bus with isOpen := false }

/-- What a subscriber gets whose next event has a number, and the number of the one after that. -/
def deliver (bus : EventBus α) (number : Nat) : Delivery α × Nat :=
  if number < bus.dropped then (.lagged (bus.dropped - number), bus.dropped)
  else
    match bus.kept[number - bus.dropped]? with
    | some event => (.event event, number + 1)
    | none => (if bus.isOpen then .empty else .closed, number)

/-- What the subscriber at a place gets, if there is one. -/
def receive? (bus : EventBus α) (place : Nat) : Option (Delivery α × EventBus α) :=
  bus.subscribers[place]?.map fun number =>
    let (delivery, number') := bus.deliver number
    (delivery, { bus with subscribers := bus.subscribers.set place number' })

end EventBus

end HomeVoice
