/-!
# Sinks

Places that bytes are written to. A sink holds what it has accepted and counts
the writes and flushes it was asked for. Its policy says which of them succeed: a
write is either accepted whole, or a part from its beginning is held and the
write is refused.
-/

set_option autoImplicit false

namespace ByteMachine

/-- What a sink accepts. -/
structure Sink.Policy where
  /-- The verdict on a write, from the number of writes before it, the bytes held
  and the bytes offered. Nothing means that all are accepted; otherwise so many
  are held and the write is refused for the reason given. -/
  refusesWrite : Nat → Array UInt8 → List UInt8 → Option (Nat × String)
  /-- The reason for which flushes are refused, if they are. -/
  refusesFlush : Option String

/-- A place that bytes are written to. -/
structure Sink where
  /-- What the sink accepts. -/
  policy : Sink.Policy
  /-- The bytes accepted so far. -/
  held : Array UInt8
  /-- The number of writes asked for. -/
  writes : Nat
  /-- The number of flushes asked for. -/
  flushes : Nat

namespace Sink

/-! ## Policies -/

namespace Policy

/-- Accepts everything. -/
def accepting : Policy where
  refusesWrite := fun _ _ _ => none
  refusesFlush := none

/-- Refuses what the given policy refuses, and every write after the first
`limit`, of which it then holds nothing. -/
def withWriteLimit (limit : Nat) (reason : String) (policy : Policy) : Policy where
  refusesWrite := fun writes held chunk =>
    if limit ≤ writes then some (0, reason) else policy.refusesWrite writes held chunk
  refusesFlush := policy.refusesFlush

/-- Accepts up to `limit` bytes in all. A write that goes beyond is held as far as
it fits. -/
def withByteLimit (limit : Nat) (reason : String) (policy : Policy) : Policy where
  refusesWrite := fun writes held chunk =>
    if limit < held.size + chunk.length then some (limit - held.size, reason)
    else policy.refusesWrite writes held chunk
  refusesFlush := policy.refusesFlush

/-- Refuses every flush. -/
def withoutFlush (reason : String) (policy : Policy) : Policy :=
  { policy with refusesFlush := some reason }

end Policy

/-! ## Operations -/

/-- An empty sink with the given policy. -/
def empty (policy : Policy) : Sink where
  policy := policy
  held := #[]
  writes := 0
  flushes := 0

/-- Offers bytes to a sink. The answer is the reason of a refusal. -/
def write (sink : Sink) (chunk : List UInt8) : Sink × Option String :=
  match sink.policy.refusesWrite sink.writes sink.held chunk with
  | none => ({ sink with held := sink.held ++ chunk, writes := sink.writes + 1 }, none)
  | some (kept, reason) =>
    ({ sink with held := sink.held ++ chunk.take kept, writes := sink.writes + 1 }, some reason)

/-- Asks a sink to pass on what it holds. The answer is the reason of a
refusal. -/
def flush (sink : Sink) : Sink × Option String :=
  ({ sink with flushes := sink.flushes + 1 }, sink.policy.refusesFlush)

/-- The sink after what it holds has been carried away. -/
def drained (sink : Sink) : Sink :=
  { sink with held := #[] }

/-! ## What a sink holds -/

/-- A write that is accepted adds its bytes. -/
theorem toList_held_write_of_accepted {sink : Sink} {chunk : List UInt8}
    (h : sink.policy.refusesWrite sink.writes sink.held chunk = none) :
    (sink.write chunk).1.held.toList = sink.held.toList ++ chunk := by
  simp [write, h]

/-- A write that is refused adds the part from its beginning that was kept. -/
theorem toList_held_write_of_refused {sink : Sink} {chunk : List UInt8} {kept : Nat}
    {reason : String}
    (h : sink.policy.refusesWrite sink.writes sink.held chunk = some (kept, reason)) :
    (sink.write chunk).1.held.toList = sink.held.toList ++ chunk.take kept := by
  simp [write, h]

end Sink

end ByteMachine
