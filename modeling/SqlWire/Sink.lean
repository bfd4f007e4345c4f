import SqlWire.Error

/-!
# Outputs of limited capacity

A sink keeps what is written to it until it is full. A write that does not fit is kept as far as it
goes and fails.
-/

set_option autoImplicit false

namespace SqlWire

/-- An output. -/
structure Sink where
  /-- Bytes that the sink takes in all; without a capacity it takes any number. -/
  capacity : Option Nat := none
  /-- What has been written, last byte first. -/
  reversed : Bytes := []
  /-- Bytes written, counted. -/
  size : Nat := 0
deriving DecidableEq, Repr

namespace Sink

/-- What has been written. -/
def contents (k : Sink) : Bytes :=
  k.reversed.reverse

/-- Bytes at the end of what has been written. -/
def append (k : Sink) (bs : Bytes) : Sink :=
  { k with reversed := bs.reverse ++ k.reversed, size := k.size + bs.length }

/-- The failure of a sink that is full. -/
def full : IoError :=
  ⟨.other, "writer full"⟩

/-- Writes bytes, or as many of them as there is room for. -/
def write (bs : Bytes) : EStateM IoError Sink Unit := do
  let k ← get
  match k.capacity with
  | none => set (k.append bs)
  | some capacity =>
    set (k.append (bs.take (capacity - k.size)))
    if capacity < k.size + bs.length then throw full

end Sink

end SqlWire
