import SqlWire.LengthCoded
import SqlWire.Utf8

/-!
# Reading a payload

A `Cursor` stands somewhere in a payload. A `Reader` is one reading step, or several: it gives a
value and moves the cursor, or fails and leaves the cursor where it got to. A single primitive that
fails does not move it, with two exceptions: `codedInt` and `codedText` refuse SQL NULL only after
they have read its marker.
-/

set_option autoImplicit false

namespace SqlWire

/-- A place in a payload: the bytes passed so far, counted, and the bytes still ahead. -/
structure Cursor where
  position : Nat
  rest : Bytes
deriving DecidableEq, Repr

namespace Cursor

/-- The beginning of a payload. -/
def ofBytes (bs : Bytes) : Cursor :=
  ⟨0, bs⟩

/-- Bytes ahead, counted. -/
def remaining (c : Cursor) : Nat :=
  c.rest.length

/-- Nothing is ahead. -/
def isEmpty (c : Cursor) : Bool :=
  c.rest.isEmpty

/-- The next byte, which stays ahead. -/
def peek (c : Cursor) : Option UInt8 :=
  c.rest.head?

/-- The cursor moved on over bytes that are known to be ahead. -/
def advance (c : Cursor) (n : Nat) : Cursor :=
  ⟨c.position + n, c.rest.drop n⟩

end Cursor

/-- A reading step over a payload. -/
abbrev Reader (α : Type) := EStateM Unit Cursor α

namespace Reader

/-- What a reader makes of a whole payload from its beginning; the bytes that it leaves do not
matter. -/
def run? {α : Type} (r : Reader α) (bs : Bytes) : Option α :=
  match r.run (.ofBytes bs) with
  | .ok a _ => some a
  | .error _ _ => none

/-- The next `n` bytes. -/
def bytes (n : Nat) : Reader Bytes := do
  match Bytes.splitExactly n (← get).rest with
  | some (taken, rest) =>
    modify fun c => ⟨c.position + n, rest⟩
    return taken
  | none => throw ()

/-- Passes over `n` bytes. -/
def skip (n : Nat) : Reader Unit := do
  let _ ← bytes n

/-- All bytes ahead. -/
def rest : Reader Bytes := do
  let ahead := (← get).rest
  modify fun c => ⟨c.position + ahead.length, []⟩
  return ahead

/-- The next byte. -/
def byte : Reader UInt8 := do
  match (← get).rest with
  | b :: rest =>
    modify fun c => ⟨c.position + 1, rest⟩
    return b
  | [] => throw ()

/-- The next two bytes as a number, least significant first. -/
def word16 : Reader UInt16 :=
  return UInt16.ofNat (Bytes.toNat (← bytes 2))

/-- The next four bytes as a number, least significant first. -/
def word32 : Reader UInt32 :=
  return UInt32.ofNat (Bytes.toNat (← bytes 4))

/-- The next length-coded integer or NULL marker. -/
def coded : Reader LengthCoded := do
  match LengthCoded.decode? (← get).rest with
  | some (value, used) =>
    modify (·.advance used)
    return value
  | none => throw ()

/-- The next length-coded integer. A NULL marker is read and then refused. -/
def codedInt : Reader UInt64 := do
  match ← coded with
  | .value n => return n
  | .null => throw ()

/-- The next length-coded string, `none` for SQL NULL. -/
def cell : Reader (Option Bytes) := do
  match LengthCoded.decodeCell? (← get).rest with
  | some (value, used) =>
    modify (·.advance used)
    return value
  | none => throw ()

/-- The next length-coded string as text. A NULL marker is read and then refused. -/
def codedText : Reader String := do
  match ← cell with
  | some bs => return Utf8.decode bs
  | none => throw ()

/-- Passes over a length-coded string or NULL marker. -/
def skipCell : Reader Unit := do
  let _ ← cell

/-- The text up to the next zero byte, which is passed over. -/
def terminatedText : Reader String := do
  let ahead := (← get).rest
  let content := ahead.takeWhile (· != 0)
  match ahead.drop content.length with
  -- What stopped the content is the zero byte.
  | _ :: rest =>
    modify fun c => ⟨c.position + (content.length + 1), rest⟩
    return Utf8.decode content
  | [] => throw ()

/-- The next `n` bytes as text. -/
def text (n : Nat) : Reader String :=
  return Utf8.decode (← bytes n)

/-- All bytes ahead as text. -/
def restText : Reader String :=
  return Utf8.decode (← rest)

/-- Passes over the next byte if it is the given one. -/
def skipMarker (marker : UInt8) : Reader Unit := do
  if (← get).peek = some marker then modify (·.advance 1)

end Reader

end SqlWire
