import SqlWire.Reply

/-!
# Reading steps as data

`ReadStep` names every step that a cursor can be asked for and `ReadStep.perform` takes it, so that
whole sequences of steps can be run and spoken about.
-/

set_option autoImplicit false

namespace SqlWire

/-- A step that a cursor can be asked for. -/
inductive ReadStep where
  | byte
  | word16
  | word32
  | coded
  | codedInt
  | cell
  | codedText
  | skipCell
  | terminatedText
  | text (length : Nat)
  | restText
  | bytes (length : Nat)
  | rest
  | skip (length : Nat)
  | okReply
  | errReply
  | eofReply
deriving DecidableEq, Repr

/-- What a step can give. -/
inductive ReadValue where
  | number (n : Nat)
  | coded (value : LengthCoded)
  | cell (value : Option Bytes)
  | text (value : String)
  | bytes (value : Bytes)
  /-- Bytes were passed over. -/
  | skipped
  | okReply (reply : OkReply)
  | errReply (reply : ErrReply)
  | eofReply (reply : EofReply)
deriving DecidableEq, Repr

/-- Takes the step. -/
def ReadStep.perform : ReadStep → Reader ReadValue
  | byte => return .number (← Reader.byte).toNat
  | word16 => return .number (← Reader.word16).toNat
  | word32 => return .number (← Reader.word32).toNat
  | coded => return .coded (← Reader.coded)
  | codedInt => return .number (← Reader.codedInt).toNat
  | cell => return .cell (← Reader.cell)
  | codedText => return .text (← Reader.codedText)
  | skipCell => do Reader.skipCell; return .skipped
  | terminatedText => return .text (← Reader.terminatedText)
  | text length => return .text (← Reader.text length)
  | restText => return .text (← Reader.restText)
  | bytes length => return .bytes (← Reader.bytes length)
  | rest => return .bytes (← Reader.rest)
  | skip length => do Reader.skip length; return .skipped
  | okReply => return .okReply (← OkReply.read)
  | errReply => return .errReply (← ErrReply.read)
  | eofReply => return .eofReply (← EofReply.read)

end SqlWire
