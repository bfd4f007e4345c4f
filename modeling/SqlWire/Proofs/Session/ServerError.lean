import SqlWire.Proofs.Reads
import SqlWire.Session.Command
import SqlWire.Session.Connect

/-!
# Errors of a server, and how they show

A server reports an error by a number, a SQLSTATE and a message (`ServerError`).
What it sends is read back as it was meant (`ServerError.WellFormed.run?_payload`),
and the three errors that a session makes of it (the refusal of a command, of a
login and of a connection) show all of it (`Error.Shows`).

The marker of the SQLSTATE is what makes this more than a round trip. It is read
only if it is there, so an error without a state must not have a message that begins
like one.
-/

set_option autoImplicit false

namespace SqlWire

/-- An error as a server reports it: the number, the state that classes it, and what
it says in words. -/
structure ServerError where
  number : UInt16
  /-- The SQLSTATE, if the server sends one. -/
  state : Option String
  message : String

namespace ServerError

/-- The reply that carries the error. An error without a state has an empty one in
the reply, and nothing else does. -/
def reply (r : ServerError) : ErrReply :=
  ⟨r.number, r.state.getD "", r.message⟩

/-- The payload of its packet, from the marker of an error on. -/
def payload (r : ServerError) : Bytes :=
  r.reply.encode

example : payload ⟨1045, some "28000", "no"⟩
    = [0xFF, 0x15, 0x04, 0x23, 0x32, 0x38, 0x30, 0x30, 0x30, 0x6E, 0x6F] := by decide

/-- The error can be sent: a SQLSTATE takes five bytes, a message without one does
not begin as if there were one, and a packet holds it all. -/
structure WellFormed (r : ServerError) : Prop where
  state : ∀ state ∈ r.state, (Utf8.encode state).length = ErrReply.stateLength
  message : r.state = none → r.message.toList.head? ≠ some '#'
  short : r.payload.length < 0x1000000

variable {r : ServerError}

/-- The state of the reply is that of the error. A state of five bytes is not empty,
so it is not mistaken for a state that is missing. -/
theorem WellFormed.sqlState? (h : r.WellFormed) : r.reply.sqlState? = r.state := by
  obtain ⟨number, _ | state, message⟩ := r
  · rfl
  · have hlength := h.state state rfl
    have hempty : state.isEmpty = false := by
      have hne : state ≠ "" := by
        rintro rfl
        exact absurd hlength (by decide)
      simpa using hne
    simp [reply, ErrReply.sqlState?, hempty]

/-- What is sent is what is read: the number, the state or that there is none, and
the message. -/
theorem WellFormed.run?_payload (h : r.WellFormed) :
    ErrReply.read.run? r.payload = some r.reply := by
  apply ErrReply.run?_encode
  constructor
  · -- A state that is sent has its five bytes.
    intro hstate
    obtain ⟨number, _ | state, message⟩ := r
    · exact absurd rfl hstate
    · exact h.state state rfl
  · -- Where none is sent the message does not pass for one.
    intro hstate
    obtain ⟨number, _ | state, message⟩ := r
    · exact h.message rfl
    · obtain rfl : state = "" := hstate
      exact absurd (h.state "" rfl) (by decide)

/-- An error is told by its first byte, which is what the kind of its packet is made
out from. -/
theorem head?_payload (r : ServerError) : r.payload.head? = some ErrReply.marker := rfl

/-- No greeting is read from it, but the refusal that it is: a server may decline to
talk before it has greeted. -/
theorem WellFormed.parse_payload (h : r.WellFormed) :
    Greeting.parse r.payload = .error (.refused r.reply) := by
  have hread := h.run?_payload
  rw [payload, ErrReply.encode] at hread ⊢
  rw [Greeting.parse, if_pos rfl, hread]

end ServerError

/-- How an error is to be reported, as far as this depends on where it has come: in
which words, whether as a refused login, and about which query. -/
structure Surface where
  message : String
  /-- The server has refused the credentials. -/
  authFailure : Bool
  /-- The query that the error is about. -/
  sql : Option String

namespace Error

/-- The message that an error carries. A failure of the output and a timeout carry
none. -/
def message? : Error → Option String
  | connection e => some e.message
  | query e => some e.message
  | protocol e => some e.message
  | config reason => some reason
  | output _ => none
  | timeout => none

/-- The error shows all that the server has said, and is reported as it is to be. -/
structure Shows (e : Error) (r : ServerError) (surface : Surface) : Prop where
  code : e.code = some r.number
  sqlState : e.sqlState = r.state
  message : e.message? = some surface.message
  authFailure : e.isAuthFailure = surface.authFailure
  sql : e.sql = surface.sql

end Error

namespace ServerError.WellFormed

variable {r : ServerError}

/-- The refusal of a command shows the error under the server's own message, with
the query if it is about one. -/
theorem shows_refusal (h : r.WellFormed) (sql : Option Bytes) :
    (Session.refusal r.reply sql).Shows r ⟨r.message, false, sql.map Utf8.decode⟩ :=
  ⟨rfl, h.sqlState?, rfl, rfl, rfl⟩

/-- The refusal of a login shows it too, as one of authentication. The message has
words of the client in front. -/
theorem shows_loginRefusal (h : r.WellFormed) :
    (Session.loginRefusal r.reply).Shows r ⟨"Authentication failed: " ++ r.message, true, none⟩ :=
  ⟨rfl, h.sqlState?, rfl, rfl, rfl⟩

/-- And so does the refusal of a connection, which comes in place of the greeting,
with words of its own. -/
theorem shows_refused (h : r.WellFormed) :
    (Greeting.Defect.refused r.reply).toError.Shows r
      ⟨"Server refused connection: " ++ r.message, false, none⟩ :=
  ⟨rfl, h.sqlState?, rfl, rfl, rfl⟩

end ServerError.WellFormed

end SqlWire
