import SqlWire.Config
import SqlWire.Json.Parser
import SqlWire.Json.Printer

/-!
# Configurations as JSON

A configuration is written as an object of all its settings but the password, and read from an
object or an array. In an object a setting that is missing keeps its default, an unknown name is
passed over whatever its value, and a setting given twice is refused, as is a name that denotes no
text. In an array the settings stand in the order of `Setting.all`, and those at the end may be left
out.
-/

set_option autoImplicit false

namespace SqlWire.Config

/-- The settings that have a name in JSON. -/
inductive Setting where
  | host
  | port
  | user
  | password
  | database
  | charset
  | clientFlags
  | maxPacketSize
  | connectAttempts
  | connectRetryDelay
  | readAttempts
  | readPollInterval
  | maxQuerySize
deriving DecidableEq, Repr

namespace Setting

/-- Every setting, in the order of the array form. -/
def all : List Setting :=
  [host, port, user, password, database, charset, clientFlags, maxPacketSize, connectAttempts,
    connectRetryDelay, readAttempts, readPollInterval, maxQuerySize]

/-- The name of a setting in JSON. -/
def name : Setting → String
  | host => "host"
  | port => "port"
  | user => "user"
  | password => "password"
  | database => "database"
  | charset => "charset"
  | clientFlags => "client_flags"
  | maxPacketSize => "max_packet_size"
  | connectAttempts => "connect_attempts"
  | connectRetryDelay => "connect_retry_delay"
  | readAttempts => "read_attempts"
  | readPollInterval => "read_poll_interval"
  | maxQuerySize => "max_query_size"

/-- The setting of a name; case matters. -/
def ofName? (text : String) : Option Setting :=
  all.find? fun s => s.name == text

/-- Whether a setting is written. The password is not. -/
def isWritten : Setting → Bool
  | password => false
  | _ => true

/-- The value of a setting, where null stands for an absent text. -/
def value (s : Setting) (c : Config) : Json :=
  match s with
  | host => .string (some c.host)
  | port => .natural c.port.toNat
  | user => .string (some c.user)
  | password => .ofTextOrNull c.password
  | database => .ofTextOrNull c.database
  | charset => .natural c.charset.toNat
  | clientFlags => .natural c.clientFlags.toNat
  | maxPacketSize => .natural c.maxPacketSize.toNat
  | connectAttempts => .natural c.connectAttempts.toNat
  | connectRetryDelay => .natural c.connectRetryDelay.toNat
  | readAttempts => .natural c.readAttempts.toNat
  | readPollInterval => .natural c.readPollInterval.toNat
  | maxQuerySize => .natural c.maxQuerySize.toNat

/-- The configuration with a setting taken from its JSON value, which must be of the right kind and
in range. -/
def assign? (s : Setting) (value : Json) (c : Config) : Option Config :=
  match s with
  | host => value.text?.map fun text => { c with host := text }
  | port => (value.below? UInt16.size).map fun n => { c with port := UInt16.ofNat n }
  | user => value.text?.map fun text => { c with user := text }
  | password => value.textOrNull?.map fun text => { c with password := text }
  | database => value.textOrNull?.map fun text => { c with database := text }
  | charset => (value.below? UInt8.size).map fun n => { c with charset := UInt8.ofNat n }
  | clientFlags => (value.below? UInt32.size).map fun n => { c with clientFlags := UInt32.ofNat n }
  | maxPacketSize =>
    (value.below? UInt32.size).map fun n => { c with maxPacketSize := UInt32.ofNat n }
  | connectAttempts =>
    (value.below? UInt32.size).map fun n => { c with connectAttempts := UInt32.ofNat n }
  | connectRetryDelay =>
    (value.below? UInt64.size).map fun n => { c with connectRetryDelay := UInt64.ofNat n }
  | readAttempts =>
    (value.below? UInt32.size).map fun n => { c with readAttempts := UInt32.ofNat n }
  | readPollInterval =>
    (value.below? UInt64.size).map fun n => { c with readPollInterval := UInt64.ofNat n }
  | maxQuerySize =>
    (value.below? UInt64.size).map fun n => { c with maxQuerySize := UInt64.ofNat n }

end Setting

/-- The configuration as an object of all settings but the password. -/
def toJson (c : Config) : Json :=
  .object ((Setting.all.filter Setting.isWritten).map fun s => (some s.name, s.value c))

/-- The configuration as JSON text. -/
def toJsonText (c : Config) : String :=
  c.toJson.render

/-- A configuration with the members of an object assigned to it; `seen` holds the settings that
have been assigned before. -/
def assignMembers? : (seen : List Setting) → List (Option String × Json) → Config → Option Config
  | _, [], c => some c
  | _, (none, _) :: _, _ => none
  | seen, (some name, value) :: rest, c =>
    match Setting.ofName? name with
    | none => assignMembers? seen rest c
    | some s =>
      if s ∈ seen then none
      else
        match s.assign? value c with
        | none => none
        | some c => assignMembers? (s :: seen) rest c

/-- A configuration with the items of an array assigned to settings in turn; there must be no more
items than settings. -/
def assignItems? : List Setting → List Json → Config → Option Config
  | _, [], c => some c
  | [], _ :: _, _ => none
  | s :: settings, value :: rest, c =>
    match s.assign? value c with
    | none => none
    | some c => assignItems? settings rest c

/-- The configuration that an object or an array describes. -/
def ofJson? : Json → Option Config
  | .object members => assignMembers? [] members {}
  | .array items => assignItems? Setting.all items {}
  | _ => none

/-- The configuration that a JSON text describes. -/
def ofJsonText? (text : String) : Option Config :=
  (Json.parse? text).bind ofJson?

end SqlWire.Config
