/-!
# JSON values

The values of JSON as far as a reader can ask for them: null, the two truth values,
numbers, strings, arrays, and objects as lists of members in the order written. A
number is kept as a count if it is spelled with digits only and as its spelling
otherwise, and a string literal with half a surrogate pair, as a value or as a
member's name, denotes no text: both stand for nothing an ordinary reader can use,
but the grammar admits them.
-/

set_option autoImplicit false

namespace SqlWire

/-- A JSON value. -/
inductive Json where
  | null
  | bool (b : Bool)
  /-- A number written with digits only. -/
  | natural (n : Nat)
  /-- A number with a sign, a fraction or an exponent, as it is written. -/
  | number (literal : List Char)
  /-- A string literal's text; none where an escape names half a surrogate pair without the other
  half. -/
  | string (text : Option String)
  | array (items : List Json)
  /-- The members in the order and number in which they are written, each with its name's text. -/
  | object (members : List (Option String × Json))

namespace Json

/-- The text of a string. -/
def text? : Json → Option String
  | string text => text
  | _ => none

/-- The text of a string, or the absence that null stands for. -/
def textOrNull? : Json → Option (Option String)
  | string text => text.map some
  | null => some none
  | _ => none

/-- The string of a text, or null for an absence; what `textOrNull?` reads. -/
def ofTextOrNull : Option String → Json
  | some text => string (some text)
  | none => null

/-- The value of a plain count below a bound. -/
def below? (bound : Nat) : Json → Option Nat
  | natural n => if n < bound then some n else none
  | _ => none

end Json

end SqlWire
