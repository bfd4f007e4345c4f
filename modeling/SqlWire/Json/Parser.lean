import SqlWire.Json

/-!
# Reading JSON text

`Json.parse?` accepts exactly the texts that spell a value: no comments, no trailing
commas, no leading zeros, no raw control characters in strings, and nothing but
blanks around the one value. Each function below takes what it recognises from the
front of the characters and gives back the rest.
-/

set_option autoImplicit false

namespace SqlWire.Json

/-- The four characters that may stand between tokens. -/
def isBlank (c : Char) : Bool :=
  c == ' ' || c == '\t' || c == '\n' || c == '\r'

/-- The characters from the first that is no blank. -/
def skipBlanks (cs : List Char) : List Char :=
  cs.dropWhile isBlank

/-- The value of a base-16 digit of either case. -/
def hexValue? (c : Char) : Option Nat :=
  if '0' ≤ c ∧ c ≤ '9' then some (c.toNat - 0x30)
  else if 'a' ≤ c ∧ c ≤ 'f' then some (c.toNat - 0x57)
  else if 'A' ≤ c ∧ c ≤ 'F' then some (c.toNat - 0x37)
  else none

/-- The number that four base-16 digits spell. -/
def hexQuad? (a b c d : Char) : Option Nat := do
  return ((← hexValue? a) * 16 + (← hexValue? b)) * 256 + (← hexValue? c) * 16 + (← hexValue? d)

/-- What a backslash and one further character stand for. -/
def escape? : Char → Option Nat
  | '\x22' => some 0x22
  | '\\' => some 0x5C
  | '/' => some 0x2F
  | 'b' => some 0x08
  | 'f' => some 0x0C
  | 'n' => some 0x0A
  | 'r' => some 0x0D
  | 't' => some 0x09
  | _ => none

/-- The code points of a string literal from behind its opening quote, and what
follows its closing one. An escape may name half a surrogate pair; `units` holds
those before, last one first. -/
def codePoints? (units : List Nat) : List Char → Option (List Nat × List Char)
  | '\x22' :: rest => some (units.reverse, rest)
  | '\\' :: 'u' :: a :: b :: c :: d :: rest =>
    match hexQuad? a b c d with
    | some unit => codePoints? (unit :: units) rest
    | none => none
  | '\\' :: c :: rest =>
    match escape? c with
    | some unit => codePoints? (unit :: units) rest
    | none => none
  | c :: rest => if c.toNat < 0x20 then none else codePoints? (c.toNat :: units) rest
  | [] => none

/-- The characters that code points stand for, each two halves of a surrogate pair
together for one. Half a pair alone stands for none. -/
def pairSurrogates? : List Nat → Option (List Char)
  | [] => some []
  | unit :: rest =>
    if 0xD800 ≤ unit ∧ unit < 0xDC00 then
      match rest with
      | low :: rest =>
        -- Twenty bits of the scalar above the first plane, ten from each half.
        if 0xDC00 ≤ low ∧ low < 0xE000 then
          (pairSurrogates? rest).map
            (Char.ofNat (0x10000 + (unit - 0xD800) * 0x400 + (low - 0xDC00)) :: ·)
        else none
      | [] => none
    else if 0xDC00 ≤ unit ∧ unit < 0xE000 then none
    else (pairSurrogates? rest).map (Char.ofNat unit :: ·)

/-- A string literal from behind its opening quote. One whose escapes pair up
wrongly is a literal all the same, and denotes no text. -/
def stringBody? (cs : List Char) : Option (Option String × List Char) :=
  (codePoints? [] cs).map fun (units, rest) =>
    ((pairSurrogates? units).map String.ofList, rest)

/-- The number that digits spell. -/
def naturalOfDigits (digits : List Char) : Nat :=
  digits.foldl (fun n c => 10 * n + (c.toNat - 0x30)) 0

/-- The digits at the front, of which there must be one. -/
def digits? (cs : List Char) : Option (List Char × List Char) :=
  let digits := cs.takeWhile Char.isDigit
  if digits.isEmpty then none else some (digits, cs.dropWhile Char.isDigit)

/-- The digits before a fraction: a single zero, or digits that do not begin with
one. -/
def wholePart? : List Char → Option (List Char × List Char)
  | '0' :: rest => some (['0'], rest)
  | cs => digits? cs

/-- A fraction if there is a point, which digits must follow. -/
def fraction? : List Char → Option (List Char × List Char)
  | '.' :: rest => (digits? rest).map fun (digits, rest) => ('.' :: digits, rest)
  | cs => some ([], cs)

/-- Digits behind an optional sign. -/
def signedDigits? : List Char → Option (List Char × List Char)
  | '+' :: rest => (digits? rest).map fun (digits, rest) => ('+' :: digits, rest)
  | '-' :: rest => (digits? rest).map fun (digits, rest) => ('-' :: digits, rest)
  | cs => digits? cs

/-- An exponent if its letter is there, which digits must follow. -/
def exponent? : List Char → Option (List Char × List Char)
  | 'e' :: rest => (signedDigits? rest).map fun (digits, rest) => ('e' :: digits, rest)
  | 'E' :: rest => (signedDigits? rest).map fun (digits, rest) => ('E' :: digits, rest)
  | cs => some ([], cs)

/-- An unsigned number: digits alone make a count, anything more keeps its spelling. -/
def unsigned? (cs : List Char) : Option (Json × List Char) := do
  let (whole, cs) ← wholePart? cs
  let (fraction, cs) ← fraction? cs
  let (exponent, cs) ← exponent? cs
  if fraction.isEmpty && exponent.isEmpty then return (.natural (naturalOfDigits whole), cs)
  else return (.number (whole ++ fraction ++ exponent), cs)

/-- A number with or without a minus sign. -/
def number? : List Char → Option (Json × List Char)
  | '-' :: cs => do
    let (whole, cs) ← wholePart? cs
    let (fraction, cs) ← fraction? cs
    let (exponent, cs) ← exponent? cs
    return (.number ('-' :: (whole ++ fraction ++ exponent)), cs)
  | cs => unsigned? cs

mutual

/-- One value, with blanks before it allowed. -/
def value? : (fuel : Nat) → List Char → Option (Json × List Char)
  | 0, _ => none
  | fuel + 1, cs =>
    match skipBlanks cs with
    | 'n' :: 'u' :: 'l' :: 'l' :: rest => some (.null, rest)
    | 't' :: 'r' :: 'u' :: 'e' :: rest => some (.bool true, rest)
    | 'f' :: 'a' :: 'l' :: 's' :: 'e' :: rest => some (.bool false, rest)
    | '\x22' :: rest => (stringBody? rest).map fun (text, rest) => (.string text, rest)
    | '[' :: rest =>
      match skipBlanks rest with
      | ']' :: rest => some (.array [], rest)
      | _ => items? fuel [] rest
    | '\x7b' :: rest =>
      match skipBlanks rest with
      | '\x7d' :: rest => some (.object [], rest)
      | _ => members? fuel [] rest
    | rest => number? rest

/-- The items of an array up to its end, of which there is one at least; `done`
holds those before, last one first. -/
def items? : (fuel : Nat) → (done : List Json) → List Char → Option (Json × List Char)
  | 0, _, _ => none
  | fuel + 1, done, cs =>
    match value? fuel cs with
    | none => none
    | some (item, rest) =>
      match skipBlanks rest with
      | ',' :: rest => items? fuel (item :: done) rest
      | ']' :: rest => some (.array (item :: done).reverse, rest)
      | _ => none

/-- The members of an object up to its end, of which there is one at least; `done`
holds those before, last one first. -/
def members? : (fuel : Nat) → (done : List (Option String × Json)) → List Char →
    Option (Json × List Char)
  | 0, _, _ => none
  | fuel + 1, done, cs =>
    match skipBlanks cs with
    | '\x22' :: rest =>
      match stringBody? rest with
      | some (name, rest) =>
        match skipBlanks rest with
        | ':' :: rest =>
          match value? fuel rest with
          | none => none
          | some (value, rest) =>
            match skipBlanks rest with
            | ',' :: rest => members? fuel ((name, value) :: done) rest
            | '\x7d' :: rest => some (.object ((name, value) :: done).reverse, rest)
            | _ => none
        | _ => none
      | none => none
    | _ => none

end

/-- The value that a text spells, if it spells one. Each level and each item takes a
character at least, so twice the length is fuel enough. -/
def parse? (text : String) : Option Json :=
  let cs := text.toList
  match value? (2 * cs.length + 2) cs with
  | some (value, rest) => if (skipBlanks rest).isEmpty then some value else none
  | none => none

end SqlWire.Json
