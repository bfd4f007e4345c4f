import SqlWire.Json

/-!
# Writing JSON text

`Json.render` writes a value without blanks. In strings the quote, the backslash and the control
characters are escaped, the latter by their short form where they have one.
-/

set_option autoImplicit false

namespace SqlWire.Json

/-- The literal form of one character inside a string. -/
def renderChar (c : Char) : List Char :=
  if c = '\x22' then ['\\', '\x22']
  else if c = '\\' then ['\\', '\\']
  else if c = '\n' then ['\\', 'n']
  else if c = '\r' then ['\\', 'r']
  else if c = '\t' then ['\\', 't']
  else if c = '\x08' then ['\\', 'b']
  else if c = '\x0c' then ['\\', 'f']
  else if c.toNat < 0x20 then
    ['\\', 'u', '0', '0', if c.toNat < 0x10 then '0' else '1', Nat.digitChar (c.toNat % 16)]
  else [c]

/-- The characters of a string literal between its quotes. Where it denotes no text, those of one
such literal. -/
def renderContent : Option String → List Char
  | some text => text.toList.flatMap renderChar
  | none => "\\ud800".toList

/-- A string literal. -/
def renderText (text : Option String) : List Char :=
  '\x22' :: (renderContent text ++ ['\x22'])

mutual

/-- The text of a value. -/
def renderChars : Json → List Char
  | null => "null".toList
  | bool true => "true".toList
  | bool false => "false".toList
  | natural n => Nat.toDigits 10 n
  | number literal => literal
  | string text => renderText text
  | array items => '[' :: (renderItems items ++ [']'])
  | object members => '\x7b' :: (renderMembers members ++ ['\x7d'])

/-- The texts of an array's items with a comma between neighbours. -/
def renderItems : List Json → List Char
  | [] => []
  | [item] => renderChars item
  | item :: rest => renderChars item ++ ',' :: renderItems rest

/-- The texts of an object's members with a comma between neighbours. -/
def renderMembers : List (Option String × Json) → List Char
  | [] => []
  | [(name, value)] => renderText name ++ ':' :: renderChars value
  | (name, value) :: rest =>
    renderText name ++ ':' :: (renderChars value ++ ',' :: renderMembers rest)

end

/-- The text of a value. -/
def render (value : Json) : String :=
  String.ofList value.renderChars

end SqlWire.Json
