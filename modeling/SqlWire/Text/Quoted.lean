import SqlWire.Text.Unmarked

/-!
# Quoted text in diagnostics

A text is shown between quotes on one line. The quote and the backslash get a backslash; the line
break, the carriage return, the tab and the zero character have short forms; any other character
without a mark of its own is named by its code point in base 16.
-/

set_option autoImplicit false

namespace SqlWire.Text

/-- How a character is shown between quotes. -/
def quoteChar (c : Char) : List Char :=
  if c = '\x00' then ['\\', '0']
  else if c = '\t' then ['\\', 't']
  else if c = '\r' then ['\\', 'r']
  else if c = '\n' then ['\\', 'n']
  else if c = '\x22' then ['\\', '\x22']
  else if c = '\\' then ['\\', '\\']
  else if isUnmarked c then '\\' :: 'u' :: '\x7b' :: (Nat.toDigits 16 c.toNat ++ ['\x7d'])
  else [c]

/-- A text between quotes. -/
def quote (text : String) : String :=
  String.ofList ('\x22' :: (text.toList.flatMap quoteChar ++ ['\x22']))

end SqlWire.Text
