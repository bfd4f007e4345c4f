import SqlWire.Json

/-!
# The grammar of JSON text

Which texts spell which values. A text is one value with blanks around it. A value
is one of the words `null`, `true` and `false`, a number, a string, an array in
square brackets or an object in braces whose members are strings followed by a colon
and a value. Commas separate and never trail. Nothing here says how a text is read:
the grammar is what a reader is to be measured against.

A value has many forms. Blanks may stand around it and between its tokens, and in a
string each character may stand for itself or be escaped. `Json.Form` relates a
value to its forms without blanks around it, `Json.Spells` a whole text to its
value.
-/

set_option autoImplicit false

namespace SqlWire.Json

/-! ### Blanks -/

/-- The four characters that may stand between tokens. -/
def Blank (c : Char) : Prop :=
  c = ' ' ∨ c = '\t' ∨ c = '\n' ∨ c = '\r'

/-- The blanks are four characters, so it can be computed whether one is meant. -/
instance (c : Char) : Decidable (Blank c) :=
  inferInstanceAs (Decidable (_ ∨ _ ∨ _ ∨ _))

/-- Nothing but blanks. -/
def Blanks (cs : List Char) : Prop :=
  ∀ c ∈ cs, Blank c

/-- So it can for a run of them. -/
instance (cs : List Char) : Decidable (Blanks cs) :=
  List.decidableBAll Blank cs

/-! ### Strings -/

/-- A base-16 digit of either case and what it counts. -/
def HexDigit (c : Char) (n : Nat) : Prop :=
  n < 16 ∧ (c = Nat.digitChar n ∨ c = (Nat.digitChar n).toUpper)

/-- The digits of base sixteen are told by their value. -/
instance (c : Char) (n : Nat) : Decidable (HexDigit c n) :=
  inferInstanceAs (Decidable (_ ∧ (_ ∨ _)))

/-- What a backslash and one further character stand for. -/
inductive ShortEscape : Char → (unit : Nat) → Prop
  | quote : ShortEscape '\x22' 0x22
  | backslash : ShortEscape '\\' 0x5C
  | slash : ShortEscape '/' 0x2F
  | backspace : ShortEscape 'b' 0x08
  | formFeed : ShortEscape 'f' 0x0C
  | lineFeed : ShortEscape 'n' 0x0A
  | carriageReturn : ShortEscape 'r' 0x0D
  | tab : ShortEscape 't' 0x09

/-- The forms of one unit of a string, which is a code point or half a surrogate
pair: the character itself, unless it is a control character, the quote or the
backslash, an escape of one character, or one of four base-16 digits. -/
inductive UnitForm : (unit : Nat) → List Char → Prop
  | plain (c : Char) (hcontrol : 0x20 ≤ c.toNat) (hquote : c ≠ '\x22') (hbackslash : c ≠ '\\') :
    UnitForm c.toNat [c]
  | short {c : Char} {unit : Nat} (h : ShortEscape c unit) : UnitForm unit ['\\', c]
  | quad {a b c d : Char} {k l m n : Nat} (ha : HexDigit a k) (hb : HexDigit b l)
    (hc : HexDigit c m) (hd : HexDigit d n) :
    UnitForm (((k * 16 + l) * 16 + m) * 16 + n) ['\\', 'u', a, b, c, d]

/-- The forms of a string's units, one after the other. -/
inductive UnitsForm : (units : List Nat) → List Char → Prop
  | nil : UnitsForm [] []
  | cons {unit : Nat} {units : List Nat} {cs rest : List Char} (h : UnitForm unit cs)
    (hrest : UnitsForm units rest) : UnitsForm (unit :: units) (cs ++ rest)

/-- The first half of the surrogate pair of a character beyond the first plane. -/
def highHalf (c : Char) : Nat :=
  0xD800 + (c.toNat - 0x10000) / 0x400

/-- The second half of it. -/
def lowHalf (c : Char) : Nat :=
  0xDC00 + (c.toNat - 0x10000) % 0x400

/-- The text that units stand for. A code point stands for its character, and two
halves of a surrogate pair stand for one beyond the first plane. -/
inductive Denotes : (units : List Nat) → (text : List Char) → Prop
  | nil : Denotes [] []
  | single (c : Char) {units : List Nat} {text : List Char} (h : Denotes units text) :
    Denotes (c.toNat :: units) (c :: text)
  | pair (c : Char) {units : List Nat} {text : List Char} (hplane : 0x10000 ≤ c.toNat)
    (h : Denotes units text) : Denotes (highHalf c :: lowHalf c :: units) (c :: text)

/-- The forms of a string between its quotes. Units that stand for no text, since
half a surrogate pair stands alone among them, make a string of no text. -/
inductive ContentForm : Option String → List Char → Prop
  | text {text : String} {units : List Nat} {cs : List Char} (h : UnitsForm units cs)
    (htext : Denotes units text.toList) : ContentForm (some text) cs
  | broken {units : List Nat} {cs : List Char} (h : UnitsForm units cs)
    (hbroken : ∀ text, ¬ Denotes units text) : ContentForm none cs

/-! ### Numbers -/

/-- Decimal digits, one at least. -/
def Digits (cs : List Char) : Prop :=
  cs ≠ [] ∧ ∀ c ∈ cs, c.isDigit = true

/-- There is a digit at least, and nothing but digits. -/
instance (cs : List Char) : Decidable (Digits cs) :=
  @instDecidableAnd _ _ _ (List.decidableBAll _ cs)

/-- Digits of which the first is no zero, unless it is the only one. -/
def Whole (cs : List Char) : Prop :=
  Digits cs ∧ (cs.head? = some '0' → cs = ['0'])

/-- Leading zeros are looked for at the front. -/
instance (cs : List Char) : Decidable (Whole cs) :=
  inferInstanceAs (Decidable (_ ∧ (_ → _)))

/-- A fraction, or none. -/
inductive Fraction : List Char → Prop
  | absent : Fraction []
  | present {digits : List Char} (h : Digits digits) : Fraction ('.' :: digits)

/-- An exponent with or without a sign, or none. -/
inductive Exponent : List Char → Prop
  | absent : Exponent []
  | present {letter : Char} {sign digits : List Char} (hletter : letter = 'e' ∨ letter = 'E')
    (hsign : sign = [] ∨ sign = ['+'] ∨ sign = ['-']) (h : Digits digits) :
    Exponent (letter :: (sign ++ digits))

/-- The forms of a number. One with a sign, a fraction or an exponent is its own
spelling. -/
inductive NumberForm : Json → List Char → Prop
  | natural {digits : List Char} (h : Whole digits) :
    NumberForm (.natural (Nat.ofDigitChars 10 digits 0)) digits
  | unsigned {whole fraction exponent : List Char} (hwhole : Whole whole)
    (hfraction : Fraction fraction) (hexponent : Exponent exponent)
    (hmore : fraction ≠ [] ∨ exponent ≠ []) :
    NumberForm (.number (whole ++ fraction ++ exponent)) (whole ++ fraction ++ exponent)
  | negative {whole fraction exponent : List Char} (hwhole : Whole whole)
    (hfraction : Fraction fraction) (hexponent : Exponent exponent) :
    NumberForm (.number ('-' :: (whole ++ fraction ++ exponent)))
      ('-' :: (whole ++ fraction ++ exponent))

/-! ### Values -/

mutual

/-- The forms of a value. -/
inductive Form : Json → List Char → Prop
  | null : Form .null ['n', 'u', 'l', 'l']
  | true : Form (.bool true) ['t', 'r', 'u', 'e']
  | false : Form (.bool false) ['f', 'a', 'l', 's', 'e']
  | number {value : Json} {cs : List Char} (h : NumberForm value cs) : Form value cs
  | string {text : Option String} {content : List Char} (h : ContentForm text content) :
    Form (.string text) ('\x22' :: (content ++ ['\x22']))
  | emptyArray {blanks : List Char} (h : Blanks blanks) : Form (.array []) ('[' :: (blanks ++ [']']))
  | array {items : List Json} {cs : List Char} (h : ItemsForm items cs) :
    Form (.array items) ('[' :: (cs ++ [']']))
  | emptyObject {blanks : List Char} (h : Blanks blanks) :
    Form (.object []) ('\x7b' :: (blanks ++ ['\x7d']))
  | object {members : List (Option String × Json)} {cs : List Char} (h : MembersForm members cs) :
    Form (.object members) ('\x7b' :: (cs ++ ['\x7d']))

/-- The forms of the items of an array, of which there is one at least, with commas
between them. -/
inductive ItemsForm : List Json → List Char → Prop
  | last {item : Json} {before cs after : List Char} (hbefore : Blanks before) (h : Form item cs)
    (hafter : Blanks after) : ItemsForm [item] (before ++ (cs ++ after))
  | cons {item : Json} {items : List Json} {before cs after rest : List Char}
    (hbefore : Blanks before) (h : Form item cs) (hafter : Blanks after)
    (hitems : ItemsForm items rest) :
    ItemsForm (item :: items) (before ++ (cs ++ (after ++ ',' :: rest)))

/-- The forms of a member of an object: a string, a colon and a value. -/
inductive MemberForm : Option String × Json → List Char → Prop
  | intro {name : Option String} {value : Json} {before content behind between cs : List Char}
    (hbefore : Blanks before) (hname : ContentForm name content) (hbehind : Blanks behind)
    (hbetween : Blanks between) (h : Form value cs) :
    MemberForm (name, value)
      (before ++ '\x22' :: (content ++ '\x22' :: (behind ++ ':' :: (between ++ cs))))

/-- The forms of the members of an object, of which there is one at least, with
commas between them. -/
inductive MembersForm : List (Option String × Json) → List Char → Prop
  | last {member : Option String × Json} {cs after : List Char} (h : MemberForm member cs)
    (hafter : Blanks after) : MembersForm [member] (cs ++ after)
  | cons {member : Option String × Json} {members : List (Option String × Json)}
    {cs after rest : List Char} (h : MemberForm member cs) (hafter : Blanks after)
    (hmembers : MembersForm members rest) :
    MembersForm (member :: members) (cs ++ (after ++ ',' :: rest))

end

/-- The text is a form of the value with nothing but blanks around it. -/
def Spells (text : String) (value : Json) : Prop :=
  ∃ before cs after, Blanks before ∧ Form value cs ∧ Blanks after
    ∧ text.toList = before ++ (cs ++ after)

end SqlWire.Json
