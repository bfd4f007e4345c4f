import SqlWire.Json.Grammar
import SqlWire.Json.Parser

/-!
# Literals are read as they are spelled

The reader of a string and the reader of a number take exactly what the grammar says
and leave what follows. A string ends by itself, at its closing quote. A number does
not: what follows it must not continue it, which is what `Apart` asks.
-/

set_option autoImplicit false

namespace SqlWire.Json

/-! ### Strings -/

variable {units : List Nat} {text : List Char}

/-- Base-16 digits are read in either case. There are sixteen of each, which are
gone through one by one. -/
theorem HexDigit.hexValue? {c : Char} {n : Nat} (h : HexDigit c n) : hexValue? c = some n := by
  obtain ⟨hn, hc⟩ := h
  have hall : ∀ n < 16, Json.hexValue? (Nat.digitChar n) = some n
      ∧ Json.hexValue? (Nat.digitChar n).toUpper = some n := by decide
  obtain rfl | rfl := hc
  · exact (hall n hn).1
  · exact (hall n hn).2

/-- One unit is read as it is spelled, whatever follows it in the string. There is
one case for each form of a unit. -/
theorem UnitForm.codePoints?_append {unit : Nat} {cs : List Char} (h : UnitForm unit cs)
    (done : List Nat) (rest : List Char) :
    codePoints? done (cs ++ rest) = codePoints? (unit :: done) rest := by
  cases h with
  | plain c hcontrol hquote hbackslash =>
    have hprintable : ¬ c.toNat < 0x20 := Nat.not_lt.mpr hcontrol
    rw [List.singleton_append, codePoints?, if_neg hprintable] <;> simp_all
  | short h => cases h <;> rfl
  | @quad a b c d k l m n ha hb hc hd =>
    have hquad : hexQuad? a b c d = some (((k * 16 + l) * 16 + m) * 16 + n) := by
      simp only [hexQuad?, ha.hexValue?, hb.hexValue?, hc.hexValue?, hd.hexValue?]
      simp
      omega
    simp only [List.cons_append, List.nil_append, codePoints?, hquad]

/-- All units up to the closing quote are read as they are spelled. A quote that
belongs to the text is escaped, so the first one that stands by itself is the
closing one. -/
theorem UnitsForm.codePoints?_append {cs : List Char} (h : UnitsForm units cs) (done : List Nat)
    (rest : List Char) :
    codePoints? done (cs ++ '\x22' :: rest) = some (done.reverse ++ units, rest) := by
  induction h generalizing done with
  | nil => simp [codePoints?]
  | @cons unit units cs rest' h hrest ih =>
    rw [List.append_assoc, h.codePoints?_append, ih]
    simp

/-- A code point that is no half of a surrogate pair has its character, and is got
back from it. -/
theorem toNat_ofNat_of_isValidChar {n : Nat} (h : n.isValidChar) : (Char.ofNat n).toNat = n := by
  rw [Char.ofNat, dif_pos h]
  rfl

/-- No unit is beyond the code points: a character is one of them, and four digits
spell no greater number than 65535. -/
theorem UnitsForm.lt {cs : List Char} (h : UnitsForm units cs) : ∀ unit ∈ units, unit < 0x110000 := by
  induction h with
  | nil => simp
  | cons h hrest ih =>
    refine List.forall_mem_cons.mpr ⟨?_, ih⟩
    cases h with
    | plain c =>
      have hvalid : c.toNat.isValidChar := c.valid
      omega
    | short h => cases h <;> decide
    | quad ha hb hc hd =>
      -- Four digits of base sixteen stay below the bound.
      have hdigits := And.intro (And.intro ha.1 hb.1) (And.intro hc.1 hd.1)
      omega

/-- The text of the units is found, halves of surrogate pairs taken together. The
induction is on how the units stand for the text. -/
theorem Denotes.pairSurrogates? (h : Denotes units text) : pairSurrogates? units = some text := by
  induction h with
  | nil => rfl
  | single c h ih =>
    -- No character is half a surrogate pair.
    have hvalid : c.toNat.isValidChar := c.valid
    have hhigh : ¬ (0xD800 ≤ c.toNat ∧ c.toNat < 0xDC00) := by omega
    have hlow : ¬ (0xDC00 ≤ c.toNat ∧ c.toNat < 0xE000) := by omega
    rw [Json.pairSurrogates?.eq_def]
    simp only [if_neg hhigh, if_neg hlow, ih, Char.ofNat_toNat, Option.map_some]
  | pair c hplane h ih =>
    have hvalid : c.toNat.isValidChar := c.valid
    have hjoined : 0x10000 + (highHalf c - 0xD800) * 0x400 + (lowHalf c - 0xDC00) = c.toNat := by
      simp only [highHalf, lowHalf]
      omega
    have hhigh : 0xD800 ≤ highHalf c ∧ highHalf c < 0xDC00 := by
      simp only [highHalf]
      omega
    have hlow : 0xDC00 ≤ lowHalf c ∧ lowHalf c < 0xE000 := by
      simp only [lowHalf]
      omega
    rw [Json.pairSurrogates?, if_pos hhigh, if_pos hlow, hjoined, ih, Char.ofNat_toNat]
    rfl

/-- What is found is a text of the units. With the law before it, units that stand
for no text are those for which none is found, so a string with half a surrogate
pair is known for what it is. The induction follows the cases of the function. -/
theorem denotes_of_pairSurrogates? (hunits : ∀ unit ∈ units, unit < 0x110000)
    (h : Json.pairSurrogates? units = some text) : Denotes units text := by
  induction units using Json.pairSurrogates?.induct generalizing text with
  | case1 =>
    cases h
    exact .nil
  | case2 high hhigh low rest hlow ih =>
    -- The character that the two halves make has just these halves.
    rw [Json.pairSurrogates?, if_pos hhigh, if_pos hlow] at h
    obtain ⟨text, hrest, rfl⟩ := Option.map_eq_some_iff.mp h
    have hvalid : (0x10000 + (high - 0xD800) * 0x400 + (low - 0xDC00)).isValidChar := by
      right
      omega
    have hchar := toNat_ofNat_of_isValidChar hvalid
    generalize Char.ofNat (0x10000 + (high - 0xD800) * 0x400 + (low - 0xDC00)) = c at hchar ⊢
    have hhalves : high = highHalf c ∧ low = lowHalf c := by
      simp only [highHalf, lowHalf]
      omega
    obtain ⟨-, hunits⟩ := List.forall_mem_cons.mp hunits
    obtain ⟨-, hunits⟩ := List.forall_mem_cons.mp hunits
    rw [hhalves.1, hhalves.2]
    exact .pair c (by omega) (ih hunits hrest)
  | case3 high hhigh low rest hlow =>
    rw [Json.pairSurrogates?, if_pos hhigh, if_neg hlow] at h
    cases h
  | case4 high hhigh =>
    rw [Json.pairSurrogates?, if_pos hhigh] at h
    cases h
  | case5 unit rest hhigh hlow =>
    rw [Json.pairSurrogates?.eq_def] at h
    simp only [if_neg hhigh, if_pos hlow] at h
    cases h
  | case6 unit rest hhigh hlow ih =>
    rw [Json.pairSurrogates?.eq_def] at h
    simp only [if_neg hhigh, if_neg hlow] at h
    obtain ⟨text, hrest, rfl⟩ := Option.map_eq_some_iff.mp h
    -- A unit that is no half of a pair is a code point only because it is not too large.
    obtain ⟨hunit, hunits⟩ := List.forall_mem_cons.mp hunits
    have hvalid : unit.isValidChar := by
      show unit < 0xD800 ∨ _
      omega
    have hchar : (Char.ofNat unit).toNat = unit := toNat_ofNat_of_isValidChar hvalid
    have hdenotes := Denotes.single (Char.ofNat unit) (ih hunits hrest)
    rwa [hchar] at hdenotes

/-- A string is read up to its closing quote, with the text that it has or without
one. -/
theorem ContentForm.stringBody?_append {text : Option String} {content : List Char}
    (h : ContentForm text content) (rest : List Char) :
    stringBody? (content ++ '\x22' :: rest) = some (text, rest) := by
  cases h with
  | text hunits htext =>
    simp [stringBody?, hunits.codePoints?_append, htext.pairSurrogates?]
  | @broken units cs hunits hbroken =>
    have hnone : pairSurrogates? units = none := by
      cases hpairs : pairSurrogates? units with
      | none => rfl
      | some text => exact absurd (denotes_of_pairSurrogates? hunits.lt hpairs) (hbroken text)
    simp [stringBody?, hunits.codePoints?_append, hnone]

/-! ### Numbers -/

/-- What follows a number cannot continue it: it begins with a blank or with one of
the characters that close a value. Behind a number these are the only characters
that the grammar admits. -/
def Apart (rest : List Char) : Prop :=
  ∀ c ∈ rest.head?, Blank c ∨ c = ',' ∨ c = ']' ∨ c = '\x7d'

variable {rest digits fraction exponent whole : List Char}

/-- The digits at the front are all that are read, if no digit follows. Without this
condition the reader would take more. -/
theorem Digits.digits?_append (h : Digits digits) (hrest : ∀ c ∈ rest.head?, c.isDigit = false) :
    digits? (digits ++ rest) = some (digits, rest) := by
  have hstop : rest.takeWhile Char.isDigit = [] ∧ rest.dropWhile Char.isDigit = rest := by
    cases rest with
    | nil => exact ⟨rfl, rfl⟩
    | cons c rest => simp [hrest c rfl]
  have htake : (digits ++ rest).takeWhile Char.isDigit = digits := by
    rw [List.takeWhile_append_of_pos h.2, hstop.1, List.append_nil]
  have hdrop : (digits ++ rest).dropWhile Char.isDigit = rest := by
    rw [List.dropWhile_append_of_pos h.2, hstop.2]
  have hsome : digits.isEmpty = false := by simpa using h.1
  simp only [digits?, htake, hdrop, hsome, Bool.false_eq_true, if_false]

/-- What follows a number is no part of it: neither a digit nor what begins a
fraction or an exponent. -/
theorem Apart.head (h : Apart rest) :
    ∀ c ∈ rest.head?, c.isDigit = false ∧ c ≠ '.' ∧ c ≠ 'e' ∧ c ≠ 'E' := by
  intro c hc
  rcases h c hc with (rfl | rfl | rfl | rfl) | rfl | rfl | rfl <;> decide

/-- What follows the fraction of a number is its exponent or what follows the
number, and neither begins as a fraction could go on. -/
theorem Exponent.head (h : Exponent exponent) (hrest : Apart rest) :
    ∀ c ∈ (exponent ++ rest).head?, c.isDigit = false ∧ c ≠ '.' := by
  cases h with
  | absent =>
    intro c hc
    obtain ⟨hdigit, hpoint, -, -⟩ := hrest.head c hc
    exact ⟨hdigit, hpoint⟩
  | present hletter hsign hdigits =>
    intro c hc
    obtain rfl := Option.some.inj hc
    obtain rfl | rfl := hletter <;> decide

/-- What follows the digits before a fraction does not begin with a digit, be there
a fraction or not. -/
theorem Fraction.head (h : Fraction fraction) (hrest : ∀ c ∈ rest.head?, c.isDigit = false) :
    ∀ c ∈ (fraction ++ rest).head?, c.isDigit = false := by
  cases h with
  | absent => exact hrest
  | present hdigits =>
    intro c hc
    obtain rfl := Option.some.inj hc
    decide

/-- A number begins with a digit, by which the reader knows it for one. -/
theorem Whole.exists_cons (h : Whole whole) : ∃ c cs, whole = c :: cs ∧ c.isDigit = true := by
  obtain ⟨⟨hne, hdigits⟩, -⟩ := h
  obtain ⟨c, cs, rfl⟩ := List.exists_cons_of_ne_nil hne
  exact ⟨c, cs, rfl, hdigits c List.mem_cons_self⟩

/-- The digits before a fraction are read as they stand. A zero in front is read
alone, and is alone. -/
theorem Whole.wholePart?_append (h : Whole whole) (hrest : ∀ c ∈ rest.head?, c.isDigit = false) :
    wholePart? (whole ++ rest) = some (whole, rest) := by
  obtain ⟨hdigits, hzero⟩ := h
  by_cases hhead : whole.head? = some '0'
  · rw [hzero hhead]
    rfl
  · rw [wholePart?]
    · exact hdigits.digits?_append hrest
    · intro rest' heq
      obtain ⟨c, cs, rfl⟩ := List.exists_cons_of_ne_nil hdigits.1
      obtain ⟨rfl, -⟩ := List.cons.inj heq
      exact hhead rfl

/-- A fraction is read up to its last digit, and where there is none nothing is
read. -/
theorem Fraction.fraction?_append (h : Fraction fraction)
    (hrest : ∀ c ∈ rest.head?, c.isDigit = false ∧ c ≠ '.') :
    fraction? (fraction ++ rest) = some (fraction, rest) := by
  cases h with
  | absent =>
    rw [List.nil_append, fraction?]
    rintro rest' rfl
    exact (hrest '.' rfl).2 rfl
  | present hdigits =>
    have hread := hdigits.digits?_append fun c hc => (hrest c hc).1
    simp only [List.cons_append, fraction?, hread, Option.map_some]

/-- An exponent is read with its letter and its sign, and where there is none
nothing is read. -/
theorem Exponent.exponent?_append (h : Exponent exponent) (hrest : Apart rest) :
    exponent? (exponent ++ rest) = some (exponent, rest) := by
  cases h with
  | absent =>
    rw [List.nil_append, exponent?]
    · rintro rest' rfl
      exact (hrest.head 'e' rfl).2.2.1 rfl
    · rintro rest' rfl
      exact (hrest.head 'E' rfl).2.2.2 rfl
  | @present letter sign digits hletter hsign hdigits =>
    have hread := hdigits.digits?_append fun c hc => (hrest.head c hc).1
    have hsigned : signedDigits? (sign ++ digits ++ rest) = some (sign ++ digits, rest) := by
      -- Without a sign the digits come at once, and none of them is taken for one.
      obtain rfl | rfl | rfl := hsign
      · rw [List.nil_append, signedDigits?]
        · exact hread
        all_goals
          intro rest' heq
          obtain ⟨c, cs, rfl⟩ := List.exists_cons_of_ne_nil hdigits.1
          obtain ⟨rfl, -⟩ := List.cons.inj heq
          exact absurd (hdigits.2 _ List.mem_cons_self) (by decide)
      · simp only [List.cons_append, List.nil_append, signedDigits?, hread, Option.map_some]
      · simp only [List.cons_append, List.nil_append, signedDigits?, hread, Option.map_some]
    obtain rfl | rfl := hletter
    · simp only [List.cons_append, exponent?, hsigned, Option.map_some]
    · simp only [List.cons_append, exponent?, hsigned, Option.map_some]

/-- A number is read as it is spelled, if what follows does not continue it. The
parts are read one after the other, each up to where the next begins. -/
theorem NumberForm.number?_append {value : Json} {cs : List Char} (h : NumberForm value cs)
    (hrest : Apart rest) : number? (cs ++ rest) = some (value, rest) := by
  -- Each part is read up to the next one, because none of them begins as the one before
  -- could go on.
  have hparts {whole fraction exponent : List Char} (hwhole : Whole whole)
      (hfraction : Fraction fraction) (hexponent : Exponent exponent) :
      wholePart? (whole ++ (fraction ++ (exponent ++ rest)))
          = some (whole, fraction ++ (exponent ++ rest))
        ∧ fraction? (fraction ++ (exponent ++ rest)) = some (fraction, exponent ++ rest)
        ∧ exponent? (exponent ++ rest) = some (exponent, rest) := by
    have hbehind := hexponent.head hrest
    have hbehind' : ∀ c ∈ (fraction ++ (exponent ++ rest)).head?, c.isDigit = false := by
      apply hfraction.head
      intro c hc
      exact (hbehind c hc).1
    refine ⟨?_, ?_, ?_⟩
    · exact hwhole.wholePart?_append hbehind'
    · exact hfraction.fraction?_append hbehind
    · exact hexponent.exponent?_append hrest
  have hunsigned {whole : List Char} (hwhole : Whole whole) (behind : List Char) :
      number? (whole ++ behind) = unsigned? (whole ++ behind) := by
    obtain ⟨c, cs, rfl, hdigit⟩ := hwhole.exists_cons
    rw [number?]
    intro rest' heq
    obtain ⟨rfl, -⟩ := List.cons.inj heq
    exact absurd hdigit (by decide)
  cases h with
  | natural hwhole =>
    obtain ⟨hread, hfraction, hexponent⟩ := hparts hwhole .absent .absent
    rw [hunsigned hwhole, unsigned?]
    simp only [List.nil_append] at hread hfraction hexponent
    simp [hread, hfraction, hexponent, naturalOfDigits, Nat.ofDigitChars_eq_foldl]
  | @unsigned whole fraction exponent hwhole hfraction hexponent hmore =>
    obtain ⟨hread, hreadFraction, hreadExponent⟩ := hparts hwhole hfraction hexponent
    have hsome : fraction = [] → exponent ≠ [] := by
      intro hnone
      rcases hmore with hfraction | hexponent
      · exact absurd hnone hfraction
      · exact hexponent
    rw [List.append_assoc, List.append_assoc, hunsigned hwhole, unsigned?]
    simpa [hread, hreadFraction, hreadExponent] using hsome
  | negative hwhole hfraction hexponent =>
    obtain ⟨hread, hreadFraction, hreadExponent⟩ := hparts hwhole hfraction hexponent
    simp [number?, hread, hreadFraction, hreadExponent]

end SqlWire.Json
