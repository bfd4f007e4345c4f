import Mathlib.Tactic.SplitIfs
import SqlWire.Json.Grammar
import SqlWire.Json.Printer

/-!
# What is written is in the grammar

Each part that `Json.render` writes is one of the forms that the grammar has for it.
A text is written character by character, so only the forms of single characters are
looked at (`unitForm_renderChar`). A count is written without leading zeros
(`whole_toDigits`). An object of at least one member is in the grammar if the values
of its members are (`form_renderChars_object`).
-/

set_option autoImplicit false

namespace SqlWire.Json

/-! ### Strings -/

/-- A control character has two zeros, and a third digit that is zero or one. These
are the characters that have no short escape. -/
theorem unitForm_control {unit : Nat} (h : unit < 0x20) :
    UnitForm unit
      ['\\', 'u', '0', '0', if unit < 0x10 then '0' else '1', Nat.digitChar (unit % 16)] := by
  have hsixteens : HexDigit (if unit < 0x10 then '0' else '1') (unit / 16) := by
    refine ⟨by omega, .inl ?_⟩
    split_ifs with hlow
    · rw [Nat.div_eq_of_lt hlow]
      rfl
    · have hone : unit / 16 = 1 := by omega
      rw [hone]
      rfl
  have hones : HexDigit (Nat.digitChar (unit % 16)) (unit % 16) :=
    ⟨Nat.mod_lt _ (by decide), .inl rfl⟩
  have hzero : HexDigit '0' 0 := by decide
  -- The number is put together from its digits again, two of which are zero.
  have hform := UnitForm.quad hzero hzero hsixteens hones
  have hunit : ((0 * 16 + 0) * 16 + unit / 16) * 16 + unit % 16 = unit := by omega
  rwa [hunit] at hform

/-- A character is written as itself or escaped, and either way in one of its forms.
The seven characters with an escape of their own come first, then the other control
characters. -/
theorem unitForm_renderChar (c : Char) : UnitForm c.toNat (renderChar c) := by
  have hcontrol := @unitForm_control c.toNat
  unfold renderChar
  -- What is left to choose is which escape, so the digit of a control character is not split.
  generalize (if c.toNat < 0x10 then '0' else '1') = sixteens at hcontrol ⊢
  split_ifs with hquote hbackslash hlineFeed hcarriageReturn htab hbackspace hformFeed hprintable
  case pos | pos | pos | pos | pos | pos | pos =>
    subst c
    exact .short (by constructor)
  · exact hcontrol hprintable
  · exact .plain c (Nat.not_lt.mp hprintable) hquote hbackslash

/-- A text is written as its characters, one after the other. The induction is on
the characters, each with a form of its own. -/
theorem unitsForm_flatMap_renderChar (cs : List Char) :
    UnitsForm (cs.map Char.toNat) (cs.flatMap renderChar) := by
  induction cs with
  | nil => exact .nil
  | cons c cs ih => exact .cons (unitForm_renderChar c) ih

/-- The code points of a text stand for it. No surrogate pairs are written, since
every character has a code point. -/
theorem denotes_map_toNat (cs : List Char) : Denotes (cs.map Char.toNat) cs := by
  induction cs with
  | nil => exact .nil
  | cons c cs ih => exact .single c ih

/-- What is written between the quotes is a form of the text. -/
theorem contentForm_renderContent (text : String) :
    ContentForm (some text) (renderContent (some text)) :=
  .text (unitsForm_flatMap_renderChar text.toList) (denotes_map_toNat text.toList)

/-! ### Numbers -/

/-- Only zero is written with a zero in front. The induction is on the number, since
its first digit is that of the number without its last one. -/
theorem eq_zero_of_head?_toDigits {n : Nat} (h : (Nat.toDigits 10 n).head? = some '0') : n = 0 := by
  induction n using Nat.strongRecOn with
  | ind n ih =>
    rw [Nat.toDigits_eq_if (by decide)] at h
    split_ifs at h with hdigit
    · exact Nat.digitChar_eq_zero.mp (Option.some.inj h)
    · -- The digits before the last one are those of a smaller number, and they are not none.
      have hhead : (Nat.toDigits 10 (n / 10)).head? = some '0' := by
        obtain ⟨c, cs, htens⟩ := List.exists_cons_of_ne_nil (@Nat.toDigits_ne_nil (n / 10) 10)
        rw [htens] at h ⊢
        exact h
      have htens : n / 10 = 0 := ih (n / 10) (by omega) hhead
      omega

/-- A count is written without leading zeros, and zero itself as one digit. -/
theorem whole_toDigits (n : Nat) : Whole (Nat.toDigits 10 n) := by
  refine ⟨⟨Nat.toDigits_ne_nil, ?_⟩, ?_⟩
  · intro c hc
    exact Nat.isDigit_of_mem_toDigits (by decide) (by decide) hc
  · intro hzero
    rw [eq_zero_of_head?_toDigits hzero]
    rfl

/-! ### Values -/

/-- Nothing is written between tokens, which is one way of spacing them. -/
theorem blanks_nil : Blanks [] := by
  decide

/-- A count is written in one of its forms: digits with neither fraction nor
exponent. -/
theorem form_renderChars_natural (n : Nat) : Form (.natural n) (renderChars (.natural n)) := by
  have hform := NumberForm.natural (whole_toDigits n)
  rw [Nat.ofDigitChars_ten_toDigits] at hform
  exact .number hform

/-- A text is written in one of its forms, between quotes. -/
theorem form_renderChars_string (text : String) :
    Form (.string (some text)) (renderChars (.string (some text))) :=
  .string (contentForm_renderContent text)

/-- So is a text that may be absent, whose absence is the word for nothing. -/
theorem form_renderChars_ofTextOrNull (text : Option String) :
    Form (.ofTextOrNull text) (renderChars (.ofTextOrNull text)) := by
  cases text with
  | none => exact .null
  | some text => exact form_renderChars_string text

/-- A member is written without blanks: the name in quotes, a colon and the value. -/
theorem memberForm_render (name : String) {value : Json} (h : Form value value.renderChars) :
    MemberForm (some name, value) (renderText (some name) ++ ':' :: value.renderChars) := by
  have hform := MemberForm.intro blanks_nil (contentForm_renderContent name) blanks_nil blanks_nil h
  simpa [renderText] using hform

/-- Members are written one after the other with commas between them. The induction
is on the members, of which the last one is told apart because no comma follows it. -/
theorem membersForm_renderMembers {members : List (String × Json)} (hne : members ≠ [])
    (h : ∀ m ∈ members, Form m.2 m.2.renderChars) :
    MembersForm (members.map fun m => (some m.1, m.2))
      (renderMembers (members.map fun m => (some m.1, m.2))) := by
  induction members with
  | nil => exact absurd rfl hne
  | cons m members ih =>
    obtain ⟨hmember, hmembers⟩ := List.forall_mem_cons.mp h
    cases members with
    | nil =>
      have hform := MembersForm.last (memberForm_render m.1 hmember) blanks_nil
      rwa [List.append_nil] at hform
    | cons next members =>
      -- A member behind which others stand is followed by a comma.
      have hform := MembersForm.cons (memberForm_render m.1 hmember) blanks_nil
        (ih (List.cons_ne_nil _ _) hmembers)
      simpa [renderMembers] using hform

/-- An object of members is written as one if the value of each is. There has to be
a member, as an object without any is written in another way. -/
theorem form_renderChars_object {members : List (String × Json)} (hne : members ≠ [])
    (h : ∀ m ∈ members, Form m.2 m.2.renderChars) :
    Form (.object (members.map fun m => (some m.1, m.2)))
      (renderChars (.object (members.map fun m => (some m.1, m.2)))) :=
  .object (membersForm_renderMembers hne h)

/-- A value that is in the grammar as it is written is what its text spells. So a
round trip comes down to the form of the value. -/
theorem spells_render {value : Json} (h : Form value value.renderChars) :
    Spells value.render value := by
  exact ⟨[], value.renderChars, [], blanks_nil, h, blanks_nil, by simp [render]⟩

end SqlWire.Json
