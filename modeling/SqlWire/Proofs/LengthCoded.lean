import SqlWire.LengthCoded

/-!
# The forms of length-coded values

`LengthCoded.encode` always takes the narrowest form, but a server is free to write
a number wider than necessary. `Form` lists all ways of writing a number and
`CellForm` all ways of writing a string or SQL NULL. Reading accepts exactly these
(`decode?_eq_value_iff`, `decodeCell?_eq_some_iff`), which makes every form tell
where it ends: no form begins another one (`CellForm.eq_of_append_eq`).
-/

set_option autoImplicit false

namespace SqlWire.LengthCoded

/-- The ways of writing a number: a single byte below the markers, or a marker and
as many digits as it announces, be they needed or not. -/
inductive Form : (n : Nat) → Bytes → Prop
  | plain (b : UInt8) (h : b < nullMarker) : Form b.toNat [b]
  | wide16 (digits : Bytes) (h : digits.length = 2) :
    Form (Bytes.toNat digits) (marker16 :: digits)
  | wide24 (digits : Bytes) (h : digits.length = 3) :
    Form (Bytes.toNat digits) (marker24 :: digits)
  | wide64 (digits : Bytes) (h : digits.length = 8) :
    Form (Bytes.toNat digits) (marker64 :: digits)

/-- The ways of writing a cell: the marker of SQL NULL, or a length in one of its
forms and a string of this length. -/
inductive CellForm : Option Bytes → Bytes → Prop
  | null : CellForm none [nullMarker]
  | string {head content : Bytes} (h : Form content.length head) :
    CellForm (some content) (head ++ content)

variable {n : Nat} {form bs : Bytes}

/-- No form has room for more than 64 bits. A reader may therefore keep what it has
read in a number of this width without cutting it. -/
theorem Form.lt (h : Form n form) : n < UInt64.size := by
  have hdigits {width : Nat} {digits : Bytes} (hlength : digits.length = width)
      (hbound : Bytes.bound width ≤ UInt64.size) : Bytes.toNat digits < UInt64.size := by
    have hlt := Bytes.toNat_lt digits
    rw [hlength] at hlt
    exact Nat.lt_of_lt_of_le hlt hbound
  -- A marker has eight digits behind it at most, and a plain byte is less than any of them.
  cases h with
  | plain b hb => exact Nat.lt_trans b.toNat_lt (by decide)
  | wide16 digits hlength => exact hdigits hlength (by decide)
  | wide24 digits hlength => exact hdigits hlength (by decide)
  | wide64 digits hlength => exact hdigits hlength (by decide)

/-- Every form has a first byte, which tells how long it is. So no integer is read
from nothing. -/
theorem Form.length_pos (h : Form n form) : 0 < form.length := by
  cases h <;> exact Nat.succ_pos _

/-- Every form of a number is read as this number, whatever follows it. The
narrowest form is not needed for this. -/
theorem Form.decode?_append (h : Form n form) (rest : Bytes) :
    decode? (form ++ rest) = some (value (UInt64.ofNat n), form.length) := by
  cases h with
  | plain b hb => simp [decode?, hb]
  | wide16 digits hlength =>
    simp [decode?, nullMarker, width, marker16, Bytes.splitExactly_append rest hlength, hlength]
  | wide24 digits hlength =>
    simp [decode?, nullMarker, width, marker16, marker24, Bytes.splitExactly_append rest hlength,
      hlength]
  | wide64 digits hlength =>
    simp [decode?, nullMarker, width, marker16, marker24, marker64,
      Bytes.splitExactly_append rest hlength, hlength]

/-- A byte that begins an integer and is neither the integer itself nor SQL NULL is
one of three markers. The reader tells the cases apart in this order, so this is
what is left for it at the end. -/
theorem marker_cases {first : UInt8} (hplain : ¬ first < nullMarker) (hnull : first ≠ nullMarker)
    (herror : first ≠ 0xFF) : first = marker16 ∨ first = marker24 ∨ first = marker64 := by
  simp only [UInt8.lt_iff_toNat_lt, ne_eq, ← UInt8.toNat_inj, nullMarker, marker16, marker24,
    marker64, UInt8.reduceToNat] at *
  have := first.toNat_lt
  omega

/-- Digits behind a marker make a form of the number that they spell, and the marker
tells how many bytes there are in all. -/
theorem Form.of_digits {first : UInt8} {digits : Bytes}
    (hfirst : first = marker16 ∨ first = marker24 ∨ first = marker64)
    (hlength : digits.length = width first - 1) :
    Form (Bytes.toNat digits) (first :: digits) ∧ width first = digits.length + 1 := by
  obtain rfl | rfl | rfl := hfirst
  · refine ⟨.wide16 digits hlength, ?_⟩
    rw [hlength]
    rfl
  · refine ⟨.wide24 digits hlength, ?_⟩
    rw [hlength]
    rfl
  · refine ⟨.wide64 digits hlength, ?_⟩
    rw [hlength]
    rfl

/-- A number is read just where a form of it stands. The reader is described by this
in both directions, so no later argument has to go through its cases again. -/
theorem decode?_eq_value_iff {m : UInt64} {used : Nat} :
    decode? bs = some (value m, used)
      ↔ ∃ form rest, Form m.toNat form ∧ bs = form ++ rest ∧ form.length = used := by
  constructor
  · intro h
    cases bs with
    | nil => cases h
    | cons first rest =>
      -- In the order of the reader: a plain byte, SQL NULL, the byte that begins nothing, a marker.
      rw [decode?] at h
      split at h
      · next hplain =>
        cases h
        have hform : Form first.toUInt64.toNat [first] := by
          rw [UInt8.toNat_toUInt64]
          exact .plain first hplain
        exact ⟨[first], rest, hform, rfl, rfl⟩
      split at h
      · cases h
      split at h
      · cases h
      next hplain hnull herror =>
      split at h
      · next digits rest' hsplit =>
        cases h
        obtain ⟨rfl, hlength⟩ := Bytes.splitExactly_eq_some_iff.mp hsplit
        obtain ⟨hform, hwidth⟩ := Form.of_digits (marker_cases hplain hnull herror) hlength
        -- Eight digits at most were taken, so the number has not been cut.
        have hvalue : (UInt64.ofNat (Bytes.toNat digits)).toNat = Bytes.toNat digits :=
          UInt64.toNat_ofNat_of_lt' hform.lt
        rw [← hvalue] at hform
        exact ⟨first :: digits, rest', hform, rfl, hwidth.symm⟩
      · cases h
  · rintro ⟨form, rest, hform, rfl, rfl⟩
    rw [hform.decode?_append rest, UInt64.ofNat_toNat]

/-- SQL NULL is read just where its marker stands, and takes this one byte. -/
theorem decode?_eq_null_iff {used : Nat} :
    decode? bs = some (null, used) ↔ (∃ rest, bs = nullMarker :: rest) ∧ used = 1 := by
  constructor
  · intro h
    cases bs with
    | nil => cases h
    | cons first rest =>
      rw [decode?] at h
      -- The first byte decides, and only the marker of SQL NULL gives it.
      split at h
      · cases h
      split at h
      · next hnull =>
        cases h
        rw [hnull]
        exact ⟨⟨rest, rfl⟩, rfl⟩
      split at h
      · cases h
      split at h <;> cases h
  · rintro ⟨⟨rest, rfl⟩, rfl⟩
    rfl

/-- A cell is read just where a form of it stands. The length at its front may be
written in any form, and the string is as long as this length says. -/
theorem decodeCell?_eq_some_iff {cell : Option Bytes} {used : Nat} :
    decodeCell? bs = some (cell, used)
      ↔ ∃ form rest, CellForm cell form ∧ bs = form ++ rest ∧ form.length = used := by
  constructor
  · intro h
    rw [decodeCell?] at h
    split at h
    · cases h
    · next hdecode =>
      cases h
      obtain ⟨⟨rest, rfl⟩, rfl⟩ := decode?_eq_null_iff.mp hdecode
      exact ⟨[nullMarker], rest, .null, rfl, rfl⟩
    · next m headLength hdecode =>
      obtain ⟨head, behind, hhead, rfl, rfl⟩ := decode?_eq_value_iff.mp hdecode
      rw [List.drop_left] at h
      split at h
      · next content rest hsplit =>
        cases h
        -- The head says how long the string is, and so many bytes are there.
        obtain ⟨rfl, hlength⟩ := Bytes.splitExactly_eq_some_iff.mp hsplit
        rw [← hlength] at hhead
        refine ⟨head ++ content, rest, .string hhead, ?_, ?_⟩
        · rw [List.append_assoc]
        · rw [List.length_append, hlength]
      · cases h
  · rintro ⟨form, rest, hform, rfl, rfl⟩
    cases hform with
    | null => rfl
    | @string head content hhead =>
      have hlength : (UInt64.ofNat content.length).toNat = content.length :=
        UInt64.toNat_ofNat_of_lt' hhead.lt
      simp [decodeCell?, List.append_assoc, hhead.decode?_append, hlength,
        Bytes.splitExactly_append]

namespace CellForm

variable {cell cell' : Option Bytes} {form' rest rest' : Bytes}

/-- Every form of a cell is read as this cell, whatever follows it. The length in
front of a string may be in any form. -/
theorem decodeCell?_append (h : CellForm cell form) (rest : Bytes) :
    decodeCell? (form ++ rest) = some (cell, form.length) := by
  rw [decodeCell?_eq_some_iff]
  exact ⟨form, rest, h, rfl, rfl⟩

/-- The bytes at the front are a form of one cell at most, and of that in one way.
Cells can follow one another without anything to separate them because of this. -/
theorem eq_of_append_eq (h : CellForm cell form) (h' : CellForm cell' form')
    (heq : form ++ rest = form' ++ rest') : cell = cell' ∧ form = form' ∧ rest = rest' := by
  -- Both are what the reader finds at the front, and it tells how many bytes it has taken.
  have hdecode := h.decodeCell?_append rest
  rw [heq, h'.decodeCell?_append rest'] at hdecode
  obtain ⟨hcell, hlength⟩ := Prod.mk.inj (Option.some.inj hdecode)
  obtain ⟨hform, hrest⟩ := List.append_inj heq hlength.symm
  exact ⟨hcell.symm, hform, hrest⟩

/-- No cell is written as nothing. A payload with cells still ahead is therefore not
empty, which is how a row is known to have ended. -/
theorem length_pos (h : CellForm cell form) : 0 < form.length := by
  cases h with
  | null => exact Nat.one_pos
  | string hhead =>
    rw [List.length_append]
    exact Nat.add_pos_left hhead.length_pos _

/-- Bytes that begin with a cell are not used up, so a row with a cell ahead goes
on. -/
theorem append_ne_nil (h : CellForm cell form) (rest : Bytes) : form ++ rest ≠ [] := by
  have hform : form ≠ [] := List.ne_nil_of_length_pos h.length_pos
  exact List.append_ne_nil_of_left_ne_nil hform rest

end CellForm

/-- The narrowest form is one of the forms. So what is written is read, by the law
for all forms. -/
theorem cellForm_encodeCell {cell : Option Bytes} (h : ∀ bs ∈ cell, bs.length < UInt64.size) :
    CellForm cell (encodeCell cell) := by
  -- What is written is read, and what is read stands there in one of its forms.
  have hdecode := decodeCell?_encodeCell_append [] h
  obtain ⟨form, rest, hform, heq, hlength⟩ := decodeCell?_eq_some_iff.mp hdecode
  obtain ⟨hencode, -⟩ := List.append_inj heq hlength.symm
  rw [hencode]
  exact hform

end SqlWire.LengthCoded
