import SqlWire.Proofs.LengthCoded
import SqlWire.Writer

/-!
# Reading and writing length-coded integers

The first byte of an integer tells how many bytes it takes (`Form.length_eq_width`),
so reading one fails just where there is no first byte, where it begins no integer,
or where fewer bytes are left than it announces (`decode?_cons_eq_none_iff`). Of the
forms of a number the written one is the narrowest (`length_encode_le`).

`decodeAt?_encode` puts this together for integers that stand anywhere in a byte
string.
-/

set_option autoImplicit false

namespace SqlWire.LengthCoded

variable {n : Nat} {form bs : Bytes} {first : UInt8}

/-- A byte that is an integer by itself announces no more. All bytes below the
marker of SQL NULL are of this kind. -/
theorem width_of_lt (h : first < nullMarker) : width first = 1 := by
  have hne (marker : UInt8) (hmarker : nullMarker < marker) : first ≠ marker := by
    rintro rfl
    exact absurd h (UInt8.lt_asymm hmarker)
  rw [width, if_neg (hne marker16 (by decide)), if_neg (hne marker24 (by decide)),
    if_neg (hne marker64 (by decide))]

/-- A form is as long as its first byte announces. This holds of the longer forms as
well, so the number of bytes that are read never depends on the number that they
spell. -/
theorem Form.length_eq_width (h : Form n form) :
    ∃ first rest, form = first :: rest ∧ form.length = width first := by
  cases h with
  | plain b hb =>
    have hwidth : width b = 1 := width_of_lt hb
    exact ⟨b, [], rfl, hwidth.symm⟩
  | wide16 digits hlength =>
    refine ⟨marker16, digits, rfl, ?_⟩
    rw [List.length_cons, hlength]
    rfl
  | wide24 digits hlength =>
    refine ⟨marker24, digits, rfl, ?_⟩
    rw [List.length_cons, hlength]
    rfl
  | wide64 digits hlength =>
    refine ⟨marker64, digits, rfl, ?_⟩
    rw [List.length_cons, hlength]
    rfl

/-- The form that is written is one of the forms, so the laws for all forms are
about it too. -/
theorem form_encode (m : UInt64) : Form m.toNat (encode m) := by
  -- What is written is read, and what is read stands there in one of its forms.
  obtain ⟨form, rest, hform, heq, hlength⟩ :=
    decode?_eq_value_iff.mp (decode?_encode_append m [])
  obtain ⟨hencode, -⟩ := List.append_inj heq hlength.symm
  rw [hencode]
  exact hform

/-- The written form has as many bytes as the size of the number asks for. The
bounds are those of the plain bytes and of two and three digits. -/
theorem length_encode (m : UInt64) :
    (encode m).length = if m.toNat < 251 then 1 else if m.toNat < 0x10000 then 3
      else if m.toNat < 0x1000000 then 4 else 9 := by
  simp only [encode, UInt64.lt_iff_toNat_lt, UInt64.reduceToNat]
  split
  · rfl
  split
  · rfl
  split <;> rfl

/-- No form of a number is shorter than the one that is written. The others carry
zeros at their upper end. -/
theorem length_encode_le {m : UInt64} (h : Form m.toNat form) :
    (encode m).length ≤ form.length := by
  rw [length_encode]
  generalize m.toNat = k at h
  -- The number has no more digits than the form, which leaves only the shorter ones to be written.
  cases h with
  | plain b hb =>
    have hb : b.toNat < 251 := UInt8.lt_iff_toNat_lt.mp hb
    simp [hb]
  | wide16 digits hlength =>
    have hdigits := Bytes.toNat_lt digits
    rw [hlength] at hdigits
    grind [Bytes.bound]
  | wide24 digits hlength =>
    have hdigits := Bytes.toNat_lt digits
    rw [hlength] at hdigits
    grind [Bytes.bound]
  | wide64 digits hlength => grind

/-- There is no integer behind a byte that begins none, or that announces more bytes
than there are. The marker of SQL NULL announces itself alone and so is always read. -/
theorem decode?_cons_eq_none_iff (first : UInt8) (rest : Bytes) :
    decode? (first :: rest) = none ↔ first = 0xFF ∨ (first :: rest).length < width first := by
  rw [decode?]
  split
  · next hplain =>
    have herror : first ≠ 0xFF := by
      rintro rfl
      exact absurd hplain (by decide)
    simp [herror, width_of_lt hplain]
  split
  · next hnull =>
    subst hnull
    simp [nullMarker, width, marker16, marker24, marker64]
  split
  · next herror => simp [herror]
  -- What is left is a marker with digits behind it, of which there may be too few.
  next hplain hnull herror =>
  have hwidth : 1 ≤ width first := by
    obtain rfl | rfl | rfl := marker_cases hplain hnull herror <;> decide
  split
  · next digits rest' hsplit =>
    obtain ⟨rfl, hlength⟩ := Bytes.splitExactly_eq_some_iff.mp hsplit
    simp only [herror, List.length_cons, List.length_append]
    simp
    omega
  · next hsplit =>
    have hshort := Bytes.splitExactly_eq_none_iff.mp hsplit
    simp [herror]
    omega

/-! ### Integers anywhere in a byte string -/

variable {m : UInt64} {buf : Bytes} {offset used : Nat}

/-- What stands at an offset is nothing, or it begins with the byte that is there.
An offset behind the end is the same as one at the end. -/
theorem decodeAt?_cases (buf : Bytes) (offset : Nat) :
    (buf.length ≤ offset ∧ buf[offset]? = none ∧ decodeAt? buf offset = none)
      ∨ ∃ first rest, buf.length = offset + (first :: rest).length ∧ buf[offset]? = some first
        ∧ decodeAt? buf offset = decode? (first :: rest) := by
  have hlength : (buf.drop offset).length = buf.length - offset := List.length_drop
  rw [decodeAt?, ← List.head?_drop]
  -- Behind the end there is nothing to read, and otherwise the first byte is the one
  -- there.
  cases hdrop : buf.drop offset with
  | nil =>
    rw [hdrop, List.length_nil] at hlength
    exact .inl ⟨Nat.le_of_sub_eq_zero hlength.symm, rfl, rfl⟩
  | cons first rest =>
    rw [hdrop, List.length_cons] at hlength
    have hall : buf.length = offset + (first :: rest).length := by
      rw [List.length_cons]
      omega
    exact .inr ⟨first, rest, hall, rfl, rfl⟩

/-- A number that is read takes as many bytes as its first one announces, which are
there and are not fewer than it needs. -/
theorem of_decodeAt?_eq_value (h : decodeAt? buf offset = some (value m, used)) :
    (∃ first, buf[offset]? = some first ∧ used = width first) ∧ offset + used ≤ buf.length
      ∧ (encode m).length ≤ used := by
  obtain ⟨-, -, hnone⟩ | ⟨first, rest, hlength, hfirst, hdecode⟩ := decodeAt?_cases buf offset
  · rw [hnone] at h
    cases h
  · rw [hdecode] at h
    obtain ⟨form, behind, hform, hsplit, rfl⟩ := decode?_eq_value_iff.mp h
    obtain ⟨first', digits, rfl, hwidth⟩ := hform.length_eq_width
    obtain ⟨rfl, -⟩ := List.cons.inj hsplit
    refine ⟨⟨first, hfirst, hwidth⟩, ?_, length_encode_le hform⟩
    rw [hlength, hsplit, List.length_append]
    omega

/-- SQL NULL is read at an offset if its marker is the byte there, and at no other. -/
theorem decodeAt?_eq_null_iff :
    decodeAt? buf offset = some (null, used) ↔ buf[offset]? = some nullMarker ∧ used = 1 := by
  obtain ⟨-, hfirst, hdecode⟩ | ⟨first, rest, -, hfirst, hdecode⟩ := decodeAt?_cases buf offset
  · simp [hfirst, hdecode]
  · rw [hfirst, hdecode, decode?_eq_null_iff]
    simp

/-- Nothing is read at an offset without a byte, at one with the byte that begins no
integer, and at one with too few bytes behind it for what its first one announces. -/
theorem decodeAt?_eq_none_iff :
    decodeAt? buf offset = none
      ↔ buf.length ≤ offset ∨ buf[offset]? = some 0xFF
        ∨ ∃ first, buf[offset]? = some first ∧ buf.length < offset + width first := by
  obtain ⟨hlength, hfirst, hdecode⟩ | ⟨first, rest, hlength, hfirst, hdecode⟩ :=
    decodeAt?_cases buf offset
  · simp [hlength, hdecode]
  · have hsome : ¬ buf.length ≤ offset := by
      rw [hlength, List.length_cons]
      omega
    rw [hfirst, hdecode, decode?_cons_eq_none_iff, or_iff_right hsome, hlength]
    simp

/-- An integer that is cut short is not read. Cut to nothing there is no byte to
begin with, and otherwise the first byte announces more than there are. -/
theorem decodeAt?_take_encode (front : Bytes) {k : Nat} (hk : k < (encode m).length) :
    decodeAt? (front ++ (encode m).take k) front.length = none := by
  obtain ⟨first, digits, hencode, hwidth⟩ := (form_encode m).length_eq_width
  rw [decodeAt?, List.drop_left]
  cases k with
  | zero => rfl
  | succ k =>
    rw [hencode, List.take_succ_cons, decode?_cons_eq_none_iff]
    rw [hencode] at hk hwidth
    rw [← hwidth, List.length_cons, List.length_take]
    rw [List.length_cons] at hk ⊢
    omega

/-- Integers are read as they were written. The written form of a number, wherever
it stands, is read as that number; it is as long as its first byte announces, it is
what a writer adds, and no proper front of it is read. The other way round, a number
that is read takes as many bytes as its first one announces, which are all there and
not fewer than its written form has; SQL NULL is read just where its marker stands;
and nothing is read just where no byte stands, where the one that does begins no
integer, or where fewer bytes are left than it announces. -/
theorem decodeAt?_encode (buf : Bytes) (offset : Nat) :
    (∀ (m : UInt64) (front behind : Bytes),
      decodeAt? (front ++ encode m ++ behind) front.length = some (value m, (encode m).length)
        ∧ (∃ first, (encode m).head? = some first ∧ (encode m).length = width first)
        ∧ (∀ w : Writer, (w.push (.coded m)).written = w.written ++ encode m)
        ∧ ∀ k < (encode m).length, decodeAt? (front ++ (encode m).take k) front.length = none)
      ∧ (∀ m used, decodeAt? buf offset = some (value m, used) →
        (∃ first, buf[offset]? = some first ∧ used = width first) ∧ offset + used ≤ buf.length
          ∧ (encode m).length ≤ used)
      ∧ (∀ used, decodeAt? buf offset = some (null, used)
        ↔ buf[offset]? = some nullMarker ∧ used = 1)
      ∧ (decodeAt? buf offset = none
        ↔ buf.length ≤ offset ∨ buf[offset]? = some 0xFF
          ∨ ∃ first, buf[offset]? = some first ∧ buf.length < offset + width first) := by
  refine ⟨?_, ?_, ?_, ?_⟩
  · intro m front behind
    refine ⟨?_, ?_, ?_, ?_⟩
    · rw [decodeAt?, List.append_assoc, List.drop_left, decode?_encode_append]
    · obtain ⟨first, digits, hencode, hwidth⟩ := (form_encode m).length_eq_width
      have hhead : (encode m).head? = some first := by rw [hencode, List.head?_cons]
      exact ⟨first, hhead, hwidth⟩
    · intro w
      rfl
    · intro k hk
      exact decodeAt?_take_encode front hk
  · intro m used h
    exact of_decodeAt?_eq_value h
  · intro used
    exact decodeAt?_eq_null_iff
  · exact decodeAt?_eq_none_iff

/-- A number of three digits between other bytes, and one in nine bytes where one is
enough. -/
theorem decodeAt?_encode_of_wide :
    decodeAt? ([0xFB] ++ encode 0x10000 ++ [7]) 1 = some (value 0x10000, 4)
      ∧ 3 < (encode 0x10000).length
      ∧ decodeAt? ([0xFB] ++ (encode 0x10000).take 3) 1 = none
      ∧ decodeAt? [9, 0xFE, 5, 0, 0, 0, 0, 0, 0, 0] 1 = some (value 5, 9)
      ∧ 1 + 9 ≤ [9, 0xFE, 5, 0, 0, 0, 0, 0, 0, 0].length ∧ (encode 5).length ≤ 9 := by
  have hlength : (encode 0x10000).length = 4 := by decide
  have hthree : 3 < (encode 0x10000).length := by decide
  have hwide : decodeAt? [9, 0xFE, 5, 0, 0, 0, 0, 0, 0, 0] 1 = some (value 5, 9) := by decide
  obtain ⟨hread, -, -, hcut⟩ := (decodeAt?_encode [] 0).1 0x10000 [0xFB] [7]
  rw [hlength] at hread
  obtain ⟨-, hroom, hnarrow⟩ :=
    (decodeAt?_encode [9, 0xFE, 5, 0, 0, 0, 0, 0, 0, 0] 1).2.1 5 9 hwide
  exact ⟨hread, hthree, hcut 3 hthree, hwide, hroom, hnarrow⟩

end SqlWire.LengthCoded
