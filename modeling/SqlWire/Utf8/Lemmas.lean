import SqlWire.Utf8

/-!
# Laws of UTF-8

`decode_encode`: text reads as it was written. The lemmas before it follow the
machine through the bytes of one character: `start_one` to `start_four` say what a
first byte leaves under way, and `step_continue` and `step_complete` what a
continuation byte makes of it.

`head?_of_head?_encode`: an ASCII byte in front of the bytes is the character in
front of the text. `zero_mem_encode_iff`: a text has a zero byte where it has a NUL.
-/

set_option autoImplicit false

namespace SqlWire.Utf8

/-- A byte in range moves a character on that is owed more than it. -/
theorem Decoder.step_continue {done : List Char} {bits owed : Nat} {low high b : UInt8}
    (hlow : low.toNat ≤ b.toNat) (hhigh : b.toNat ≤ high.toNat) (howed : 1 < owed) :
    Decoder.step ⟨done, some ⟨bits, owed, low, high⟩⟩ b
      = ⟨done, some ⟨bits * 64 + (b.toNat - 0x80), owed - 1, 0x80, 0xBF⟩⟩ := by
  simp [Decoder.step, UInt8.le_iff_toNat_le, hlow, hhigh, howed]

/-- A byte in range completes a character that is owed one byte. -/
theorem Decoder.step_complete {done : List Char} {bits : Nat} {low high b : UInt8}
    (hlow : low.toNat ≤ b.toNat) (hhigh : b.toNat ≤ high.toNat) :
    Decoder.step ⟨done, some ⟨bits, 1, low, high⟩⟩ b
      = ⟨Char.ofNat (bits * 64 + (b.toNat - 0x80)) :: done, none⟩ := by
  simp [Decoder.step, UInt8.le_iff_toNat_le, hlow, hhigh]

/-- An ASCII byte is a character. -/
theorem Decoder.start_one (done : List Char) {b : UInt8} (h : b.toNat < 0x80) :
    Decoder.start done b = ⟨Char.ofNat b.toNat :: done, none⟩ := by
  simp [Decoder.start, UInt8.lt_iff_toNat_lt, h]

/-- The first of two bytes. -/
theorem Decoder.start_two (done : List Char) {b : UInt8} (hlow : 0xC2 ≤ b.toNat)
    (hhigh : b.toNat < 0xE0) :
    Decoder.start done b = ⟨done, some ⟨b.toNat - 0xC0, 1, 0x80, 0xBF⟩⟩ := by
  simp only [Decoder.start, UInt8.lt_iff_toNat_lt, ← UInt8.toNat_inj, UInt8.reduceToNat]
  grind

/-- The first of three bytes. After `E0` the next byte must rule out an overlong
form, and after `ED` a surrogate. -/
theorem Decoder.start_three (done : List Char) {b : UInt8} (hlow : 0xE0 ≤ b.toNat)
    (hhigh : b.toNat < 0xF0) :
    ∃ low high : UInt8,
      Decoder.start done b = ⟨done, some ⟨b.toNat - 0xE0, 2, low, high⟩⟩ ∧
      low.toNat = (if b.toNat = 0xE0 then 0xA0 else 0x80) ∧
      high.toNat = (if b.toNat = 0xED then 0x9F else 0xBF) := by
  simp only [Decoder.start, UInt8.lt_iff_toNat_lt, ← UInt8.toNat_inj, UInt8.reduceToNat]
  grind

/-- The first of four bytes. After `F0` the next byte must rule out an overlong
form, and after `F4` a value beyond the last scalar. -/
theorem Decoder.start_four (done : List Char) {b : UInt8} (hlow : 0xF0 ≤ b.toNat)
    (hhigh : b.toNat < 0xF5) :
    ∃ low high : UInt8,
      Decoder.start done b = ⟨done, some ⟨b.toNat - 0xF0, 3, low, high⟩⟩ ∧
      low.toNat = (if b.toNat = 0xF0 then 0x90 else 0x80) ∧
      high.toNat = (if b.toNat = 0xF4 then 0x8F else 0xBF) := by
  simp only [Decoder.start, UInt8.lt_iff_toNat_lt, ← UInt8.toNat_inj, UInt8.reduceToNat]
  grind

/-- The machine reads the bytes of a character as that character. -/
theorem foldl_step_utf8EncodeChar (done : List Char) (c : Char) :
    (String.utf8EncodeChar c).foldl Decoder.step ⟨done, none⟩ = ⟨c :: done, none⟩ := by
  have hscalar : c.val.toNat < 0xD800 ∨ 0xDFFF < c.val.toNat ∧ c.val.toNat < 0x110000 := c.valid
  have hc : Char.ofNat c.val.toNat = c := Char.ofNat_toNat c
  have byte : ∀ n, n < 256 → (UInt8.ofNat n).toNat = n := fun n h => by
    rw [UInt8.toNat_ofNat']; omega
  have none_step : ∀ b, Decoder.step ⟨done, none⟩ b = Decoder.start done b := fun _ => rfl
  simp only [String.utf8EncodeChar]
  generalize c.val.toNat = v at hc hscalar
  subst hc
  split
  · next h =>
    -- One byte, the value itself.
    have h₀ := byte v (by omega)
    rw [List.foldl_cons, List.foldl_nil, none_step, Decoder.start_one done (by omega), h₀]
  split
  · next h' h =>
    -- Two bytes, five bits and six.
    have h₀ := byte (v / 64 % 32 + 192) (by omega)
    have h₁ := byte (v % 64 + 128) (by omega)
    rw [List.foldl_cons, List.foldl_cons, List.foldl_nil, none_step,
      Decoder.start_two done (by omega) (by omega),
      Decoder.step_complete (by rw [h₁]; simp) (by rw [h₁]; simp; omega), h₀, h₁,
      show (v / 64 % 32 + 192 - 0xC0) * 64 + (v % 64 + 128 - 0x80) = v by omega]
  split
  · next h'' h' h =>
    -- Three bytes. The narrowed range of the second holds all but overlong forms and surrogates,
    -- and `hscalar` says that the value is no surrogate.
    have h₀ := byte (v / 4096 % 16 + 224) (by omega)
    have h₁ := byte (v / 64 % 64 + 128) (by omega)
    have h₂ := byte (v % 64 + 128) (by omega)
    obtain ⟨low, high, hstart, hlow, hhigh⟩ :=
      Decoder.start_three done (b := UInt8.ofNat (v / 4096 % 16 + 224)) (by omega) (by omega)
    rw [List.foldl_cons, List.foldl_cons, List.foldl_cons, List.foldl_nil, none_step, hstart,
      Decoder.step_continue (by split at hlow <;> omega) (by split at hhigh <;> omega)
        (by decide),
      Decoder.step_complete (by rw [h₂]; simp) (by rw [h₂]; simp; omega), h₀, h₁, h₂,
      show ((v / 4096 % 16 + 224 - 0xE0) * 64 + (v / 64 % 64 + 128 - 0x80)) * 64
        + (v % 64 + 128 - 0x80) = v by omega]
  · next h'' h' h =>
    -- Four bytes. Here the narrowed range ends with the last scalar value.
    have h₀ := byte (v / 262144 % 8 + 240) (by omega)
    have h₁ := byte (v / 4096 % 64 + 128) (by omega)
    have h₂ := byte (v / 64 % 64 + 128) (by omega)
    have h₃ := byte (v % 64 + 128) (by omega)
    obtain ⟨low, high, hstart, hlow, hhigh⟩ :=
      Decoder.start_four done (b := UInt8.ofNat (v / 262144 % 8 + 240)) (by omega) (by omega)
    rw [List.foldl_cons, List.foldl_cons, List.foldl_cons, List.foldl_cons, List.foldl_nil,
      none_step, hstart,
      Decoder.step_continue (by split at hlow <;> omega) (by split at hhigh <;> omega)
        (by decide),
      Decoder.step_continue (by rw [h₂]; simp) (by rw [h₂]; simp; omega) (by decide),
      Decoder.step_complete (by rw [h₃]; simp) (by rw [h₃]; simp; omega), h₀, h₁, h₂, h₃,
      show (((v / 262144 % 8 + 240 - 0xF0) * 64 + (v / 4096 % 64 + 128 - 0x80)) * 64
        + (v / 64 % 64 + 128 - 0x80)) * 64 + (v % 64 + 128 - 0x80) = v by omega]

/-- The machine reads the bytes of a text as its characters. -/
theorem foldl_step_encode (done cs : List Char) :
    (cs.flatMap String.utf8EncodeChar).foldl Decoder.step ⟨done, none⟩
      = ⟨cs.reverse ++ done, none⟩ := by
  induction cs generalizing done with
  | nil => rfl
  | cons c cs ih => simp [List.flatMap_cons, foldl_step_utf8EncodeChar, ih]

/-- Text reads as it was written. -/
theorem decode_encode (text : String) : decode (encode text) = text := by
  simp [decode, encode, foldl_step_encode, Decoder.finish]

/-- A character of more than one byte begins with none of ASCII. -/
theorem toNat_of_head?_utf8EncodeChar {c : Char} {b : UInt8} (hb : b.toNat < 0x80)
    (h : (String.utf8EncodeChar c).head? = some b) : c.val.toNat = b.toNat := by
  have hscalar : c.val.toNat < 0x110000 := by
    have hvalid : c.val.toNat < 0xD800 ∨ 0xDFFF < c.val.toNat ∧ c.val.toNat < 0x110000 := c.valid
    omega
  have byte : ∀ n, n < 256 → UInt8.ofNat n = b → n = b.toNat := fun n hn hbyte => by
    rw [← hbyte, UInt8.toNat_ofNat']
    omega
  simp only [String.utf8EncodeChar] at h
  generalize c.val.toNat = v at h hscalar ⊢
  split at h
  · exact byte v (by omega) (Option.some.inj h)
  split at h
  · have := byte (v / 64 % 32 + 192) (by omega) (Option.some.inj h)
    omega
  split at h
  · have := byte (v / 4096 % 16 + 224) (by omega) (Option.some.inj h)
    omega
  · have := byte (v / 262144 % 8 + 240) (by omega) (Option.some.inj h)
    omega

/-- An ASCII byte in front stands for the character in front. -/
theorem head?_of_head?_encode {text : String} {b : UInt8} (hb : b.toNat < 0x80)
    (h : (encode text).head? = some b) : text.toList.head? = some (Char.ofNat b.toNat) := by
  rw [encode] at h
  cases hchars : text.toList with
  | nil => rw [hchars] at h; cases h
  | cons c cs =>
    have hne : String.utf8EncodeChar c ≠ [] := by
      unfold String.utf8EncodeChar
      dsimp only
      repeat' split
      all_goals exact List.cons_ne_nil _ _
    obtain ⟨first, rest, hfirst⟩ := List.exists_cons_of_ne_nil hne
    rw [hchars, List.flatMap_cons, hfirst, List.cons_append, List.head?_cons] at h
    have hc : c.val.toNat = b.toNat := toNat_of_head?_utf8EncodeChar hb (by rw [hfirst, ← h]; rfl)
    rw [List.head?_cons, ← hc]
    exact congrArg some (Char.ofNat_toNat c).symm

/-- A zero byte is written for the NUL character alone. -/
theorem zero_mem_utf8EncodeChar_iff {c : Char} : 0 ∈ String.utf8EncodeChar c ↔ c = '\x00' := by
  refine ⟨?_, ?_⟩
  · intro h
    have hvalue : c.val.toNat = 0 := by
      have byte (n : Nat) (hn : n < 256) (hbyte : 0 = UInt8.ofNat n) : n = 0 := by
        have hzero := congrArg UInt8.toNat hbyte
        rw [UInt8.toNat_ofNat', Nat.mod_eq_of_lt hn] at hzero
        exact hzero.symm
      simp only [String.utf8EncodeChar] at h
      generalize c.val.toNat = v at h ⊢
      split at h
      · next hv => exact byte v (by omega) (List.mem_singleton.mp h)
      -- No byte of a character of several bytes is zero.
      split at h
      · simp only [List.mem_cons, List.not_mem_nil, or_false] at h
        rcases h with h | h <;> have := byte _ (by omega) h <;> omega
      split at h
      · simp only [List.mem_cons, List.not_mem_nil, or_false] at h
        rcases h with h | h | h <;> have := byte _ (by omega) h <;> omega
      · simp only [List.mem_cons, List.not_mem_nil, or_false] at h
        rcases h with h | h | h | h <;> have := byte _ (by omega) h <;> omega
    rw [← Char.ofNat_toNat c]
    exact congrArg Char.ofNat hvalue
  · intro h
    rw [h]
    decide

/-- A text has a zero byte in its encoding just where it has the character with that
number. So a terminator cannot be mistaken for part of another character. -/
theorem zero_mem_encode_iff {text : String} : 0 ∈ encode text ↔ '\x00' ∈ text.toList := by
  simp [encode, zero_mem_utf8EncodeChar_iff]

end SqlWire.Utf8
