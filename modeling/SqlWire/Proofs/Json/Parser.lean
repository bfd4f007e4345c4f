import SqlWire.Proofs.Json.Literal

/-!
# Every text of the grammar is read

`Json.parse?` gives the value of every text that spells one (`parse?_of_spells`).
The proof follows the derivation of the text. Each function of the reader takes what
it recognises from the front of the characters, so each lemma is about a form with
anything behind it that may stand there. Fuel enough is twice the number of
characters: a list takes one unit for each of its items besides what the item takes
itself, and an item has a character of its own and one that follows it.
-/

set_option autoImplicit false

namespace SqlWire.Json

/-! ### Blanks -/

variable {c : Char} {before after cs rest : List Char}

/-- The reader and the grammar have the same blanks, so what one passes over the
other allows. -/
theorem isBlank_eq_true_iff : isBlank c = true ↔ Blank c := by
  simp [isBlank, Blank, or_assoc]

/-- Blanks in front are passed over, all of them, and with whatever follows. -/
theorem Blanks.skipBlanks_append (h : Blanks before) (cs : List Char) :
    skipBlanks (before ++ cs) = skipBlanks cs := by
  apply List.dropWhile_append_of_pos
  intro c hc
  rw [isBlank_eq_true_iff]
  exact h c hc

/-- A character that is no blank is not passed over, so the reader stops at the
token. -/
theorem skipBlanks_cons (h : ¬ Blank c) (cs : List Char) : skipBlanks (c :: cs) = c :: cs := by
  apply List.dropWhile_cons_of_neg
  rwa [isBlank_eq_true_iff]

/-- What stands behind blanks is found, at its first character. -/
theorem Blanks.skipBlanks_append_cons (h : Blanks before) (hc : ¬ Blank c) (cs : List Char) :
    skipBlanks (before ++ c :: cs) = c :: cs := by
  rw [h.skipBlanks_append, skipBlanks_cons hc]

/-- Blanks before a value do not matter, for they are passed over first, whatever
the value is. -/
theorem Blanks.value?_append (h : Blanks before) (fuel : Nat) (cs : List Char) :
    value? fuel (before ++ cs) = value? fuel cs := by
  cases fuel with
  | zero => rfl
  | succ fuel => rw [value?, value?, h.skipBlanks_append]

/-- A character that closes a value does so with blanks before it as well. So a
number in front of it is read to its end. -/
theorem Blanks.apart_append (h : Blanks after) (hc : c = ',' ∨ c = ']' ∨ c = '\x7d')
    (rest : List Char) : Apart (after ++ c :: rest) := by
  cases after with
  | nil =>
    intro d hd
    obtain rfl := Option.some.inj hd
    exact .inr hc
  | cons b after =>
    intro d hd
    obtain rfl := Option.some.inj hd
    exact .inl (h b List.mem_cons_self)

/-! ### First characters -/

/-- A number begins with a digit or with its sign. No other value does, so a number
is known by its first character. -/
theorem NumberForm.exists_cons {value : Json} (h : NumberForm value cs) :
    ∃ c tail, cs = c :: tail ∧ (c.isDigit = true ∨ c = '-') := by
  cases h with
  | natural h =>
    obtain ⟨c, tail, rfl, hc⟩ := h.exists_cons
    exact ⟨c, tail, rfl, .inl hc⟩
  | unsigned h hfraction hexponent hmore =>
    obtain ⟨c, tail, rfl, hc⟩ := h.exists_cons
    exact ⟨c, _, rfl, .inl hc⟩
  | negative h hfraction hexponent => exact ⟨'-', _, rfl, .inr rfl⟩

/-- A number is read by its own reader, which comes last among those for the kinds
of values. -/
theorem NumberForm.value?_append_eq_number? {value : Json} (h : NumberForm value cs) (fuel : Nat) :
    value? (fuel + 1) (cs ++ rest) = number? (cs ++ rest) := by
  obtain ⟨c, tail, rfl, hc⟩ := h.exists_cons
  have hblank : ¬ Blank c := by
    rintro (rfl | rfl | rfl | rfl) <;> exact absurd hc (by decide)
  rw [List.cons_append, value?, skipBlanks_cons hblank]
  -- Each other kind of value begins with a character that is neither a digit nor the sign.
  split <;> rename_i heq <;> first
    | rfl
    | (obtain ⟨rfl, -⟩ := List.cons.inj heq
       exact absurd hc (by decide))

/-- A value begins with a character that is no blank and closes no list. The reader
of an array looks at this character to tell an empty one from one with items. -/
theorem Form.exists_cons {value : Json} (h : Form value cs) :
    ∃ c tail, cs = c :: tail ∧ ¬ Blank c ∧ c ≠ ']' := by
  cases h with
  | number h =>
    obtain ⟨c, tail, rfl, hc⟩ := h.exists_cons
    refine ⟨c, tail, rfl, ?_, ?_⟩
    · rintro (rfl | rfl | rfl | rfl) <;> exact absurd hc (by decide)
    · rintro rfl
      exact absurd hc (by decide)
  | _ => exact ⟨_, _, rfl, by simp [Blank], by decide⟩

/-- The items of an array begin with one of these characters behind any blanks. So
they are not mistaken for the end of the array. -/
theorem ItemsForm.skipBlanks_append {items : List Json} (h : ItemsForm items cs) (rest : List Char) :
    ∃ c tail, skipBlanks (cs ++ rest) = c :: tail ∧ c ≠ ']' := by
  cases h with
  | last hbefore h hafter =>
    obtain ⟨c, tail, rfl, hblank, hc⟩ := h.exists_cons
    simp only [List.append_assoc, List.cons_append]
    exact ⟨c, _, hbefore.skipBlanks_append_cons hblank _, hc⟩
  | cons hbefore h hafter hitems =>
    obtain ⟨c, tail, rfl, hblank, hc⟩ := h.exists_cons
    simp only [List.append_assoc, List.cons_append]
    exact ⟨c, _, hbefore.skipBlanks_append_cons hblank _, hc⟩

/-- A member begins with a quote behind any blanks, as its name does. -/
theorem MemberForm.skipBlanks_append {member : Option String × Json} (h : MemberForm member cs)
    (rest : List Char) : ∃ tail, skipBlanks (cs ++ rest) = '\x22' :: tail := by
  cases h with
  | intro hbefore hname hbehind hbetween h =>
    rw [List.append_assoc]
    exact ⟨_, hbefore.skipBlanks_append_cons (by simp [Blank]) _⟩

/-- So do the members of an object, since there is one at least. -/
theorem MembersForm.skipBlanks_append {members : List (Option String × Json)}
    (h : MembersForm members cs) (rest : List Char) :
    ∃ tail, skipBlanks (cs ++ rest) = '\x22' :: tail := by
  cases h with
  | last h hafter =>
    rw [List.append_assoc]
    exact h.skipBlanks_append _
  | cons h hafter hmembers =>
    rw [List.append_assoc]
    exact h.skipBlanks_append _

/-! ### Values -/

mutual

/-- A value is read as it is spelled, if what follows closes it. The proof goes
through the forms of values together with those of items and members, as the three
readers call each other. -/
theorem Form.value?_append {value : Json} {cs rest : List Char} (h : Form value cs) (fuel : Nat)
    (hfuel : 2 * cs.length ≤ fuel) (hrest : Apart rest) :
    value? fuel (cs ++ rest) = some (value, rest) := by
  obtain ⟨fuel, rfl⟩ : ∃ n, fuel = n + 1 := by
    obtain ⟨c, tail, rfl, -, -⟩ := h.exists_cons
    rw [List.length_cons] at hfuel
    exact ⟨fuel - 1, by omega⟩
  match h with
  | .null => rfl
  | .true => rfl
  | .false => rfl
  | .number h =>
    rw [h.value?_append_eq_number?, h.number?_append hrest]
  | .string h =>
    rw [List.cons_append, List.append_assoc]
    simp [value?, skipBlanks_cons, Blank, h.stringBody?_append]
  | .emptyArray hblanks =>
    rw [List.cons_append, List.append_assoc]
    simp [value?, skipBlanks_cons, Blank, hblanks.skipBlanks_append]
  | .array h =>
    -- The brackets bring the fuel for this level and for the first round of the items.
    simp only [List.length_cons, List.length_append, List.length_nil] at hfuel
    have hitems := h.items?_append fuel (by omega) [] rest
    obtain ⟨c, tail, hskip, hc⟩ := h.skipBlanks_append (']' :: rest)
    rw [List.cons_append, List.append_assoc]
    simp [value?, skipBlanks_cons, Blank, hskip, hc, hitems]
  | .emptyObject hblanks =>
    rw [List.cons_append, List.append_assoc]
    simp [value?, skipBlanks_cons, Blank, hblanks.skipBlanks_append]
  | .object h =>
    simp only [List.length_cons, List.length_append, List.length_nil] at hfuel
    have hmembers := h.members?_append fuel (by omega) [] rest
    obtain ⟨tail, hskip⟩ := h.skipBlanks_append ('\x7d' :: rest)
    rw [List.cons_append, List.append_assoc]
    simp [value?, skipBlanks_cons, Blank, hskip, hmembers]

/-- So are the items of an array up to its end. The items read before are left open,
last one first, as the reader holds them. -/
theorem ItemsForm.items?_append {items : List Json} {cs : List Char} (h : ItemsForm items cs)
    (fuel : Nat) (hfuel : 2 * cs.length + 1 ≤ fuel) (done : List Json) (rest : List Char) :
    items? fuel done (cs ++ ']' :: rest) = some (.array (done.reverse ++ items), rest) := by
  obtain ⟨fuel, rfl⟩ : ∃ n, fuel = n + 1 := ⟨fuel - 1, by omega⟩
  match h with
  | .last hbefore h hafter =>
    simp only [List.length_append] at hfuel
    have hvalue := h.value?_append fuel (by omega) (hafter.apart_append (.inr (.inl rfl)) rest)
    simp [items?, hbefore.value?_append, hvalue, hafter.skipBlanks_append_cons, Blank]
  | .cons hbefore h hafter hitems =>
    -- The comma closes the item, and it brings the fuel for the round that reads the others.
    simp only [List.length_append, List.length_cons] at hfuel
    have hvalue := fun rest => h.value?_append fuel (by omega) (hafter.apart_append (.inl rfl) rest)
    have hitems := fun done => hitems.items?_append fuel (by omega) done rest
    simp [items?, hbefore.value?_append, hvalue, hafter.skipBlanks_append_cons, Blank, hitems]

/-- So are the members of an object up to its end. The induction is the same, with
the members read so far in reverse. -/
theorem MembersForm.members?_append {members : List (Option String × Json)} {cs : List Char}
    (h : MembersForm members cs) (fuel : Nat) (hfuel : 2 * cs.length + 1 ≤ fuel)
    (done : List (Option String × Json)) (rest : List Char) :
    members? fuel done (cs ++ '\x7d' :: rest) = some (.object (done.reverse ++ members), rest) := by
  obtain ⟨fuel, rfl⟩ : ∃ n, fuel = n + 1 := ⟨fuel - 1, by omega⟩
  -- The last member is followed by the end of the object, any other by a comma.
  match h with
  | .last (.intro hbefore hname hbehind hbetween h) hafter =>
    simp only [List.length_append, List.length_cons] at hfuel
    have hvalue := h.value?_append fuel (by omega) (hafter.apart_append (.inr (.inr rfl)) rest)
    simp [members?, hbefore.skipBlanks_append_cons, Blank, hname.stringBody?_append,
      hbehind.skipBlanks_append_cons, hbetween.value?_append, hvalue, hafter.skipBlanks_append_cons]
  | .cons (.intro hbefore hname hbehind hbetween h) hafter hmembers =>
    simp only [List.length_append, List.length_cons] at hfuel
    have hvalue := fun rest => h.value?_append fuel (by omega) (hafter.apart_append (.inl rfl) rest)
    have hmembers := fun done => hmembers.members?_append fuel (by omega) done rest
    simp [members?, hbefore.skipBlanks_append_cons, Blank, hname.stringBody?_append,
      hbehind.skipBlanks_append_cons, hbetween.value?_append, hvalue, hafter.skipBlanks_append_cons,
      hmembers]

end

/-- A text is read as the value that it spells. The fuel of the reader is taken from
the length of the text, and is enough for every form in it. -/
theorem parse?_of_spells {text : String} {value : Json} (h : Spells text value) :
    parse? text = some value := by
  obtain ⟨before, cs, after, hbefore, h, hafter, htext⟩ := h
  have hapart : Apart after := by
    intro c hc
    exact .inl (hafter c (List.mem_of_mem_head? hc))
  have hlength : cs.length ≤ text.toList.length := by
    rw [htext, List.length_append, List.length_append]
    omega
  have hvalue := h.value?_append (2 * text.toList.length + 2) (by omega) hapart
  -- Nothing but blanks is left, as the reader of a whole text demands.
  have hempty : skipBlanks after = [] := by
    rw [← List.append_nil after, hafter.skipBlanks_append]
    rfl
  rw [← hbefore.value?_append, ← htext] at hvalue
  simp [parse?, hvalue, hempty]

end SqlWire.Json
