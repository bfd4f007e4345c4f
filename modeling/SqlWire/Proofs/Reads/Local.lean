import SqlWire.Proofs.Reads.Moves

/-!
# What is cut short is not read

A reader is local if the bytes that it takes are all that it goes by: where it
succeeds, it reads these bytes to the same value wherever they stand
(`Reader.Local`). Steps of a fixed width, length-coded values and terminated texts
are local, and so is whatever is put together from local readers. A reader that
looks at bytes which it leaves, or that takes all there are, is not.

If a local reader takes all the bytes that were written, then no proper front of
them is enough for it (`Local.ends_of_missing`, `Local.run?_take`): what it made of
the front it would have made of the whole, and would have left something behind.
Where the cut falls does not matter, so no packet needs an argument for each of its
fields.
-/

set_option autoImplicit false

namespace SqlWire.Reader

open SqlWire.Action

variable {ε ε' α β : Type}

/-- A success of the reader depends on no more than the bytes that it takes. Nothing
is asked of a failure: bytes that are missing are just what makes a local reader
fail. -/
def Local (r : EStateM ε Cursor α) : Prop :=
  ∀ c, Ends r c (fun a c' => ∃ bs, c.rest = bs ++ c'.rest ∧ Reads r a bs) (fun _ _ => True)

/-- What is already known depends on no bytes, so it is known of every beginning and
of every continuation. -/
theorem local_pure (a : α) : Local (pure a : EStateM ε Cursor α) := by
  intro c
  exact ⟨[], rfl, .pure a⟩

/-- A failure is no success, so there is nothing that it could depend on. -/
theorem local_throw (e : ε) : Local (throw e : EStateM ε Cursor α) := by
  intro c
  trivial

namespace Local

/-- Local readers one after the other depend on the bytes that both of them take.
The first decides where the second begins, and it does so by its own bytes. -/
theorem bind {r : EStateM ε Cursor α} {next : α → EStateM ε Cursor β} (h : Local r)
    (hnext : ∀ a, Local (next a)) : Local (r >>= next) := by
  intro c
  rw [ends_bind]
  refine (h c).mono ?_ (fun _ _ _ => trivial)
  intro a c₁ h₁
  obtain ⟨bs, hbs, hreads⟩ := h₁
  refine (hnext a c₁).mono ?_ (fun _ _ _ => trivial)
  intro b c₂ h₂
  obtain ⟨cs, hcs, hreads'⟩ := h₂
  have hrest : c.rest = bs ++ cs ++ c₂.rest := by rw [hbs, hcs, List.append_assoc]
  exact ⟨bs ++ cs, hrest, hreads.bind hreads'⟩

/-- What is made of the value depends on nothing more than the value does. -/
theorem map {r : EStateM ε Cursor α} (h : Local r) (f : α → β) : Local (f <$> r) := by
  intro c
  rw [ends_map]
  refine (h c).mono ?_ (fun _ _ _ => trivial)
  intro a c' h'
  obtain ⟨bs, hbs, hreads⟩ := h'
  exact ⟨bs, hbs, hreads.map f⟩

/-- Neither does a success on how a failure is worded. -/
theorem adaptExcept {r : EStateM ε Cursor α} (h : Local r) (f : ε → ε') :
    Local (r.adaptExcept f) := by
  intro c
  rw [ends_adaptExcept]
  refine (h c).mono ?_ (fun _ _ _ => trivial)
  intro a c' h'
  obtain ⟨bs, hbs, hreads⟩ := h'
  exact ⟨bs, hbs, hreads.adaptExcept f⟩

/-- A reader that takes all of the bytes does not succeed where the last of them are
missing. If it did, it would succeed in the same way on all of them, and leave the
missing ones behind. -/
theorem ends_of_missing {r : EStateM ε Cursor α} (h : Local r) {a : α} {front missing : Bytes}
    (hreads : Reads r a (front ++ missing)) (hmissing : missing ≠ []) (position : Nat) :
    Ends r ⟨position, front⟩ (fun _ _ => False) (fun _ _ => True) := by
  refine (h ⟨position, front⟩).mono ?_ (fun _ _ h => h)
  intro a' c' h'
  obtain ⟨bs, hfront, hbs⟩ := h'
  have hfront : front = bs ++ c'.rest := hfront
  -- On the whole it would take no more than it took of the front.
  have hpart := hbs position (c'.rest ++ missing)
  have hwhole := hreads position []
  rw [List.append_nil, hfront, List.append_assoc, hpart] at hwhole
  have hrest : c'.rest ++ missing = [] := by
    injection hwhole with _ hcursor
    exact congrArg Cursor.rest hcursor
  exact hmissing (List.append_eq_nil_iff.mp hrest).2

/-- So it does not succeed wherever they are cut. The cut is counted in bytes and
need not fall between two fields. -/
theorem ends_take {r : EStateM ε Cursor α} (h : Local r) {a : α} {bs : Bytes}
    (hreads : Reads r a bs) {k : Nat} (hk : k < bs.length) (position : Nat) :
    Ends r ⟨position, bs.take k⟩ (fun _ _ => False) (fun _ _ => True) := by
  have hmissing : bs.drop k ≠ [] := List.ne_nil_of_length_pos (by
    rw [List.length_drop]
    omega)
  rw [← List.take_append_drop k bs] at hreads
  exact h.ends_of_missing hreads hmissing position

/-- Nothing is made of a payload that is cut anywhere: a local reader that could do
with less would have stopped there in the whole payload too. -/
theorem run?_take {r : Reader α} (h : Local r) {a : α} {bs : Bytes} (hreads : Reads r a bs)
    {k : Nat} (hk : k < bs.length) : r.run? (bs.take k) = none := by
  have hend := h.ends_take hreads hk 0
  rw [Reader.run?, Cursor.ofBytes]
  cases hrun : r.run ⟨0, bs.take k⟩ with
  | ok a' c' =>
    rw [Ends, hrun] at hend
    exact hend.elim
  | error e c' => rfl

end Local

/-! ### Single steps -/

/-- It is enough that the bytes passed over are read to the value wherever they
stand. The laws in `Moves` say what these bytes are, so a step is local if whatever
it may pass over is also what it reads. -/
theorem local_of_moves {r : EStateM ε Cursor α} {given : α → Bytes → Bytes → Prop}
    {lost : Bytes → Bytes → Prop} (h : Moves r given lost)
    (hreads : ∀ a bs ahead, given a bs ahead → Reads r a bs) : Local r := by
  intro c
  refine (h c).mono ?_ (fun _ _ _ => trivial)
  intro a c' h'
  obtain ⟨bs, hmoved, hgiven⟩ := h'
  exact ⟨bs, hmoved.rest, hreads a bs _ hgiven⟩

/-- As many bytes as are asked for depend on no others, and with fewer there is a
failure. -/
theorem local_bytes (n : Nat) : Local (bytes n) := by
  refine local_of_moves (moves_bytes n) ?_
  intro taken bs _ h
  obtain ⟨rfl, hlength⟩ := h
  exact reads_bytes hlength

/-- Neither does passing over them, although nothing is made of them. -/
theorem local_skip (n : Nat) : Local (skip n) := by
  have htaken : Local (bytes n) := local_bytes n
  exact htaken.map fun _ => ()

/-- A byte depends on itself, and there is none in what is empty. -/
theorem local_byte : Local byte := by
  refine local_of_moves moves_byte ?_
  intro b bs _ h
  rw [h]
  exact reads_byte b

/-- A number of a fixed width depends on its own bytes. Its width is known before
the first of them. -/
theorem local_word16 : Local word16 := by
  refine (local_bytes 2).bind ?_
  intro taken
  exact local_pure _

/-- The same holds of four bytes, which are two numbers of the other width. -/
theorem local_word32 : Local word32 := by
  refine (local_bytes 4).bind ?_
  intro taken
  exact local_pure _

/-- A cell is read in each of its forms, the longer ones included, which no writer
uses. A reader is local in what it accepts, and not only in what this library
writes. -/
theorem reads_cell_of_form {value : Option Bytes} {form : Bytes}
    (h : LengthCoded.CellForm value form) : Reads cell value form := by
  intro position ahead
  simp [cell, h.decodeCell?_append, Cursor.advance]

/-- A cell tells its length at its front, so it depends on nothing behind it. It is
the length that may ask for more than there is. -/
theorem local_cell : Local cell := by
  refine local_of_moves moves_cell ?_
  intro value form _ h
  exact reads_cell_of_form h

/-- Passing over a cell is as local as reading it, for the length is read in both
cases. -/
theorem local_skipCell : Local skipCell := by
  have hcell : Local cell := local_cell
  exact hcell.map fun _ => ()

/-- A string that is refused for being SQL NULL is no success, so nothing is asked
of it. -/
theorem local_codedText : Local codedText := by
  refine local_cell.bind ?_
  intro value
  cases value with
  | none => exact local_throw ()
  | some bs => exact local_pure _

/-- An integer is read in each of its forms, and not in the shortest one alone. What
servers may send is more than what clients write. -/
theorem reads_coded_of_form {n : UInt64} {form : Bytes} (h : LengthCoded.Form n.toNat form) :
    Reads coded (.value n) form := by
  intro position ahead
  simp [coded, h.decode?_append, Cursor.advance]

/-- An integer or the marker of SQL NULL tells by its first byte how many follow, so
it ends where these end. -/
theorem local_coded : Local coded := by
  refine local_of_moves moves_coded ?_
  intro value bs _ h
  cases value with
  | null =>
    obtain rfl : bs = [LengthCoded.nullMarker] := h
    intro position ahead
    rfl
  | value n => exact reads_coded_of_form h

/-- Refusing SQL NULL takes no success away that depends on more. -/
theorem local_codedInt : Local codedInt := by
  refine local_coded.bind ?_
  intro value
  cases value with
  | null => exact local_throw ()
  | value n => exact local_pure n

/-- A terminated text depends on its bytes and the zero byte behind them, which it
takes as well. A reader that stopped in front of the zero byte would not be local. -/
theorem local_terminatedText : Local terminatedText := by
  refine local_of_moves moves_terminatedText ?_
  intro text bs _ h
  obtain ⟨content, rfl, hcontent, rfl⟩ := h
  exact reads_terminatedText hcontent

end SqlWire.Reader
