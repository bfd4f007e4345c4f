import SqlWire.Proofs.LengthCoded
import SqlWire.Proofs.Reads

/-!
# How reading moves a cursor

A reader that succeeds passes over some bytes and gives what these say. One that
fails passes over none, or over those that it had taken before it came to what it
refuses. `Reader.Moves` says both, and there is one law of this form for each step:
what the bytes are that it passes over when it succeeds, and which ones it loses
when it fails. Readers that are put together pass over the bytes of each in turn
(`Moves.bind`).

Of the single steps only two lose anything. An integer or a string that must not be
SQL NULL is refused when the marker has been read (`moves_codedInt`,
`moves_codedText`).
-/

set_option autoImplicit false

namespace SqlWire

open SqlWire.Action

namespace Cursor

/-- The cursor has been moved on over these bytes: they were next, and the position
counts them. -/
structure Moved (c : Cursor) (bs : Bytes) (c' : Cursor) : Prop where
  rest : c.rest = bs ++ c'.rest
  position : c'.position = c.position + bs.length

/-- A cursor that stays has been moved over nothing. It is where readers that fail
at once leave it. -/
theorem Moved.refl (c : Cursor) : c.Moved [] c where
  rest := rfl
  position := rfl

/-- What is passed over in two moves are the bytes of the first and then those of
the second. -/
theorem Moved.trans {c c₁ c₂ : Cursor} {front back : Bytes} (h : c.Moved front c₁)
    (h' : c₁.Moved back c₂) : c.Moved (front ++ back) c₂ where
  rest := by rw [h.rest, h'.rest, List.append_assoc]
  position := by rw [h'.position, h.position, List.length_append, Nat.add_assoc]

/-- A cursor is never moved back. So the position after any number of steps is the
largest there has been. -/
theorem Moved.position_le {c c' : Cursor} {bs : Bytes} (h : c.Moved bs c') :
    c.position ≤ c'.position := by
  rw [h.position]
  exact Nat.le_add_right c.position bs.length

/-- Going on by the length of what is in front moves the cursor over it. The
primitives all move in this way, each by a number of its own. -/
theorem moved_advance {c : Cursor} {bs rest : Bytes} (h : c.rest = bs ++ rest) :
    c.Moved bs (c.advance bs.length) where
  rest := by
    show c.rest = bs ++ c.rest.drop bs.length
    rw [h, List.drop_left]
  position := rfl

end Cursor

namespace Reader

/-! ### How readers move a cursor -/

variable {ε α β : Type}

/-- A reader that succeeds has moved the cursor over bytes that are as `given` says
of its value, and one that fails over bytes that are as `lost` says. Both conditions
also see what is then ahead of the cursor. Most steps do not need it; a marker that
may be missing and a reader of all the rest cannot be described without it. -/
def Moves (r : EStateM ε Cursor α) (given : α → Bytes → Bytes → Prop)
    (lost : Bytes → Bytes → Prop) : Prop :=
  ∀ c, Ends r c (fun a c' => ∃ bs, c.Moved bs c' ∧ given a bs c'.rest)
    (fun _ c' => ∃ bs, c.Moved bs c' ∧ lost bs c'.rest)

/-- No bytes are passed over, whatever is ahead. This is what a failed step loses as
a rule. -/
def Stays (bs _ahead : Bytes) : Prop :=
  bs = []

/-- The marker is passed over if it is there, and nothing otherwise. So what is
ahead does not begin with the marker where nothing was passed over. -/
def PassesMarker (marker : UInt8) (bs ahead : Bytes) : Prop :=
  bs = [marker] ∨ bs = [] ∧ ahead.head? ≠ some marker

/-- Some bytes are passed over. Nothing more is said of a packet that breaks off, as
its reader keeps what it has taken of the fields before. -/
def Wanders (_bs _ahead : Bytes) : Prop :=
  True

namespace Moves

variable {r : EStateM ε Cursor α} {given : α → Bytes → Bytes → Prop} {lost : Bytes → Bytes → Prop}

/-- Both conditions may be weakened, as those of `Ends` may. What the weaker ones
may speak of is the same: the value, the bytes passed over and those ahead. -/
theorem mono {given' : α → Bytes → Bytes → Prop} {lost' : Bytes → Bytes → Prop}
    (h : Moves r given lost) (hgiven : ∀ a bs ahead, given a bs ahead → given' a bs ahead)
    (hlost : ∀ bs ahead, lost bs ahead → lost' bs ahead) : Moves r given' lost' := by
  intro c
  refine (h c).mono ?_ ?_
  · intro a c' h'
    obtain ⟨bs, hmoved, hbs⟩ := h'
    exact ⟨bs, hmoved, hgiven a bs _ hbs⟩
  · intro e c' h'
    obtain ⟨bs, hmoved, hbs⟩ := h'
    exact ⟨bs, hmoved, hlost bs _ hbs⟩

/-- A reader words what it has read before it gives it, and moves no further for
that. -/
theorem bind_pure {given' : β → Bytes → Bytes → Prop} (h : Moves r given lost) (f : α → β)
    (hgiven : ∀ a bs ahead, given a bs ahead → given' (f a) bs ahead) :
    Moves (r >>= fun a => Pure.pure (f a)) given' lost := by
  intro c
  rw [ends_bind]
  have hworded := h.mono hgiven (fun _ _ hlost => hlost)
  exact hworded c

/-- One reader after another: the bytes of the second one stand behind those of the
first one. A failure is one of the first reader, or one of the second behind all the
bytes that the first one took; those are lost with it. -/
theorem bind {next : α → EStateM ε Cursor β} {given' : α → β → Bytes → Bytes → Prop}
    {lost' : α → Bytes → Bytes → Prop} (h : Moves r given lost)
    (hnext : ∀ a, Moves (next a) (given' a) (lost' a)) :
    Moves (r >>= next)
      (fun b bs ahead => ∃ a front back, bs = front ++ back ∧ given a front (back ++ ahead)
        ∧ given' a b back ahead)
      (fun bs ahead => lost bs ahead ∨ ∃ a front back, bs = front ++ back
        ∧ given a front (back ++ ahead) ∧ lost' a back ahead) := by
  intro c
  rw [ends_bind]
  refine (h c).mono ?_ ?_
  · intro a c₁ h₁
    obtain ⟨front, hfront, hgiven⟩ := h₁
    refine (hnext a c₁).mono ?_ ?_
    · intro b c₂ h₂
      obtain ⟨back, hback, hgiven'⟩ := h₂
      -- What was ahead of the first reader are the bytes of the second and what it
      -- leaves.
      rw [hback.rest] at hgiven
      exact ⟨front ++ back, hfront.trans hback, a, front, back, rfl, hgiven, hgiven'⟩
    · intro e c₂ h₂
      obtain ⟨back, hback, hlost'⟩ := h₂
      rw [hback.rest] at hgiven
      exact ⟨front ++ back, hfront.trans hback, .inr ⟨a, front, back, rfl, hgiven, hlost'⟩⟩
  · intro e c₁ h₁
    obtain ⟨bs, hmoved, hlost⟩ := h₁
    exact ⟨bs, hmoved, .inl hlost⟩

end Moves

/-! ### Single steps -/

/-- Giving a value moves nothing, and cannot fail either. -/
theorem moves_pure (a : α) :
    Moves (pure a : EStateM ε Cursor α) (fun b bs _ => b = a ∧ bs = []) Stays := by
  intro c
  exact ⟨[], .refl c, rfl, rfl⟩

/-- As many bytes as are asked for are passed over and given, or none where there
are not so many. Every step of a fixed width is made from this one, so none of them
loses anything. -/
theorem moves_bytes (n : Nat) :
    Moves (bytes n) (fun taken bs _ => taken = bs ∧ bs.length = n) Stays := by
  intro c
  rw [bytes, ends_bind, ends_get]
  split
  · next taken rest hsplit =>
    obtain ⟨hrest, hlength⟩ := Bytes.splitExactly_eq_some_iff.mp hsplit
    have hmoved : c.Moved taken ⟨c.position + n, rest⟩ := ⟨hrest, by rw [hlength]⟩
    exact ⟨taken, hmoved, rfl, hlength⟩
  · exact ⟨[], .refl c, rfl⟩

/-- The next byte is passed over and given. Where there is none the cursor stays. -/
theorem moves_byte : Moves byte (fun b bs _ => bs = [b]) Stays := by
  intro c
  rw [byte, ends_bind, ends_get]
  split
  · next b rest hrest => exact ⟨[b], ⟨hrest, rfl⟩, rfl⟩
  · exact ⟨[], .refl c, rfl⟩

/-- Two bytes are just enough for the number that they spell. With one alone the
cursor stays in front of it. -/
theorem moves_word16 :
    Moves word16 (fun n bs _ => bs.length = 2 ∧ n.toNat = Bytes.toNat bs) Stays := by
  refine (moves_bytes 2).bind_pure _ ?_
  intro taken bs ahead h
  obtain ⟨rfl, hlength⟩ := h
  have hlt : Bytes.toNat taken < UInt16.size := by
    simpa [hlength, Bytes.bound] using Bytes.toNat_lt taken
  exact ⟨hlength, UInt16.toNat_ofNat_of_lt' hlt⟩

/-- The same holds of four: none of them is passed over unless all are there. -/
theorem moves_word32 :
    Moves word32 (fun n bs _ => bs.length = 4 ∧ n.toNat = Bytes.toNat bs) Stays := by
  refine (moves_bytes 4).bind_pure _ ?_
  intro taken bs ahead h
  obtain ⟨rfl, hlength⟩ := h
  have hlt : Bytes.toNat taken < UInt32.size := by
    simpa [hlength, Bytes.bound] using Bytes.toNat_lt taken
  exact ⟨hlength, UInt32.toNat_ofNat_of_lt' hlt⟩

/-- As many bytes are passed over as are asked for, or none where there are fewer. -/
theorem moves_skip (n : Nat) : Moves (skip n) (fun _ bs _ => bs.length = n) Stays := by
  refine (moves_bytes n).bind_pure _ ?_
  intro taken bs ahead h
  exact h.2

/-- All bytes are passed over and given, and nothing is ahead then. There is always
something to give, if only no bytes. -/
theorem moves_rest : Moves rest (fun taken bs ahead => taken = bs ∧ ahead = []) Stays := by
  intro c
  have hmoved : c.Moved c.rest ⟨c.position + c.rest.length, []⟩ :=
    ⟨(List.append_nil c.rest).symm, rfl⟩
  exact ⟨c.rest, hmoved, rfl, rfl⟩

/-- What a length-coded integer or the marker of SQL NULL is written as. An integer
may be written longer than it needs to be, so there can be several such bytes for
one value. -/
def IsCoded : LengthCoded → Bytes → Prop
  | .null, bs => bs = [LengthCoded.nullMarker]
  | .value n, bs => LengthCoded.Form n.toNat bs

/-- A length-coded value is passed over in one of its forms. Where there is none
ahead, the byte that is next is not the marker of SQL NULL, since the marker by
itself is a value. -/
theorem moves_coded : Moves coded (fun value bs _ => IsCoded value bs)
    (fun bs ahead => bs = [] ∧ ahead.head? ≠ some LengthCoded.nullMarker) := by
  intro c
  rw [coded, ends_bind, ends_get]
  split
  · next value used hdecode =>
    cases value with
    | null =>
      obtain ⟨⟨rest, hrest⟩, rfl⟩ := LengthCoded.decode?_eq_null_iff.mp hdecode
      exact ⟨[LengthCoded.nullMarker], Cursor.moved_advance hrest, rfl⟩
    | value n =>
      obtain ⟨form, rest, hform, hrest, rfl⟩ := LengthCoded.decode?_eq_value_iff.mp hdecode
      exact ⟨form, Cursor.moved_advance hrest, hform⟩
  · next hdecode =>
    refine ⟨[], .refl c, rfl, ?_⟩
    intro hhead
    -- The marker alone would have been read.
    obtain ⟨rest, hrest⟩ := List.head?_eq_some_iff.mp hhead
    rw [hrest] at hdecode
    cases hdecode

/-- The same holds of a string, whose length and bytes are passed over together or
not at all. -/
theorem moves_cell : Moves cell (fun value bs _ => LengthCoded.CellForm value bs)
    (fun bs ahead => bs = [] ∧ ahead.head? ≠ some LengthCoded.nullMarker) := by
  intro c
  rw [cell, ends_bind, ends_get]
  split
  · next value used hdecode =>
    obtain ⟨form, rest, hform, hrest, rfl⟩ := LengthCoded.decodeCell?_eq_some_iff.mp hdecode
    exact ⟨form, Cursor.moved_advance hrest, hform⟩
  · next hdecode =>
    refine ⟨[], .refl c, rfl, ?_⟩
    -- The marker alone is a cell, so it cannot be ahead.
    intro hhead
    obtain ⟨rest, hrest⟩ := List.head?_eq_some_iff.mp hhead
    rw [hrest] at hdecode
    cases hdecode

/-- An integer is refused for being SQL NULL when its marker has been read. That is
why the failure may have passed over the marker, and cannot have passed over
anything else. -/
theorem moves_codedInt : Moves codedInt (fun n bs _ => LengthCoded.Form n.toNat bs)
    (PassesMarker LengthCoded.nullMarker) := by
  intro c
  rw [codedInt, ends_bind]
  -- A value is read first. Only if it is SQL NULL is a failure made of it, behind its
  -- marker.
  refine (moves_coded c).mono ?_ ?_
  · intro value c' h
    obtain ⟨bs, hmoved, hbs⟩ := h
    cases value with
    | value n => exact ⟨bs, hmoved, hbs⟩
    | null => exact ⟨bs, hmoved, .inl hbs⟩
  · intro e c' h
    obtain ⟨bs, hmoved, hbs⟩ := h
    exact ⟨bs, hmoved, .inr hbs⟩

/-- A string is refused in the same way, behind the marker. One that is there is
given as the text that its bytes spell. -/
theorem moves_codedText : Moves codedText
    (fun text bs _ => ∃ content, LengthCoded.CellForm (some content) bs
      ∧ text = Utf8.decode content)
    (PassesMarker LengthCoded.nullMarker) := by
  intro c
  rw [codedText, ends_bind]
  refine (moves_cell c).mono ?_ ?_
  · intro value c' h
    obtain ⟨bs, hmoved, hbs⟩ := h
    cases value with
    | some content => exact ⟨bs, hmoved, content, hbs, rfl⟩
    | none =>
      -- The marker has been passed over by now, and the refusal comes behind it.
      cases hbs
      exact ⟨_, hmoved, .inl rfl⟩
  · intro e c' h
    obtain ⟨bs, hmoved, hbs⟩ := h
    exact ⟨bs, hmoved, .inr hbs⟩

/-- A string that is passed over may as well be SQL NULL, so nothing is lost where
this fails. -/
theorem moves_skipCell :
    Moves skipCell (fun _ bs _ => ∃ value, LengthCoded.CellForm value bs) Stays := by
  have hcell : Moves cell (fun value bs _ => LengthCoded.CellForm value bs) Stays :=
    moves_cell.mono (fun _ _ _ h => h) (fun _ _ h => h.1)
  refine hcell.bind_pure _ ?_
  intro value bs ahead hform
  exact ⟨value, hform⟩

/-- Without a zero byte ahead there is no terminated text, and the cursor stays. The
search does not move it. -/
theorem run_terminatedText_of_not_mem {c : Cursor} (h : 0 ∉ c.rest) :
    terminatedText.run c = .error () c := by
  -- The content would be all that is ahead, with nothing behind it to end it.
  have hcontent : c.rest.takeWhile (· != 0) = c.rest := by
    simpa using Bytes.takeWhile_ne_zero_append h []
  simp [terminatedText, hcontent]

/-- A terminated text is passed over with the zero byte at its end, which is the
first one ahead. -/
theorem moves_terminatedText : Moves terminatedText
    (fun text bs _ => ∃ content, bs = content ++ [0] ∧ 0 ∉ content ∧ text = Utf8.decode content)
    Stays := by
  intro c
  by_cases hzero : 0 ∈ c.rest
  · obtain ⟨content, rest, hrest, hcontent⟩ := List.eq_append_cons_of_mem hzero
    -- The content ends at the first zero byte, so what is known of writing such a text
    -- applies.
    have hread := reads_terminatedText hcontent c.position rest
    rw [List.append_assoc, List.singleton_append, ← hrest] at hread
    rw [Ends, hread]
    exact ⟨content ++ [0], ⟨by simp [hrest], rfl⟩, content, rfl, hcontent, rfl⟩
  · rw [Ends, run_terminatedText_of_not_mem hzero]
    exact ⟨[], .refl c, rfl⟩

/-- A text of a known length is given as what the bytes passed over spell, valid or
not. -/
theorem moves_text (n : Nat) :
    Moves (text n) (fun text bs _ => bs.length = n ∧ text = Utf8.decode bs) Stays := by
  refine (moves_bytes n).bind_pure _ ?_
  intro taken bs ahead h
  obtain ⟨rfl, hlength⟩ := h
  exact ⟨hlength, rfl⟩

/-- All bytes ahead are given as the text that they spell, and none is left. There
is always such a text, so this cannot fail. -/
theorem moves_restText :
    Moves restText (fun text bs ahead => text = Utf8.decode bs ∧ ahead = []) Stays := by
  refine moves_rest.bind_pure _ ?_
  intro taken bs ahead h
  obtain ⟨rfl, hend⟩ := h
  exact ⟨rfl, hend⟩

/-- A marker is passed over if it is there. This step cannot fail, so nothing is
lost. -/
theorem moves_skipMarker (marker : UInt8) :
    Moves (skipMarker marker) (fun _ bs ahead => PassesMarker marker bs ahead) Stays := by
  intro c
  rw [skipMarker, ends_bind, ends_get]
  split
  · next hpeek =>
    obtain ⟨rest, hrest⟩ := List.head?_eq_some_iff.mp hpeek
    exact ⟨[marker], Cursor.moved_advance hrest, .inl rfl⟩
  · next hpeek => exact ⟨[], .refl c, .inr ⟨rfl, hpeek⟩⟩

end Reader

end SqlWire
