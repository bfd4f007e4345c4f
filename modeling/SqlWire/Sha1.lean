import SqlWire.Bytes

/-!
# The SHA-1 digest

The message is padded to whole blocks of 64 bytes and folded block by block into
five 32-bit words. Every digest has 20 bytes (`length_digest`).
-/

set_option autoImplicit false

namespace SqlWire.Sha1

/-- The five words that a digest is made of. -/
structure Words where
  a : UInt32
  b : UInt32
  c : UInt32
  d : UInt32
  e : UInt32
deriving DecidableEq, Repr

/-- The words before the first block. -/
def initial : Words :=
  ⟨0x67452301, 0xEFCDAB89, 0x98BADCFE, 0x10325476, 0xC3D2E1F0⟩

/-- Rotates to the left. -/
def rotate (x : UInt32) (count : UInt32) : UInt32 :=
  (x <<< count) ||| (x >>> (32 - count))

/-- Bytes of a message with its padding: a one bit, zeros up to eight bytes short of
a block, and the length of the message in bits. -/
def pad (message : Bytes) : Bytes :=
  message ++ 0x80 :: (List.replicate ((119 - message.length % 64) % 64) 0
    ++ (Bytes.ofNat 8 (8 * message.length)).reverse)

/-- Every four bytes as a word, most significant byte first. -/
def wordsOfBytes : Bytes → List UInt32
  | b₀ :: b₁ :: b₂ :: b₃ :: rest =>
    UInt32.ofNat (Bytes.toNat [b₃, b₂, b₁, b₀]) :: wordsOfBytes rest
  | _ => []

/-- The mixing function and constant of a round, by its number. -/
def mixing (round : Nat) (b c d : UInt32) : UInt32 × UInt32 :=
  if round < 20 then ((b &&& c) ||| (~~~b &&& d), 0x5A827999)
  else if round < 40 then (b ^^^ c ^^^ d, 0x6ED9EBA1)
  else if round < 60 then ((b &&& c) ||| (b &&& d) ||| (c &&& d), 0x8F1BBCDC)
  else (b ^^^ c ^^^ d, 0xCA62C1D6)

/-- Rounds in a block. -/
def roundCount : Nat := 80

/-- The last `count` rounds of a block. The window holds the sixteen schedule words
from the current round on; each round takes the first and appends the word that
follows the sixteen. -/
def rounds : (count : Nat) → (window : List UInt32) → Words → Words
  | 0, _, h => h
  | count + 1, window, h =>
    let word := fun i => window.getD i 0
    let (mixed, constant) := mixing (roundCount - (count + 1)) h.b h.c h.d
    -- The schedule's recurrence: words 3, 8, 14 and 16 places before the one that is appended.
    let next := rotate (word 13 ^^^ word 8 ^^^ word 2 ^^^ word 0) 1
    rounds count (window.tail ++ [next])
      ⟨rotate h.a 5 + mixed + h.e + constant + word 0, h.a, rotate h.b 30, h.c, h.d⟩

/-- The words after one more block. -/
def addBlock (h : Words) (block : Bytes) : Words :=
  let r := rounds roundCount (wordsOfBytes block) h
  ⟨h.a + r.a, h.b + r.b, h.c + r.c, h.d + r.d, h.e + r.e⟩

/-- The words after `count` more blocks from the front of the bytes. -/
def addBlocks : (count : Nat) → Words → Bytes → Words
  | 0, h, _ => h
  | count + 1, h, bs => addBlocks count (addBlock h (bs.take 64)) (bs.drop 64)

/-- The words in order, each with its most significant byte first. -/
def Words.bytes (h : Words) : Bytes :=
  [h.a, h.b, h.c, h.d, h.e].flatMap fun w => (Bytes.ofNat 4 w.toNat).reverse

/-- Bytes in a digest. -/
def digestLength : Nat := 20

/-- The digest of a message. -/
def digest (message : Bytes) : Bytes :=
  let padded := pad message
  (addBlocks (padded.length / 64) initial padded).bytes

/-- A digest has twenty bytes, whatever the message. Of the function itself the
proofs use no more than this. -/
@[simp] theorem length_digest (message : Bytes) : (digest message).length = digestLength := by
  simp [digest, Words.bytes, digestLength]

end SqlWire.Sha1
