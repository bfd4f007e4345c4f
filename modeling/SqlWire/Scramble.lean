import SqlWire.Sha1
import SqlWire.Utf8

/-!
# Proving a password without sending it

The server keeps `H = SHA1(SHA1(password))` and sends a seed. The client answers
with `SHA1(password)` masked by `SHA1(seed ++ H)`; the server unmasks the answer and
hashes it, which gives `H` again for the right password (`accepts_scramble`).
-/

set_option autoImplicit false

namespace SqlWire.Scramble

/-- Name of this way of logging in. -/
def pluginName : String := "mysql_native_password"

/-- Bytes in a seed and in the answer to it. -/
def length : Nat := Sha1.digestLength

/-- Combines two strings byte by byte with exclusive or, as far as the shorter one
goes. -/
def mask (xs ys : Bytes) : Bytes :=
  List.zipWith (· ^^^ ·) xs ys

/-- What a server stores of a password. -/
def stored (password : Bytes) : Bytes :=
  Sha1.digest (Sha1.digest password)

/-- The answer to a seed; an empty password has none. -/
def answer (password : String) (seed : Bytes) : Option Bytes :=
  if password.isEmpty then none
  else
    let secret := Utf8.encode password
    some (mask (Sha1.digest secret) (Sha1.digest (seed ++ stored secret)))

/-- The server's test of an answer, which needs only what it has stored. -/
def accepts (stored seed answer : Bytes) : Bool :=
  Sha1.digest (mask answer (Sha1.digest (seed ++ stored))) == stored

/-- Only as many bytes are masked as there are on both sides. -/
@[simp] theorem length_mask (xs ys : Bytes) :
    (mask xs ys).length = min xs.length ys.length := by
  simp [mask]

/-- Masking twice with the same bytes takes the mask off. -/
theorem mask_mask {xs ys : Bytes} (h : xs.length ≤ ys.length) : mask (mask xs ys) ys = xs := by
  induction xs generalizing ys with
  | nil => rfl
  | cons x xs ih =>
    cases ys with
    | nil => simp at h
    | cons y ys =>
      simp only [List.length_cons, Nat.add_le_add_iff_right] at h
      simpa [mask, UInt8.xor_assoc] using ih h

/-- An answer that is given has the length of a digest. -/
theorem length_of_mem_answer {password : String} {seed response : Bytes}
    (h : response ∈ answer password seed) : response.length = length := by
  simp only [answer, Option.mem_def] at h
  split at h
  · cases h
  · cases h
    simp [length]

/-- The server accepts the answer made from the password whose hash it stores. -/
theorem accepts_scramble {password : String} {seed response : Bytes}
    (h : response ∈ answer password seed) :
    accepts (stored (Utf8.encode password)) seed response = true := by
  simp only [answer, Option.mem_def] at h
  split at h
  · cases h
  · cases h
    simp [accepts, mask_mask, stored]

end SqlWire.Scramble
