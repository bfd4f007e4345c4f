import SqlWire.Login
import SqlWire.Proofs.Reads

/-!
# Logins are read as they were written

A login has two texts that end at a zero byte, and between them an answer whose
bytes may be anything. A text with a NUL in it ends too early, and whatever stands
behind it is read for what it is not. That is the one thing that can go wrong: the
login of a configuration is read field by field as it was meant if and only if
neither the user nor the database has a NUL
(`LoginPacket.read_encode_ofConfig_iff`).
-/

set_option autoImplicit false

namespace SqlWire

open SqlWire.Action Reader

/-- A text is read whole if it has no NUL. A NUL is the one character that is
written with a zero byte, which is what ends a text. -/
theorem Reader.reads_text {text : String} (h : '\x00' ∉ text.toList) :
    Reads terminatedText text (Utf8.encode text ++ [0]) := by
  have hread := reads_terminatedText (mt Utf8.zero_mem_encode_iff.mp h)
  rwa [Utf8.decode_encode] at hread

/-- Otherwise it is read up to the first one. What stands behind it is then read for
the next field, and the text that is found has no NUL in any case. -/
theorem Reader.exists_reads_front (text : String) :
    ∃ front rest, Utf8.encode text ++ [0] = (Utf8.encode front ++ [0]) ++ rest
      ∧ '\x00' ∉ front.toList := by
  by_cases hmem : '\x00' ∈ text.toList
  · obtain ⟨front, rest, hsplit, hfront⟩ := List.eq_append_cons_of_mem hmem
    have hnul : String.utf8EncodeChar '\x00' = [0] := by decide
    refine ⟨String.ofList front, rest.flatMap String.utf8EncodeChar ++ [0], ?_, ?_⟩
    · simp [Utf8.encode, hsplit, hnul]
    · simpa using hfront
  · -- Without a NUL the front is all of the text.
    exact ⟨text, [], (List.append_nil _).symm, hmem⟩

namespace Login

variable {l : Login}

/-- The fields of a login as they stand in its packet. The bytes that are reserved
and the length of the answer are fields of the packet and not of the login. -/
def packet (l : Login) : LoginPacket where
  capabilities := l.capabilities
  maxPacketSize := l.maxPacketSize
  charset := l.charset
  reserved := List.replicate reservedLength 0
  user := l.user
  answerLength := UInt8.ofNat (l.answer.getD []).length
  answer := l.answer.getD []
  database := l.database

/-- With or without an answer, its length stands in front of its bytes. Without one
the length is zero. -/
theorem encodeAnswer_eq (answer : Option Bytes) :
    encodeAnswer answer = [UInt8.ofNat (answer.getD []).length] ++ answer.getD [] := by
  cases answer <;> rfl

/-- The length in front of an answer is that of the answer, if it is short enough to
be written. -/
theorem length_answer (h : (l.answer.getD []).length < 256) :
    (l.answer.getD []).length = (UInt8.ofNat (l.answer.getD []).length).toNat := by
  rw [UInt8.toNat_ofNat', Nat.mod_eq_of_lt h]

/-- A login without NULs is read as it was written, field by field. The texts end in
a NUL, so one within would end them early. -/
theorem reads_packet (hanswer : (l.answer.getD []).length < 256)
    (huser : '\x00' ∉ l.user.toList) (hdatabase : '\x00' ∉ l.database.toList) :
    Reads LoginPacket.read l.packet l.encode := by
  have hlength := length_answer hanswer
  rw [encode, encodeAnswer_eq]
  -- A text and the zero byte behind it are one piece of the layout.
  simp only [List.append_assoc]
  rw [← List.append_assoc (Utf8.encode l.user)]
  refine (reads_word32 l.capabilities).bind ?_
  refine (reads_word32 l.maxPacketSize).bind ?_
  refine (reads_byte l.charset).bind ?_
  refine (reads_bytes List.length_replicate).bind ?_
  refine (reads_text huser).bind ?_
  refine (reads_byte _).bind ?_
  refine (reads_bytes hlength).bind ?_
  rw [← List.append_nil (Utf8.encode l.database ++ [0])]
  exact (reads_text hdatabase).bind (.pure l.packet)

/-- The user that is found in a login has no NUL. It is read up to the first zero
byte, so if the login is read as it was meant, the user that was meant has none
either. -/
theorem ends_read_user (l : Login) :
    Ends LoginPacket.read (.ofBytes l.encode) (fun p _ => '\x00' ∉ p.user.toList)
      (fun _ _ => True) := by
  obtain ⟨front, rest, hsplit, hfront⟩ := exists_reads_front l.user
  rw [encode, hsplit, LoginPacket.read]
  simp only [List.append_assoc]
  rw [← List.append_assoc (Utf8.encode front), Cursor.ofBytes, (reads_word32 _).ends_bind,
    (reads_word32 _).ends_bind, (reads_byte _).ends_bind,
    (reads_bytes List.length_replicate).ends_bind, (reads_text hfront).ends_bind]
  -- Whatever is made of the bytes from here on, the user has been read.
  apply Ends.bind (maintains_const True _ _ trivial)
  intro answerLength _ _
  apply Ends.bind (maintains_const True _ _ trivial)
  intro answer _ _
  apply Ends.bind (maintains_const True _ _ trivial)
  intro database _ _
  exact hfront

/-- Behind a user without NULs, the database that is found has none. With one in the
user this cannot be said, for then the answer is read for the database. -/
theorem ends_read_database (hanswer : (l.answer.getD []).length < 256)
    (huser : '\x00' ∉ l.user.toList) :
    Ends LoginPacket.read (.ofBytes l.encode) (fun p _ => '\x00' ∉ p.database.toList)
      (fun _ _ => True) := by
  obtain ⟨front, rest, hsplit, hfront⟩ := exists_reads_front l.database
  have hlength := length_answer hanswer
  rw [encode, encodeAnswer_eq, hsplit, LoginPacket.read]
  simp only [List.append_assoc]
  rw [← List.append_assoc (Utf8.encode l.user), ← List.append_assoc (Utf8.encode front),
    Cursor.ofBytes, (reads_word32 _).ends_bind, (reads_word32 _).ends_bind,
    (reads_byte _).ends_bind, (reads_bytes List.length_replicate).ends_bind,
    (reads_text huser).ends_bind, (reads_byte _).ends_bind, (reads_bytes hlength).ends_bind,
    (reads_text hfront).ends_bind]
  exact hfront

/-- A login is read as it was written if and only if neither of its texts has a NUL.
The packet is compared as a whole, so nothing in it is out of its place, and no byte
is left over. -/
theorem run_read_encode_iff (hanswer : (l.answer.getD []).length < 256) :
    LoginPacket.read.run (.ofBytes l.encode) = .ok l.packet ⟨l.encode.length, []⟩
      ↔ '\x00' ∉ l.user.toList ∧ '\x00' ∉ l.database.toList := by
  constructor
  · intro hrun
    -- The user first: only behind one without NULs is the database where it should be.
    have huser : '\x00' ∉ l.user.toList := l.ends_read_user.ok_of_run hrun
    have hdatabase := (ends_read_database hanswer huser).ok_of_run hrun
    exact ⟨huser, hdatabase⟩
  · rintro ⟨huser, hdatabase⟩
    have hread := reads_packet hanswer huser hdatabase 0 []
    rwa [List.append_nil, Nat.zero_add] at hread

end Login

/-! ### The login of a configuration -/

/-- The bit that stands for the selection of a database is set where there is one to
select, and no other bit is touched. -/
theorem Config.loginFlags_bits (c : Config) :
    (c.database.getD "" ≠ "" → c.loginFlags &&& Capability.connectWithDatabase
        = Capability.connectWithDatabase)
      ∧ c.loginFlags &&& ~~~Capability.connectWithDatabase
        = c.clientFlags &&& ~~~Capability.connectWithDatabase := by
  have hset (flags bit : UInt32) : (flags ||| bit) &&& bit = bit := by
    apply UInt32.toBitVec_inj.mp
    ext i
    simp only [UInt32.toBitVec_and, UInt32.toBitVec_or, BitVec.getElem_and, BitVec.getElem_or]
    grind
  have hothers (flags bit : UInt32) : (flags ||| bit) &&& ~~~bit = flags &&& ~~~bit := by
    apply UInt32.toBitVec_inj.mp
    ext i
    simp only [UInt32.toBitVec_and, UInt32.toBitVec_or, UInt32.toBitVec_not, BitVec.getElem_and,
      BitVec.getElem_or, BitVec.getElem_not]
    grind
  rw [loginFlags]
  constructor
  · intro hdatabase
    -- An empty name selects nothing, and neither does none.
    have hselects : c.selectsDatabase = true := by
      cases hname : c.database with
      | none =>
        rw [hname] at hdatabase
        exact absurd rfl hdatabase
      | some name =>
        rw [hname] at hdatabase
        simpa [selectsDatabase, hname] using hdatabase
    rw [if_pos hselects]
    exact hset _ _
  · split
    · exact hothers _ _
    · rfl

/-- An absent password is answered for as an empty one: not at all. -/
theorem Login.answer_ofConfig (c : Config) (seed : Bytes) :
    (ofConfig c seed).answer = Scramble.answer (c.password.getD "") seed := by
  rw [ofConfig]
  cases c.password <;> rfl

/-- An answer has the length of a digest or none, so one byte is enough to tell it. -/
theorem Login.length_answer_ofConfig_lt (c : Config) (seed : Bytes) :
    ((ofConfig c seed).answer.getD []).length < 256 := by
  rw [answer_ofConfig]
  cases hanswer : Scramble.answer (c.password.getD "") seed with
  | none => decide
  | some answer =>
    rw [Option.getD_some, Scramble.length_of_mem_answer hanswer]
    decide

/-- The first four bytes of a login are its capabilities. This holds of any login,
also of one that cannot be read back. -/
theorem Login.toNat_take_encode (l : Login) :
    UInt32.ofNat (Bytes.toNat (l.encode.take 4)) = l.capabilities := by
  have htake : l.encode.take 4 = Bytes.ofNat 4 l.capabilities.toNat := by
    simp only [encode, List.append_assoc]
    exact List.take_left' (Bytes.length_ofNat 4 _)
  have hlt : l.capabilities.toNat < Bytes.bound 4 := l.capabilities.toNat_lt
  rw [htake, Bytes.toNat_ofNat_of_lt hlt, UInt32.ofNat_toNat]

/-- With a password, the answer stands behind four numbers, the user and its own
length. What stands around it does not depend on the password, so two configurations
that differ in their passwords alone give logins that differ in these twenty bytes
alone. -/
theorem Login.exists_encode_ofConfig_eq (c : Config) (seed : Bytes) :
    ∃ head tail, head.length = 32 ∧ ∀ password, password ≠ "" →
      ∃ answer ∈ Scramble.answer password seed, answer.length = 20
        ∧ (ofConfig { c with password := some password } seed).encode
          = head ++ (Utf8.encode c.user ++ 0 :: 0x14 :: (answer ++ tail)) := by
  -- In front of the user stand the numbers, and behind the answer the database.
  refine ⟨Bytes.ofNat 4 c.loginFlags.toNat ++ Bytes.ofNat 4 c.maxPacketSize.toNat ++ [c.charset]
    ++ List.replicate reservedLength 0, Utf8.encode (c.database.getD "") ++ [0], ?_,
    ?_⟩
  · simp [reservedLength]
  · intro password hpassword
    have hanswer : Scramble.answer password seed = some _ := if_neg (by simpa using hpassword)
    have hlength := Scramble.length_of_mem_answer hanswer
    have hlogin : (ofConfig { c with password := some password } seed).answer = some _ := hanswer
    refine ⟨_, hanswer, hlength, ?_⟩
    rw [encode, hlogin, encodeAnswer, hlength]
    simp only [List.append_assoc, List.cons_append, List.nil_append]
    rfl

/-- The fields of a configuration's login are those of the configuration. The answer
is spelled out here, from the password and the seed, and its length with it. -/
theorem Login.packet_ofConfig (c : Config) (seed : Bytes) :
    (ofConfig c seed).packet = {
      capabilities := c.loginFlags
      maxPacketSize := c.maxPacketSize
      charset := c.charset
      reserved := List.replicate 23 0
      user := c.user
      answerLength := if c.password.getD "" = "" then 0 else 20
      answer := if c.password.getD "" = "" then [] else
        Scramble.mask (Sha1.digest (Utf8.encode (c.password.getD "")))
          (Sha1.digest (seed ++ Sha1.digest (Sha1.digest (Utf8.encode (c.password.getD "")))))
      database := c.database.getD "" } := by
  rw [packet, answer_ofConfig]
  generalize c.password.getD "" = password
  -- An empty password gives no answer, and its length is that of no bytes.
  by_cases hpassword : password = ""
  · subst hpassword
    rfl
  · have hsome : Scramble.answer password seed = some (Scramble.mask
        (Sha1.digest (Utf8.encode password))
        (Sha1.digest (seed ++ Sha1.digest (Sha1.digest (Utf8.encode password))))) :=
      if_neg (by simpa using hpassword)
    have hlength := Scramble.length_of_mem_answer hsome
    rw [hsome, Option.getD_some, hlength, if_neg hpassword, if_neg hpassword]
    rfl

/-- A login says what its configuration says. Read field by field, it gives the
configured numbers, the user, the answer to the seed behind its length (both empty
where there is no password or an empty one) and the database (empty where there is
none), with no byte left over, if and only if neither the user nor the database has
a NUL. In any case the first four bytes are the configured flags but for the bit of
the database, which is set where a database is to be selected. -/
theorem LoginPacket.read_encode_ofConfig_iff (c : Config) (seed : Bytes) :
    let payload := (Login.ofConfig c seed).encode
    let password := c.password.getD ""
    let secret := Utf8.encode password
    let flags := UInt32.ofNat (Bytes.toNat (payload.take 4))
    (LoginPacket.read.run (.ofBytes payload) = .ok {
          capabilities := c.loginFlags
          maxPacketSize := c.maxPacketSize
          charset := c.charset
          reserved := List.replicate 23 0
          user := c.user
          answerLength := if password = "" then 0 else 20
          answer := if password = "" then [] else Scramble.mask (Sha1.digest secret)
            (Sha1.digest (seed ++ Sha1.digest (Sha1.digest secret)))
          database := c.database.getD "" } ⟨payload.length, []⟩
        ↔ '\x00' ∉ c.user.toList ∧ '\x00' ∉ (c.database.getD "").toList)
      ∧ (c.database.getD "" ≠ "" → flags &&& Capability.connectWithDatabase
        = Capability.connectWithDatabase)
      ∧ flags &&& ~~~Capability.connectWithDatabase
        = c.clientFlags &&& ~~~Capability.connectWithDatabase := by
  intro payload password secret flags
  have hflags : flags = c.loginFlags := Login.toNat_take_encode _
  have hread := Login.run_read_encode_iff (Login.length_answer_ofConfig_lt c seed)
  rw [Login.packet_ofConfig] at hread
  rw [hflags]
  exact ⟨hread, c.loginFlags_bits⟩

/-- With a user that ends in a NUL the database is found nowhere: the second NUL is
taken for the length of the answer, and that length for the end of an empty
database. -/
theorem LoginPacket.read_encode_ofConfig_of_nul :
    let login (user : String) : Login :=
      .ofConfig { user, database := some "shop" } (List.replicate 20 1)
    (LoginPacket.read.run (.ofBytes (login "app").encode)
        = .ok ⟨Capability.standard ||| 8, 16777216, Charset.standard, List.replicate 23 0, "app", 0,
          [], "shop"⟩ ⟨42, []⟩)
      ∧ LoginPacket.read.run (.ofBytes (login "app\x00").encode)
        ≠ .ok ⟨Capability.standard ||| 8, 16777216, Charset.standard, List.replicate 23 0,
          "app\x00", 0, [], "shop"⟩ ⟨43, []⟩ := by
  intro login
  have hread (user : String) := (LoginPacket.read_encode_ofConfig_iff
    { user, database := some "shop" } (List.replicate 20 1)).1
  have hshort : (login "app").encode.length = 42 := by decide +kernel
  have hlong : (login "app\x00").encode.length = 43 := by decide +kernel
  refine ⟨?_, ?_⟩
  · rw [← hshort]
    exact (hread "app").mpr (by decide)
  · intro hrun
    rw [← hlong] at hrun
    exact absurd ((hread "app\x00").mp hrun).1 (by decide)

end SqlWire
