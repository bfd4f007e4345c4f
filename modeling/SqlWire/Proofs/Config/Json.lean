import SqlWire.Config.Delays
import SqlWire.Config.Json
import SqlWire.Proofs.Json.Parser
import SqlWire.Proofs.Json.Printer

/-!
# Configurations written as JSON are read back

A configuration is read member by member, and each member sets one field.
`Config.Describes` says which lists of members describe the fields of a
configuration, or some of them: a member for each of them, in any order, and unknown
names anywhere between. What has been read so far is the configuration with some of
its fields and defaults for the others (`Config.keeping`), which is the invariant of
the reader (`assignMembers?_of_describes`). What the writer leaves out is the
password alone, so its text is one of those that describe a configuration
(`spells_toJsonText`).
-/

set_option autoImplicit false

namespace SqlWire

/-! ### Values -/

/-- A text or its absence is read back from its value. Settings that may be left out
are written in this way. -/
theorem Json.textOrNull?_ofTextOrNull (text : Option String) :
    (Json.ofTextOrNull text).textOrNull? = some text := by
  cases text <;> rfl

/-- A count below the bound is what its value says. The bound is that of the field's
type. -/
theorem Json.below?_natural {bound n : Nat} (h : n < bound) :
    (Json.natural n).below? bound = some n := by
  rw [Json.below?, if_pos h]

namespace Config

open Json

/-! ### Settings -/

namespace Setting

/-- There are no other settings than those that are gone through, so what is done
for each of them is done for all. -/
theorem mem_all (s : Setting) : s ∈ all := by
  cases s <;> decide

/-- A setting is found by its name, and by no other. So a member of an object is
about one setting at the most. -/
theorem ofName?_eq_some_iff {name : String} {s : Setting} :
    ofName? name = some s ↔ s.name = name := by
  have hown (s : Setting) : ofName? s.name = some s := by cases s <;> decide
  constructor
  · intro h
    have hfound := List.find?_some h
    exact beq_iff_eq.mp hfound
  · rintro rfl
    exact hown s

/-- No two settings share a name, or a member could be about both of them. -/
theorem name_inj {s t : Setting} : s.name = t.name ↔ s = t := by
  rw [← ofName?_eq_some_iff, ofName?_eq_some_iff.mpr rfl, Option.some_inj, eq_comm]

/-- A name that is no setting's is not found, and no other name is missed. Members
with such names are passed over. -/
theorem ofName?_eq_none_iff {name : String} : ofName? name = none ↔ ∀ s : Setting, s.name ≠ name := by
  simp [ofName?, List.find?_eq_none, mem_all]

end Setting

/-! ### Parts of a configuration -/

/-- The fields of the configuration for the settings that are given, and defaults
for the others. With no settings these are the defaults that a reader starts from,
and with all of them the configuration itself. -/
def keeping (c : Config) (given : List Setting) : Config where
  host := if .host ∈ given then c.host else ({} : Config).host
  port := if .port ∈ given then c.port else ({} : Config).port
  user := if .user ∈ given then c.user else ({} : Config).user
  password := if .password ∈ given then c.password else ({} : Config).password
  database := if .database ∈ given then c.database else ({} : Config).database
  charset := if .charset ∈ given then c.charset else ({} : Config).charset
  clientFlags := if .clientFlags ∈ given then c.clientFlags else ({} : Config).clientFlags
  maxPacketSize := if .maxPacketSize ∈ given then c.maxPacketSize else ({} : Config).maxPacketSize
  connectAttempts :=
    if .connectAttempts ∈ given then c.connectAttempts else ({} : Config).connectAttempts
  connectRetryDelay :=
    if .connectRetryDelay ∈ given then c.connectRetryDelay else ({} : Config).connectRetryDelay
  readAttempts := if .readAttempts ∈ given then c.readAttempts else ({} : Config).readAttempts
  readPollInterval :=
    if .readPollInterval ∈ given then c.readPollInterval else ({} : Config).readPollInterval
  maxQuerySize := if .maxQuerySize ∈ given then c.maxQuerySize else ({} : Config).maxQuerySize

variable {c : Config} {given seen : List Setting} {members : List (Option String × Json)}

/-- Where no settings are given, all fields are at their defaults. -/
theorem keeping_nil : c.keeping [] = {} := by
  simp [keeping]

/-- In which order the settings are given does not matter, nor how often. Two lists
with the same settings keep the same. -/
theorem keeping_congr {given' : List Setting} (h : ∀ s, s ∈ given ↔ s ∈ given') :
    c.keeping given = c.keeping given' := by
  simp only [keeping, h]

/-- What is written is all but the password, which has no setting that is. -/
theorem keeping_isWritten :
    c.keeping (Setting.all.filter Setting.isWritten) = { c with password := none } := by
  simp [keeping, Setting.all, Setting.isWritten]

/-- The delay between attempts is kept with its setting, and is the default one
without it. -/
theorem retryDelay_keeping (c : Config) (given : List Setting) :
    (c.keeping given).retryDelay
      = if .connectRetryDelay ∈ given then c.retryDelay else ({} : Config).retryDelay :=
  apply_ite Duration.ofMillis _ _ _

/-- So is the interval between polls. -/
theorem pollInterval_keeping (c : Config) (given : List Setting) :
    (c.keeping given).pollInterval
      = if .readPollInterval ∈ given then c.pollInterval else ({} : Config).pollInterval :=
  apply_ite Duration.ofMillis _ _ _

/-- One more setting is read from its value. The value of a setting is one that its
reader takes, since no field is greater than its own type allows. -/
theorem assign?_value (s : Setting) (c : Config) (given : List Setting) :
    s.assign? (s.value c) (c.keeping given) = some (c.keeping (s :: given)) := by
  -- Of the fields only the one that is assigned changes, so the settings are gone
  -- through one by one.
  cases s <;> simp [Setting.assign?, Setting.value, keeping, text?, below?_natural,
    textOrNull?_ofTextOrNull, UInt8.toNat_lt_size, UInt16.toNat_lt_size, UInt32.toNat_lt_size,
    UInt64.toNat_lt_size]

/-! ### Members -/

/-- The members of an object describe the settings that are given, as the
configuration has them: there is one member for each of them, and all other names
are unknown. -/
inductive Describes (c : Config) : (given : List Setting) → List (Option String × Json) → Prop
  | nil : Describes c [] []
  | known {s : Setting} {given : List Setting} {members : List (Option String × Json)}
    (hnew : s ∉ given) (h : Describes c given members) :
    Describes c (s :: given) ((some s.name, s.value c) :: members)
  | unknown {name : String} {given : List Setting} {members : List (Option String × Json)}
    (value : Json) (hname : ∀ s : Setting, s.name ≠ name) (h : Describes c given members) :
    Describes c given ((some name, value) :: members)

/-- With some settings read, the members set those that they describe. The induction
is on the description, and what has been read before is left open. -/
theorem assignMembers?_of_describes (h : Describes c given members) (hnew : ∀ s ∈ given, s ∉ seen) :
    assignMembers? seen members (c.keeping seen) = some (c.keeping (given ++ seen)) := by
  induction h generalizing seen with
  | nil => rfl
  | @known s given members hother h ih =>
    obtain ⟨hseen, hnew⟩ := List.forall_mem_cons.mp hnew
    -- No setting that is described later has been read, this one included.
    have hrest : ∀ t ∈ given, t ∉ s :: seen := by
      intro t ht hmem
      obtain rfl | hmem := List.mem_cons.mp hmem
      · exact hother ht
      · exact hnew t ht hmem
    -- The reader has put the setting before those read earlier, the list of members behind them.
    have hsame : c.keeping (given ++ s :: seen) = c.keeping (s :: given ++ seen) := by
      apply keeping_congr
      intro t
      simp [or_left_comm]
    simp [assignMembers?, Setting.ofName?_eq_some_iff.mpr rfl, hseen, assign?_value, ih hrest, hsame]
  | unknown value hname h ih =>
    simp [assignMembers?, Setting.ofName?_eq_none_iff.mpr hname, ih hnew]

/-- A setting that is given twice, or once more after it has been read, is refused,
whatever the values are. Another member may be refused before the reader comes to
the second one, which is a refusal all the same. -/
theorem assignMembers?_of_repeated {s : Setting} (c : Config)
    (h : 2 ≤ (members.map Prod.fst).count (some s.name) + if s ∈ seen then 1 else 0) :
    assignMembers? seen members c = none := by
  -- Each round moves an occurrence of the setting from the members to `seen`, where it
  -- counts as one.
  induction members generalizing seen c with
  | nil =>
    rw [List.map_nil, List.count_nil] at h
    split_ifs at h <;> omega
  | cons m members ih =>
    obtain ⟨name, value⟩ := m
    cases name with
    | none => rfl
    | some name =>
      rw [assignMembers?]
      cases hname : Setting.ofName? name with
      | none =>
        have hother : some name ≠ some s.name := by
          intro heq
          rw [Setting.ofName?_eq_none_iff] at hname
          exact hname s (Option.some.inj heq).symm
        rw [List.map_cons, List.count_cons_of_ne hother] at h
        exact ih c h
      | some t =>
        obtain rfl := Setting.ofName?_eq_some_iff.mp hname
        dsimp only
        split_ifs with hseen
        · rfl
        cases t.assign? value c with
        | none => rfl
        | some c =>
          refine ih c ?_
          by_cases hsame : t = s
          · subst hsame
            rw [List.map_cons, List.count_cons_self, if_neg hseen] at h
            rw [if_pos List.mem_cons_self]
            exact h
          · have hother : some t.name ≠ some s.name := by
              intro heq
              exact hsame (Setting.name_inj.mp (Option.some.inj heq))
            rw [List.map_cons, List.count_cons_of_ne hother] at h
            simpa [Ne.symm hsame] using h

/-! ### Texts -/

variable {text : String}

/-- A member for each of some settings, and nothing else, describes these settings.
No member is repeated if no setting is. -/
theorem describes_map (c : Config) (hgiven : given.Nodup) :
    Describes c given (given.map fun s => (some s.name, s.value c)) := by
  induction hgiven with
  | nil => exact .nil
  | cons hnew hgiven ih =>
    refine .known ?_ ih
    intro hmem
    exact hnew _ hmem rfl

/-- The text that is written of a configuration spells the object that it was
written from. -/
theorem spells_toJsonText (c : Config) : Spells c.toJsonText c.toJson := by
  have hvalue (s : Setting) : Form (s.value c) (s.value c).renderChars := by
    cases s with
    | host | user => exact form_renderChars_string _
    | password | database => exact form_renderChars_ofTextOrNull _
    | _ => exact form_renderChars_natural _
  -- Every value has its form, so the members do, and so does the object.
  let members := (Setting.all.filter Setting.isWritten).map fun s => (s.name, s.value c)
  have hmembers : ∀ m ∈ members, Form m.2 m.2.renderChars := by
    intro m hm
    obtain ⟨s, -, rfl⟩ := List.mem_map.mp hm
    exact hvalue s
  have hne : members ≠ [] := List.cons_ne_nil _ _
  have hform := form_renderChars_object hne hmembers
  rw [List.map_map] at hform
  exact spells_render hform

/-- An object is read if it describes settings of a configuration. What it does not
describe is at its default. -/
theorem ofJsonText?_of_describes (htext : Spells text (.object members))
    (h : Describes c given members) : ofJsonText? text = some (c.keeping given) := by
  have hfresh : ∀ s ∈ given, s ∉ ([] : List Setting) := by
    intro s _
    exact List.not_mem_nil
  have hread := assignMembers?_of_describes h hfresh
  rw [keeping_nil, List.append_nil] at hread
  rw [ofJsonText?, parse?_of_spells htext]
  exact hread

/-- A text is read as a configuration, whose delays stand for the two spans of time.
The delays themselves are counts of milliseconds. -/
structure ReadsAs (text : String) (c : Config) (retry poll : Duration) : Prop where
  read : ofJsonText? text = some c
  waits : c.retryDelay = retry
  polls : c.pollInterval = poll

/-- Every configuration is read back from its text, but for the password, which
leaves no trace in the text. More generally an object gives exactly the settings
that it describes, the password included, and leaves all others at their defaults.
An object that gives a setting twice is refused. -/
theorem jsonText_round_trip (c : Config) {retry poll : Duration} (hretry : retry.IsMillis)
    (hpoll : poll.IsMillis) :
    let asked := c.withDelays retry poll
    ReadsAs asked.toJsonText { asked with password := none } retry poll
      ∧ (∀ password, { asked with password := password }.toJsonText = asked.toJsonText)
      ∧ (∀ text given members, Spells text (.object members) → Describes asked given members →
          ReadsAs text (asked.keeping given)
            (if .connectRetryDelay ∈ given then retry else ({} : Config).retryDelay)
            (if .readPollInterval ∈ given then poll else ({} : Config).pollInterval))
      ∧ ∀ text members, Spells text (.object members) →
          ∀ s : Setting, 2 ≤ (members.map Prod.fst).count (some s.name) → ofJsonText? text = none := by
  intro asked
  -- Of a description, whoever wrote it, all is read that it says. The own text is one.
  have hgiven {text : String} {given : List Setting} {members : List (Option String × Json)}
      (htext : Spells text (.object members)) (h : Describes asked given members) :
      ReadsAs text (asked.keeping given)
        (if .connectRetryDelay ∈ given then retry else ({} : Config).retryDelay)
        (if .readPollInterval ∈ given then poll else ({} : Config).pollInterval) := by
    refine ⟨ofJsonText?_of_describes htext h, ?_, ?_⟩
    · rw [retryDelay_keeping, retryDelay_withDelays hretry]
    · rw [pollInterval_keeping, pollInterval_withDelays hpoll]
  refine ⟨?_, ?_, ?_, ?_⟩
  · -- The own text describes every setting but the password, each of them once.
    have hown := hgiven (spells_toJsonText asked) (describes_map asked (by decide))
    rwa [keeping_isWritten] at hown
  · intro password
    rfl
  · intro text given members htext h
    exact hgiven htext h
  · intro text members htext s hrepeated
    rw [ofJsonText?, parse?_of_spells htext]
    exact assignMembers?_of_repeated {} (Nat.le_add_right_of_le hrepeated)

/-- Delays of five milliseconds and of as many as 64 bits can hold, a text that
gives two settings with an unknown member between them and an escape in the
password, and one that gives a port twice. -/
theorem jsonText_round_trip_of_partial :
    let c : Config := { host := "\"h\"\n", password := some "A", port := 65535, maxQuerySize := 7 }
    let retry : Duration := ⟨0, 5000000, by decide⟩
    let poll : Duration := ⟨18446744073709551, 615000000, by decide⟩
    (retry.IsMillis ∧ poll.IsMillis)
      ∧ ReadsAs (c.withDelays retry poll).toJsonText
        { c.withDelays retry poll with password := none } retry poll
      ∧ ofJsonText? " \x7b\"max_query_size\":7,\n\"more\":[1e9,\x7b\x7d],\"password\":\"\\u0041\"\x7d "
        = some { password := some "A", maxQuerySize := 7 }
      ∧ ofJsonText? "\x7b\"port\":1,\"port\":\"\"\x7d" = none := by
  intro c retry poll
  have hretry : retry.IsMillis := ⟨by decide, by decide⟩
  have hpoll : poll.IsMillis := ⟨by decide, by decide⟩
  obtain ⟨hown, -, hgiven, hrepeated⟩ := jsonText_round_trip c hretry hpoll
  have hmember (name : String) {value : Json} {before cs : List Char} (hbefore : Blanks before)
      (h : Form value cs) :=
    MemberForm.intro hbefore (contentForm_renderContent name) blanks_nil blanks_nil h
  have hseven : Form (.natural 7) ['7'] := .number (@NumberForm.natural ['7'] (by decide))
  have hmore : Form (.array [.number ['1', 'e', '9'], .object []])
      ['[', '1', 'e', '9', ',', '\x7b', '\x7d', ']'] :=
    .array (.cons blanks_nil (.number (@NumberForm.unsigned ['1'] [] _ (by decide) .absent
      (@Exponent.present 'e' [] ['9'] (.inl rfl) (.inl rfl) (by decide)) (by decide)))
        blanks_nil (.last blanks_nil (.emptyObject blanks_nil) blanks_nil))
  have hunits : UnitsForm [0x41] ['\\', 'u', '0', '0', '4', '1'] :=
    .cons (@UnitForm.quad '0' '0' '4' '1' 0 0 4 1 (by decide) (by decide) (by decide) (by decide)) .nil
  have hletter : Denotes [0x41] "A".toList := .single 'A' .nil
  have hpassword := Form.string (.text hunits hletter)
  have hpartial : Spells
      " \x7b\"max_query_size\":7,\n\"more\":[1e9,\x7b\x7d],\"password\":\"\\u0041\"\x7d " (.object _) :=
    ⟨[' '], _, [' '], by decide, .object (.cons (hmember "max_query_size" blanks_nil hseven) blanks_nil
      (.cons (@hmember "more" _ ['\n'] _ (by decide) hmore) blanks_nil
        (.last (hmember "password" blanks_nil hpassword) blanks_nil))), by decide, by decide +kernel⟩
  have hempty := Form.string (@ContentForm.text "" [] [] .nil .nil)
  have hone : Form (.natural 1) ['1'] := .number (@NumberForm.natural ['1'] (by decide))
  have htwice : Spells "\x7b\"port\":1,\"port\":\"\"\x7d" (.object _) :=
    ⟨[], _, [], blanks_nil, .object (.cons (hmember "port" blanks_nil hone) blanks_nil
      (.last (hmember "port" blanks_nil hempty) blanks_nil)), blanks_nil, by decide +kernel⟩
  have hread := hgiven _ [.maxQuerySize, .password] _ hpartial
    (.known (by decide) (.unknown _ (Setting.ofName?_eq_none_iff.mp (by decide))
      (.known (by decide) .nil)))
  exact ⟨⟨hretry, hpoll⟩, hown, hread.read, hrepeated _ _ htwice .port (by decide)⟩

end Config

end SqlWire
