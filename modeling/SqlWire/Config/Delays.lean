import SqlWire.Config

/-!
# Delays as spans of time

A caller gives the two delays as spans of time, and a configuration keeps each as a
count of milliseconds. What a span has beyond its last full millisecond is dropped,
and what the count has beyond 64 bits.
-/

set_option autoImplicit false

namespace SqlWire

/-- A span of time: full seconds, and nanoseconds that make no second. -/
structure Duration where
  seconds : UInt64
  nanoseconds : UInt32
  below : nanoseconds.toNat < 1000000000
deriving DecidableEq, Repr

namespace Duration

/-- How many full milliseconds there are. -/
def millis (d : Duration) : Nat :=
  d.seconds.toNat * 1000 + d.nanoseconds.toNat / 1000000

/-- The count of milliseconds as it is kept, without what is beyond 64 bits. -/
def toMillis (d : Duration) : UInt64 :=
  UInt64.ofNat d.millis

/-- The span of as many milliseconds. -/
def ofMillis (n : UInt64) : Duration where
  seconds := n / 1000
  nanoseconds := UInt32.ofNat (n.toNat % 1000 * 1000000)
  below := by
    rw [UInt32.toNat_ofNat_of_lt' (by simp only [UInt32.size]; omega)]
    omega

/-- The span is a number of milliseconds that 64 bits can hold. Spans of another
kind lose something when they are kept. -/
structure IsMillis (d : Duration) : Prop where
  whole : d.nanoseconds.toNat % 1000000 = 0
  fits : d.millis < UInt64.size

/-- Nothing of such a span is dropped. -/
theorem ofMillis_toMillis {d : Duration} (h : d.IsMillis) : ofMillis d.toMillis = d := by
  obtain ⟨seconds, nanoseconds, below⟩ := d
  obtain ⟨hwhole, hfits⟩ := h
  have hkept : (toMillis ⟨seconds, nanoseconds, below⟩).toNat
      = seconds.toNat * 1000 + nanoseconds.toNat / 1000000 := UInt64.toNat_ofNat_of_lt' hfits
  -- The count splits into its thousands and the rest, and with no part of a millisecond lost the
  -- rest gives the nanoseconds back.
  have hseconds : toMillis ⟨seconds, nanoseconds, below⟩ / 1000 = seconds := by
    rw [← UInt64.toNat_inj, UInt64.toNat_div, hkept]
    show (_ / 1000 : Nat) = _
    omega
  have hnanoseconds : UInt32.ofNat ((toMillis ⟨seconds, nanoseconds, below⟩).toNat % 1000 * 1000000)
      = nanoseconds := by
    rw [hkept, show (seconds.toNat * 1000 + nanoseconds.toNat / 1000000) % 1000 * 1000000
      = nanoseconds.toNat by dsimp only at hwhole; omega, UInt32.ofNat_toNat]
  simp only [ofMillis, hseconds, hnanoseconds]

end Duration

namespace Config

/-- The configuration with its two delays as a caller gives them. -/
def withDelays (c : Config) (retry poll : Duration) : Config :=
  { c with connectRetryDelay := retry.toMillis, readPollInterval := poll.toMillis }

/-- How long is waited between two attempts to connect. -/
def retryDelay (c : Config) : Duration :=
  .ofMillis c.connectRetryDelay

/-- How long is waited between two polls. -/
def pollInterval (c : Config) : Duration :=
  .ofMillis c.readPollInterval

variable {c : Config} {retry poll : Duration}

/-- A delay between attempts that is a number of milliseconds is kept as it is
given. -/
theorem retryDelay_withDelays (h : retry.IsMillis) : (c.withDelays retry poll).retryDelay = retry :=
  Duration.ofMillis_toMillis h

/-- So is an interval between polls. -/
theorem pollInterval_withDelays (h : poll.IsMillis) : (c.withDelays retry poll).pollInterval = poll :=
  Duration.ofMillis_toMillis h

end Config

end SqlWire
