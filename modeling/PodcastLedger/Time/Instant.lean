/-!
# Instants

A point in time is a number of seconds since 1970 together with nanoseconds, of which a leap second
has more than a full second. The store keeps whole microseconds, counted from the year 2000 and cut
off toward that year: `Instant.stored`. Main statements: storing twice is storing once
(`Instant.stored_stored`), and storing never reverses an order, leap seconds aside
(`Instant.stored_mono`).
-/

namespace PodcastLedger

/-- A point in time: seconds since the start of 1970, and nanoseconds. From 10⁹ on the nanoseconds
are those of a leap second. -/
structure Instant where
  seconds : Int
  nanos : Nat
  nanos_lt : nanos < 2000000000
  deriving DecidableEq

namespace Instant

/-- The place of an instant in the order of time. -/
def key (instant : Instant) : Int :=
  instant.seconds * 2000000000 + instant.nanos

/-- An instant is earlier than another one by its place in time. -/
instance : LT Instant := ⟨fun first second => first.key < second.key⟩

/-- An instant is not later than another one by its place in time. -/
instance : LE Instant := ⟨fun first second => first.key ≤ second.key⟩

/-- Which of two instants is earlier is a comparison of numbers. -/
instance (first second : Instant) : Decidable (first < second) :=
  inferInstanceAs (Decidable (first.key < second.key))

/-- So is which of them is not later. -/
instance (first second : Instant) : Decidable (first ≤ second) :=
  inferInstanceAs (Decidable (first.key ≤ second.key))

/-- Earlier is at an earlier place. -/
theorem lt_def {first second : Instant} : first < second ↔ first.key < second.key := Iff.rfl

/-- Not later is at no later place. -/
theorem le_def {first second : Instant} : first ≤ second ↔ first.key ≤ second.key := Iff.rfl

/-- Instants at the same place are the same. -/
theorem key_inj {first second : Instant} : first.key = second.key ↔ first = second := by
  constructor
  · intro hkey
    obtain ⟨seconds, nanos, hnanos⟩ := first
    obtain ⟨seconds', nanos', hnanos'⟩ := second
    simp only [key] at hkey
    obtain rfl : seconds = seconds' := by omega
    obtain rfl : nanos = nanos' := by omega
    rfl
  · rintro rfl
    rfl

/-- The start of a second. -/
def ofUnix (seconds : Int) : Instant :=
  ⟨seconds, 0, by decide⟩

/-- The start of 1970, which a podcast carries that was never subscribed to. -/
def epoch : Instant :=
  ofUnix 0

/-- The instant of a number of microseconds since the start of 1970. -/
def ofMicros (micros : Int) : Instant :=
  ⟨micros / 1000000, (micros % 1000000).toNat * 1000, by omega⟩

/-- The start of the year 2000 in seconds since 1970. -/
def storeOrigin : Int := 946684800

/-- The microseconds since 1970 that the store keeps of an instant: nanoseconds are cut off toward
the year 2000. -/
def storedMicros (instant : Instant) : Int :=
  ((instant.seconds - storeOrigin) * 1000000000 + instant.nanos).tdiv 1000 + storeOrigin * 1000000

/-- An instant as it is read back from the store. -/
def stored (instant : Instant) : Instant :=
  ofMicros instant.storedMicros

/-- The store has no dates before 4713 BC. -/
def IsStorable (instant : Instant) : Prop :=
  -210866803200 * 1000000 ≤ instant.storedMicros

/-- Whether an instant can be stored is one comparison. -/
instance (instant : Instant) : Decidable instant.IsStorable :=
  inferInstanceAs (Decidable (_ ≤ _))

/-- The last second that can be represented, at the end of the year 262142. -/
def lastSecond : Int := 8210266876799

/-- The store keeps a whole number of microseconds as it is. -/
@[simp] theorem storedMicros_ofMicros (micros : Int) : (ofMicros micros).storedMicros = micros := by
  simp only [storedMicros, ofMicros, storeOrigin, Int.tdiv_eq_ediv]
  split <;> omega

/-- What was read back from the store is stored as it is. -/
@[simp] theorem stored_stored (instant : Instant) : instant.stored.stored = instant.stored := by
  simp [stored]

/-- Whole microseconds come in the order of their numbers. -/
theorem key_ofMicros_lt {first second : Int} :
    (ofMicros first).key < (ofMicros second).key ↔ first < second := by
  simp only [key, ofMicros]
  omega

/-- Storing never reverses the order of instants whose nanoseconds make no leap second. -/
theorem stored_mono {first second : Instant} (hfirst : first.nanos < 1000000000)
    (hle : first ≤ second) : first.stored ≤ second.stored := by
  have hmicros : first.storedMicros ≤ second.storedMicros := by
    obtain ⟨seconds, nanos, hnanos⟩ := first
    obtain ⟨seconds', nanos', hnanos'⟩ := second
    have hsign : Int.sign 1000 = 1 := rfl
    simp only [le_def, key, storedMicros, storeOrigin, Int.tdiv_eq_ediv, hsign] at *
    split <;> split <;> omega
  exact Int.not_lt.mp fun hlt => Int.not_lt.mpr hmicros (key_ofMicros_lt.mp hlt)

/-- The first second of the calendar of the store can be stored, and so can all later times. -/
theorem storable_of_le {time : Instant} (hle : ofUnix (-210866803200) ≤ time) :
    time.IsStorable := by
  obtain ⟨seconds, nanos, hnanos⟩ := time
  have hsign : Int.sign 1000 = 1 := rfl
  simp only [le_def, key, ofUnix] at hle
  simp only [IsStorable, storedMicros, storeOrigin, Int.tdiv_eq_ediv, hsign]
  split <;> omega

end Instant

end PodcastLedger
