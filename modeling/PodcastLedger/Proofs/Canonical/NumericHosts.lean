import PodcastLedger.Proofs.Canonical.Numerals
import PodcastLedger.Proofs.Canonical.Texts
import PodcastLedger.Web.Ipv4

/-!
# Written IPv4 addresses

An IPv4 address that is written as four decimal numbers and read again is the same:
`Ipv4.parse_to_text`. What is read has 32 bits (`Ipv4.value_lt_of_parse`), so the four numbers hold
all of it.
-/

namespace PodcastLedger.Web.Ipv4

variable {address : Ipv4} {host : List Char}

/-- A number in decimal is a part with that value: it does not look like an octal or hexadecimal
one. -/
theorem part_value_of_to_digits (number : Nat) :
    partValue? (Nat.toDigits 10 number) = some number := by
  have hread := Text.number_of_to_digits (by decide : 1 < 10) (by decide) number
  rcases Nat.eq_zero_or_pos number with rfl | hpos
  · rfl
  · have hhead := Text.head_to_digits hpos
    cases hdigits : Nat.toDigits 10 number with
    | nil => exact absurd hdigits Nat.toDigits_ne_nil
    | cons c rest =>
        rw [hdigits] at hread hhead
        have hzero : c ≠ '0' := by simpa using hhead
        unfold partValue?
        split
        · next hnil => cases hnil
        · next hcons => exact absurd (List.cons.inj hcons).1 hzero
        · next hcons => exact absurd (List.cons.inj hcons).1 hzero
        · next hcons => exact absurd (List.cons.inj hcons).1 hzero
        · exact hread

/-- The numbers of an address have no dots. -/
theorem dot_not_mem_to_digits (number : Nat) : '.' ∉ Nat.toDigits 10 number := by
  intro hmem
  obtain ⟨value, hvalue, hdot⟩ := Text.exists_of_mem_to_digits (by decide) hmem
  have hall : ∀ value ∈ List.range 10, '.' ≠ Nat.digitChar value := by decide
  exact hall value (List.mem_range.mpr hvalue) hdot

/-- Decimal numbers between dots are the parts of a host. -/
theorem parts_of_numbers {numbers : List Nat} (hnumbers : numbers ≠ []) :
    parts (['.'].intercalate (numbers.map (Nat.toDigits 10))) = numbers.map (Nat.toDigits 10) := by
  have hsplit : (['.'].intercalate (numbers.map (Nat.toDigits 10))).splitOn '.' =
      numbers.map (Nat.toDigits 10) := by
    refine List.splitOn_intercalate '.' ?_ (by simpa using hnumbers)
    exact List.forall_mem_map.mpr fun number _ => dot_not_mem_to_digits number
  unfold parts
  rw [hsplit]
  refine if_neg fun hlast => ?_
  obtain ⟨number, _, hempty⟩ := List.mem_map.mp (List.mem_of_getLast? hlast)
  exact Nat.toDigits_ne_nil hempty

/-- Decimal numbers are read as parts. -/
theorem map_part_value (numbers : List Nat) :
    (numbers.map (Nat.toDigits 10)).mapM partValue? = some numbers := by
  induction numbers with
  | nil => rfl
  | cons number rest ih =>
      rw [List.map_cons, List.mapM_cons, part_value_of_to_digits, ih]
      rfl

/-- The sum of the leading parts, each moved to the byte of its place, and the last part. -/
def weigh (leading : List Nat) (last : Nat) : Nat :=
  leading.zipIdx.foldl (fun sum (part, place) => sum + part <<< (8 * (3 - place))) last

/-- Three leading parts are weighed one by one. -/
theorem weigh_three (first second third last : Nat) :
    weigh [first, second, third] last =
      last + first <<< 24 + second <<< 16 + third <<< 8 := rfl

/-- The last part fills the bytes that remain, and the other parts are bytes. -/
def Fits (leading : List Nat) (last : Nat) : Prop :=
  last < 1 <<< (8 * (4 - leading.length)) ∧ ∀ part ∈ leading, part < 256

/-- Parts that fit make up an address. -/
theorem of_parts_of_fits {leading : List Nat} {last : Nat} (hfits : Fits leading last) :
    ofParts leading last = .ok ⟨weigh leading last⟩ :=
  if_pos hfits

/-- Four bytes are read as the address that they make up. -/
theorem parse_numbers {first second third fourth : Nat} (hfirst : first < 256)
    (hsecond : second < 256) (hthird : third < 256) (hfourth : fourth < 256) :
    parse (['.'].intercalate ([first, second, third, fourth].map (Nat.toDigits 10))) =
      .ok (some ⟨weigh [first, second, third] fourth⟩) := by
  have hsplit := parts_of_numbers (List.cons_ne_nil first [second, third, fourth])
  have hread := map_part_value [first, second, third, fourth]
  have hlength : ([first, second, third, fourth].map (Nat.toDigits 10)).length ≤ 4 := by simp
  have hfits : Fits [first, second, third] fourth := by
    simp [Fits, hfirst, hsecond, hthird, hfourth]
  unfold parse
  simp only [hsplit, if_pos hlength, hread]
  show (ofParts [first, second, third] fourth).map some = _
  rw [of_parts_of_fits hfits]
  rfl

/-- An address that is written and read again is the same. -/
theorem parse_to_text (hvalue : address.value < 0x100000000) :
    parse address.toText = .ok (some address) := by
  have hbyte : ∀ number, number % 256 < 256 := fun number => Nat.mod_lt number (by decide)
  have hread := parse_numbers (hbyte (address.value >>> 24)) (hbyte (address.value >>> 16))
    (hbyte (address.value >>> 8)) (hbyte (address.value >>> 0))
  have hsum : weigh [address.value >>> 24 % 256, address.value >>> 16 % 256,
      address.value >>> 8 % 256] (address.value >>> 0 % 256) = address.value := by
    rw [weigh_three]
    omega
  rw [hsum] at hread
  exact hread

/-- Parts that fit weigh less than 32 bits allow. -/
theorem weigh_lt {leading : List Nat} {last : Nat} (hleading : leading.length ≤ 3)
    (hfits : Fits leading last) : weigh leading last < 0x100000000 := by
  obtain ⟨hlast, hbytes⟩ := hfits
  -- The last part has the bits below those of the leading parts.
  rcases leading with _ | ⟨first, _ | ⟨second, _ | ⟨third, _ | ⟨fourth, rest⟩⟩⟩⟩
  · exact hlast
  · have hsum : weigh [first] last = last + first <<< 24 := rfl
    have hsmall : last < 1 <<< 24 := hlast
    simp only [List.forall_mem_cons] at hbytes
    rw [hsum]
    omega
  · have hsum : weigh [first, second] last = last + first <<< 24 + second <<< 16 := rfl
    have hsmall : last < 1 <<< 16 := hlast
    simp only [List.forall_mem_cons] at hbytes
    rw [hsum]
    omega
  · have hsmall : last < 1 <<< 8 := hlast
    simp only [List.forall_mem_cons] at hbytes
    rw [weigh_three]
    omega
  · simp only [List.length_cons] at hleading
    omega

/-- The value of parts has 32 bits. -/
theorem value_lt_of_parts {leading : List Nat} {last : Nat} (hleading : leading.length ≤ 3)
    (hparts : ofParts leading last = .ok address) : address.value < 0x100000000 := by
  unfold ofParts at hparts
  split at hparts
  · next hfits =>
      obtain rfl := Except.ok.inj hparts
      exact weigh_lt hleading hfits
  · cases hparts

/-- An address that is read has 32 bits. -/
theorem value_lt_of_parse (hparse : parse host = .ok (some address)) :
    address.value < 0x100000000 := by
  unfold parse at hparse
  dsimp only at hparse
  split at hparse
  · cases hparse
  · next values hvalues =>
      split at hvalues
      · next hfour =>
          split at hparse
          · cases hparse
          · next last hlast =>
              have hlength : (parts host).length = values.length :=
                (map_m_eq_some_iff.mp hvalues).length_eq
              cases hparts : ofParts values.dropLast last with
              | error fault =>
                  rw [hparts] at hparse
                  cases hparse
              | ok read =>
                  rw [hparts] at hparse
                  obtain rfl : read = address := Option.some.inj (Except.ok.inj hparse)
                  refine value_lt_of_parts ?_ hparts
                  rw [List.length_dropLast]
                  omega
      · cases hvalues

/-- The written form of an address consists of decimal digits and dots. -/
theorem of_mem_to_text {c : Char} (hmem : c ∈ address.toText) :
    c = '.' ∨ ∃ value < 10, c = Nat.digitChar value := by
  rcases of_mem_intercalate hmem with hdot | ⟨part, hpart, hc⟩
  · exact .inl hdot
  · obtain ⟨shift, _, rfl⟩ := List.mem_map.mp hpart
    exact .inr (Text.exists_of_mem_to_digits (by decide) hc)

end PodcastLedger.Web.Ipv4
