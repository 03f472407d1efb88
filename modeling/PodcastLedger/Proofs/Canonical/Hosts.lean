import PodcastLedger.Proofs.Canonical.BracketedHosts
import PodcastLedger.Proofs.Canonical.DomainNames
import PodcastLedger.Proofs.Canonical.Escapes
import PodcastLedger.Proofs.Canonical.NumericHosts
import PodcastLedger.Web.Host

/-!
# Written hosts

A host that is written and read again is written as before exactly if it is settled
(`Host.written_iff`). Addresses are settled, and a name is if it is its own ASCII form.
-/

namespace PodcastLedger.Web.Host

variable {host : Host} {text raw : List Char}

/-- A second reading of the host finds nothing to change. -/
def IsSettled : Host → Prop
  | .name text => DomainName.IsSettled text
  | .ipv4 _ => True
  | .ipv6 _ => True

/-! ## What is read -/

/-- A host in brackets is an IPv6 address. -/
theorem bracketed_ok (hparse : parseBracketed text = .ok host) :
    ∃ address, host = .ipv6 address ∧ address.Fits := by
  unfold parseBracketed at hparse
  split at hparse
  · cases haddress : Ipv6.parse text.dropLast with
    | error fault =>
        rw [haddress] at hparse
        cases hparse
    | ok address =>
        rw [haddress] at hparse
        exact ⟨address, (Except.ok.inj hparse).symm, Ipv6.fits_of_parse haddress⟩
  · cases hparse

/-- The ASCII form of a name is a name without forbidden characters or an IPv4 address. -/
theorem of_ascii_ok (hparse : ofAscii text = .ok host) :
    text.any isForbidden = false ∧
      (host = .name text ∧ Ipv4.parse text = .ok none ∨
        ∃ address, host = .ipv4 address ∧ Ipv4.parse text = .ok (some address)) := by
  unfold ofAscii at hparse
  split at hparse
  · cases hparse
  · next hallowed =>
      refine ⟨Bool.eq_false_iff.mpr hallowed, ?_⟩
      cases haddress : Ipv4.parse text with
      | error fault =>
          rw [haddress] at hparse
          cases hparse
      | ok found =>
          rw [haddress] at hparse
          cases found with
          | none => exact .inl ⟨(Except.ok.inj hparse).symm, rfl⟩
          | some address => exact .inr ⟨address, (Except.ok.inj hparse).symm, rfl⟩

/-- A host that is read is an IPv6 address or comes from the ASCII form of a name. -/
theorem parse_ok (hparse : parse raw = .ok host) :
    (∃ address, host = .ipv6 address ∧ address.Fits) ∨
      ∃ name ascii, Percent.decode? raw = some name ∧ DomainName.toAscii? name = some ascii ∧
        ofAscii ascii = .ok host := by
  unfold parse at hparse
  split at hparse
  · exact .inl (bracketed_ok hparse)
  · split at hparse
    · next ascii hascii =>
        obtain ⟨name, hname, hascii⟩ := Option.bind_eq_some_iff.mp hascii
        exact .inr ⟨name, ascii, hname, hascii, hparse⟩
    · cases hparse

/-- The text of a name that is read. -/
structure IsName (text : List Char) : Prop where
  plain : ∀ c ∈ text, DomainName.IsPlain c
  allowed : text.any isForbidden = false
  not_numeric : Ipv4.parse text = .ok none

/-- What is read is a name with these properties, an IPv4 address of 32 bits or an IPv6 address of
eight groups. -/
theorem cases_of_parse (hparse : parse raw = .ok host) :
    (∃ text, host = .name text ∧ IsName text) ∨
      (∃ address, host = .ipv4 address ∧ address.value < 0x100000000) ∨
      ∃ address, host = .ipv6 address ∧ address.Fits := by
  rcases parse_ok hparse with hbracketed | ⟨name, ascii, _, hascii, hhost⟩
  · exact .inr (.inr hbracketed)
  · obtain ⟨hallowed, ⟨rfl, haddress⟩ | ⟨address, rfl, haddress⟩⟩ := of_ascii_ok hhost
    · exact .inl ⟨ascii, rfl, DomainName.plain_of_to_ascii hascii, hallowed, haddress⟩
    · exact .inr (.inl ⟨address, rfl, Ipv4.value_lt_of_parse haddress⟩)

/-- A written host has no forbidden characters but those that set off an IPv6 address. -/
theorem of_mem_to_text (hparse : parse raw = .ok host) {c : Char} (hmem : c ∈ host.toText) :
    isForbidden c = false ∨ c ∈ [':', '[', ']'] := by
  rcases cases_of_parse hparse with ⟨text, rfl, hname⟩ | ⟨address, rfl, _⟩ | ⟨address, rfl, _⟩
  · exact .inl (Bool.eq_false_iff.mpr (List.any_eq_false.mp hname.allowed c hmem))
  · rcases Ipv4.of_mem_to_text hmem with rfl | ⟨value, hvalue, rfl⟩
    · exact .inl (by decide)
    · have hall : ∀ value ∈ List.range 10, isForbidden (Nat.digitChar value) = false := by decide
      exact .inl (hall value (List.mem_range.mpr hvalue))
  · rcases List.mem_cons.mp hmem with rfl | hmem
    · exact .inr (by decide)
    · rcases List.mem_append.mp hmem with hmem | hmem
      · rcases Ipv6.of_mem_to_text hmem with rfl | ⟨value, hvalue, rfl⟩
        · exact .inr (by decide)
        · have hall : ∀ value ∈ List.range 16, isForbidden (Nat.digitChar value) = false := by
            decide
          exact .inl (hall value (List.mem_range.mpr hvalue))
      · obtain rfl := List.mem_singleton.mp hmem
        exact .inr (by decide)

/-- Only the empty name is written as the empty text. -/
theorem to_text_ne_nil (hnamed : host ≠ .name []) : host.toText ≠ [] := by
  cases host with
  | name text =>
      rintro rfl
      exact hnamed rfl
  | ipv4 address =>
      show Ipv4.toText address ≠ []
      simp [Ipv4.toText, List.intercalate_cons_cons]
  | ipv6 address => exact List.cons_ne_nil _ _

/-! ## Reading what is written -/

/-- A text without brackets is read as a name. -/
theorem parse_name (hallowed : text.any isForbidden = false) :
    parse text =
      match DomainName.toAscii? text with
      | some ascii => ofAscii ascii
      | none => .error .internationalName := by
  have hforbidden : ∀ c ∈ text, isForbidden c = false := by
    intro c hmem
    exact Bool.eq_false_iff.mpr (List.any_eq_false.mp hallowed c hmem)
  have hpercent : '%' ∉ text := fun hmem => by cases hforbidden '%' hmem
  unfold parse
  split
  · cases hforbidden '[' List.mem_cons_self
  · rewrite [Percent.decode_of_plain hpercent, Option.bind_some]
    rfl

/-- An IPv6 address is read from its brackets. -/
theorem parse_ipv6 {address : Ipv6} (hfits : address.Fits) :
    parse (Host.ipv6 address).toText = .ok (.ipv6 address) := by
  show parseBracketed (address.toText ++ [']']) = _
  unfold parseBracketed
  rw [if_pos List.getLast?_concat, List.dropLast_concat, Ipv6.parse_to_text hfits]
  rfl

/-- A label of decimal digits is written as it is. -/
theorem rewrite_digits {label : List Char}
    (hdigits : ∀ c ∈ label, ∃ value < 10, c = Nat.digitChar value) :
    DomainName.isRightToLeftLabel label = false ∧
      DomainName.rewriteLabel? false label = some label := by
  have hdigit : ∀ value ∈ List.range 10, DomainName.IsPlain (Nat.digitChar value) ∧
      Nat.digitChar value ≠ '-' ∧ Nat.digitChar value ≠ 'x' := by
    unfold DomainName.IsPlain
    decide
  have hall : ∀ c ∈ label, DomainName.IsPlain c ∧ c ≠ '-' ∧ c ≠ 'x' := by
    intro c hmem
    obtain ⟨value, hvalue, rfl⟩ := hdigits c hmem
    exact hdigit value (List.mem_range.mpr hvalue)
  have hdecoded : DomainName.encodedPrefix.isPrefixOf? label = none := by
    cases label with
    | nil => rfl
    | cons c rest =>
        have hx : ('x' == c) = false :=
          beq_eq_false_iff_ne.mpr (hall c List.mem_cons_self).2.2.symm
        simp [DomainName.encodedPrefix, List.isPrefixOf?, hx]
  have hhyphen : '-' ∉ label := fun hmem => (hall '-' hmem).2.1 rfl
  constructor
  · unfold DomainName.isRightToLeftLabel
    rw [hdecoded]
  · exact DomainName.rewrite_of_plain (fun c hmem => (hall c hmem).1) hdecoded
      (fun hhead => hhyphen (List.mem_of_mem_head? hhead))
      (fun hlast => hhyphen (List.mem_of_getLast? hlast))

/-- A text of decimal digits and dots is its own ASCII form. -/
theorem to_ascii_numeric (hnumeric : ∀ c ∈ text, c = '.' ∨ ∃ value < 10, c = Nat.digitChar value) :
    DomainName.toAscii? text = some text := by
  have hlabels : ∀ label ∈ text.splitOn '.', ∀ c ∈ label,
      ∃ value < 10, c = Nat.digitChar value := by
    intro label hlabel c hmem
    rcases hnumeric c (mem_of_mem_split_on hlabel c hmem) with rfl | hdigit
    · exact absurd hmem (DomainName.dot_not_mem_split hlabel)
    · exact hdigit
  refine (DomainName.to_ascii_iff fun c hmem => ?_).mpr ?_
  · rcases hnumeric c hmem with rfl | ⟨value, hvalue, rfl⟩
    · exact ⟨by decide, by decide⟩
    · have hall : ∀ value ∈ List.range 10, DomainName.IsPlain (Nat.digitChar value) := by
        unfold DomainName.IsPlain
        decide
      exact hall value (List.mem_range.mpr hvalue)
  · have hdirection : (text.splitOn '.').any DomainName.isRightToLeftLabel = false :=
      List.any_eq_false.mpr fun label hlabel => by
        rw [(rewrite_digits (hlabels label hlabel)).1]
        exact Bool.false_ne_true
    unfold DomainName.IsSettled
    rw [hdirection]
    exact fun label hlabel => (rewrite_digits (hlabels label hlabel)).2

/-- An IPv4 address is read from its numbers. -/
theorem parse_ipv4 {address : Ipv4} (hvalue : address.value < 0x100000000) :
    parse (Host.ipv4 address).toText = .ok (.ipv4 address) := by
  have hallowed : address.toText.any isForbidden = false := by
    refine List.any_eq_false.mpr fun c hmem => ?_
    rcases Ipv4.of_mem_to_text hmem with rfl | ⟨value, hvalue, rfl⟩
    · decide
    · have hall : ∀ value ∈ List.range 10, ¬ isForbidden (Nat.digitChar value) = true := by decide
      exact hall value (List.mem_range.mpr hvalue)
  show parse address.toText = _
  rw [parse_name hallowed, to_ascii_numeric fun c => Ipv4.of_mem_to_text]
  show ofAscii address.toText = _
  unfold ofAscii
  rw [if_neg (Bool.eq_false_iff.mp hallowed), Ipv4.parse_to_text hvalue]
  rfl

/-- A host that is written and read again is written as before exactly if it is settled, and is the
same host then. -/
theorem written_iff (hparse : parse raw = .ok host) :
    (host.IsSettled → parse host.toText = .ok host) ∧
      ((∃ other, parse host.toText = .ok other ∧ other.toText = host.toText) →
        host.IsSettled) := by
  rcases cases_of_parse hparse with ⟨text, rfl, hname⟩ | ⟨address, rfl, hvalue⟩ |
    ⟨address, rfl, hfits⟩
  · have hread := parse_name hname.allowed
    constructor
    · intro hsettled
      rw [(DomainName.to_ascii_iff hname.plain).mpr hsettled] at hread
      refine hread.trans ?_
      show ofAscii text = _
      unfold ofAscii
      rw [if_neg (Bool.eq_false_iff.mp hname.allowed), hname.not_numeric]
      rfl
    · rintro ⟨other, hother, hsame⟩
      refine (DomainName.to_ascii_iff hname.plain).mp ?_
      rw [show parse (Host.name text).toText = _ from hread] at hother
      split at hother
      · next ascii hascii =>
          obtain ⟨_, ⟨rfl, _⟩ | ⟨address, rfl, haddress⟩⟩ := of_ascii_ok hother
          · rw [hascii, show ascii = text from hsame]
          -- A name is not the written form of an address, as that would have been read as one.
          · have hnumeric := Ipv4.parse_to_text (Ipv4.value_lt_of_parse haddress)
            rw [show address.toText = text from hsame, hname.not_numeric] at hnumeric
            cases hnumeric
      · cases hother
  · exact ⟨fun _ => parse_ipv4 hvalue, fun _ => trivial⟩
  · exact ⟨fun _ => parse_ipv6 hfits, fun _ => trivial⟩

end PodcastLedger.Web.Host
