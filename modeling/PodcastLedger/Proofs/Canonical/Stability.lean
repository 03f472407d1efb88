import PodcastLedger.Proofs.Canonical.Addresses

/-!
# Canonical forms of canonical forms

A canonical form is its own canonical form, and calls for no rewrite, exactly if the host in it is
settled: `canonical_stays_iff`. The rest of an address never changes a second time. The host of a
text is settled if what the text says there is regular (`settled_of_regular_host`), and then a
client that takes over all rewrites is told of no more (`rewrites_canonical_all`).
-/

namespace PodcastLedger.Web

variable {raw : List Char} {address other : Address}

/-! ## The host of a text -/

/-- Where the host stands in a text that a client sent. -/
def hostText? (raw : List Char) : Option (List Char) :=
  Address.hostText? (withScheme (Text.trim raw))

/-- The text has a regular name, or none, in the place of its host. -/
def HasRegularHost (raw : List Char) : Prop :=
  ∀ host ∈ hostText? raw, ∀ name ∈ Percent.decode? host, ∀ labels ∈ DomainName.labelsOf? name,
    DomainName.Regular name labels

/-- In the place of its host the text has ASCII characters other than percent signs, and no label in
Punycode. -/
def HasPlainHost (raw : List Char) : Prop :=
  ∃ host, hostText? raw = some host ∧ DomainName.IsAscii host ∧ '%' ∉ host ∧
    ∀ labels ∈ DomainName.labelsOf? host, ∀ label ∈ labels,
      DomainName.encodedPrefix.isPrefixOf? label = none

/-- A text stands for an address that can be read again, and its host is read from its place. -/
theorem address_ok (haddress : address? raw = some address) :
    address.IsRead ∧ address.authority.host ≠ .name [] ∧
      ∃ host, hostText? raw = some host ∧ Host.parse host = .ok address.authority.host := by
  unfold address? at haddress
  dsimp only at haddress
  split at haddress
  · cases haddress
  · split at haddress
    · next found hparse =>
        split at haddress
        · cases haddress
        · next hnamed =>
            obtain rfl := Option.some.inj haddress
            obtain ⟨hread, hhost⟩ := Address.parse_ok hparse
            exact ⟨hread, hnamed, hhost⟩
    · cases haddress

/-- The host of a text is settled if the text has a regular name there, or none. -/
theorem settled_of_regular_host (haddress : address? raw = some address)
    (hregular : HasRegularHost raw) : address.authority.host.IsSettled := by
  obtain ⟨_, _, host, hhost, hparse⟩ := address_ok haddress
  rcases Host.parse_ok hparse with ⟨ipv6, hipv6, _⟩ | ⟨name, ascii, hname, hascii, hofAscii⟩
  · rw [hipv6]
    trivial
  · obtain ⟨_, ⟨hfound, _⟩ | ⟨ipv4, hfound, _⟩⟩ := Host.of_ascii_ok hofAscii
    · obtain ⟨labels, _, hlabels, _, _⟩ := DomainName.to_ascii_eq_some_iff.mp hascii
      rw [hfound]
      exact DomainName.settled_of_regular hascii hlabels
        (hregular host hhost name hname labels hlabels)
    · rw [hfound]
      trivial

/-! ## The second reading -/

/-- A written address stands for the same address but for its host. -/
theorem address_to_text (hread : address.IsRead) (hnamed : address.authority.host ≠ .name []) :
    address? address.toText = some other ↔
      ∃ host, Host.parse address.authority.host.toText = .ok host ∧ host ≠ .name [] ∧
        other = address.withHost host := by
  have hpresent : address.toText ≠ [] := by
    rw [Address.to_text_eq]
    cases address.scheme <;> exact List.cons_ne_nil _ _
  have hparse := Address.parse_to_text hread hnamed
  unfold address?
  dsimp only
  rw [Address.trim_to_text hread, Address.with_scheme_to_text, if_neg hpresent, hparse]
  -- The second reading can fail, or find another host, only at the host.
  cases Host.parse address.authority.host.toText with
  | error fault => exact ⟨nofun, nofun⟩
  | ok host =>
      show (if host = .name [] then none else some (address.withHost host)) = some other ↔ _
      constructor
      · intro h
        split at h
        · cases h
        · next hname => exact ⟨host, rfl, hname, (Option.some.inj h).symm⟩
      · rintro ⟨_, hhost, hname, rfl⟩
        obtain rfl := Except.ok.inj hhost
        exact if_neg hname

/-- Another host is written differently if at all. -/
theorem to_text_with_host {host : Host} (hsame : (address.withHost host).toText = address.toText) :
    host.toText = address.authority.host.toText := by
  rw [Address.to_text_eq, Address.to_text_eq] at hsame
  have hhierarchy := List.append_cancel_left hsame
  simp only [List.cons.injEq, true_and] at hhierarchy
  have hauthority := List.append_cancel_right hhierarchy
  rw [Authority.to_text_eq, Authority.to_text_eq] at hauthority
  exact List.append_cancel_right (List.append_cancel_left hauthority)

/-- A canonical form is its own canonical form exactly if its host is settled. -/
theorem canonical_iff_settled (haddress : address? raw = some address) :
    canonical? (String.ofList address.toText) = some (String.ofList address.toText) ↔
      address.authority.host.IsSettled := by
  obtain ⟨hread, hnamed, host, _, hparse⟩ := address_ok haddress
  obtain ⟨hforward, hbackward⟩ := Host.written_iff hparse
  unfold canonical?
  rw [String.toList_ofList]
  constructor
  · intro hcanonical
    obtain ⟨other, hother, htext⟩ := Option.map_eq_some_iff.mp hcanonical
    obtain ⟨host, hhost, _, rfl⟩ := (address_to_text hread hnamed).mp hother
    exact hbackward ⟨host, hhost, to_text_with_host (String.ofList_injective htext)⟩
  · intro hsettled
    rw [(address_to_text hread hnamed).mpr ⟨_, hforward hsettled, hnamed, rfl⟩]
    rfl

/-- There is nothing to change exactly in a canonical form. -/
theorem rewrite_eq_none_iff {url : String} : rewrite? url = none ↔ canonical? url = some url := by
  unfold rewrite?
  cases canonical? url with
  | none => exact ⟨nofun, nofun⟩
  | some found =>
      dsimp only
      split
      · next hsame => exact ⟨fun _ => by rw [hsame], fun _ => rfl⟩
      · next hother => exact ⟨nofun, fun h => absurd (Option.some.inj h) hother⟩

/-! ## Regular hosts -/

/-- The canonical form of a text with a regular host is its own. -/
theorem canonical_of_regular {raw url : String} (hcanonical : canonical? raw = some url)
    (hregular : HasRegularHost raw.toList) : canonical? url = some url := by
  obtain ⟨address, haddress, rfl⟩ := Option.map_eq_some_iff.mp hcanonical
  exact (canonical_iff_settled haddress).mpr (settled_of_regular_host haddress hregular)

/-- A plain host is regular. -/
theorem regular_of_plain_host (hplain : HasPlainHost raw) : HasRegularHost raw := by
  obtain ⟨host, hhost, hascii, hpercent, hlabels⟩ := hplain
  intro found hfound name hname labels hread
  rw [hhost] at hfound
  obtain rfl := Option.some.inj hfound
  rw [Percent.decode_of_plain hpercent] at hname
  obtain rfl := Option.some.inj hname
  exact DomainName.regular_of_ascii hascii hread (hlabels labels hread)

/-! ## Lists of addresses -/

/-- A text in front of an ascending list goes to its front. -/
theorem insert_text_of_lt {text : String} {texts : List String}
    (hlt : ∀ other ∈ texts, text < other) : insertText text texts = text :: texts := by
  cases texts with
  | nil => rfl
  | cons next rest => exact if_pos (hlt next List.mem_cons_self)

/-- A strictly ascending list is its own list of distinct texts. -/
theorem distinct_texts_of_ascending {texts : List String} (hascending : texts.Pairwise (· < ·)) :
    distinctTexts texts = texts := by
  induction hascending with
  | nil => rfl
  | cons hfirst _ ih =>
      show insertText _ (distinctTexts _) = _
      rw [ih, insert_text_of_lt hfirst]

/-- The canonical forms of texts with regular hosts are their own canonical forms. -/
theorem canonical_of_mem_all {raws : List String}
    (hregular : ∀ raw ∈ raws, HasRegularHost raw.toList) :
    ∀ url ∈ canonicalAll raws, canonical? url = some url := by
  intro url hmem
  obtain ⟨raw, hraw, hcanonical⟩ := List.mem_filterMap.mp (mem_distinctTexts.mp hmem)
  exact canonical_of_regular hcanonical (hregular raw hraw)

/-- A client that takes over the canonical forms of its addresses is told of no more rewrites. -/
theorem rewrites_canonical_all {raws : List String}
    (hregular : ∀ raw ∈ raws, HasRegularHost raw.toList) :
    rewrites (canonicalAll raws) = [] :=
  List.filterMap_eq_nil_iff.mpr fun url hmem =>
    rewrite_eq_none_iff.mpr (canonical_of_mem_all hregular url hmem)

/-- The canonical forms of a list are kept when they are sent again. -/
theorem canonical_all_canonical_all {raws : List String}
    (hregular : ∀ raw ∈ raws, HasRegularHost raw.toList) :
    canonicalAll (canonicalAll raws) = canonicalAll raws := by
  have hkept : (canonicalAll raws).filterMap canonical? = canonicalAll raws := by
    rw [List.filterMap_congr (canonical_of_mem_all hregular), List.filterMap_some]
  show distinctTexts ((canonicalAll raws).filterMap canonical?) = _
  rw [hkept]
  exact distinct_texts_of_ascending (pairwise_distinctTexts _)

/-! ## Canonical forms -/

/-- A canonical form is its own canonical form, and calls for no rewrite, exactly if its host is
settled. Nothing but the host changes otherwise, and regular names are settled, such as plain ones.
A client that takes over the canonical forms of addresses with regular names is told of no rewrite
when it sends them again, and they are kept as they are. -/
theorem canonical_stays_iff {raw url : String} (hcanonical : canonical? raw = some url) :
    (∃ address, address? raw.toList = some address ∧ url = String.ofList address.toText ∧
      (canonical? url = some url ↔ address.authority.host.IsSettled) ∧
      (rewrite? url = none ↔ address.authority.host.IsSettled) ∧
      (∀ other, address? url.toList = some other → ∃ host, other = address.withHost host) ∧
      (HasRegularHost raw.toList → address.authority.host.IsSettled)) ∧
    (HasRegularHost raw.toList → canonical? url = some url) ∧
    (HasPlainHost raw.toList → HasRegularHost raw.toList) ∧
    ∀ raws : List String, (∀ raw ∈ raws, HasRegularHost raw.toList) →
      rewrites (canonicalAll raws) = [] ∧
        canonicalAll (canonicalAll raws) = canonicalAll raws := by
  refine ⟨?_, canonical_of_regular hcanonical, regular_of_plain_host, fun raws hregular =>
    ⟨rewrites_canonical_all hregular, canonical_all_canonical_all hregular⟩⟩
  obtain ⟨address, haddress, rfl⟩ := Option.map_eq_some_iff.mp hcanonical
  obtain ⟨hread, hnamed, _⟩ := address_ok haddress
  have hsettled := canonical_iff_settled haddress
  refine ⟨address, haddress, rfl, hsettled, rewrite_eq_none_iff.trans hsettled, ?_,
    settled_of_regular_host haddress⟩
  intro other hother
  rw [String.toList_ofList] at hother
  obtain ⟨host, _, _, hsame⟩ := (address_to_text hread hnamed).mp hother
  exact ⟨host, hsame⟩

/-- The canonical form of an address with a user, a usual port, levels, a blank and a fragment stays
as it is exactly if its host is settled, as its plain host is. -/
theorem canonical_stays_below_levels :
    let raw := " User@Example.COM:80/shows/../feed 1?q=é#top"
    let url := "http://User@example.com/feed%201?q=%C3%A9"
    canonical? raw = some url ∧
      (∃ address, address? raw.toList = some address ∧ url = String.ofList address.toText ∧
        (canonical? url = some url ↔ address.authority.host.IsSettled) ∧
        (rewrite? url = none ↔ address.authority.host.IsSettled) ∧
        (∀ other, address? url.toList = some other → ∃ host, other = address.withHost host) ∧
        (HasRegularHost raw.toList → address.authority.host.IsSettled)) ∧
      HasPlainHost raw.toList ∧ canonical? url = some url ∧ rewrites (canonicalAll [raw]) = [] := by
  intro raw url
  have hcanonical : canonical? raw = some url := by decide +kernel
  obtain ⟨hstays, hregular, hplain, hlists⟩ := canonical_stays_iff hcanonical
  have hlabels : DomainName.labelsOf? "Example.COM".toList =
      some ["example".toList, "com".toList] := by
    decide +kernel
  have hascii : ∀ c ∈ "Example.COM".toList, c.toNat < 0x80 := forall_mem_of_all (by decide)
  have hhost : HasPlainHost raw.toList := by
    refine ⟨"Example.COM".toList, by decide +kernel, hascii, by decide, ?_⟩
    rw [hlabels]
    rintro labels ⟨⟩
    decide
  have hraws : ∀ other ∈ [raw], HasRegularHost other.toList := by
    rintro other hmem
    rw [List.mem_singleton.mp hmem]
    exact hplain hhost
  exact ⟨hcanonical, hstays, hhost, hregular (hplain hhost), (hlists [raw] hraws).1⟩

/-- A label in Punycode may stand for an ASCII label that begins like one. Such a canonical form is
not its own. -/
theorem canonical_form_dropped :
    ¬ ∀ raw url, canonical? raw = some url → canonical? url = some url := by
  intro hstays
  have hagain := hstays "http://xn--xn--!-/" "http://xn--!/" (by decide +kernel)
  have hdropped : canonical? "http://xn--!/" = none := by decide +kernel
  rw [hdropped] at hagain
  cases hagain

end PodcastLedger.Web
