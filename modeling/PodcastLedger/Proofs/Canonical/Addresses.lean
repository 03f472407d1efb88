import PodcastLedger.Proofs.Canonical.Authorities
import PodcastLedger.Proofs.Canonical.Paths
import PodcastLedger.Web.Canonical

/-!
# Written addresses

An address that is written and read again is the same but for its host, which is read on its own:
`Address.parse_to_text`. The written form has no blanks to trim, no line ends and no fragment, and
its parts are separated where they were joined.
-/

namespace PodcastLedger.Web

namespace Percent

variable {c : Char}

/-- What a path leaves alone a query leaves alone as well. -/
theorem escaped_in_query_of_path (hpath : isEscapedInPath c = false) :
    isEscapedInQuery c = false :=
  (Bool.or_eq_false_iff.mp hpath).1

/-- What a query leaves alone is visible. -/
theorem visible_of_query (hquery : isEscapedInQuery c = false) :
    0x20 < c.toNat ∧ c.toNat < 0x7F := by
  obtain ⟨hplain, hother⟩ := Bool.or_eq_false_iff.mp hquery
  obtain ⟨hcontrol, hforeign⟩ := Bool.or_eq_false_iff.mp hplain
  have hlow := of_decide_eq_false hcontrol
  have hhigh := of_decide_eq_false hforeign
  have hspace : c.toNat ≠ 0x20 := by
    intro hspace
    obtain rfl : c = ' ' := Char.toNat_inj.mp hspace
    exact absurd hother (by decide)
  omega

end Percent

namespace Address

variable {address : Address} {text : List Char} {scheme : Scheme}

/-! ## What is read -/

/-- Nothing but the host of the address can be read differently a second time. -/
structure IsRead (address : Address) : Prop where
  authority : address.authority.IsRead (some address.scheme.port)
  path : address.path ≠ []
  segments : ∀ segment ∈ address.path, Path.Settled segment
  query : ∀ query ∈ address.query, ∀ c ∈ query, Percent.isEscapedInQuery c = false

/-- Where the host stands in the text after the scheme. -/
def hostIn (text : List Char) : List Char :=
  Authority.hostIn
    ((text.dropWhile fun c => c == '/' || c == '\\').takeWhile (! endsAuthority ·))

/-- What is read after a scheme can be read again, and its host is read from its place. -/
theorem parse_after_scheme_ok (hparse : parseAfterScheme scheme text = .ok address) :
    address.scheme = scheme ∧ address.IsRead ∧
      Host.parse (hostIn text) = .ok address.authority.host := by
  unfold parseAfterScheme at hparse
  obtain ⟨authority, hauthority, hparse⟩ := bind_eq_ok_iff.mp hparse
  obtain rfl := Except.ok.inj hparse
  obtain ⟨hencoded, hhost, hport⟩ := Authority.parse_with_ok hauthority
  have hread : Host.parse (hostIn text) = .ok authority.host := by
    split at hhost
    · cases hhost
    · exact hhost
  refine ⟨rfl, ?_, hread⟩
  exact
    { authority := ⟨hencoded, ⟨_, hread⟩, hport⟩
      path := Path.parse_ne_nil _
      segments := fun segment hmem => Path.settled_of_mem_parse hmem
      query := by
        intro query hquery
        dsimp only at hquery
        split at hquery
        · cases hquery
        · obtain rfl := Option.some.inj hquery
          exact fun c hmem => Percent.escaped_of_mem_encode Percent.spares_query hmem }

/-- Where the host stands in the text of an address. -/
def hostText? (text : List Char) : Option (List Char) :=
  (splitScheme? (significant text)).map fun split => hostIn split.2

/-- An address that is read can be read again, and its host is read from its place. -/
theorem parse_ok (hparse : parse text = .ok (some address)) :
    address.IsRead ∧
      ∃ host, hostText? text = some host ∧ Host.parse host = .ok address.authority.host := by
  unfold parse at hparse
  split at hparse
  · cases hparse
  · next name rest hsplit =>
      have hhost : hostText? text = some (hostIn rest) := by
        unfold hostText?
        rw [hsplit]
        rfl
      -- Both schemes are read alike.
      have hfinish : ∀ scheme, (parseAfterScheme scheme rest).map some = .ok (some address) →
          address.IsRead ∧
            ∃ host, hostText? text = some host ∧ Host.parse host = .ok address.authority.host := by
        intro scheme hmap
        obtain ⟨found, hfound, hsome⟩ := map_eq_ok_iff.mp hmap
        obtain rfl := Option.some.inj hsome
        obtain ⟨_, hread, hparse⟩ := parse_after_scheme_ok hfound
        exact ⟨hread, hostIn rest, hhost, hparse⟩
      split at hparse
      · exact hfinish .http hparse
      · split at hparse
        · exact hfinish .https hparse
        · obtain ⟨_, _, hnone⟩ := map_eq_ok_iff.mp hparse
          cases hnone

/-! ## What is written -/

/-- The written form of a query. -/
def queryText (query : Option (List Char)) : List Char :=
  match query with
  | none => []
  | some query => '?' :: query

/-- The path and the query as they are written. -/
def resourceText (address : Address) : List Char :=
  Path.toText address.path ++ queryText address.query

/-- The written form of an address consists of its parts. -/
theorem to_text_eq (address : Address) :
    address.toText = address.scheme.name ++
      (':' :: '/' :: '/' :: (address.authority.toText ++ resourceText address)) := by
  unfold resourceText
  rw [← List.append_assoc address.authority.toText]
  show (_ ++ _ ++ _ ++ _ : List Char) ++ queryText address.query = _
  simp

/-- A path begins with a slash. -/
theorem resource_text_eq (hpath : address.path ≠ []) :
    ∃ rest, resourceText address = '/' :: rest := by
  unfold resourceText
  cases h : address.path with
  | nil => exact absurd h hpath
  | cons first rest => exact ⟨_, rfl⟩

/-- The path and the query consist of their separators and encoded characters. -/
theorem of_mem_resource (hread : address.IsRead) {c : Char} (hmem : c ∈ resourceText address) :
    c = '/' ∨ c = '?' ∨ Percent.isEscapedInQuery c = false := by
  rcases List.mem_append.mp hmem with hpath | hquery
  · rcases Path.of_mem_to_text hread.segments hpath with rfl | hencoded
    · exact .inl rfl
    · exact .inr (.inr (Percent.escaped_in_query_of_path hencoded))
  · cases h : address.query with
    | none =>
        rw [h] at hquery
        cases hquery
    | some query =>
        rw [h] at hquery
        rcases List.mem_cons.mp hquery with rfl | hquery
        · exact .inr (.inl rfl)
        · exact .inr (.inr (hread.query query h c hquery))

/-- The path and the query are visible. -/
theorem visible_of_mem_resource (hread : address.IsRead) {c : Char}
    (hmem : c ∈ resourceText address) : 0x20 < c.toNat ∧ c.toNat < 0x7F := by
  rcases of_mem_resource hread hmem with rfl | rfl | hencoded
  · decide
  · decide
  · exact Percent.visible_of_query hencoded

/-- The characters that do not count in an address, or end it, and the null character. -/
def dropped : List Char :=
  ['#', '\t', '\n', '\r', '\x00']

/-- A written address has no such character. -/
theorem not_mem_dropped (hread : address.IsRead) {c : Char} (hmem : c ∈ address.toText) :
    c ∉ dropped := by
  have hall : ∀ c ∈ dropped, c ∈ Authority.breaks ∧ Percent.isEscapedInQuery c = true ∧
      c ∉ ['h', 't', 'p', 's', ':', '/', '?'] :=
    forall_mem_of_all (by decide)
  intro hdropped
  obtain ⟨hbreaks, hescaped, hother⟩ := hall c hdropped
  rw [to_text_eq] at hmem
  rcases List.mem_append.mp hmem with hname | hmem
  · have hletters : ∀ c ∈ address.scheme.name, c ∈ ['h', 't', 'p', 's', ':', '/', '?'] := by
      refine forall_mem_of_all ?_
      cases address.scheme <;> decide
    exact hother (hletters c hname)
  · simp only [List.mem_cons, List.mem_append] at hmem
    rcases hmem with rfl | rfl | rfl | hauthority | hresource
    · exact hother (by decide)
    · exact hother (by decide)
    · exact hother (by decide)
    · exact Authority.not_mem_breaks hread.authority hauthority hbreaks
    · rcases of_mem_resource hread hresource with rfl | rfl | hencoded
      · exact hother (by decide)
      · exact hother (by decide)
      · rw [hescaped] at hencoded
        cases hencoded

/-- A written address has nothing to trim. -/
theorem trim_by_to_text (hread : address.IsRead) {drop : Char → Bool}
    (hdrop : ∀ c, 0x20 < c.toNat ∧ c.toNat < 0x7F → drop c = false) :
    Text.trimBy drop address.toText = address.toText := by
  refine trim_by_of_ends ?_ ?_
  · intro c hfirst
    have hletter : address.toText.head? = some 'h' := by
      rw [to_text_eq]
      cases address.scheme <;> rfl
    rw [hletter] at hfirst
    obtain rfl := Option.some.inj hfirst
    exact hdrop 'h' (by decide)
  · intro c hlast
    obtain ⟨rest, hrest⟩ := resource_text_eq hread.path
    -- The path is never empty, so the last character is one of the path or the query.
    have hfront : address.toText = (address.scheme.name ++ ':' :: '/' :: '/' ::
        address.authority.toText) ++ resourceText address := by
      rw [to_text_eq]
      simp
    have hresource : address.toText.getLast? = (resourceText address).getLast? := by
      rw [hfront, List.getLast?_append_of_ne_nil]
      rw [hrest]
      exact List.cons_ne_nil _ _
    rw [hresource] at hlast
    exact hdrop c (visible_of_mem_resource hread (List.mem_of_getLast? hlast))

/-- All of a written address is significant. -/
theorem significant_to_text (hread : address.IsRead) :
    significant address.toText = address.toText := by
  have hkept : ∀ c ∈ address.toText, (c != '\t' && c != '\n' && c != '\r') = true ∧
      (c != '#') = true := by
    intro c hmem
    have hdropped := not_mem_dropped hread hmem
    simp only [dropped, List.mem_cons, List.not_mem_nil, or_false, not_or] at hdropped
    simp [hdropped]
  have hvisible : ∀ c : Char, 0x20 < c.toNat ∧ c.toNat < 0x7F → decide (c.toNat ≤ 0x20) = false :=
    fun c hc => decide_eq_false (Nat.not_le.mpr hc.1)
  unfold significant
  rw [trim_by_to_text hread hvisible, List.filter_eq_self.mpr fun c hmem => (hkept c hmem).1,
    List.takeWhile_eq_self_iff.mpr fun c hmem => (hkept c hmem).2]

/-- A visible character is no blank. -/
theorem not_blank_of_visible {c : Char} (hvisible : 0x20 < c.toNat ∧ c.toNat < 0x7F) :
    Text.isBlank c = false := by
  unfold Text.isBlank
  simp
  omega

/-- A written address has no blanks to trim. -/
theorem trim_to_text (hread : address.IsRead) : Text.trim address.toText = address.toText :=
  trim_by_to_text hread fun _ => not_blank_of_visible

/-- A written address has a scheme. -/
theorem with_scheme_to_text (address : Address) : withScheme address.toText = address.toText := by
  have hscheme : hasScheme address.toText = true := by
    rw [to_text_eq]
    cases address.scheme <;> rfl
  exact if_pos hscheme

/-- A written address is separated after its scheme. -/
theorem split_scheme_to_text (address : Address) :
    splitScheme? address.toText = some (address.scheme.name,
      '/' :: '/' :: (address.authority.toText ++ resourceText address)) := by
  rw [to_text_eq]
  cases address.scheme <;> rfl

/-- The same address with another host. -/
def withHost (address : Address) (host : Host) : Address :=
  { address with authority := { address.authority with host } }

/-- The authority is separated from the slashes in front of it. -/
theorem drop_slashes (hread : address.IsRead) (hnamed : address.authority.host ≠ .name []) :
    ('/' :: '/' :: (address.authority.toText ++ resourceText address)).dropWhile
      (fun c => c == '/' || c == '\\') = address.authority.toText ++ resourceText address := by
  rw [List.dropWhile_cons_of_pos rfl, List.dropWhile_cons_of_pos rfl]
  cases htext : address.authority.toText with
  | nil =>
      rw [Authority.to_text_eq] at htext
      obtain ⟨_, hrest⟩ := List.append_eq_nil_iff.mp htext
      exact absurd (List.append_eq_nil_iff.mp hrest).1 (Host.to_text_ne_nil hnamed)
  | cons c rest =>
      have hbreaks : c ∉ Authority.breaks := by
        refine Authority.not_mem_breaks hread.authority ?_
        rw [htext]
        exact List.mem_cons_self
      refine List.dropWhile_cons_of_neg ?_
      intro hslash
      rcases Bool.or_eq_true_iff.mp hslash with hc | hc
      all_goals
        obtain rfl := beq_iff_eq.mp hc
        exact hbreaks (by decide)

/-- No character of the authority ends it. -/
theorem ends_authority (hread : address.IsRead) :
    ∀ c ∈ address.authority.toText, (! endsAuthority c) = true := by
  intro c hmem
  have hbreaks := Authority.not_mem_breaks hread.authority hmem
  simp only [Authority.breaks, List.mem_cons, List.not_mem_nil, or_false, not_or] at hbreaks
  simp [endsAuthority, hbreaks]

/-- No character of the path begins the query. -/
theorem ends_path (hread : address.IsRead) :
    ∀ c ∈ Path.toText address.path, (c != '?') = true := by
  intro c hmem
  refine bne_iff_ne.mpr ?_
  rintro rfl
  rcases Path.of_mem_to_text hread.segments hmem with hslash | hencoded
  · cases hslash
  · cases hencoded

/-- The path is separated from the query. -/
theorem split_resource (hread : address.IsRead) :
    (resourceText address).takeWhile (· != '?') = Path.toText address.path ∧
      (resourceText address).dropWhile (· != '?') = queryText address.query := by
  have hends := ends_path hread
  unfold resourceText
  rw [List.takeWhile_append_of_pos hends, List.dropWhile_append_of_pos hends]
  cases address.query with
  | none => exact ⟨List.append_nil _, rfl⟩
  | some query => exact ⟨List.append_nil _, rfl⟩

/-- The authority is separated from the path. -/
theorem split_hierarchy (hread : address.IsRead) :
    (address.authority.toText ++ resourceText address).takeWhile (! endsAuthority ·) =
        address.authority.toText ∧
      (address.authority.toText ++ resourceText address).dropWhile (! endsAuthority ·) =
        resourceText address := by
  obtain ⟨rest, hrest⟩ := resource_text_eq hread.path
  have hends := ends_authority hread
  rw [List.takeWhile_append_of_pos hends, List.dropWhile_append_of_pos hends, hrest]
  exact ⟨List.append_nil _, rfl⟩

/-- What is written after the scheme is read as the same address but for its host. -/
theorem parse_after_scheme_to_text (hread : address.IsRead)
    (hnamed : address.authority.host ≠ .name []) :
    parseAfterScheme address.scheme
        ('/' :: '/' :: (address.authority.toText ++ resourceText address)) =
      (Host.parse address.authority.host.toText).map address.withHost := by
  obtain ⟨hauthority, hresource⟩ := split_hierarchy hread
  obtain ⟨hpath, hquery⟩ := split_resource hread
  unfold parseAfterScheme
  dsimp only
  rw [drop_slashes hread hnamed, hauthority, hresource, hpath, hquery,
    Authority.parse_with_to_text _ hread.authority, if_neg (Host.to_text_ne_nil hnamed),
    Path.parse_to_text hread.path hread.segments]
  cases Host.parse address.authority.host.toText with
  | error fault => rfl
  | ok host =>
      -- The query alone is encoded once more, which leaves it alone.
      obtain ⟨scheme, authority, path, query⟩ := address
      cases query with
      | none => rfl
      | some query =>
          show Except.ok (Address.mk _ _ _ (some (Percent.encode Percent.isEscapedInQuery query))) =
            _
          rw [Percent.encode_of_plain (hread.query query rfl)]
          rfl

/-- An address that is written and read again is the same but for its host. -/
theorem parse_to_text (hread : address.IsRead) (hnamed : address.authority.host ≠ .name []) :
    parse address.toText =
      (Host.parse address.authority.host.toText).map fun host => some (address.withHost host) := by
  have hwritten := parse_after_scheme_to_text hread hnamed
  unfold parse
  rw [significant_to_text hread, split_scheme_to_text]
  dsimp only
  cases hscheme : address.scheme with
  | http =>
      rw [hscheme] at hwritten
      rw [if_pos rfl, hwritten]
      cases Host.parse address.authority.host.toText <;> rfl
  | https =>
      rw [hscheme] at hwritten
      rw [if_neg (by decide), if_pos rfl, hwritten]
      cases Host.parse address.authority.host.toText <;> rfl

end Address

end PodcastLedger.Web
