import PodcastLedger.Proofs.Canonical.Addresses

/-!
# Letter case of schemes and hosts

A scheme is put into small letters when it is separated (`Address.split_scheme`), and so is a host
of ASCII characters when its ASCII form is looked for (`DomainName.to_ascii_of_letters`). A host of
letters, digits, dots and hyphens is all of its authority and is read from there, so an address that
is spelled with other capitals is the same one (`Address.parse_after_scheme_of_letters`).
-/

namespace PodcastLedger.Web

variable {host other scheme tail : List Char} {c : Char}

/-- The texts are the same but for capital and small ASCII letters. -/
def SameLetters (first second : List Char) : Prop :=
  first.map Char.toLower = second.map Char.toLower

/-- A property of all small forms that capital letters have anyway is one of all characters. -/
theorem of_small_letters {p : Char → Prop} (hsmall : ∀ c ∈ host.map Char.toLower, p c)
    (hcapital : ∀ c : Char, c.isUpper = true → p c) : ∀ c ∈ host, p c := by
  intro c hmem
  by_cases hupper : c.isUpper = true
  · exact hcapital c hupper
  · rw [← DomainName.to_lower_of_not_upper (Bool.eq_false_iff.mpr hupper)]
    exact hsmall _ (List.mem_map_of_mem hmem)

/-! ## Hosts -/

/-- The character is one of those that names of hosts are made of. -/
def isHostCharacter (c : Char) : Bool :=
  c.isAlphanum || c == '-' || c == '.'

/-- Letters may stand in hosts. -/
theorem host_of_alpha (halpha : c.isAlpha = true) : isHostCharacter c = true := by
  have halphanum : c.isAlphanum = true := Bool.or_eq_true_iff.mpr (.inl halpha)
  simp [isHostCharacter, halphanum]

/-- Hosts are made of visible characters. -/
theorem visible_of_host (hc : isHostCharacter c = true) : 0x20 < c.toNat ∧ c.toNat < 0x7F := by
  unfold isHostCharacter at hc
  simp only [Bool.or_eq_true, beq_iff_eq] at hc
  obtain (halphanum | rfl) | rfl := hc
  · rcases Bool.or_eq_true_iff.mp halphanum with halpha | hdigit
    · rcases Bool.or_eq_true_iff.mp halpha with hupper | hlower
      · have hcode : 65 ≤ c.toNat ∧ c.toNat ≤ 90 := of_decide_eq_true hupper
        omega
      · obtain ⟨hfirst, hlast⟩ := Bool.and_eq_true_iff.mp hlower
        have hlow : 97 ≤ c.toNat := of_decide_eq_true hfirst
        have hhigh : c.toNat ≤ 122 := of_decide_eq_true hlast
        omega
    · obtain ⟨hfirst, hlast⟩ := Bool.and_eq_true_iff.mp hdigit
      have hlow : 48 ≤ c.toNat := of_decide_eq_true hfirst
      have hhigh : c.toNat ≤ 57 := of_decide_eq_true hlast
      omega
  · decide
  · decide

/-- Hosts are made of characters that a name may contain. -/
theorem allowed_of_host (hc : isHostCharacter c = true) : Host.isForbidden c = false := by
  refine Bool.eq_false_iff.mpr fun hforbidden => ?_
  have hall : ∀ c ∈ ['\x00', '\t', '\n', '\r', ' ', '#', '%', '/', ':', '?', '@', '[', '\\', ']'],
      isHostCharacter c = false :=
    forall_mem_of_all (by decide)
  rw [hall c (List.contains_iff_mem.mp hforbidden)] at hc
  cases hc

/-- The small form of a character of a host is one as well. -/
theorem host_to_lower (hc : isHostCharacter c = true) : isHostCharacter c.toLower = true := by
  obtain ⟨_, hvisible⟩ := visible_of_host hc
  have hascii : c.toNat < 0x80 := by omega
  exact of_ascii_of_all (p := fun c => isHostCharacter c = true → isHostCharacter c.toLower = true)
    (by decide +kernel) hascii hc

/-- A host that is spelled with other capitals is made of such characters as well. -/
theorem host_of_letters (hhost : ∀ c ∈ host, isHostCharacter c = true)
    (hsame : SameLetters other host) : ∀ c ∈ other, isHostCharacter c = true := by
  refine of_small_letters ?_ fun c hupper => ?_
  · rw [show other.map Char.toLower = _ from hsame]
    intro c hmem
    obtain ⟨letter, hletter, rfl⟩ := List.mem_map.mp hmem
    exact host_to_lower (hhost letter hletter)
  · exact host_of_alpha (Bool.or_eq_true_iff.mpr (.inl hupper))

/-- The ASCII form of a name of ASCII characters does not depend on capitals. -/
theorem DomainName.to_ascii_of_letters (hhost : IsAscii host) (hother : IsAscii other)
    (hsame : SameLetters other host) : toAscii? other = toAscii? host := by
  unfold toAscii?
  rw [map_of_ascii hhost, map_of_ascii hother, right_to_left_of_ascii hhost,
    right_to_left_of_ascii hother, show other.map Char.toLower = _ from hsame]

/-- A host is read alike with other capitals. -/
theorem Host.parse_of_letters (hhost : ∀ c ∈ host, isHostCharacter c = true)
    (hsame : SameLetters other host) : Host.parse other = Host.parse host := by
  have hplain : ∀ {text : List Char}, (∀ c ∈ text, isHostCharacter c = true) →
      DomainName.IsAscii text ∧ text.any isForbidden = false := by
    intro text htext
    refine ⟨fun c hmem => ?_, List.any_eq_false.mpr fun c hmem => ?_⟩
    · have hvisible := visible_of_host (htext c hmem)
      omega
    · exact Bool.eq_false_iff.mp (allowed_of_host (htext c hmem))
  obtain ⟨hascii, hallowed⟩ := hplain hhost
  obtain ⟨hotherAscii, hotherAllowed⟩ := hplain (host_of_letters hhost hsame)
  rw [parse_name hallowed, parse_name hotherAllowed,
    DomainName.to_ascii_of_letters hascii hotherAscii hsame]

/-- A host alone is an authority. -/
theorem Authority.parse_with_host (parseHost : List Char → Except Fault Host) (usual : Option Nat)
    (hhost : ∀ c ∈ host, isHostCharacter c = true) :
    parseWith parseHost usual host =
      (parseHost host).map fun read => ⟨⟨[], []⟩, read, none⟩ := by
  have hallowed : ∀ c ∈ host, c ≠ ':' ∧ c ≠ '[' := by
    intro c hmem
    constructor
    all_goals
      rintro rfl
      cases hhost _ hmem
  have hat : '@' ∉ host := fun hmem => by cases hhost _ hmem
  have hsplit : splitUserInfo host = ([], host) := split_user_info ⟨[], []⟩ hat
  have hport := split_port_plain hallowed (nofun : IsPortText [])
  have hnone : parsePort usual [] = .ok none := parse_port_text (nofun : IsPort usual none)
  rw [List.append_nil] at hport
  unfold parseWith
  rw [hsplit]
  dsimp only
  rw [hport]
  dsimp only
  rw [List.drop_nil, hnone]
  cases parseHost host <;> rfl

namespace Address

/-! ## Addresses -/

/-- What stands behind a host ends it. -/
def IsBehindHost (tail : List Char) : Prop :=
  ∀ c ∈ tail.head?, endsAuthority c = true

/-- The query in the text behind a host. -/
def queryIn (tail : List Char) : Option (List Char) :=
  match tail.dropWhile (· != '?') with
  | [] => none
  | _ :: rest => some (Percent.encode Percent.isEscapedInQuery rest)

/-- No character of a host ends it. -/
theorem not_ends_of_host (hc : isHostCharacter c = true) : endsAuthority c = false := by
  refine Bool.eq_false_iff.mpr fun hends => ?_
  simp only [endsAuthority, Bool.or_eq_true, beq_iff_eq] at hends
  obtain (rfl | rfl) | rfl := hends
  all_goals cases hc

/-- After a scheme a host that is not empty is all of the authority, and the rest does not depend on
it. -/
theorem parse_after_scheme_host (kind : Scheme) (htail : IsBehindHost tail) :
    ∃ withRest : Host → Address, ∀ host, (∀ c ∈ host, isHostCharacter c = true) → host ≠ [] →
      parseAfterScheme kind ('/' :: '/' :: (host ++ tail)) = (Host.parse host).map withRest := by
  refine ⟨fun host => ⟨kind, ⟨⟨[], []⟩, host, none⟩, Path.parse (tail.takeWhile (· != '?')),
    queryIn tail⟩, fun host hhost hne => ?_⟩
  have hends : ∀ c ∈ host, (! endsAuthority c) = true := fun c hmem => by
    rw [not_ends_of_host (hhost c hmem), Bool.not_false]
  have hslashes : ('/' :: '/' :: (host ++ tail)).dropWhile (fun c => c == '/' || c == '\\') =
      host ++ tail := by
    rw [List.dropWhile_cons_of_pos rfl, List.dropWhile_cons_of_pos rfl]
    cases host with
    | nil => exact absurd rfl hne
    | cons c rest =>
        have hslash := (Bool.or_eq_false_iff.mp (not_ends_of_host (hhost c List.mem_cons_self))).1
        exact List.dropWhile_cons_of_neg (by rw [hslash]; exact Bool.false_ne_true)
  have hstop : tail.takeWhile (! endsAuthority ·) = [] ∧
      tail.dropWhile (! endsAuthority ·) = tail := by
    cases tail with
    | nil => exact ⟨rfl, rfl⟩
    | cons c rest =>
        have hstops : ¬ (! endsAuthority c) = true := by
          rw [htail c rfl]
          exact Bool.false_ne_true
        exact ⟨List.takeWhile_cons_of_neg hstops, List.dropWhile_cons_of_neg hstops⟩
  unfold parseAfterScheme
  dsimp only
  rw [hslashes, List.takeWhile_append_of_pos hends, List.dropWhile_append_of_pos hends, hstop.1,
    hstop.2, List.append_nil, Authority.parse_with_host _ _ hhost, if_neg hne]
  cases Host.parse host <;> rfl

/-- What is read after a scheme does not depend on the capitals of a host. -/
theorem parse_after_scheme_of_letters (kind : Scheme)
    (hhost : ∀ c ∈ host, isHostCharacter c = true) (hsame : SameLetters other host)
    (htail : IsBehindHost tail) :
    parseAfterScheme kind ('/' :: '/' :: (other ++ tail)) =
      parseAfterScheme kind ('/' :: '/' :: (host ++ tail)) := by
  obtain ⟨withRest, hparse⟩ := parse_after_scheme_host kind htail
  have hempty : other = [] ↔ host = [] := by
    rw [← List.map_eq_nil_iff (f := Char.toLower), show other.map Char.toLower = _ from hsame,
      List.map_eq_nil_iff]
  by_cases hne : host = []
  · rw [hne, hempty.mpr hne]
  · rw [hparse host hhost hne, hparse other (host_of_letters hhost hsame) (mt hempty.mp hne),
      Host.parse_of_letters hhost hsame]

/-- A scheme that is spelled with any capitals consists of letters. -/
theorem letters_of_scheme {kind : Scheme} (hscheme : scheme.map Char.toLower = kind.name) :
    ∀ c ∈ scheme, c.isAlpha = true := by
  refine of_small_letters ?_ fun c hupper => Bool.or_eq_true_iff.mpr (.inl hupper)
  rw [hscheme]
  refine forall_mem_of_all ?_
  cases kind <;> decide

/-- A scheme that is spelled with any capitals consists of characters of schemes. -/
theorem characters_of_scheme {kind : Scheme} (hscheme : scheme.map Char.toLower = kind.name) :
    ∀ c ∈ scheme, isSchemeCharacter c = true := by
  intro c hmem
  have halphanum : c.isAlphanum = true :=
    Bool.or_eq_true_iff.mpr (.inl (letters_of_scheme hscheme c hmem))
  simp [isSchemeCharacter, halphanum]

/-- A scheme that is spelled with any capitals is separated in small letters. -/
theorem split_scheme {kind : Scheme} (hscheme : scheme.map Char.toLower = kind.name)
    (rest : List Char) : splitScheme? (scheme ++ ':' :: rest) = some (kind.name, rest) := by
  have hcharacters := characters_of_scheme hscheme
  have hhead : scheme.head?.any Char.isAlpha = true := by
    cases scheme with
    | nil => cases kind <;> cases hscheme
    | cons c rest => exact letters_of_scheme hscheme c List.mem_cons_self
  unfold splitScheme?
  dsimp only
  rw [List.takeWhile_append_of_pos hcharacters, List.dropWhile_append_of_pos hcharacters,
    List.takeWhile_cons_of_neg (by decide), List.dropWhile_cons_of_neg (by decide), List.append_nil,
    hhead, hscheme]
  rfl

end Address

end PodcastLedger.Web
