import PodcastLedger.Proofs.Canonical.LetterCase

/-!
# Spellings of one address

What a text stands for depends on its trimmed form with a scheme (`address_eq`), so neither blanks
around it nor the scheme `http` make a difference. A fragment is not part of what is significant of
a text (`Address.significant_append`), and an address with other capitals in its scheme and its host
is read as the same one (`address_of_letters`). The spellings together are
`sloppy_spellings_collapse`.
-/

namespace PodcastLedger.Web

variable {text front back scheme other host spelled rest : List Char}

/-! ## Blanks and schemes -/

/-- What is kept of an address that was read: it has to name a host. -/
def named? (read : Except Fault (Option Address)) : Option Address :=
  match read with
  | .ok (some address) => if address.authority.host = .name [] then none else some address
  | _ => none

/-- The empty text needs no test of its own, because the scheme `http` alone is no address. -/
theorem address_eq (raw : List Char) :
    address? raw = named? (Address.parse (withScheme (Text.trim raw))) := by
  unfold address?
  dsimp only
  split
  · next hempty =>
      rw [hempty]
      decide +kernel
  · rfl

/-- Blanks around a text do not count. -/
theorem address_padded {before behind : List Char} (hbefore : ∀ c ∈ before, Text.isBlank c = true)
    (hbehind : ∀ c ∈ behind, Text.isBlank c = true) :
    address? (before ++ text ++ behind) = address? text := by
  unfold address?
  rw [show Text.trim (before ++ text ++ behind) = Text.trim text from
    trim_by_padded hbefore hbehind]

/-- Characters of schemes in front of the first separator are a scheme. -/
theorem has_scheme_of (hscheme : ∀ c ∈ scheme, Address.isSchemeCharacter c = true) :
    hasScheme (scheme ++ ':' :: '/' :: '/' :: rest) = true := by
  have hbefore : beforeSeparator? (scheme ++ ':' :: '/' :: '/' :: rest) = some scheme := by
    induction scheme with
    | nil => rfl
    | cons c scheme ih =>
        obtain ⟨hc, hscheme⟩ := List.forall_mem_cons.mp hscheme
        have hcolon : (':' == c) = false := by
          refine beq_eq_false_iff_ne.mpr ?_
          rintro rfl
          cases hc
        rw [List.cons_append, beforeSeparator?, List.isPrefixOf_cons_cons, hcolon, Bool.false_and,
          if_neg Bool.false_ne_true, ih hscheme, Option.map_some]
  unfold hasScheme
  rw [hbefore]
  exact List.all_eq_true.mpr hscheme

/-- The scheme `http` in front of a text ends in a slash. -/
theorem of_last_behind_http {p : Char → Prop} (hslash : p '/') (hlast : ∀ c ∈ text.getLast?, p c) :
    ∀ c ∈ (Scheme.http.name ++ ':' :: '/' :: '/' :: text).getLast?, p c := by
  intro c hc
  change c ∈ (['h', 't', 't', 'p', ':', '/', '/'] ++ text).getLast? at hc
  rw [List.getLast?_append] at hc
  cases hend : text.getLast? with
  | none =>
      rw [hend] at hc
      obtain rfl := Option.some.inj hc
      exact hslash
  | some last =>
      rw [hend] at hc
      obtain rfl := Option.some.inj hc
      exact hlast _ hend

/-- A text without scheme stands for the same address as the text behind the scheme `http`. -/
theorem address_without_scheme (hfirst : ∀ c ∈ text.head?, Text.isBlank c = false)
    (hlast : ∀ c ∈ text.getLast?, Text.isBlank c = false) (hscheme : hasScheme text = false) :
    address? (Scheme.http.name ++ ':' :: '/' :: '/' :: text) = address? text := by
  have htrim : Text.trim text = text := trim_by_of_ends hfirst hlast
  have hwith : withScheme text = Scheme.http.name ++ ':' :: '/' :: '/' :: text :=
    if_neg (Bool.eq_false_iff.mp hscheme)
  have hletters : ∀ c ∈ Scheme.http.name, Address.isSchemeCharacter c = true :=
    Address.characters_of_scheme (rfl : _ = Scheme.http.name)
  have hkept : Text.trim (Scheme.http.name ++ ':' :: '/' :: '/' :: text) =
      Scheme.http.name ++ ':' :: '/' :: '/' :: text := by
    refine trim_by_of_ends (fun c hc => ?_) fun c hc => ?_
    · obtain rfl := Option.some.inj hc
      decide
    · exact of_last_behind_http (by decide : Text.isBlank '/' = false) hlast c hc
  rw [address_eq, address_eq, hkept, htrim, hwith]
  exact congrArg (fun text => named? (Address.parse text)) (if_pos (has_scheme_of hletters))

/-! ## Fragments -/

/-- No separator begins in front of a hash and ends behind it. -/
theorem before_separator_fragment (text fragment : List Char) :
    beforeSeparator? (text ++ '#' :: fragment) =
      (beforeSeparator? text).or ((beforeSeparator? fragment).map fun front =>
        text ++ '#' :: front) := by
  induction text with
  | nil => rfl
  | cons c text ih =>
      have hprefix : [':', '/', '/'].isPrefixOf (c :: (text ++ '#' :: fragment)) =
          [':', '/', '/'].isPrefixOf (c :: text) := by
        rcases text with _ | ⟨second, _ | ⟨third, rest⟩⟩ <;> rfl
      rw [List.cons_append, beforeSeparator?, beforeSeparator?, hprefix]
      split
      · rfl
      · rw [ih, Option.map_or, Option.map_map]
        rfl

/-- A fragment makes no scheme. -/
theorem has_scheme_fragment (text fragment : List Char) :
    hasScheme (text ++ '#' :: fragment) = hasScheme text := by
  unfold hasScheme
  rw [before_separator_fragment]
  cases beforeSeparator? text with
  | some front => rfl
  | none =>
      cases beforeSeparator? fragment with
      | none => rfl
      | some front =>
          have hhash : Address.isSchemeCharacter '#' = false := by decide
          simp [hhash]

/-- A fragment does not count for whether a text has a scheme. -/
theorem with_scheme_fragment (text fragment : List Char) :
    withScheme (text ++ '#' :: fragment) = withScheme text ++ '#' :: fragment := by
  unfold withScheme
  rw [has_scheme_fragment]
  split
  · rfl
  · rw [List.append_assoc, List.append_assoc, List.append_assoc]

namespace Address

/-- What is significant behind a text. -/
def significantBehind (text : List Char) : List Char :=
  ((text.rdropWhile fun c => decide (c.toNat ≤ 0x20)).filter
    fun c => c != '\t' && c != '\n' && c != '\r').takeWhile (· != '#')

/-- What is significant of a text is the same in front of other text. -/
theorem significant_append (hlast : ∀ c ∈ front.getLast?, 0x20 < c.toNat)
    (hfirst : ∀ c ∈ back.head?, 0x20 < c.toNat) (hhash : '#' ∉ front) :
    significant (front ++ back) = significant front ++ significantBehind back := by
  have hdropped : ∀ {c : Char}, 0x20 < c.toNat → decide (c.toNat ≤ 0x20) = false :=
    fun hc => decide_eq_false (Nat.not_le.mpr hc)
  have hhashes : ∀ c ∈ (front.dropWhile fun c => decide (c.toNat ≤ 0x20)).filter
      (fun c => c != '\t' && c != '\n' && c != '\r'), (c != '#') = true := by
    intro c hmem
    refine bne_iff_ne.mpr ?_
    rintro rfl
    exact hhash ((List.dropWhile_sublist _).subset (List.mem_filter.mp hmem).1)
  unfold significant significantBehind
  rw [trim_by_append (fun c hc => hdropped (hlast c hc)) (fun c hc => hdropped (hfirst c hc)),
    trim_by_of_last (fun c hc => hdropped (hlast c hc)), List.filter_append,
    List.takeWhile_append_of_pos hhashes, List.takeWhile_eq_self_iff.mpr hhashes]

/-- A visible character is no line end. -/
theorem counts_of_visible {c : Char} (hc : 0x20 < c.toNat) :
    (c != '\t' && c != '\n' && c != '\r') = true := by
  by_contra hcounts
  simp only [Bool.and_eq_true, bne_iff_ne, ne_eq, not_and_or, not_not] at hcounts
  obtain (rfl | rfl) | rfl := hcounts
  all_goals exact absurd hc (by decide)

/-- All of a visible text without fragment is significant. -/
theorem significant_of_visible (htext : ∀ c ∈ text, 0x20 < c.toNat ∧ c ≠ '#') :
    significant text = text := by
  have hkept : ∀ c ∈ text, decide (c.toNat ≤ 0x20) = false :=
    fun c hmem => decide_eq_false (Nat.not_le.mpr (htext c hmem).1)
  unfold significant
  rw [trim_by_of_ends (fun c hc => hkept c (List.mem_of_mem_head? hc))
      (fun c hc => hkept c (List.mem_of_getLast? hc)),
    List.filter_eq_self.mpr fun c hmem => counts_of_visible (htext c hmem).1,
    List.takeWhile_eq_self_iff.mpr fun c hmem => bne_iff_ne.mpr (htext c hmem).2]

/-- Significant text goes on unless a fragment begins. -/
theorem significant_behind_cons {c : Char} (hc : 0x20 < c.toNat) (text : List Char) :
    significantBehind (c :: text) = if c = '#' then [] else c :: significantBehind text := by
  have hkept : (c :: text).rdropWhile (fun c => decide (c.toNat ≤ 0x20)) =
      c :: text.rdropWhile fun c => decide (c.toNat ≤ 0x20) := by
    refine rdrop_while_cons ?_ text
    exact decide_eq_false (Nat.not_le.mpr hc)
  unfold significantBehind
  rw [hkept, List.filter_cons, if_pos (counts_of_visible hc)]
  split
  · next hhash => exact List.takeWhile_cons_of_neg (by simp [hhash])
  · next hhash => exact List.takeWhile_cons_of_pos (bne_iff_ne.mpr hhash)

/-- A fragment is not significant. -/
theorem parse_fragment (hlast : ∀ c ∈ text.getLast?, 0x20 < c.toNat) (hhash : '#' ∉ text)
    (fragment : List Char) : parse (text ++ '#' :: fragment) = parse text := by
  have hnone : significantBehind ('#' :: fragment) = [] := by
    rw [significant_behind_cons (by decide), if_pos rfl]
  unfold parse
  rw [significant_append hlast (fun c hc => ?_) hhash, hnone, List.append_nil]
  obtain rfl := Option.some.inj hc
  decide

end Address

/-- A text keeps its end when it is trimmed and has a scheme put in front, and no hash comes in. -/
theorem with_scheme_ends (hlast : ∀ c ∈ text.getLast?, Text.isBlank c = false ∧ 0x1F < c.toNat)
    (hhash : '#' ∉ text) :
    (∀ c ∈ (withScheme (Text.trim text)).getLast?, 0x20 < c.toNat) ∧
      '#' ∉ withScheme (Text.trim text) := by
  have htrim : Text.trim text = text.dropWhile Text.isBlank :=
    trim_by_of_last fun c hc => (hlast c hc).1
  have hend : ∀ c ∈ (Text.trim text).getLast?, 0x20 < c.toNat := by
    intro c hc
    rw [htrim] at hc
    obtain ⟨hblank, hcontrol⟩ := hlast c (mem_last_of_drop hc)
    have hspace : c.toNat ≠ 0x20 := by
      intro hspace
      obtain rfl : c = ' ' := Char.toNat_inj.mp hspace
      cases hblank
    omega
  have hfree : '#' ∉ Text.trim text := by
    rw [htrim]
    exact fun hmem => hhash ((List.dropWhile_sublist _).subset hmem)
  unfold withScheme
  split
  · exact ⟨hend, hfree⟩
  · refine ⟨of_last_behind_http (by decide) hend, fun hmem => ?_⟩
    rcases List.mem_append.mp hmem with hmem | hmem
    · exact absurd hmem (by decide)
    · exact hfree hmem

/-- A fragment does not count. -/
theorem address_fragment (hlast : ∀ c ∈ text.getLast?, Text.isBlank c = false ∧ 0x1F < c.toNat)
    (hhash : '#' ∉ text) (fragment : List Char) :
    address? (text ++ '#' :: fragment) = address? text := by
  have hblank : ∀ c ∈ text.getLast?, Text.isBlank c = false := fun c hc => (hlast c hc).1
  have htrim : Text.trim (text ++ '#' :: fragment) =
      Text.trim text ++ '#' :: fragment.rdropWhile Text.isBlank := by
    have hhead : ∀ c ∈ ('#' :: fragment).head?, Text.isBlank c = false := by
      rintro c ⟨⟩
      decide
    unfold Text.trim
    rw [trim_by_append hblank hhead, trim_by_of_last hblank, rdrop_while_cons (by decide)]
  obtain ⟨hend, hfree⟩ := with_scheme_ends hlast hhash
  rw [address_eq, address_eq, htrim, with_scheme_fragment, Address.parse_fragment hend hfree]

/-! ## Letter case -/

/-- What may stand behind a host begins with none of its characters. -/
def IsRest (rest : List Char) : Prop :=
  ∀ c ∈ rest.head?, c ∈ ['/', '?', '#']

/-- What begins a rest is visible. -/
theorem visible_of_rest (hrest : IsRest rest) {c : Char} (hc : c ∈ rest.head?) :
    0x20 < c.toNat ∧ c.toNat < 0x7F := by
  have hall : ∀ c ∈ ['/', '?', '#'], 0x20 < c.toNat ∧ c.toNat < 0x7F := forall_mem_of_all (by decide)
  exact hall c (hrest c hc)

/-- A rest without the blanks at its end is one. -/
theorem rest_trimmed (hrest : IsRest rest) : IsRest (rest.rdropWhile Text.isBlank) := by
  intro c hc
  obtain ⟨blanks, hblanks⟩ := List.rdropWhile_prefix Text.isBlank (l := rest)
  refine hrest c ?_
  rw [← hblanks, List.head?_append, Option.mem_def.mp hc]
  rfl

/-- What is significant of a rest does not go on with the host. -/
theorem Address.behind_host_of_rest (hrest : IsRest rest) :
    IsBehindHost (significantBehind rest) := by
  cases rest with
  | nil => nofun
  | cons first rest =>
      have hfirst := hrest first rfl
      intro c hc
      rw [significant_behind_cons (visible_of_rest hrest rfl).1] at hc
      split at hc
      · cases hc
      · next hhash =>
          obtain rfl := Option.some.inj hc
          have hall : ∀ c ∈ ['/', '?', '#'], c ≠ '#' → endsAuthority c = true :=
            forall_mem_of_all (by decide)
          exact hall first hfirst hhash

/-- A scheme and a host are visible. -/
theorem visible_of_front {kind : Scheme} (hscheme : scheme.map Char.toLower = kind.name)
    (hhost : ∀ c ∈ host, isHostCharacter c = true) :
    ∀ c ∈ scheme ++ ':' :: '/' :: '/' :: host, (0x20 < c.toNat ∧ c.toNat < 0x7F) ∧ c ≠ '#' := by
  have hcharacter : ∀ c, isHostCharacter c = true →
      (0x20 < c.toNat ∧ c.toNat < 0x7F) ∧ c ≠ '#' := by
    intro c hc
    refine ⟨visible_of_host hc, ?_⟩
    rintro rfl
    cases hc
  refine List.forall_mem_append.mpr ⟨fun c hmem => hcharacter c ?_, ?_⟩
  · exact host_of_alpha (Address.letters_of_scheme hscheme c hmem)
  · simp only [List.forall_mem_cons]
    exact ⟨by decide, by decide, by decide, fun c hmem => hcharacter c (hhost c hmem)⟩

/-- An address with a scheme and a host of ordinary characters is read from these and what is
significant of the rest. -/
theorem address_of_host {kind : Scheme} (hscheme : scheme.map Char.toLower = kind.name)
    (hhost : ∀ c ∈ host, isHostCharacter c = true) (hrest : IsRest rest) :
    address? (scheme ++ ':' :: '/' :: '/' :: host ++ rest) =
      named? ((Address.parseAfterScheme kind ('/' :: '/' ::
        (host ++ Address.significantBehind (rest.rdropWhile Text.isBlank)))).map some) := by
  let front := scheme ++ ':' :: '/' :: '/' :: host
  let behind := rest.rdropWhile Text.isBlank
  have hvisible := visible_of_front hscheme hhost
  have hblank : ∀ c ∈ front, Text.isBlank c = false :=
    fun c hmem => Address.not_blank_of_visible (hvisible c hmem).1
  have hbehind : IsRest behind := rest_trimmed hrest
  have htrim : Text.trim (front ++ rest) = front ++ behind := by
    have hlast : ∀ c ∈ front.getLast?, Text.isBlank c = false :=
      fun c hc => hblank c (List.mem_of_getLast? hc)
    have hends : ∀ c ∈ rest.head?, Text.isBlank c = false :=
      fun c hc => Address.not_blank_of_visible (visible_of_rest hrest hc)
    unfold Text.trim
    rw [trim_by_append hlast hends, ← trim_by_of_last hlast,
      trim_by_of_ends (fun c hc => hblank c (List.mem_of_mem_head? hc)) hlast]
  have hsplit : front ++ behind = scheme ++ ':' :: '/' :: '/' :: (host ++ behind) :=
    List.append_assoc _ _ _
  have hwith : withScheme (front ++ behind) = front ++ behind := by
    refine if_pos ?_
    rw [hsplit]
    exact has_scheme_of (Address.characters_of_scheme hscheme)
  have hsignificant : Address.significant (front ++ behind) =
      scheme ++ ':' :: '/' :: '/' :: (host ++ Address.significantBehind behind) := by
    rw [Address.significant_append (fun c hc => (hvisible c (List.mem_of_getLast? hc)).1.1)
        (fun c hc => (visible_of_rest hbehind hc).1) fun hmem => (hvisible '#' hmem).2 rfl,
      Address.significant_of_visible fun c hmem => ⟨(hvisible c hmem).1.1, (hvisible c hmem).2⟩]
    exact List.append_assoc _ _ _
  rw [address_eq, htrim, hwith]
  unfold Address.parse
  rw [hsignificant, Address.split_scheme hscheme]
  cases kind <;> rfl

/-- An address with other capitals in its scheme and its host is the same one. -/
theorem address_of_letters {kind : Scheme} (hscheme : scheme.map Char.toLower = kind.name)
    (hother : other.map Char.toLower = kind.name) (hhost : ∀ c ∈ host, isHostCharacter c = true)
    (hspelled : SameLetters spelled host) (hrest : IsRest rest) :
    address? (other ++ ':' :: '/' :: '/' :: spelled ++ rest) =
      address? (scheme ++ ':' :: '/' :: '/' :: host ++ rest) := by
  rw [address_of_host hscheme hhost hrest,
    address_of_host hother (host_of_letters hhost hspelled) hrest,
    Address.parse_after_scheme_of_letters kind hhost hspelled
      (Address.behind_host_of_rest (rest_trimmed hrest))]

/-! ## All spellings -/

/-- Texts with the same small form are the same but for their capitals. -/
theorem same_letters_of_lower {first second : String} (hsame : first.toLower = second.toLower) :
    SameLetters first.toList second.toList := by
  unfold SameLetters
  rw [← String.toList_map, ← String.toList_map]
  exact congrArg String.toList hsame

/-- Sloppy spellings of an address have one canonical form. Blanks around a text make no difference. A
text without blanks at its ends that has no scheme has the form of the text behind `http://`. A
fragment, which may have a separator of its own, makes no difference behind a text that has none and
whose last character is neither a blank nor a control character. And when a scheme that is kept
stands in front of a host of ASCII letters, digits, dots and hyphens, with nothing behind it or a
path, a query or a fragment, the case of the letters of the scheme and of the host makes no
difference. -/
theorem sloppy_spellings_collapse :
    (∀ before text behind : String, (∀ c ∈ before.toList, Text.isBlank c = true) →
      (∀ c ∈ behind.toList, Text.isBlank c = true) →
        canonical? (before ++ text ++ behind) = canonical? text) ∧
    (∀ text : String, (∀ c ∈ text.toList.head?, Text.isBlank c = false) →
      (∀ c ∈ text.toList.getLast?, Text.isBlank c = false) → hasScheme text.toList = false →
        canonical? text = canonical? ("http://" ++ text)) ∧
    (∀ text fragment : String, '#' ∉ text.toList →
      (∀ c ∈ text.toList.getLast?, Text.isBlank c = false ∧ 0x1F < c.toNat) →
        canonical? (text ++ "#" ++ fragment) = canonical? text) ∧
    ∀ scheme other host spelled rest : String,
      scheme.toLower = "http" ∨ scheme.toLower = "https" → other.toLower = scheme.toLower →
      (∀ c ∈ host.toList, isHostCharacter c = true) → spelled.toLower = host.toLower →
      (∀ c ∈ rest.toList.head?, c ∈ ['/', '?', '#']) →
        canonical? (other ++ "://" ++ spelled ++ rest) =
          canonical? (scheme ++ "://" ++ host ++ rest) := by
  have hkept : ∀ {first second : String}, address? first.toList = address? second.toList →
      canonical? first = canonical? second := fun hsame => by rw [canonical?, canonical?, hsame]
  refine ⟨fun before text behind hbefore hbehind => hkept ?_,
    fun text hfirst hlast hscheme => hkept ?_, fun text fragment hhash hlast => hkept ?_,
    fun scheme other host spelled rest hscheme hother hhost hspelled hrest => hkept ?_⟩
  · rw [String.toList_append, String.toList_append]
    exact address_padded hbefore hbehind
  · rw [String.toList_append]
    exact (address_without_scheme hfirst hlast hscheme).symm
  · rw [String.toList_append, String.toList_append, List.append_assoc]
    exact address_fragment hlast hhash fragment.toList
  · obtain ⟨kind, hkind⟩ : ∃ kind : Scheme, scheme.toList.map Char.toLower = kind.name := by
      rw [← String.toList_map]
      obtain hhttp | hhttps := hscheme
      · exact ⟨.http, congrArg String.toList hhttp⟩
      · exact ⟨.https, congrArg String.toList hhttps⟩
    have hspelledKind : other.toList.map Char.toLower = kind.name :=
      (same_letters_of_lower hother).trans hkind
    have hsplit : ∀ scheme host : String, (scheme ++ "://" ++ host ++ rest).toList =
        scheme.toList ++ ':' :: '/' :: '/' :: host.toList ++ rest.toList := by
      intro scheme host
      rw [String.toList_append, String.toList_append, String.toList_append,
        List.append_assoc scheme.toList]
      rfl
    rw [hsplit, hsplit]
    exact address_of_letters hkind hspelledKind hhost (same_letters_of_lower hspelled) hrest

/-- Blanks, a missing scheme, capitals and a fragment around one address. -/
theorem spellings_of_feed :
    let feed := "http://a.example/Feed?page=1"
    canonical? "\u3000A.example/Feed?page=1\t" = some feed ∧
      canonical? "A.example/Feed?page=1" = some feed ∧
      canonical? "HTTP://a.Example/Feed?page=1" = some feed ∧
      canonical? "http://a.example/Feed?page=1#c://d " = some feed := by
  intro feed
  have hfeed : canonical? feed = some feed := by decide +kernel
  obtain ⟨hblanks, hscheme, hfragment, hletters⟩ := sloppy_spellings_collapse
  have hlower : ∀ {first second : String}, first.toList.map Char.toLower = second.toList →
      first.toLower = second := fun hsame => String.toList_inj.mp (String.toList_map.trans hsame)
  have hspelled : ∀ other spelled, other.toLower = "http" → spelled.toLower = "a.example" →
      canonical? (other ++ "://" ++ spelled ++ "/Feed?page=1") = some feed := by
    intro other spelled hother hspelled
    have hhttp : "http".toLower = "http" := hlower (by decide)
    have hhost : "a.example".toLower = "a.example" := hlower (by decide)
    exact (hletters "http" other "a.example" spelled "/Feed?page=1" (.inl hhttp)
      (hother.trans hhttp.symm) (forall_mem_of_all (by decide)) (hspelled.trans hhost.symm)
      (forall_mem_of_option (by decide))).trans hfeed
  have hbare : canonical? "A.example/Feed?page=1" = some feed :=
    (hscheme "A.example/Feed?page=1" (forall_mem_of_option (by decide))
      (forall_mem_of_option (by decide)) (by decide)).trans
      (hspelled "http" "A.example" (hlower (by decide)) (hlower (by decide)))
  refine ⟨?_, hbare, hspelled "HTTP" "a.Example" (hlower (by decide)) (hlower (by decide)), ?_⟩
  · exact (hblanks "\u3000" "A.example/Feed?page=1" "\t" (forall_mem_of_all (by decide))
      (forall_mem_of_all (by decide))).trans hbare
  · exact (hfragment feed "c://d " (by decide) (forall_mem_of_option (by decide))).trans hfeed

end PodcastLedger.Web
