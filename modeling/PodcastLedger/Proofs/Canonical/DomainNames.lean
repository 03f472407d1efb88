import PodcastLedger.Proofs.Canonical.PunycodeCharacters
import PodcastLedger.Proofs.Canonical.Texts
import PodcastLedger.Web.DomainName

/-!
# Domain names in their ASCII form

When the ASCII form of a domain name is its own ASCII form: exactly if each of its labels, checked
and written again, is the same (`DomainName.to_ascii_iff`). Not all names are so: a label in
Punycode may stand for an ASCII label that looks like Punycode itself. Names without such labels,
whose direction shows before their characters are mapped and whose labels are not too long, are
settled (`DomainName.settled_of_regular`).
-/

namespace PodcastLedger.Web.DomainName

open Unicode

variable {name text label decoded : List Char} {rightToLeft : Bool}

/-- The character is an ASCII one that the mapping keeps. -/
def IsPlain (c : Char) : Prop :=
  c.toNat < 0x80 ∧ domainMapping c = .keep

/-! ## Labels -/

/-- A checked label is valid and in normal form C. -/
theorem check_label_ok (hcheck : checkLabel? rightToLeft label = some decoded) :
    decodeLabel? label = some decoded ∧ isNormalFormC decoded = true ∧
      isValidLabel rightToLeft decoded = true := by
  unfold checkLabel? at hcheck
  obtain ⟨found, hfound, hcheck⟩ := Option.bind_eq_some_iff.mp hcheck
  split at hcheck
  · next hvalid =>
      obtain rfl := Option.some.inj hcheck
      obtain ⟨hnormal, hvalid⟩ := Bool.and_eq_true_iff.mp hvalid
      exact ⟨hfound, hnormal, hvalid⟩
  · cases hcheck

/-- A valid label is one in normal form C that decodes to itself. -/
theorem check_label_of (hdecode : decodeLabel? label = some decoded)
    (hnormal : isNormalFormC decoded = true) (hvalid : isValidLabel rightToLeft decoded = true) :
    checkLabel? rightToLeft label = some decoded := by
  unfold checkLabel?
  rw [hdecode, Option.bind_eq_bind, Option.bind_some, hnormal, hvalid]
  rfl

/-- The mapping keeps every character of a valid label. -/
theorem keep_of_valid (hvalid : isValidLabel rightToLeft label = true) :
    ∀ c ∈ label, domainMapping c = .keep := by
  unfold isValidLabel at hvalid
  simp only [Bool.and_eq_true] at hvalid
  intro c hmem
  exact beq_iff_eq.mp (List.all_eq_true.mp hvalid.1.2 c hmem)

/-- A label keeps its direction in a right-to-left name, and is valid without that in any other. -/
theorem valid_of_valid (hvalid : isValidLabel rightToLeft label = true) {other : Bool}
    (himp : other = true → rightToLeft = true) : isValidLabel other label = true := by
  unfold isValidLabel at hvalid ⊢
  simp only [Bool.and_eq_true] at hvalid ⊢
  refine ⟨hvalid.1, ?_⟩
  cases other with
  | false => rfl
  | true =>
      rw [himp rfl] at hvalid
      exact hvalid.2

/-- Decoding a label brings in no dots. -/
theorem dot_not_mem_decode (hdecode : decodeLabel? label = some decoded) (hdot : '.' ∉ label) :
    '.' ∉ decoded := by
  intro hmem
  unfold decodeLabel? at hdecode
  split at hdecode
  · next rest hbegin =>
      rcases Punycode.foreign_of_mem_decode hdecode hmem with hrest | hforeign
      · have hlabel := List.isPrefixOf?_eq_some_iff_append_eq.mp hbegin
        exact hdot (hlabel ▸ List.mem_append_right _ hrest)
      · exact absurd hforeign (by decide)
  · obtain rfl := Option.some.inj hdecode
    exact hdot hmem

/-- What is written of a valid label is plain. -/
theorem plain_of_mem_encode (hkeep : ∀ c ∈ decoded, domainMapping c = .keep)
    (hencode : encodeLabel? decoded = some label) : ∀ c ∈ label, IsPlain c := by
  intro c hmem
  unfold encodeLabel? at hencode
  split at hencode
  · next hascii =>
      obtain rfl := Option.some.inj hencode
      exact ⟨of_decide_eq_true (List.all_eq_true.mp hascii c hmem), hkeep c hmem⟩
  · obtain ⟨encoded, hencoded, rfl⟩ := Option.map_eq_some_iff.mp hencode
    have hplain : ∀ c, c.toNat < 0x80 → c.isUpper = false → IsPlain c := by
      intro c hascii hupper
      refine ⟨hascii, ?_⟩
      rw [domainMapping_ascii hascii, hupper]
      rfl
    rcases List.mem_append.mp hmem with hbegin | hmem
    · have hall : ∀ c ∈ encodedPrefix, c.toNat < 0x80 ∧ c.isUpper = false :=
        forall_mem_of_all (by decide)
      exact hplain c (hall c hbegin).1 (hall c hbegin).2
    · rcases Punycode.written_of_mem_encode hencoded hmem with ⟨hlabel, hascii⟩ | rfl | hdigit
      · exact ⟨hascii, hkeep c hlabel⟩
      · exact hplain '-' (by decide) (by decide)
      · obtain ⟨value, hvalue, rfl⟩ := hdigit
        have hall : ∀ value ∈ List.range 36, (Punycode.digit value).toNat < 0x80 ∧
            (Punycode.digit value).isUpper = false := by decide
        have hdigit := hall value (List.mem_range.mpr hvalue)
        exact hplain _ hdigit.1 hdigit.2

/-- What is written of a label without dots has none. -/
theorem dot_not_mem_encode (hencode : encodeLabel? decoded = some label) (hdot : '.' ∉ decoded) :
    '.' ∉ label := by
  intro hmem
  unfold encodeLabel? at hencode
  split at hencode
  · obtain rfl := Option.some.inj hencode
    exact hdot hmem
  · obtain ⟨encoded, hencoded, rfl⟩ := Option.map_eq_some_iff.mp hencode
    rcases List.mem_append.mp hmem with hbegin | hmem
    · exact absurd hbegin (by decide)
    · rcases Punycode.written_of_mem_encode hencoded hmem with ⟨hlabel, _⟩ | hhyphen | hdigit
      · exact hdot hlabel
      · cases hhyphen
      · obtain ⟨value, hvalue, hdigit⟩ := hdigit
        have hall : ∀ value ∈ List.range 36, '.' ≠ Punycode.digit value := by decide
        exact hall value (List.mem_range.mpr hvalue) hdigit

/-! ## Names -/

/-- The labels of a name after its characters are mapped. -/
def labelsOf? (name : List Char) : Option (List (List Char)) :=
  (mapCharacters name).map fun mapped => (normalFormC mapped).splitOn '.'

/-- The name with these labels is a right-to-left one. -/
def isRightToLeftName (name : List Char) (labels : List (List Char)) : Bool :=
  name.any isRightToLeft || labels.any isRightToLeftLabel

/-- A label that is checked and written again. -/
def rewriteLabel? (rightToLeft : Bool) (label : List Char) : Option (List Char) :=
  (checkLabel? rightToLeft label).bind encodeLabel?

/-- A name has an ASCII form exactly if each of its labels can be written. -/
theorem to_ascii_eq_some_iff :
    toAscii? name = some text ↔ ∃ labels ascii, labelsOf? name = some labels ∧
      labels.mapM (rewriteLabel? (isRightToLeftName name labels)) = some ascii ∧
      text = ['.'].intercalate ascii := by
  unfold toAscii?
  constructor
  · intro h
    obtain ⟨mapped, hmapped, h⟩ := Option.bind_eq_some_iff.mp h
    obtain ⟨ascii, hascii, h⟩ := Option.bind_eq_some_iff.mp h
    refine ⟨_, ascii, ?_, hascii, (Option.some.inj h).symm⟩
    unfold labelsOf?
    rw [hmapped]
    rfl
  · rintro ⟨labels, ascii, hlabels, hascii, rfl⟩
    obtain ⟨mapped, hmapped, rfl⟩ := Option.map_eq_some_iff.mp hlabels
    exact Option.bind_eq_some_iff.mpr
      ⟨mapped, hmapped, Option.bind_eq_some_iff.mpr ⟨ascii, hascii, rfl⟩⟩

/-- A label that is written is one that was checked. -/
theorem rewrite_label_ok (hrewrite : rewriteLabel? rightToLeft label = some text) :
    ∃ decoded, checkLabel? rightToLeft label = some decoded ∧ encodeLabel? decoded = some text :=
  Option.bind_eq_some_iff.mp hrewrite

/-- A label that is written is plain, and has no dots if the label had none. -/
theorem plain_of_rewrite (hrewrite : rewriteLabel? rightToLeft label = some text) :
    (∀ c ∈ text, IsPlain c) ∧ ('.' ∉ label → '.' ∉ text) := by
  obtain ⟨decoded, hcheck, hencode⟩ := rewrite_label_ok hrewrite
  obtain ⟨hdecode, _, hvalid⟩ := check_label_ok hcheck
  exact ⟨plain_of_mem_encode (keep_of_valid hvalid) hencode,
    fun hdot => dot_not_mem_encode hencode (dot_not_mem_decode hdecode hdot)⟩

/-- The parts of a text at its dots have no dots. -/
theorem dot_not_mem_split (hmem : label ∈ text.splitOn '.') : '.' ∉ label := by
  intro hdot
  have hne := not_of_mem_split_on hmem '.' hdot
  simp at hne

/-- The labels that are written are the parts of the ASCII form at its dots. -/
theorem split_intercalate {labels ascii : List (List Char)} (hlabels : labels ≠ [])
    (hdots : ∀ label ∈ labels, '.' ∉ label)
    (hascii : labels.mapM (rewriteLabel? rightToLeft) = some ascii) :
    (['.'].intercalate ascii).splitOn '.' = ascii := by
  refine List.splitOn_intercalate '.' (fun written hmem => ?_) ?_
  · obtain ⟨label, hlabel, hrewrite⟩ := exists_of_mem_results hascii hmem
    exact (plain_of_rewrite hrewrite).2 (hdots label hlabel)
  · rintro rfl
    have hlength := (map_m_eq_some_iff.mp hascii).length_eq
    exact hlabels (List.length_eq_zero_iff.mp hlength)

/-- The labels of a name have no dots. -/
theorem dot_not_mem_labels {labels : List (List Char)} (hlabels : labelsOf? name = some labels) :
    labels ≠ [] ∧ ∀ label ∈ labels, '.' ∉ label := by
  obtain ⟨mapped, _, rfl⟩ := Option.map_eq_some_iff.mp hlabels
  exact ⟨List.splitOn_ne_nil '.' _, fun label => dot_not_mem_split⟩

/-- The ASCII form of a name is plain. -/
theorem plain_of_to_ascii (hascii : toAscii? name = some text) : ∀ c ∈ text, IsPlain c := by
  obtain ⟨labels, ascii, _, hwritten, rfl⟩ := to_ascii_eq_some_iff.mp hascii
  intro c hmem
  rcases of_mem_intercalate hmem with rfl | ⟨written, hwrittenMem, hc⟩
  · exact ⟨by decide, by decide⟩
  · obtain ⟨label, _, hrewrite⟩ := exists_of_mem_results hwritten hwrittenMem
    exact (plain_of_rewrite hrewrite).1 c hc

/-! ## Names in their ASCII form -/

/-- Each label of the text, checked and written again, is the same. -/
def IsSettled (text : List Char) : Prop :=
  ∀ label ∈ text.splitOn '.',
    rewriteLabel? ((text.splitOn '.').any isRightToLeftLabel) label = some label

/-- Plain characters are mapped to themselves. -/
theorem map_plain (hplain : ∀ c ∈ text, IsPlain c) : mapCharacters text = some text := by
  induction text with
  | nil => rfl
  | cons c rest ih =>
      obtain ⟨hc, hrest⟩ := List.forall_mem_cons.mp hplain
      rw [mapCharacters, hc.2, ih hrest]
      rfl

/-- The labels of a plain text are its parts at its dots. -/
theorem labels_of_plain (hplain : ∀ c ∈ text, IsPlain c) :
    labelsOf? text = some (text.splitOn '.') := by
  unfold labelsOf?
  rw [map_plain hplain, Option.map_some, normalFormC_of_ascii fun c hmem => (hplain c hmem).1]

/-- No ASCII character is a right-to-left one. -/
theorem right_to_left_of_ascii (hascii : ∀ c ∈ text, c.toNat < 0x80) :
    text.any isRightToLeft = false := by
  refine List.any_eq_false.mpr fun c hmem => ?_
  have hlow := hascii c hmem
  rw [isRightToLeft_of_lt (by omega)]
  exact Bool.false_ne_true

/-- A plain text is right-to-left only by its labels. -/
theorem right_to_left_plain (hplain : ∀ c ∈ text, IsPlain c) (labels : List (List Char)) :
    isRightToLeftName text labels = labels.any isRightToLeftLabel := by
  unfold isRightToLeftName
  rw [right_to_left_of_ascii fun c hmem => (hplain c hmem).1, Bool.false_or]

/-- A plain text is its own ASCII form exactly if it is settled. -/
theorem to_ascii_iff (hplain : ∀ c ∈ text, IsPlain c) :
    toAscii? text = some text ↔ IsSettled text := by
  rw [to_ascii_eq_some_iff]
  constructor
  · rintro ⟨labels, ascii, hlabels, hascii, htext⟩
    rw [labels_of_plain hplain] at hlabels
    obtain rfl := Option.some.inj hlabels
    rw [right_to_left_plain hplain] at hascii
    have hsplit := split_intercalate (List.splitOn_ne_nil '.' text)
      (fun label => dot_not_mem_split) hascii
    rw [← htext] at hsplit
    rw [← hsplit, map_m_eq_some_iff] at hascii
    exact List.forall₂_same.mp hascii
  · intro hsettled
    refine ⟨text.splitOn '.', text.splitOn '.', labels_of_plain hplain, ?_,
      (List.intercalate_splitOn '.').symm⟩
    rw [right_to_left_plain hplain, map_m_eq_some_iff]
    exact List.forall₂_same.mpr hsettled

/-- A plain label without Punycode and without hyphens at its ends is written as it is. -/
theorem rewrite_of_plain (hplain : ∀ c ∈ label, IsPlain c)
    (hdecoded : encodedPrefix.isPrefixOf? label = none) (hhead : label.head? ≠ some '-')
    (hlast : label.getLast? ≠ some '-') : rewriteLabel? false label = some label := by
  have hascii : ∀ c ∈ label, c.toNat < 0x80 := fun c hmem => (hplain c hmem).1
  have hdecode : decodeLabel? label = some label := by
    unfold decodeLabel?
    rw [hdecoded]
  have hnormal : isNormalFormC label = true := beq_iff_eq.mpr (normalFormC_of_ascii hascii)
  have hvalid : isValidLabel false label = true := by
    have hmark : label.head?.any isMark = false := by
      cases label with
      | nil => rfl
      | cons c rest =>
          have hc := hascii c List.mem_cons_self
          exact isMark_of_lt (by omega)
    have hkeep : label.all (fun c => domainMapping c == .keep) = true :=
      List.all_eq_true.mpr fun c hmem => beq_iff_eq.mpr (hplain c hmem).2
    simp [isValidLabel, hhead, hlast, hmark, hkeep]
  unfold rewriteLabel?
  rw [check_label_of hdecode hnormal hvalid, Option.bind_some]
  unfold encodeLabel?
  exact if_pos (List.all_eq_true.mpr fun c hmem => decide_eq_true (hascii c hmem))

/-! ## Regular names -/

/-- The label consists of ASCII characters. -/
def IsAscii (label : List Char) : Prop :=
  ∀ c ∈ label, c.toNat < 0x80

/-- Nothing about the name keeps its ASCII form from being settled: what its labels stand for does
not look like Punycode if it is ASCII, has 110 characters at most if it is not, and is
right-to-left only in a right-to-left name. -/
structure Regular (name : List Char) (labels : List (List Char)) : Prop where
  plain : ∀ label ∈ labels, ∀ decoded ∈ decodeLabel? label, IsAscii decoded →
    encodedPrefix.isPrefixOf? decoded = none
  short : ∀ label ∈ labels, ∀ decoded ∈ decodeLabel? label, ¬ IsAscii decoded →
    decoded.length ≤ 110
  directed : ∀ label ∈ labels, ∀ decoded ∈ decodeLabel? label,
    decoded.any isRightToLeft = true → isRightToLeftName name labels = true

/-- Only a capital letter has another small form. -/
theorem to_lower_of_not_upper {c : Char} (hupper : c.isUpper = false) : c.toLower = c := by
  have hsmall : ¬ (c.val ≥ 'A'.val ∧ c.val ≤ 'Z'.val) := of_decide_eq_false hupper
  exact dif_neg hsmall

/-- The small form of an ASCII letter is an ASCII letter. -/
theorem to_lower_lt {c : Char} (hascii : c.toNat < 0x80) : c.toLower.toNat < 0x80 :=
  of_ascii_of_all (p := fun c => c.toLower.toNat < 0x80) (by decide +kernel) hascii

/-- An ASCII name is mapped to the name in small letters. -/
theorem map_of_ascii (hascii : IsAscii name) :
    mapCharacters name = some (name.map Char.toLower) := by
  induction name with
  | nil => rfl
  | cons c rest ih =>
      obtain ⟨hc, hrest⟩ := List.forall_mem_cons.mp hascii
      rw [mapCharacters, domainMapping_ascii hc, ih hrest, List.map_cons]
      by_cases hupper : c.isUpper = true
      · rw [if_pos hupper]
        rfl
      · rw [if_neg hupper, to_lower_of_not_upper (Bool.eq_false_iff.mpr hupper)]
        rfl

/-- ASCII characters are mapped to ASCII characters. -/
theorem ascii_of_map (hascii : IsAscii name) {mapped : List Char}
    (hmap : mapCharacters name = some mapped) : IsAscii mapped := by
  rw [map_of_ascii hascii] at hmap
  obtain rfl := Option.some.inj hmap
  intro c hmem
  obtain ⟨letter, hletter, rfl⟩ := List.mem_map.mp hmem
  exact to_lower_lt (hascii letter hletter)

/-- An ASCII name without labels in Punycode is regular. -/
theorem regular_of_ascii {labels : List (List Char)} (hascii : IsAscii name)
    (hlabels : labelsOf? name = some labels)
    (hplain : ∀ label ∈ labels, encodedPrefix.isPrefixOf? label = none) : Regular name labels := by
  obtain ⟨mapped, hmapped, rfl⟩ := Option.map_eq_some_iff.mp hlabels
  have hmappedAscii := ascii_of_map hascii hmapped
  rw [normalFormC_of_ascii hmappedAscii] at hplain ⊢
  have hdecoded : ∀ label ∈ mapped.splitOn '.', ∀ decoded ∈ decodeLabel? label,
      decoded = label ∧ IsAscii decoded := by
    intro label hmem decoded hdecode
    unfold decodeLabel? at hdecode
    rw [hplain label hmem] at hdecode
    obtain rfl := Option.some.inj hdecode
    exact ⟨rfl, fun c hc => hmappedAscii c (mem_of_mem_split_on hmem c hc)⟩
  exact
    { plain := by
        intro label hmem decoded hdecode _
        rw [(hdecoded label hmem decoded hdecode).1]
        exact hplain label hmem
      short := by
        intro label hmem decoded hdecode hforeign
        exact absurd (hdecoded label hmem decoded hdecode).2 hforeign
      directed := by
        intro label hmem decoded hdecode hdirection
        obtain ⟨c, hc, hright⟩ := List.any_eq_true.mp hdirection
        have hlow := (hdecoded label hmem decoded hdecode).2 c hc
        rw [isRightToLeft_of_lt (by omega)] at hright
        cases hright }

/-- What is written of a label decodes to what the label stands for. -/
theorem decode_of_encode (hencode : encodeLabel? decoded = some label)
    (hplain : IsAscii decoded → encodedPrefix.isPrefixOf? decoded = none)
    (hshort : ¬ IsAscii decoded → decoded.length ≤ 110) : decodeLabel? label = some decoded := by
  unfold encodeLabel? at hencode
  split at hencode
  · next hascii =>
      obtain rfl := Option.some.inj hencode
      unfold decodeLabel?
      rw [hplain fun c hmem => of_decide_eq_true (List.all_eq_true.mp hascii c hmem)]
  · next hforeign =>
      obtain ⟨encoded, hencoded, rfl⟩ := Option.map_eq_some_iff.mp hencode
      have hlength := hshort fun hascii => hforeign
        (List.all_eq_true.mpr fun c hmem => decide_eq_true (hascii c hmem))
      have hbegin : encodedPrefix.isPrefixOf? (encodedPrefix ++ encoded) = some encoded :=
        List.isPrefixOf?_eq_some_iff_append_eq.mpr rfl
      unfold decodeLabel?
      rw [hbegin]
      exact Punycode.decode_of_encode hlength hencoded

/-- A label that decodes is subject to the rule for right-to-left names only if it has a
right-to-left character. -/
theorem any_of_right_to_left (hdecode : decodeLabel? label = some decoded)
    (hdirection : isRightToLeftLabel label = true) : decoded.any isRightToLeft = true := by
  unfold isRightToLeftLabel at hdirection
  unfold decodeLabel? at hdecode
  split at hdirection
  · next rest hbegin =>
      rw [hbegin] at hdecode
      rw [show Punycode.decode? rest = some decoded from hdecode] at hdirection
      exact hdirection
  · cases hdirection

/-- The ASCII form of a regular name is settled. -/
theorem settled_of_regular {labels : List (List Char)} (hascii : toAscii? name = some text)
    (hlabels : labelsOf? name = some labels) (hregular : Regular name labels) :
    IsSettled text := by
  obtain ⟨labels, ascii, hfound, hwritten, rfl⟩ := to_ascii_eq_some_iff.mp hascii
  rw [hlabels] at hfound
  obtain rfl := Option.some.inj hfound
  obtain ⟨hnonempty, hdots⟩ := dot_not_mem_labels hlabels
  have hsplit := split_intercalate hnonempty hdots hwritten
  -- Every label that is written decodes to what the label of the name stands for.
  have hback : ∀ written ∈ ascii, ∃ label ∈ labels, ∃ decoded,
      decodeLabel? label = some decoded ∧ isNormalFormC decoded = true ∧
      isValidLabel (isRightToLeftName name labels) decoded = true ∧
      encodeLabel? decoded = some written ∧ decodeLabel? written = some decoded := by
    intro written hmem
    obtain ⟨label, hlabel, hrewrite⟩ := exists_of_mem_results hwritten hmem
    obtain ⟨decoded, hcheck, hencode⟩ := rewrite_label_ok hrewrite
    obtain ⟨hdecode, hnormal, hvalid⟩ := check_label_ok hcheck
    exact ⟨label, hlabel, decoded, hdecode, hnormal, hvalid, hencode,
      decode_of_encode hencode (hregular.plain label hlabel decoded hdecode)
        (hregular.short label hlabel decoded hdecode)⟩
  have hdirection : ascii.any isRightToLeftLabel = true →
      isRightToLeftName name labels = true := by
    intro hany
    obtain ⟨written, hmem, hwrittenDirection⟩ := List.any_eq_true.mp hany
    obtain ⟨label, hlabel, decoded, hdecode, _, _, _, hdecode'⟩ := hback written hmem
    exact hregular.directed label hlabel decoded hdecode
      (any_of_right_to_left hdecode' hwrittenDirection)
  unfold IsSettled
  rw [hsplit]
  intro written hmem
  obtain ⟨label, _, decoded, _, hnormal, hvalid, hencode, hdecode⟩ := hback written hmem
  unfold rewriteLabel?
  rw [check_label_of hdecode hnormal (valid_of_valid hvalid hdirection)]
  exact hencode

end PodcastLedger.Web.DomainName
