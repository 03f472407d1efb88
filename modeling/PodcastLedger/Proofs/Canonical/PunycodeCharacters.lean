import Mathlib.Data.List.InsertIdx
import PodcastLedger.Proofs.Canonical.PunycodeLabels

/-!
# Characters of labels in Punycode

Which characters encoding writes (`Punycode.written_of_mem_encode`) and which characters decoding
brings in (`Punycode.foreign_of_mem_decode`), whatever the length of the label.
-/

namespace PodcastLedger.Web.Punycode

/-- The character is one that may stand in an encoded label: an ASCII character of the label, a
hyphen or a digit. -/
def IsWritten (label : List Char) (c : Char) : Prop :=
  c ∈ label ∧ c.toNat < 128 ∨ c = '-' ∨ ∃ value < 36, c = digit value

/-- Passing a character writes digits at most. -/
theorem written_step {label : List Char} {encoder encoder' : Encoder} {basicCount code : Nat}
    {c : Char} (hwritten : ∀ d ∈ encoder.output, IsWritten label d)
    (hpass : Encoder.step basicCount code encoder c = some encoder') :
    ∀ d ∈ encoder'.output, IsWritten label d := by
  unfold Encoder.step at hpass
  split at hpass
  · split at hpass
    · cases hpass
    · obtain rfl := Option.some.inj hpass
      exact hwritten
  · split at hpass
    · obtain rfl := Option.some.inj hpass
      exact List.forall_mem_append.mpr
        ⟨hwritten, fun d hmem => .inr (.inr (exists_of_mem_difference hmem))⟩
    · obtain rfl := Option.some.inj hpass
      exact hwritten

/-- Passing characters writes digits at most. -/
theorem written_pass {label rest : List Char} {encoder encoder' : Encoder} {basicCount code : Nat}
    (hwritten : ∀ d ∈ encoder.output, IsWritten label d)
    (hpass : rest.foldlM (Encoder.step basicCount code) encoder = some encoder') :
    ∀ d ∈ encoder'.output, IsWritten label d := by
  induction rest generalizing encoder with
  | nil =>
      obtain rfl := Option.some.inj hpass
      exact hwritten
  | cons c rest ih =>
      rw [List.foldlM_cons] at hpass
      obtain ⟨between, hfirst, hrest⟩ := Option.bind_eq_some_iff.mp hpass
      exact ih (written_step hwritten hfirst) hrest

/-- Writing code points writes digits at most. -/
theorem written_codes {label text : List Char} {codes : List Nat} {encoder : Encoder}
    {basicCount next : Nat} (hwritten : ∀ d ∈ encoder.output, IsWritten label d)
    (hencode : encodeCodes label basicCount codes next encoder = some text) :
    ∀ d ∈ text, IsWritten label d := by
  induction codes generalizing next encoder with
  | nil =>
      obtain rfl := Option.some.inj hencode
      exact hwritten
  | cons code codes ih =>
      rw [encodeCodes] at hencode
      split at hencode
      · cases hencode
      · obtain ⟨passed, hpassed, hencode⟩ := Option.bind_eq_some_iff.mp hencode
        have hskipped : ∀ d ∈ { encoder with difference :=
            encoder.difference + (code - next) * (encoder.handled + 1) }.output,
            IsWritten label d := hwritten
        have houtput := written_pass hskipped hpassed
        refine ih ?_ hencode
        exact houtput

/-- An encoded label consists of ASCII characters of the label, hyphens and digits. -/
theorem written_of_mem_encode {label text : List Char} (hencode : encode? label = some text)
    {c : Char} (hmem : c ∈ text) : IsWritten label c := by
  unfold encode? at hencode
  refine written_codes ?_ hencode c hmem
  intro d hd
  have hbasic : ∀ d ∈ label.filter (fun c => decide (c.toNat < 128)), IsWritten label d := by
    intro d hd
    obtain ⟨hlabel, hascii⟩ := List.mem_filter.mp hd
    exact .inl ⟨hlabel, by simpa using hascii⟩
  dsimp only at hd
  split at hd
  · cases hd
  · rcases List.mem_append.mp hd with hd | hd
    · exact hbasic d hd
    · exact .inr (.inl (List.mem_singleton.mp hd))

/-- A character has the code point that it is made of. -/
theorem to_nat_of_nat {code : Nat} (hvalid : code.isValidChar) : (Char.ofNat code).toNat = code := by
  unfold Char.ofNat
  rw [dif_pos hvalid]
  rfl

/-- What the decoder has found are characters of the text or beyond ASCII, and it inserts only
characters beyond ASCII from here on. -/
def FindsForeign (text : List Char) (decoder : Decoder) : Prop :=
  128 ≤ decoder.code ∧ ∀ c ∈ decoder.output, c ∈ text ∨ 128 ≤ c.toNat

/-- Reading a digit inserts a character beyond ASCII at most. -/
theorem FindsForeign.step {text : List Char} {decoder decoder' : Decoder}
    (hforeign : FindsForeign text decoder) {digit : Char}
    (hread : decoder.step digit = some decoder') : FindsForeign text decoder' := by
  unfold Decoder.step at hread
  obtain ⟨value, _, hread⟩ := Option.bind_eq_some_iff.mp hread
  dsimp only at hread
  split at hread
  · cases hread
  · split at hread
    -- The last digit of a number inserts a character, and the code points ascend.
    · unfold Decoder.finish at hread
      dsimp only at hread
      split at hread
      · cases hread
      · next hvalid =>
          obtain ⟨_, hvalid⟩ := not_or.mp hvalid
          obtain rfl := Option.some.inj hread
          refine ⟨Nat.le_trans hforeign.1 (Nat.le_add_right _ _), fun c hmem => ?_⟩
          rcases List.eq_or_mem_of_mem_insertIdx hmem with rfl | hold
          · rw [to_nat_of_nat (not_not.mp hvalid)]
            exact .inr (Nat.le_trans hforeign.1 (Nat.le_add_right _ _))
          · exact hforeign.2 c hold
    · split at hread
      · cases hread
      · obtain rfl := Option.some.inj hread
        exact hforeign

/-- Reading digits inserts characters beyond ASCII. -/
theorem FindsForeign.run {text digits : List Char} {decoder decoder' : Decoder}
    (hforeign : FindsForeign text decoder)
    (hread : digits.foldlM Decoder.step decoder = some decoder') : FindsForeign text decoder' := by
  induction digits generalizing decoder with
  | nil =>
      obtain rfl := Option.some.inj hread
      exact hforeign
  | cons digit digits ih =>
      rw [List.foldlM_cons] at hread
      obtain ⟨middle, hfirst, hrest⟩ := Option.bind_eq_some_iff.mp hread
      exact ih (hforeign.step hfirst) hrest

/-- The characters of a decoded label stand in its Punycode or lie beyond ASCII. -/
theorem foreign_of_mem_decode {text label : List Char} (hdecode : decode? text = some label)
    {c : Char} (hmem : c ∈ label) : c ∈ text ∨ 128 ≤ c.toNat := by
  have hbasic : ∀ c ∈ (splitBasic text).1, c ∈ text := by
    intro c hc
    unfold splitBasic at hc
    dsimp only at hc
    split at hc
    · cases hc
    · exact List.mem_of_mem_take hc
  have hstart : FindsForeign text (.initial (splitBasic text).1) :=
    ⟨Nat.le_refl _, fun c hc => .inl (hbasic c hc)⟩
  unfold decode? at hdecode
  obtain ⟨decoder, hread, hdecode⟩ := Option.bind_eq_some_iff.mp hdecode
  split at hdecode
  · obtain rfl := Option.some.inj hdecode
    exact (hstart.run hread).2 c hmem
  · cases hdecode

end PodcastLedger.Web.Punycode
