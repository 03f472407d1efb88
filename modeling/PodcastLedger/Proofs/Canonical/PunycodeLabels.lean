import PodcastLedger.Proofs.Canonical.Texts
import PodcastLedger.Web.Punycode

/-!
# Labels in Punycode

What is encoded is decoded again: `Punycode.decode_of_encode`. The decoder is kept in step with the
encoder (`Punycode.InStep`): whenever the encoder has passed a part of the label for some code
point, the decoder has built the label as far as it has smaller code points and, in the part that is
passed, this one. Labels of up to 110 characters stay clear of the bound on all numbers.
-/

namespace PodcastLedger.Web.Punycode

/-! ## Digits -/

/-- No threshold is greater than 26. -/
theorem threshold_le (place bias : Nat) : threshold place bias ≤ 26 := by
  unfold threshold
  split
  · omega
  · split <;> omega

/-- A digit reads back as its value. -/
theorem digit_value_of_digit {value : Nat} (hvalue : value < 36) :
    digitValue? (digit value) = some value := by
  have hall : ∀ value ∈ List.range 36, digitValue? (digit value) = some value := by decide
  exact hall value (List.mem_range.mpr hvalue)

/-- The characters of a difference are digits. -/
theorem exists_of_mem_difference {difference place bias : Nat} {c : Char}
    (hmem : c ∈ differenceDigits difference place bias) : ∃ value < 36, c = digit value := by
  fun_induction differenceDigits difference place bias with
  | case1 difference place bound hlast =>
      have hbound := threshold_le place bias
      exact ⟨difference, by omega, List.mem_singleton.mp hmem⟩
  | case2 difference place bound hlast ih =>
      rcases List.mem_cons.mp hmem with hfirst | hrest
      · have hbound := threshold_le place bias
        have hmod := Nat.mod_lt (difference - bound) (by omega : 0 < 36 - bound)
        exact ⟨_, by omega, hfirst⟩
      · exact ih hrest

/-- The last digit of a number ends it. -/
theorem step_last {decoder : Decoder} {value : Nat} (hvalue : value < 36)
    (hlast : value < threshold decoder.place decoder.bias)
    (hposition : decoder.position + value * decoder.weight ≤ limit) :
    decoder.step (digit value) = decoder.finish (decoder.position + value * decoder.weight) := by
  unfold Decoder.step
  rw [digit_value_of_digit hvalue]
  show (if limit < _ then _ else _) = _
  rw [if_neg (Nat.not_lt.mpr hposition), if_pos hlast]

/-- Any other digit of a number adds to the position and to the weight. -/
theorem step_more {decoder : Decoder} {value : Nat} (hvalue : value < 36)
    (hmore : threshold decoder.place decoder.bias ≤ value)
    (hposition : decoder.position + value * decoder.weight ≤ limit)
    (hweight : decoder.weight * (36 - threshold decoder.place decoder.bias) ≤ limit) :
    decoder.step (digit value) =
      some { decoder with
        position := decoder.position + value * decoder.weight
        weight := decoder.weight * (36 - threshold decoder.place decoder.bias)
        place := decoder.place + 36 } := by
  unfold Decoder.step
  rw [digit_value_of_digit hvalue]
  show (if limit < _ then _ else _) = _
  rw [if_neg (Nat.not_lt.mpr hposition), if_neg (Nat.not_lt.mpr hmore)]
  exact if_neg (Nat.not_lt.mpr hweight)

/-- The digits of a difference are read and end a number, if it stays clear of the limit. -/
theorem read_difference (decoder : Decoder) (difference : Nat)
    (hweight : 35 * (difference * decoder.weight) ≤ limit)
    (hposition : decoder.position + difference * decoder.weight ≤ limit) :
    (differenceDigits difference decoder.place decoder.bias).foldlM Decoder.step decoder =
      decoder.finish (decoder.position + difference * decoder.weight) := by
  induction difference using Nat.strongRecOn generalizing decoder with
  | ind difference ih =>
      have hpos := threshold_pos decoder.place decoder.bias
      have hle := threshold_le decoder.place decoder.bias
      rw [differenceDigits]
      split
      · next hlast =>
          rw [List.foldlM_cons, step_last (by omega) hlast hposition]
          simp
      · next hlast =>
          generalize hbound : threshold decoder.place decoder.bias = bound at hpos hle hlast ⊢
          generalize hquotient : (difference - bound) / (36 - bound) = quotient
          generalize hremainder : (difference - bound) % (36 - bound) = remainder
          -- What the digit leaves is its own weight times what the other digits stand for.
          have hsum : difference = bound + remainder + quotient * (36 - bound) := by
            have hdivision := Nat.mod_add_div' (difference - bound) (36 - bound)
            rw [hremainder, hquotient] at hdivision
            omega
          have hvalue : bound + remainder < 36 := by
            have hmod := Nat.mod_lt (difference - bound) (by omega : 0 < 36 - bound)
            omega
          have hproduct : difference * decoder.weight =
              (bound + remainder) * decoder.weight +
                quotient * (decoder.weight * (36 - bound)) := by
            conv => lhs; rw [hsum]
            rw [Nat.add_mul, Nat.mul_assoc, Nat.mul_comm (36 - bound)]
          have hnext : decoder.weight * (36 - bound) ≤ limit := by
            calc decoder.weight * (36 - bound) ≤ decoder.weight * 35 :=
                  Nat.mul_le_mul_left _ (by omega)
              _ = 35 * (1 * decoder.weight) := by rw [Nat.one_mul, Nat.mul_comm]
              _ ≤ 35 * (difference * decoder.weight) :=
                  Nat.mul_le_mul_left _ (Nat.mul_le_mul_right _ (by omega))
              _ ≤ limit := hweight
          have hmore := step_more hvalue (by rw [hbound]; exact Nat.le_add_right bound remainder)
            (by omega) (by rw [hbound]; exact hnext)
          have hless : quotient < difference := by
            have hdiv := Nat.div_le_self (difference - bound) (36 - bound)
            omega
          rw [hbound] at hmore
          have hrest := ih quotient hless { decoder with
            position := decoder.position + (bound + remainder) * decoder.weight
            weight := decoder.weight * (36 - bound)
            place := decoder.place + 36 } (by dsimp only; omega) (by dsimp only; omega)
          rw [List.foldlM_cons, hmore, Option.bind_eq_bind, Option.bind_some]
          refine hrest.trans ?_
          dsimp only
          rw [hproduct, ← Nat.add_assoc]
          rfl

/-! ## Encoder and decoder in step -/

/-- The characters of a label for which a condition on their code points holds. -/
def keep (condition : Nat → Bool) (label : List Char) : List Char :=
  label.filter fun c => condition c.toNat

/-- Characters have code points below `0x110000`. -/
theorem to_nat_lt (c : Char) : c.toNat < 0x110000 := by
  have hvalid : c.toNat.isValidChar := c.valid
  unfold Nat.isValidChar at hvalid
  omega

/-- A number that ends at a place of a code point inserts the character there. -/
theorem finish_at {decoder : Decoder} {position place : Nat} {c : Char}
    (hreached : decoder.code * (decoder.output.length + 1) + position =
      c.toNat * (decoder.output.length + 1) + place)
    (hcode : decoder.code ≤ c.toNat) (hplace : place ≤ decoder.output.length) :
    decoder.finish position = some
      { output := decoder.output.insertIdx place c
        code := c.toNat
        bias := adapt (position - decoder.start) (decoder.output.length + 1) (decoder.start == 0)
        position := place + 1
        start := place + 1
        weight := 1
        place := 36 } := by
  have hvalid : c.toNat.isValidChar := c.valid
  have hlimit : ¬ limit < c.toNat := by
    have hlt := to_nat_lt c
    unfold limit
    omega
  have hposition : position =
      place + (decoder.output.length + 1) * (c.toNat - decoder.code) := by
    have hsplit : c.toNat * (decoder.output.length + 1) =
        decoder.code * (decoder.output.length + 1) +
          (decoder.output.length + 1) * (c.toNat - decoder.code) := by
      rw [Nat.mul_comm (decoder.output.length + 1), ← Nat.add_mul, Nat.add_sub_cancel' hcode]
    omega
  have hdiv : decoder.code + position / (decoder.output.length + 1) = c.toNat := by
    rw [hposition, Nat.add_mul_div_left _ _ (Nat.succ_pos _),
      Nat.div_eq_of_lt (Nat.lt_succ_of_le hplace)]
    omega
  have hmod : position % (decoder.output.length + 1) = place := by
    rw [hposition, Nat.add_mul_mod_self_left, Nat.mod_eq_of_lt (Nat.lt_succ_of_le hplace)]
  unfold Decoder.finish
  dsimp only
  rw [hdiv, hmod, Char.ofNat_toNat]
  exact if_neg (not_or.mpr ⟨hlimit, not_not.mpr hvalid⟩)

/-- What the encoder has written in between takes the decoder along. -/
def Follows (encoder encoder' : Encoder) (decoder decoder' : Decoder) : Prop :=
  ∃ digits, encoder'.output = encoder.output ++ digits ∧
    (∀ c ∈ digits, ∃ value < 36, c = digit value) ∧
    digits.foldlM Decoder.step decoder = some decoder'

/-- Where nothing is written the decoder stays. -/
theorem Follows.refl {encoder encoder' : Encoder} (houtput : encoder'.output = encoder.output)
    (decoder : Decoder) : Follows encoder encoder' decoder decoder :=
  ⟨[], by rw [houtput, List.append_nil], List.forall_mem_nil _, rfl⟩

/-- What is written in two parts is read in two parts. -/
theorem Follows.trans {encoder between encoder' : Encoder} {decoder middle decoder' : Decoder}
    (hfirst : Follows encoder between decoder middle)
    (hrest : Follows between encoder' middle decoder') :
    Follows encoder encoder' decoder decoder' := by
  obtain ⟨digits, houtput, hdigits, hread⟩ := hfirst
  obtain ⟨others, houtput', hothers, hread'⟩ := hrest
  refine ⟨digits ++ others, ?_, List.forall_mem_append.mpr ⟨hdigits, hothers⟩, ?_⟩
  · rw [houtput', houtput, List.append_assoc]
  · rw [List.foldlM_append, hread]
    exact hread'

/-- The decoder stands where the encoder does: for the code point `code`, the part `before` of the
label is passed and the part `after` is not. -/
structure InStep (basicCount code : Nat) (before after : List Char) (encoder : Encoder)
    (decoder : Decoder) : Prop where
  output : decoder.output = keep (· ≤ code) before ++ keep (· < code) after
  handled : encoder.handled = decoder.output.length
  basic_le : basicCount ≤ encoder.handled
  first : (decoder.start == 0) = (encoder.handled == basicCount)
  bias : decoder.bias = encoder.bias
  code_le : decoder.code ≤ code
  reached : decoder.code * (decoder.output.length + 1) + (decoder.position + encoder.difference) =
    code * (decoder.output.length + 1) + (keep (· ≤ code) before).length
  start : decoder.start = decoder.position
  weight : decoder.weight = 1
  place : decoder.place = 36

variable {basicCount code : Nat} {before after label : List Char} {encoder encoder' : Encoder}
  {decoder : Decoder}

/-- A character is kept or not. -/
theorem keep_append_singleton (condition : Nat → Bool) (label : List Char) (c : Char) :
    keep condition (label ++ [c]) =
      if condition c.toNat then keep condition label ++ [c] else keep condition label := by
  unfold keep
  rw [List.filter_append, List.filter_cons]
  split <;> simp

/-- A character is kept or not. -/
theorem keep_cons (condition : Nat → Bool) (label : List Char) (c : Char) :
    keep condition (c :: label) =
      if condition c.toNat then c :: keep condition label else keep condition label := by
  unfold keep
  rw [List.filter_cons]

/-- What is inserted behind a part stands between this part and the rest. -/
theorem insert_between {Item : Type} (before after : List Item) (item : Item) :
    (before ++ after).insertIdx before.length item = before ++ item :: after := by
  induction before with
  | nil => rfl
  | cons first rest ih =>
      rw [List.cons_append, List.length_cons, List.insertIdx_succ_cons, ih, List.cons_append]

/-- The number that the encoder writes takes the decoder to the place of the character. -/
theorem InStep.write {c : Char} (hstep : InStep basicCount code before (c :: after) encoder decoder)
    (hshort : (before ++ c :: after).length ≤ 110) (hc : c.toNat = code) :
    (differenceDigits encoder.difference 36 encoder.bias).foldlM Decoder.step decoder = some
      { output := keep (· ≤ code) before ++ c :: keep (· < code) after
        code
        bias := adapt encoder.difference (encoder.handled + 1) (encoder.handled == basicCount)
        position := (keep (· ≤ code) before).length + 1
        start := (keep (· ≤ code) before).length + 1
        weight := 1
        place := 36 } := by
  obtain ⟨houtput, hhandled, _, hfirst, hbias, hcode, hreached, hstart, hweight, hplace⟩ := hstep
  subst hc
  rw [keep_cons, if_neg (by simp)] at houtput
  have hlength : decoder.output.length =
      (keep (· ≤ c.toNat) before).length + (keep (· < c.toNat) after).length := by
    rw [houtput, List.length_append]
  have hcount : decoder.output.length + 1 ≤ 110 := by
    have hbefore : (keep (· ≤ c.toNat) before).length ≤ before.length := List.length_filter_le _ _
    have hafter : (keep (· < c.toNat) after).length ≤ after.length := List.length_filter_le _ _
    rw [List.length_append, List.length_cons] at hshort
    omega
  -- This is where the length matters: no number on the way exceeds 32 bits.
  have hproduct : c.toNat * (decoder.output.length + 1) ≤ 1114111 * 110 :=
    Nat.mul_le_mul (Nat.le_of_lt_succ (to_nat_lt c)) hcount
  have hread := read_difference decoder encoder.difference
    (by rw [hweight, limit]; omega) (by rw [hweight, limit]; omega)
  rw [hplace, hbias, hweight, Nat.mul_one] at hread
  have hfinish := finish_at hreached hcode (by omega)
  rw [hread, hfinish, hstart, Nat.add_sub_cancel_left, ← hstart, hfirst, ← hhandled]
  rw [houtput, insert_between]

/-- A character before the code point is passed: there is one place more to count. -/
theorem InStep.pass_before {c : Char}
    (hstep : InStep basicCount code before (c :: after) encoder decoder) (hless : c.toNat < code) :
    InStep basicCount code (before ++ [c]) after
      { encoder with difference := encoder.difference + 1 } decoder := by
  have hbefore : keep (· ≤ code) (before ++ [c]) = keep (· ≤ code) before ++ [c] := by
    rw [keep_append_singleton, if_pos (by simpa using Nat.le_of_lt hless)]
  have houtput := hstep.output
  have hreached := hstep.reached
  rw [keep_cons, if_pos (by simpa using hless)] at houtput
  exact
    { hstep with
      output := by rw [houtput, hbefore, List.append_assoc, List.singleton_append]
      reached := by
        rw [hbefore, List.length_append, List.length_singleton]
        show decoder.code * (decoder.output.length + 1) +
          (decoder.position + (encoder.difference + 1)) = _
        omega }

/-- A character beyond the code point is passed without a trace. -/
theorem InStep.pass_beyond {c : Char}
    (hstep : InStep basicCount code before (c :: after) encoder decoder) (hless : code < c.toNat) :
    InStep basicCount code (before ++ [c]) after encoder decoder := by
  have hbefore : keep (· ≤ code) (before ++ [c]) = keep (· ≤ code) before := by
    rw [keep_append_singleton, if_neg (by simpa using hless)]
  have houtput := hstep.output
  rw [keep_cons, if_neg (by simpa using Nat.le_of_lt hless)] at houtput
  exact
    { hstep with
      output := by rw [houtput, hbefore]
      reached := by
        rw [hbefore]
        exact hstep.reached }

/-- The character of the code point is written, and the decoder inserts it. -/
theorem InStep.pass_written {c : Char}
    (hstep : InStep basicCount code before (c :: after) encoder decoder) (hc : c.toNat = code) :
    InStep basicCount code (before ++ [c]) after
      { output := encoder.output ++ differenceDigits encoder.difference 36 encoder.bias
        difference := 0
        bias := adapt encoder.difference (encoder.handled + 1) (encoder.handled == basicCount)
        handled := encoder.handled + 1 }
      { output := keep (· ≤ code) before ++ c :: keep (· < code) after
        code
        bias := adapt encoder.difference (encoder.handled + 1) (encoder.handled == basicCount)
        position := (keep (· ≤ code) before).length + 1
        start := (keep (· ≤ code) before).length + 1
        weight := 1
        place := 36 } := by
  have hbefore : keep (· ≤ code) (before ++ [c]) = keep (· ≤ code) before ++ [c] := by
    rw [keep_append_singleton, if_pos (by simpa using Nat.le_of_eq hc)]
  have houtput := hstep.output
  rw [keep_cons, if_neg (by simp [hc])] at houtput
  have hlength : encoder.handled + 1 =
      (keep (· ≤ code) before ++ c :: keep (· < code) after).length := by
    rw [hstep.handled, houtput]
    simp
    omega
  have hlater : encoder.handled + 1 ≠ basicCount := by
    have hbasic := hstep.basic_le
    omega
  exact
    { output := by rw [hbefore, List.append_assoc, List.singleton_append]
      handled := hlength
      basic_le := Nat.le_succ_of_le hstep.basic_le
      first := by
        show _ = (encoder.handled + 1 == basicCount)
        rw [beq_eq_false_iff_ne.mpr hlater]
        rfl
      bias := rfl
      code_le := Nat.le_refl code
      reached := by
        have hplaces : (keep (· ≤ code) before ++ [c]).length =
            (keep (· ≤ code) before).length + 1 := List.length_append
        rw [hbefore, hplaces]
        rfl
      start := rfl
      weight := rfl
      place := rfl }

/-- The encoder passes a character, and the decoder follows. -/
theorem InStep.step {c : Char} (hstep : InStep basicCount code before (c :: after) encoder decoder)
    (hshort : (before ++ c :: after).length ≤ 110)
    (hpass : Encoder.step basicCount code encoder c = some encoder') :
    ∃ decoder', Follows encoder encoder' decoder decoder' ∧
      InStep basicCount code (before ++ [c]) after encoder' decoder' := by
  unfold Encoder.step at hpass
  split at hpass
  · next hless =>
      split at hpass
      · cases hpass
      · obtain rfl := Option.some.inj hpass
        exact ⟨decoder, .refl rfl decoder, hstep.pass_before hless⟩
  · next hless =>
      split at hpass
      · next heq =>
          obtain rfl := Option.some.inj hpass
          exact ⟨_, ⟨_, rfl, fun _ => exists_of_mem_difference, hstep.write hshort heq⟩,
            hstep.pass_written heq⟩
      · next hne =>
          obtain rfl := Option.some.inj hpass
          exact ⟨decoder, .refl rfl decoder, hstep.pass_beyond (by omega)⟩

/-- The encoder passes the rest of the label, and the decoder follows. -/
theorem InStep.pass (hstep : InStep basicCount code before after encoder decoder)
    (hshort : (before ++ after).length ≤ 110)
    (hpass : after.foldlM (Encoder.step basicCount code) encoder = some encoder') :
    ∃ decoder', Follows encoder encoder' decoder decoder' ∧
      InStep basicCount code (before ++ after) [] encoder' decoder' := by
  induction after generalizing before encoder decoder with
  | nil =>
      obtain rfl := Option.some.inj hpass
      rw [List.append_nil]
      exact ⟨decoder, .refl rfl decoder, hstep⟩
  | cons c after ih =>
      rw [List.foldlM_cons] at hpass
      obtain ⟨between, hfirst, hrest⟩ := Option.bind_eq_some_iff.mp hpass
      obtain ⟨middle, hfollows, hmiddle⟩ := hstep.step hshort hfirst
      rw [List.append_cons] at hshort ⊢
      obtain ⟨decoder', hfollows', hend⟩ := ih hmiddle hshort hrest
      exact ⟨decoder', hfollows.trans hfollows', hend⟩

/-- At the end of the label the next code point comes. -/
theorem InStep.next_code (hstep : InStep basicCount code label [] encoder decoder) :
    InStep basicCount (code + 1) [] label { encoder with difference := encoder.difference + 1 }
      decoder := by
  obtain ⟨houtput, hhandled, hbasic, hfirst, hbias, hcode, hreached, hstart, hweight, hplace⟩ := hstep
  have hkeep : keep (· < code + 1) label = keep (· ≤ code) label := by
    simp only [Nat.lt_succ_iff]
  rw [show keep (· < code) [] = [] from rfl, List.append_nil] at houtput
  refine ⟨?_, hhandled, hbasic, hfirst, hbias, Nat.le_succ_of_le hcode, ?_, hstart, hweight, hplace⟩
  · rw [houtput, hkeep]
    rfl
  · rw [← houtput] at hreached
    rw [Nat.succ_mul]
    show decoder.code * _ + (decoder.position + (encoder.difference + 1)) = _ + 0
    omega

/-- Code points that the label does not have are passed over. -/
theorem InStep.skip {next : Nat} (hstep : InStep basicCount next [] label encoder decoder)
    (hle : next ≤ code) (hnone : ∀ c ∈ label, next ≤ c.toNat → code ≤ c.toNat) :
    InStep basicCount code [] label
      { encoder with
        difference := encoder.difference + (code - next) * (encoder.handled + 1) } decoder := by
  obtain ⟨houtput, hhandled, hbasic, hfirst, hbias, hcode, hreached, hstart, hweight, hplace⟩ := hstep
  refine ⟨?_, hhandled, hbasic, hfirst, hbias, Nat.le_trans hcode hle, ?_, hstart, hweight, hplace⟩
  · rw [houtput]
    refine congrArg _ (List.filter_congr fun c hmem => ?_)
    rw [decide_eq_decide]
    constructor
    · exact fun hlt => Nat.lt_of_lt_of_le hlt hle
    · intro hlt
      by_contra hge
      exact absurd (hnone c hmem (Nat.le_of_not_lt hge)) (Nat.not_le.mpr hlt)
  · have hproduct : code * (decoder.output.length + 1) =
        next * (decoder.output.length + 1) +
          (code - next) * (decoder.output.length + 1) := by
      rw [← Nat.add_mul, Nat.add_sub_cancel' hle]
    rw [hproduct, hhandled]
    show decoder.code * _ + (decoder.position + (encoder.difference + _)) = _ + 0
    have hreached : decoder.code * (decoder.output.length + 1) +
        (decoder.position + encoder.difference) = next * (decoder.output.length + 1) + 0 := hreached
    omega

/-- The encoder writes the code points of the label, and the decoder ends with the label. -/
theorem InStep.codes {codes : List Nat} {next : Nat} {text : List Char}
    (hstep : InStep basicCount next [] label encoder decoder) (hshort : label.length ≤ 110)
    (hascending : codes.Pairwise (· < ·)) (hnext : ∀ code ∈ codes, next ≤ code)
    (hall : ∀ c ∈ label, next ≤ c.toNat → c.toNat ∈ codes)
    (hencode : encodeCodes label basicCount codes next encoder = some text) :
    ∃ digits decoder', text = encoder.output ++ digits ∧
      (∀ c ∈ digits, ∃ value < 36, c = digit value) ∧
      digits.foldlM Decoder.step decoder = some decoder' ∧ decoder'.output = label ∧
      decoder'.place = 36 := by
  induction codes generalizing next encoder decoder with
  | nil =>
      obtain rfl := Option.some.inj hencode
      refine ⟨[], decoder, (List.append_nil _).symm, List.forall_mem_nil _, rfl, ?_, hstep.place⟩
      rw [hstep.output]
      refine List.filter_eq_self.mpr fun c hmem => decide_eq_true ?_
      exact Nat.lt_of_not_le fun hle => by cases hall c hmem hle
  | cons code codes ih =>
      obtain ⟨hfirst, hascending⟩ := List.pairwise_cons.mp hascending
      -- No character lies between the code points, so the decoder may skip from one to the next.
      have hlater : ∀ c ∈ label, next ≤ c.toNat → code ≤ c.toNat := by
        intro c hmem hle
        rcases List.mem_cons.mp (hall c hmem hle) with heq | hmem
        · exact Nat.le_of_eq heq.symm
        · exact Nat.le_of_lt (hfirst _ hmem)
      have hskip := hstep.skip (hnext code List.mem_cons_self) hlater
      rw [encodeCodes] at hencode
      split at hencode
      · cases hencode
      · obtain ⟨passed, hpassed, hencode⟩ := Option.bind_eq_some_iff.mp hencode
        obtain ⟨middle, hfollows, hend⟩ := hskip.pass hshort hpassed
        obtain ⟨digits, houtput, hdigits, hread⟩ := hfollows
        have hrest : ∀ c ∈ label, code + 1 ≤ c.toNat → c.toNat ∈ codes := by
          intro c hmem hle
          have hreached := Nat.le_trans (hnext code List.mem_cons_self) (Nat.le_of_succ_le hle)
          rcases List.mem_cons.mp (hall c hmem hreached) with heq | hmem
          · omega
          · exact hmem
        obtain ⟨others, decoder', htext, hothers, hread', hlabel, hplace⟩ :=
          ih hend.next_code hascending (fun later hmem => hfirst later hmem) hrest hencode
        refine ⟨digits ++ others, decoder', ?_, List.forall_mem_append.mpr ⟨hdigits, hothers⟩, ?_,
          hlabel, hplace⟩
        · rw [htext]
          show passed.output ++ others = _
          rw [houtput, List.append_assoc]
        · rw [List.foldlM_append, hread]
          exact hread'

/-! ## Whole labels -/

/-- Insertion adds the one number. -/
theorem mem_insert_ascending {number other : Nat} {numbers : List Nat} :
    other ∈ insertAscending number numbers ↔ other = number ∨ other ∈ numbers := by
  induction numbers with
  | nil => simp [insertAscending]
  | cons next rest ih =>
      simp only [insertAscending]
      split
      · simp
      · split
        · next heq =>
            subst heq
            simp
        · rw [List.mem_cons, ih, List.mem_cons, or_left_comm]

/-- Insertion keeps a list strictly ascending. -/
theorem pairwise_insert_ascending {number : Nat} {numbers : List Nat}
    (hascending : numbers.Pairwise (· < ·)) : (insertAscending number numbers).Pairwise (· < ·) := by
  induction numbers with
  | nil => simp [insertAscending]
  | cons next rest ih =>
      obtain ⟨hnext, hrest⟩ := List.pairwise_cons.mp hascending
      simp only [insertAscending]
      split
      · next hlt =>
          refine List.pairwise_cons.mpr ⟨fun other hmem => ?_, hascending⟩
          rcases List.mem_cons.mp hmem with rfl | hmem
          · exact hlt
          · exact Nat.lt_trans hlt (hnext other hmem)
      · split
        · exact hascending
        · refine List.pairwise_cons.mpr ⟨fun other hmem => ?_, ih hrest⟩
          rcases mem_insert_ascending.mp hmem with rfl | hmem
          · omega
          · exact hnext other hmem

/-- The numbers that are inserted one after the other. -/
theorem mem_foldr_insert {other : Nat} {numbers : List Nat} :
    other ∈ numbers.foldr insertAscending [] ↔ other ∈ numbers := by
  induction numbers with
  | nil => rfl
  | cons next rest ih => rw [List.foldr_cons, mem_insert_ascending, ih, List.mem_cons]

/-- Numbers that are inserted one after the other ascend. -/
theorem pairwise_foldr_insert (numbers : List Nat) :
    (numbers.foldr insertAscending []).Pairwise (· < ·) := by
  induction numbers with
  | nil => exact List.Pairwise.nil
  | cons next rest ih => exact pairwise_insert_ascending ih

/-- There is no hyphen among digits. -/
theorem hyphen_not_mem {digits : List Char} (hdigits : ∀ c ∈ digits, ∃ value < 36, c = digit value) :
    '-' ∉ digits := by
  intro hmem
  obtain ⟨value, hvalue, hhyphen⟩ := hdigits '-' hmem
  have hall : ∀ value ∈ List.range 36, '-' ≠ digit value := by decide
  exact hall value (List.mem_range.mpr hvalue) hhyphen

/-- The parts of an encoded label are told apart at its last hyphen. -/
theorem split_basic_append {basic digits : List Char} (hdigits : '-' ∉ digits) :
    splitBasic ((if basic = [] then [] else basic ++ ['-']) ++ digits) = (basic, digits) := by
  unfold splitBasic
  dsimp only
  split
  · next hempty =>
      subst hempty
      rw [List.nil_append, behind_none hdigits]
      simp
  · next hbasic =>
      rw [List.append_assoc, List.singleton_append, behind_last basic hdigits]
      have htake : (basic ++ '-' :: digits).take
          ((basic ++ '-' :: digits).length - digits.length - 1) = basic := by
        have hlength : (basic ++ '-' :: digits).length - digits.length - 1 = basic.length := by
          simp
          omega
        rw [hlength, List.take_left]
      rw [htake, if_neg hbasic]

/-- What is encoded consists of the ASCII characters of the label, a hyphen if there are any, and
digits, which take the decoder to the label. -/
theorem encode_ok {label text : List Char} (hshort : label.length ≤ 110)
    (hencode : encode? label = some text) :
    ∃ digits decoder, text = (if keep (· < 128) label = [] then [] else
        keep (· < 128) label ++ ['-']) ++ digits ∧
      (∀ c ∈ digits, ∃ value < 36, c = digit value) ∧
      digits.foldlM Decoder.step (.initial (keep (· < 128) label)) = some decoder ∧
      decoder.output = label ∧ decoder.place = 36 := by
  unfold encode? at hencode
  dsimp only at hencode
  -- Before the first code point beyond ASCII the decoder holds the ASCII characters.
  have hstart : InStep (keep (· < 128) label).length 128 [] label
      ⟨if keep (· < 128) label = [] then [] else keep (· < 128) label ++ ['-'], 0, 72,
        (keep (· < 128) label).length⟩ (.initial (keep (· < 128) label)) :=
    { output := rfl
      handled := rfl
      basic_le := Nat.le_refl _
      first := by
        rw [beq_self_eq_true]
        rfl
      bias := rfl
      code_le := Nat.le_refl _
      reached := rfl
      start := rfl
      weight := rfl
      place := rfl }
  refine hstart.codes hshort (pairwise_foldr_insert _) ?_ ?_ hencode
  · intro code hmem
    simpa using (List.mem_filter.mp (mem_foldr_insert.mp hmem)).2
  · intro c hmem hle
    exact mem_foldr_insert.mpr
      (List.mem_filter.mpr ⟨List.mem_map_of_mem hmem, by simpa using hle⟩)

/-- An encoded label is decoded to the label. -/
theorem decode_of_encode {label text : List Char} (hshort : label.length ≤ 110)
    (hencode : encode? label = some text) : decode? text = some label := by
  obtain ⟨digits, decoder, rfl, hdigits, hread, hlabel, hplace⟩ := encode_ok hshort hencode
  unfold decode?
  rw [split_basic_append (hyphen_not_mem hdigits)]
  show (digits.foldlM Decoder.step _ >>= _) = _
  rw [hread, Option.bind_eq_bind, Option.bind_some, if_pos hplace, hlabel]

end PodcastLedger.Web.Punycode
