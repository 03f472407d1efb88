import Mathlib.Data.List.Basic
import PodcastLedger.Web.Percent

/-!
# Percent encoding of written text

Percent encoding leaves nothing to escape in what it has written (`Percent.escaped_of_mem_encode`):
the percent sign and hexadecimal digits are in no set of escaped characters. Undoing it leaves a text
alone that has no percent sign (`Percent.decode_of_plain`).
-/

namespace PodcastLedger.Web.Percent

variable {escaped : Char → Bool} {text : List Char} {c : Char}

/-- The set has none of the characters that percent encoding writes. -/
def SparesEscapes (escaped : Char → Bool) : Prop :=
  ∀ byte, ∀ c ∈ encodeByte byte, escaped c = false

/-- User names and passwords spare what percent encoding writes. -/
theorem spares_user_info : SparesEscapes isEscapedInUserInfo := by
  intro byte c hmem
  have hdigit : ∀ value ∈ List.range 16, isEscapedInUserInfo (Text.upperHexDigit value) = false := by
    decide
  have hbyte : byte.toNat < 256 := byte.toNat_lt
  simp only [encodeByte, List.mem_cons, List.not_mem_nil, or_false] at hmem
  rcases hmem with rfl | rfl | rfl
  · decide
  · exact hdigit _ (List.mem_range.mpr (by omega))
  · exact hdigit _ (List.mem_range.mpr (by omega))

/-- A smaller set spares what percent encoding writes as well. -/
theorem SparesEscapes.mono (hspares : SparesEscapes escaped) {fewer : Char → Bool}
    (hfewer : ∀ c, fewer c = true → escaped c = true) : SparesEscapes fewer := by
  intro byte c hmem
  refine Bool.eq_false_iff.mpr fun hescaped => ?_
  have hwritten := hfewer c hescaped
  rw [hspares byte c hmem] at hwritten
  cases hwritten

/-- Paths spare what percent encoding writes. -/
theorem spares_path : SparesEscapes isEscapedInPath :=
  spares_user_info.mono fun c hescaped => by rw [isEscapedInUserInfo, hescaped, Bool.true_or]

/-- Queries spare what percent encoding writes. -/
theorem spares_query : SparesEscapes isEscapedInQuery :=
  spares_path.mono fun c hescaped => by rw [isEscapedInPath, hescaped, Bool.true_or]

/-- No character of an encoded text is to be escaped. -/
theorem escaped_of_mem_encode (hspares : SparesEscapes escaped) (hmem : c ∈ encode escaped text) :
    escaped c = false := by
  obtain ⟨d, _, hwritten⟩ := List.mem_flatMap.mp hmem
  split at hwritten
  · obtain ⟨byte, _, hbyte⟩ := List.mem_flatMap.mp hwritten
    exact hspares byte c hbyte
  · next hplain =>
      obtain rfl := List.mem_singleton.mp hwritten
      exact Bool.eq_false_iff.mpr hplain

/-- A text without characters to escape stays as it is. -/
theorem encode_of_plain (hplain : ∀ c ∈ text, escaped c = false) : encode escaped text = text := by
  induction text with
  | nil => rfl
  | cons c rest ih =>
      obtain ⟨hc, hrest⟩ := List.forall_mem_cons.mp hplain
      have ih := ih hrest
      unfold encode at ih ⊢
      rw [List.flatMap_cons, hc, ih]
      rfl

/-- A text without percent signs stands for its own bytes. -/
theorem decode_bytes_of_plain (hplain : '%' ∉ text) :
    decodeBytes text = text.flatMap String.utf8EncodeChar := by
  induction text with
  | nil => rfl
  | cons c rest ih =>
      obtain ⟨hc, hrest⟩ := not_or.mp (mt List.mem_cons.mpr hplain)
      have hbytes : decodeBytes (c :: rest) = String.utf8EncodeChar c ++ decodeBytes rest := by
        rw [decodeBytes]
        rintro high low tail rfl rfl
        exact hc rfl
      rw [hbytes, ih hrest, List.flatMap_cons]

/-- A text without percent signs stands for itself. -/
theorem decode_of_plain (hplain : '%' ∉ text) : decode? text = some text := by
  unfold decode?
  have hbytes : ByteArray.mk (text.flatMap String.utf8EncodeChar).toArray = text.utf8Encode := by
    refine ByteArray.ext ?_
    exact (List.data_toByteArray).symm
  rw [decode_bytes_of_plain hplain, hbytes, List.utf8Decode?_utf8Encode]
  rfl

end PodcastLedger.Web.Percent
