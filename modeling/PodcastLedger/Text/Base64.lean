/-!
# Base64

The written form of bytes in base 64, three bytes in four characters, as password hashes use it for
their parameters.
-/

namespace PodcastLedger.Text

/-- The character of a value below 64. -/
def base64Char (value : Nat) : Char :=
  Char.ofNat
    (if value < 26 then 0x41 + value
    else if value < 52 then 0x61 + (value - 26)
    else if value < 62 then 0x30 + (value - 52)
    else if value = 62 then 0x2B
    else 0x2F)

/-- Three bytes in base 64. -/
def base64Triple (first second third : Nat) : String :=
  let bits := (first * 256 + second) * 256 + third
  String.ofList
    ([262144, 4096, 64, 1].map fun weight => base64Char (bits / weight % 64))

end PodcastLedger.Text
