import PodcastLedger.Text.Digits

/-!
# Percent encoding

Characters of an address are written as the bytes of their UTF-8 form, each as a percent sign and
two hexadecimal digits in upper case, where the part of the address calls for it. `encode` takes
the set of characters to write so.
-/

namespace PodcastLedger.Web.Percent

/-- One byte in percent encoding. -/
def encodeByte (byte : UInt8) : List Char :=
  ['%', Text.upperHexDigit (byte.toNat / 16), Text.upperHexDigit (byte.toNat % 16)]

/-- One character in percent encoding. -/
def encodeChar (c : Char) : List Char :=
  (String.utf8EncodeChar c).flatMap encodeByte

/-- The text with the characters in the set `escaped` in percent encoding. -/
def encode (escaped : Char → Bool) (text : List Char) : List Char :=
  text.flatMap fun c => if escaped c then encodeChar c else [c]

/-- The bytes of a text in which every percent sign with two hexadecimal digits stands for one. -/
def decodeBytes : List Char → List UInt8
  | '%' :: high :: low :: rest =>
    match Text.digitOf? 16 high, Text.digitOf? 16 low with
    | some h, some l => UInt8.ofNat (16 * h + l) :: decodeBytes rest
    | _, _ => String.utf8EncodeChar '%' ++ decodeBytes (high :: low :: rest)
  | c :: rest => String.utf8EncodeChar c ++ decodeBytes rest
  | [] => []

/-- Undoes percent encoding; `none` if the bytes are no UTF-8 text. -/
def decode? (text : List Char) : Option (List Char) :=
  (ByteArray.mk (decodeBytes text).toArray).utf8Decode?.map Array.toList

/-- The character is a control character or lies beyond ASCII. -/
def isControlOrForeign (c : Char) : Bool :=
  decide (c.toNat < 0x20) || decide (0x7F ≤ c.toNat)

/-- The characters that a query writes in percent encoding. -/
def isEscapedInQuery (c : Char) : Bool :=
  isControlOrForeign c || [' ', '"', '#', '<', '>'].contains c

/-- The characters that a path writes in percent encoding. -/
def isEscapedInPath (c : Char) : Bool :=
  isEscapedInQuery c || ['\x60', '?', '\x7b', '\x7d'].contains c

/-- The characters that a user name or password writes in percent encoding. -/
def isEscapedInUserInfo (c : Char) : Bool :=
  isEscapedInPath c || ['/', ':', ';', '=', '@', '[', '\\', ']', '^', '|'].contains c

end PodcastLedger.Web.Percent
