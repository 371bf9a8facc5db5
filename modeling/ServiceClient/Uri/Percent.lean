import ServiceClient.Text.Ascii
import ServiceClient.Text.Hex
import ServiceClient.Text.Utf8

/-!
# Percent-encoding

A value that is put into a path is encoded: the bytes of its UTF-8 form stay as they are when they
are unreserved ASCII characters, and become a percent sign and two capital hexadecimal digits
otherwise. A value that fills several segments of a path keeps its slashes too.

`decode` reads the encoding back. It takes every percent sign that two hexadecimal digits follow for
an encoded byte, so it is the inverse of `encode` in both modes.
-/

namespace ServiceClient.Uri.Percent

/-- Whether a character never needs encoding: the ASCII letters and digits, and four marks. -/
def isUnreserved (c : Char) : Bool :=
  Text.isCapital c || Text.isSmall c || Text.isDigit c || c = '_' || c = '.' || c = '-' || c = '~'

/-- Whether a character stays as it is, given whether slashes are kept. -/
def isSafe (multiSegment : Bool) (c : Char) : Bool := isUnreserved c || (multiSegment && c = '/')

/-- A byte as a percent sign and two digits. -/
def triple (b : UInt8) : List Char :=
  ['%', Text.Hex.capital (b.toNat / 16), Text.Hex.capital (b.toNat % 16)]

/-- A character as it appears in a path. -/
def encodeChar (multiSegment : Bool) (c : Char) : List Char :=
  if isSafe multiSegment c then [c] else (String.utf8EncodeChar c).flatMap triple

/-- A text as it appears in a path. -/
def encodeChars (multiSegment : Bool) (cs : List Char) : List Char :=
  cs.flatMap (encodeChar multiSegment)

/-- A text as it appears in a path. -/
def encode (multiSegment : Bool) (text : String) : String :=
  String.ofList (encodeChars multiSegment text.toList)

/-- The bytes that an encoded text stands for. -/
def bytes : List Char → List UInt8
  | [] => []
  | '%' :: high :: low :: rest =>
    match Text.Hex.value? high, Text.Hex.value? low with
    | some h, some l => UInt8.ofNat (16 * h + l) :: bytes rest
    | _, _ => String.utf8EncodeChar '%' ++ bytes (high :: low :: rest)
  | c :: rest => String.utf8EncodeChar c ++ bytes rest

/-- The text that an encoded text stands for, if its bytes are UTF-8. -/
def decode (text : String) : Except Text.Utf8.Error String :=
  (Text.Utf8.decode (bytes text.toList)).map String.ofList

theorem encodeChars_append (multiSegment : Bool) (cs ds : List Char) :
    encodeChars multiSegment (cs ++ ds) =
      encodeChars multiSegment cs ++ encodeChars multiSegment ds := by
  simp [encodeChars]

end ServiceClient.Uri.Percent
