import ServiceClient.Decimal.Notation
import ServiceClient.Json
import ServiceClient.Text.Hex

/-!
# Writing JSON

The text of a JSON value in printable ASCII. Characters outside it are escaped by their UTF-16
units, so a character past U+FFFF becomes a pair of escapes; the quote, the backslash and five
control characters have short escapes.
-/

namespace ServiceClient.Json

/-- The names that JSON text gives to the numbers without digits. -/
def textNames : Decimal.SpecialNames := ⟨"NaN", "Infinity"⟩

/-- The escape of one UTF-16 unit. -/
def unitEscape (n : Nat) : List Char := '\\' :: 'u' :: Text.Hex.fixed 4 n

/-- A character as it stands inside a JSON string. -/
def escapedChar (c : Char) : List Char :=
  if c = '"' ∨ c = '\\' then ['\\', c]
  else if c = '\n' then ['\\', 'n']
  else if c = '\r' then ['\\', 'r']
  else if c = '\t' then ['\\', 't']
  else if c = '\x08' then ['\\', 'b']
  else if c = '\x0c' then ['\\', 'f']
  else if ' ' ≤ c ∧ c ≤ '~' then [c]
  else if c.toNat < 0x10000 then unitEscape c.toNat
  else
    let n := c.toNat - 0x10000
    unitEscape (0xD800 + n / 0x400) ++ unitEscape (0xDC00 + n % 0x400)

/-- A JSON string. -/
def stringText (s : String) : String :=
  String.ofList ('"' :: s.toList.flatMap escapedChar ++ ['"'])

mutual

/-- The text of a value. -/
def text : Json → String
  | .null => "null"
  | .bool true => "true"
  | .bool false => "false"
  | .int n => toString n
  | .float x => Decimal.floatText textNames x
  | .str s => stringText s
  | .arr items => "[" ++ String.intercalate ", " (texts items) ++ "]"
  | .obj fields => "\x7b" ++ String.intercalate ", " (fieldTexts fields) ++ "\x7d"

/-- The texts of the items of an array. -/
def texts : List Json → List String
  | [] => []
  | item :: rest => text item :: texts rest

/-- The texts of the fields of an object. -/
def fieldTexts : List (String × Json) → List String
  | [] => []
  | (name, value) :: rest => (stringText name ++ ": " ++ text value) :: fieldTexts rest

end

end ServiceClient.Json
