import ServiceClient.Markup.Entity.Names
import ServiceClient.Text.Ascii
import ServiceClient.Text.Hex

/-!
# Character references

Text in markup stands for other text: an ampersand may begin a reference to characters, by number or
by name. `decode` replaces the references and leaves every other ampersand alone.

A numeric reference names a code point. Zero, the surrogates and whatever lies past U+10FFFF become
the replacement character, the range U+0080 to U+009F is read as the Windows-1252 characters that
were meant, and the other control characters and noncharacters stand for nothing. A decimal number
may have `Text.digitLimit` digits at most, which is the one way in which decoding fails.

A name extends over up to thirty-two characters and a closing semicolon. If the whole is not in the
table, the longest beginning of two characters or more that is there counts, and the rest follows it
unchanged.
-/

namespace ServiceClient.Markup.Entity

/-- A decimal reference with too many digits. -/
structure TooManyDigits where
  /-- How many digits it has. -/
  digits : Nat
  deriving DecidableEq

/-- The code points that numbers from 0x80 to 0x9F mean where they do not mean themselves. -/
def windowsPoints : List (Nat × Nat) := [
  (0x80, 0x20AC), (0x82, 0x201A), (0x83, 0x0192), (0x84, 0x201E), (0x85, 0x2026), (0x86, 0x2020),
  (0x87, 0x2021), (0x88, 0x02C6), (0x89, 0x2030), (0x8A, 0x0160), (0x8B, 0x2039), (0x8C, 0x0152),
  (0x8E, 0x017D), (0x91, 0x2018), (0x92, 0x2019), (0x93, 0x201C), (0x94, 0x201D), (0x95, 0x2022),
  (0x96, 0x2013), (0x97, 0x2014), (0x98, 0x02DC), (0x99, 0x2122), (0x9A, 0x0161), (0x9B, 0x203A),
  (0x9C, 0x0153), (0x9E, 0x017E), (0x9F, 0x0178)]

/-- Whether a number stands for nothing: a control character other than the tab, the newlines and
the form feed, or a noncharacter. -/
def isIgnored (n : Nat) : Bool :=
  (1 ≤ n && n ≤ 8) || n == 0xB || (0xE ≤ n && n ≤ 0x1F) || n == 0x7F ||
    (0xFDD0 ≤ n && n ≤ 0xFDEF) || n % 0x10000 == 0xFFFE || n % 0x10000 == 0xFFFF

/-- The characters that a number stands for. -/
def ofNumber (n : Nat) : List Char :=
  if n = 0 then ['\ufffd']
  else if 0x80 ≤ n ∧ n ≤ 0x9F then [Char.ofNat ((windowsPoints.lookup n).getD n)]
  else if (0xD800 ≤ n ∧ n ≤ 0xDFFF) ∨ 0x10FFFF < n then ['\ufffd']
  else if isIgnored n then []
  else [Char.ofNat n]

/-- The longest beginning of a name, of at least two characters and at most the given number, that
is in the table, as the characters it stands for and the rest of the name. -/
def longestKnown? (name : List Char) : Nat → Option (List Char)
  | 0 => none
  | 1 => none
  | n + 1 =>
    match lookup? (name.take (n + 1)) with
    | some value => some (value.toList ++ name.drop (n + 1))
    | none => longestKnown? name n

/-- What a name stands for, with its semicolon if it has one. -/
def ofName (name : List Char) : List Char :=
  match lookup? name with
  | some value => value.toList
  | none => (longestKnown? name (name.length - 1)).getD ('&' :: name)

/-- Whether a character may be part of a name. -/
def isNameChar (c : Char) : Bool :=
  !(c = '\t' || c = '\n' || c = '\x0c' || c = ' ' || c = '<' || c = '&' || c = '#' || c = ';')

/-- Whether a character is a hexadecimal digit. -/
def isHexDigit (c : Char) : Bool := (Text.Hex.value? c).isSome

/-- The number of semicolons, none or one, at the start of some characters. -/
def semicolon : List Char → Nat
  | ';' :: _ => 1
  | _ => 0

/-- A reference: how many characters it takes after the ampersand, and what it stands for. -/
structure Reference where
  /-- The number of characters after the ampersand. -/
  length : Nat
  /-- What the reference stands for. -/
  value : Except TooManyDigits (List Char)

/-- The reference that some characters after an ampersand begin with. -/
def reference? (cs : List Char) : Option Reference :=
  match cs with
  | '#' :: rest =>
    let digits := rest.takeWhile Text.isDigit
    if !digits.isEmpty then
      let length := 1 + digits.length + semicolon (rest.dropWhile Text.isDigit)
      if Text.digitLimit < digits.length then some ⟨length, .error ⟨digits.length⟩⟩
      else some ⟨length, .ok (ofNumber (Text.natOfDigits digits))⟩
    else if rest.head? = some 'x' ∨ rest.head? = some 'X' then
      let hexDigits := (rest.drop 1).takeWhile isHexDigit
      if hexDigits.isEmpty then none
      else
        some ⟨2 + hexDigits.length + semicolon ((rest.drop 1).dropWhile isHexDigit),
          .ok (ofNumber ((Text.Hex.number? hexDigits).getD 0))⟩
    else none
  | _ =>
    let letters := (cs.take 32).takeWhile isNameChar
    if letters.isEmpty then none
    else
      let length := letters.length + semicolon (cs.drop letters.length)
      some ⟨length, .ok (ofName (cs.take length))⟩

/-- Text with its references replaced. The number says how many characters belong to a reference
that has been replaced already and are passed over. -/
def decodeFrom : Nat → List Char → Except TooManyDigits (List Char)
  | _, [] => .ok []
  | skip + 1, _ :: rest => decodeFrom skip rest
  | 0, c :: rest =>
    match if c = '&' then reference? rest else none with
    | none => do
      let out ← decodeFrom 0 rest
      return c :: out
    | some r => do
      let value ← r.value
      let out ← decodeFrom r.length rest
      return value ++ out

/-- Text with its references replaced. -/
def decode (cs : List Char) : Except TooManyDigits (List Char) := decodeFrom 0 cs

end ServiceClient.Markup.Entity
