import ServiceClient.Text.Hex
import ServiceClient.Text.Printable

/-!
# Quoted text in messages

A message shows a piece of text as a literal: between single quotes, or between double quotes when
the text has a single quote and no double one. The backslash, the quote in use, the newline, the
carriage return and the tab are escaped by a backslash; any other character that is not printable
is written by its code point in two, four or eight hexadecimal digits.
-/

namespace ServiceClient.Text

/-- The quote that surrounds a text. -/
def quoteFor (cs : List Char) : Char :=
  if cs.contains '\'' && !cs.contains '"' then '"' else '\''

/-- A character as it stands inside a literal with the given quote. -/
def quotedChar (quote c : Char) : List Char :=
  if c = quote ∨ c = '\\' then ['\\', c]
  else if c = '\n' then ['\\', 'n']
  else if c = '\r' then ['\\', 'r']
  else if c = '\t' then ['\\', 't']
  else if isPrintable c then [c]
  else if c.toNat < 0x100 then '\\' :: 'x' :: Hex.fixed 2 c.toNat
  else if c.toNat < 0x10000 then '\\' :: 'u' :: Hex.fixed 4 c.toNat
  else '\\' :: 'U' :: Hex.fixed 8 c.toNat

/-- A text as a literal. -/
def quoted (text : String) : String :=
  let cs := text.toList
  let quote := quoteFor cs
  String.ofList (quote :: cs.flatMap (quotedChar quote) ++ [quote])

end ServiceClient.Text
