import ServiceClient.Decimal.Notation
import ServiceClient.Json
import ServiceClient.Text.Quoted

/-!
# Displaying values

How a value appears inside generated text and inside messages. A string stands for itself; every
other value is written as a literal, in which strings are quoted. Null, true and false are written
`None`, `True` and `False`, arrays in brackets and objects in braces.

The literals nest, so `literal` recurses on the value, and the parts of arrays and objects are
joined by a comma and a space.
-/

namespace ServiceClient.Json

/-- The names that displayed values give to the numbers without digits. -/
def displayNames : Decimal.SpecialNames := ⟨"nan", "inf"⟩

mutual

/-- A value as a literal. -/
def literal : Json → String
  | .null => "None"
  | .bool true => "True"
  | .bool false => "False"
  | .int n => toString n
  | .float x => Decimal.floatText displayNames x
  | .str s => Text.quoted s
  | .arr items => "[" ++ String.intercalate ", " (literals items) ++ "]"
  | .obj fields => "\x7b" ++ String.intercalate ", " (fieldLiterals fields) ++ "\x7d"

/-- The items of an array as literals. -/
def literals : List Json → List String
  | [] => []
  | item :: rest => literal item :: literals rest

/-- The fields of an object as literals, each a name and a value around a colon. -/
def fieldLiterals : List (String × Json) → List String
  | [] => []
  | (name, value) :: rest => (Text.quoted name ++ ": " ++ literal value) :: fieldLiterals rest

end

/-- A value as it appears in text: a string as it is, all else as a literal. -/
def display : Json → String
  | .str s => s
  | v => literal v

@[simp] theorem display_str (s : String) : display (.str s) = s := rfl

end ServiceClient.Json
