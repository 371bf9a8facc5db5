import ServiceClient.Json
import ServiceClient.Text.Ascii
import ServiceClient.Text.Half
import ServiceClient.Text.Hex

/-!
# Reading JSON

A reader for JSON text that says what is wrong and where. Besides the standard grammar it knows the
three numbers without digits by the names `NaN`, `Infinity` and `-Infinity`. A repeated name in an
object keeps its first place and takes its last value. Half of a surrogate pair on its own is read
as the character that stands for it, and `hasLoneHalf` says whether a text has any.

Inside the reader a place is the number of characters still unread, so no function carries an offset
along; `read` turns that number into an offset, a line and a column. An integer may have
`digitLimit` digits at most.

Values nest as deeply as the text does. `value` takes fuel, of which `read` gives two steps for each
character: a level of nesting and an item of a sequence take at least one character each, and at
most two steps.
-/

namespace ServiceClient.Json

open ServiceClient.Text (digitLimit isDigit isHighSurrogate isLowSurrogate isSurrogate natOfDigits
  ofCodePoint)

/-- What is wrong with a text that is no JSON. -/
inductive Defect
  /-- The text begins with a byte-order mark. -/
  | byteOrderMark
  /-- A value should stand here. -/
  | expectedValue
  /-- The name of a field should stand here. -/
  | expectedName
  /-- A colon should stand here. -/
  | expectedColon
  /-- A comma should stand here. -/
  | expectedComma
  /-- The text goes on after the value. -/
  | extraData
  /-- The string that starts here has no end. -/
  | unterminatedString
  /-- A string holds a control character. -/
  | controlCharacter
  /-- A backslash is followed by no known escape. -/
  | invalidEscape
  /-- An escape by code point lacks one of its four digits. -/
  | invalidUnit
  deriving DecidableEq

/-- The wording of a defect. -/
def Defect.message : Defect → String
  | .byteOrderMark => "Unexpected UTF-8 BOM (decode using utf-8-sig)"
  | .expectedValue => "Expecting value"
  | .expectedName => "Expecting property name enclosed in double quotes"
  | .expectedColon => "Expecting ':' delimiter"
  | .expectedComma => "Expecting ',' delimiter"
  | .extraData => "Extra data"
  | .unterminatedString => "Unterminated string starting at"
  | .controlCharacter => "Invalid control character at"
  | .invalidEscape => "Invalid \\escape"
  | .invalidUnit => "Invalid \\uXXXX escape"

/-- Why a text could not be read. -/
inductive ReadError
  /-- There is a defect at an offset, which lies in a line and a column. -/
  | defect (d : Defect) (offset line column : Nat)
  /-- An integer has too many digits. -/
  | tooManyDigits (digits : Nat)
  deriving DecidableEq

/-- A failure while characters are left: a defect, with the number of characters that were left
where it lies, or an integer that is too long. -/
inductive Failure
  /-- A defect with `unread` characters left. -/
  | defect (d : Defect) (unread : Nat)
  /-- An integer has too many digits. -/
  | tooManyDigits (digits : Nat)

/-- Fails with a defect that lies before the given characters. -/
def failAt {α : Type} (d : Defect) (cs : List Char) : Except Failure α :=
  .error (.defect d cs.length)

/-- The characters after the blanks that may stand between the parts of a value. -/
def skipBlanks (cs : List Char) : List Char :=
  cs.dropWhile fun c ↦ c = ' ' ∨ c = '\t' ∨ c = '\n' ∨ c = '\r'

/-! ### Strings -/

/-- The character that a one-letter escape stands for. -/
def shortEscape? : Char → Option Char
  | '"' => some '"'
  | '\\' => some '\\'
  | '/' => some '/'
  | 'b' => some '\x08'
  | 'f' => some '\x0c'
  | 'n' => some '\n'
  | 'r' => some '\r'
  | 't' => some '\t'
  | _ => none

/-- The unit that an escape by code point stands for, where the characters begin with its `u`. The
escape cannot be the last thing in the text. -/
def unit (fromU : List Char) : Except Failure Nat :=
  match fromU with
  | _ :: a :: b :: c :: d :: _ :: _ =>
    match Text.Hex.number? [a, b, c, d] with
    | some n => .ok n
    | none => failAt .invalidUnit fromU
  | _ => failAt .invalidUnit fromU

/-- The code point that one escape by code point or a pair of them stands for, and the number of
characters that it takes, where the characters begin with the first `u`. Half of a surrogate pair
on its own is a code point too. -/
def escapedUnits (fromU : List Char) : Except Failure (Nat × Nat) := do
  let n ← unit fromU
  let rest := fromU.drop 5
  match isHighSurrogate n && decide (6 < rest.length), rest with
  | true, '\\' :: 'u' :: _ =>
    let low ← unit (rest.drop 1)
    if isLowSurrogate low then
      return (0x10000 + (n - 0xD800) * 0x400 + (low - 0xDC00), 11)
    else return (n, 5)
  | _, _ => return (n, 5)

/-- Whether some JSON text has an escape that stands for half of a surrogate pair on its own. The
number says how many characters still belong to an escape that has been read. -/
def hasLoneHalf : Nat → List Char → Bool
  | _, [] => false
  | skip + 1, _ :: rest => hasLoneHalf skip rest
  | 0, '\\' :: rest =>
    match rest with
    | 'u' :: _ =>
      match escapedUnits rest with
      | .ok (n, length) => isSurrogate n || hasLoneHalf length rest
      | .error _ => false
    | _ => hasLoneHalf 1 rest
  | 0, _ :: rest => hasLoneHalf 0 rest

/-- The rest of a string, after the quote that opens it. `opened` are the characters from that quote
on; the number says how many characters still belong to an escape that has been read. -/
def stringBody (opened : List Char) :
    Nat → List Char → List Char → Except Failure (String × List Char)
  | _, _, [] => failAt .unterminatedString opened
  | skip + 1, done, _ :: rest => stringBody opened skip done rest
  | 0, done, c :: rest =>
    if c = '"' then .ok (String.ofList done.reverse, rest)
    else if c = '\\' then
      match rest with
      | [] => failAt .unterminatedString opened
      | 'u' :: _ => do
        let (n, length) ← escapedUnits rest
        stringBody opened length (ofCodePoint n :: done) rest
      | e :: _ =>
        match shortEscape? e with
        | some char => stringBody opened 1 (char :: done) rest
        | none => failAt .invalidEscape (c :: rest)
    else if c.toNat ≤ 0x1F then failAt .controlCharacter (c :: rest)
    else stringBody opened 0 (c :: done) rest

/-- A string, from its opening quote on. -/
def string (cs : List Char) : Except Failure (String × List Char) := stringBody cs 0 [] (cs.drop 1)

/-! ### Numbers -/

/-- The double nearest to `digits * 10 ^ exponent`. Exponents that leave the range of doubles are
settled without computing the power. -/
def floatOf (digits : Nat) (exponent : Int) : Float :=
  let lead := exponent + (Nat.toDigits 10 digits).length
  -- Beyond these exponents the nearest float is known without looking at the digits.
  if digits = 0 ∨ lead < -330 then 0.0
  else if 310 < lead then 1.0 / 0.0
  else if exponent < 0 then Float.ofScientific digits true exponent.natAbs
  else Float.ofScientific digits false exponent.natAbs

/-- The digits after a point, if a point with a digit after it comes next. -/
def fraction? : List Char → Option (List Char × List Char)
  | '.' :: rest =>
    let ds := rest.takeWhile isDigit
    if ds.isEmpty then none else some (ds, rest.dropWhile isDigit)
  | _ => none

/-- The exponent, if one comes next. -/
def exponent? : List Char → Option (Int × List Char)
  | c :: rest =>
    if c = 'e' ∨ c = 'E' then
      let negative := rest.head? = some '-'
      let unsigned := if negative ∨ rest.head? = some '+' then rest.drop 1 else rest
      let ds := unsigned.takeWhile isDigit
      let n : Int := natOfDigits ds
      if ds.isEmpty then none
      else some (if negative then -n else n, unsigned.dropWhile isDigit)
    else none
  | [] => none

/-- A number without its sign, after the digits before the point. -/
def numberAfter (negative : Bool) (whole : List Char) (cs : List Char) :
    Except Failure (Json × List Char) :=
  let (places, afterFraction) := (fraction? cs).getD ([], cs)
  let (e?, rest) :=
    match exponent? afterFraction with
    | some (e, rest) => (some e, rest)
    | none => (none, afterFraction)
  -- Without places and without an exponent the number is an integer, of any size up to the limit.
  if places.isEmpty ∧ e? = none then
    if digitLimit < whole.length then .error (.tooManyDigits whole.length)
    else
      let n : Int := natOfDigits whole
      .ok (.int (if negative then -n else n), rest)
  else
    let x := floatOf (natOfDigits (whole ++ places)) (e?.getD 0 - places.length)
    .ok (.float (if negative then -x else x), rest)

/-- A number. -/
def number (cs : List Char) : Except Failure (Json × List Char) :=
  let negative := cs.head? = some '-'
  let unsigned := if negative then cs.drop 1 else cs
  match unsigned with
  -- A leading zero is all there is before the point.
  | '0' :: rest => numberAfter negative ['0'] rest
  | c :: _ =>
    if isDigit c then
      numberAfter negative (unsigned.takeWhile isDigit) (unsigned.dropWhile isDigit)
    else failAt .expectedValue cs
  | [] => failAt .expectedValue cs

/-! ### Values -/

/-- The values that are written as words. -/
def words : List (List Char × Json) := [
  ("null".toList, .null), ("true".toList, .bool true), ("false".toList, .bool false),
  ("NaN".toList, .float (0.0 / 0.0)), ("Infinity".toList, .float (1.0 / 0.0)),
  ("-Infinity".toList, .float (-1.0 / 0.0))]

/-- The word that comes next. -/
def word? (cs : List Char) : Option (Json × List Char) :=
  (words.find? fun w ↦ w.1.isPrefixOf cs).map fun w ↦ (w.2, cs.drop w.1.length)

mutual

/-- A value. -/
def value : Nat → List Char → Except Failure (Json × List Char)
  | 0, cs => failAt .expectedValue cs
  | fuel + 1, cs =>
    match cs with
    | '"' :: _ => do
      let (s, rest) ← string cs
      return (.str s, rest)
    | '\x7b' :: rest =>
      match skipBlanks rest with
      | '\x7d' :: rest' => .ok (.obj [], rest')
      | next => do
        let (fields, rest') ← members fuel next
        return (.obj (Fields.ofPairs fields), rest')
    | '[' :: rest =>
      match skipBlanks rest with
      | ']' :: rest' => .ok (.arr [], rest')
      | next => do
        let (items, rest') ← elements fuel next
        return (.arr items, rest')
    | _ =>
      match word? cs with
      | some found => .ok found
      | none => number cs

/-- One or more items of an array, and the bracket that closes it. -/
def elements : Nat → List Char → Except Failure (List Json × List Char)
  | 0, cs => failAt .expectedValue cs
  | fuel + 1, cs => do
    let (item, rest) ← value fuel cs
    match skipBlanks rest with
    | ']' :: rest' => return ([item], rest')
    | ',' :: rest' =>
      let (items, rest'') ← elements fuel (skipBlanks rest')
      return (item :: items, rest'')
    | next => failAt .expectedComma next

/-- One or more fields of an object, and the brace that closes it. -/
def members : Nat → List Char → Except Failure (List (String × Json) × List Char)
  | 0, cs => failAt .expectedName cs
  | fuel + 1, cs =>
    match cs with
    | '"' :: _ => do
      let (name, rest) ← string cs
      match skipBlanks rest with
      | ':' :: rest' =>
        let (item, rest'') ← value fuel (skipBlanks rest')
        match skipBlanks rest'' with
        | '\x7d' :: rest''' => return ([(name, item)], rest''')
        | ',' :: rest''' =>
          let (fields, rest'''') ← members fuel (skipBlanks rest''')
          return ((name, item) :: fields, rest'''')
        | next => failAt .expectedComma next
      | next => failAt .expectedColon next
    | _ => failAt .expectedName cs

end

/-- A defect together with the place where it lies, given the characters before it. -/
def ReadError.at (d : Defect) (before : List Char) : ReadError :=
  .defect d before.length (before.count '\n' + 1)
    ((before.reverse.takeWhile (· ≠ '\n')).length + 1)

/-- The value that a text writes. -/
def read (cs : List Char) : Except ReadError Json :=
  let outcome : Except Failure Json := do
    if cs.head? = some '\ufeff' then failAt .byteOrderMark cs
    -- Two steps for every character are enough: one for a value, one for the list that it is in.
    let (v, rest) ← value (2 * cs.length + 2) (skipBlanks cs)
    match skipBlanks rest with
    | [] => return v
    | next => failAt .extraData next
  match outcome with
  | .ok v => .ok v
  | .error (.tooManyDigits n) => .error (.tooManyDigits n)
  | .error (.defect d unread) => .error (.at d (cs.take (cs.length - unread)))

end ServiceClient.Json
