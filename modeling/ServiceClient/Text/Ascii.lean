/-!
# ASCII letters and digits

The letters and digits of ASCII, which many formats mean when they speak of letters and digits, and
the numbers that digits write.
-/

namespace ServiceClient.Text

/-- Whether a character is an ASCII capital. -/
def isCapital (c : Char) : Bool := 'A' ≤ c && c ≤ 'Z'

/-- Whether a character is a small ASCII letter. -/
def isSmall (c : Char) : Bool := 'a' ≤ c && c ≤ 'z'

/-- Whether a character is an ASCII digit. -/
def isDigit (c : Char) : Bool := '0' ≤ c && c ≤ '9'

/-- The small letter of an ASCII capital, and any other character itself. -/
def toSmall (c : Char) : Char := if isCapital c then Char.ofNat (c.toNat + 32) else c

/-- How many decimal digits a number may have that is to be read. -/
def digitLimit : Nat := 4300

/-- The number that some ASCII digits write. -/
def natOfDigits (cs : List Char) : Nat := cs.foldl (fun n c ↦ n * 10 + (c.toNat - 0x30)) 0

end ServiceClient.Text
