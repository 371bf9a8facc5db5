import ServiceClient.Fault

/-!
# Documents

A document is a JSON value in a file: UTF-8 text, in which a carriage return ends a line as a
newline does, alone or before one. Whether some of its strings may hold halves of surrogate pairs is
kept with the value.
-/

namespace ServiceClient.Json

/-- Text in which every line ends with a newline. -/
def unifyNewlines : List Char → List Char
  | [] => []
  | '\r' :: '\n' :: rest => '\n' :: unifyNewlines rest
  | '\r' :: rest => '\n' :: unifyNewlines rest
  | c :: rest => c :: unifyNewlines rest

/-- What is read from a document. -/
structure Document where
  /-- The value. -/
  value : Json
  /-- Whether the document has an escape for half of a surrogate pair on its own. -/
  holdsHalves : Bool

/-- The document that some bytes are. -/
def Document.ofBytes (bytes : List UInt8) : Outcome Document :=
  match Text.Utf8.decode bytes with
  | .error e => .error (.rejected (.encoding e))
  | .ok cs =>
    match read (unifyNewlines cs) with
    | .ok value => .ok { value, holdsHalves := hasLoneHalf 0 cs }
    | .error (.defect d offset line column) => .error (.rejected (.json d offset line column))
    | .error (.tooManyDigits digits) => .error (.rejected (.tooManyDigits digits))

/-- The value that the bytes of a document stand for. -/
def ofBytes (bytes : List UInt8) : Outcome Json := (Document.ofBytes bytes).map Document.value

end ServiceClient.Json
