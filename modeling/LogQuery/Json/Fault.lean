import LogQuery.Text.Position

/-!
# Faults in JSON Texts

Why a text is not JSON, and where the reader noticed. A fault is recorded at
the place where it is found, as the number of bytes that lie behind that
place; line and column are worked out once, from the whole text.

Two places are in use. A fault about what has been read lies at the end of it
(`Fault.here`). A fault about the next byte lies behind that byte
(`Fault.beyond`), except at the end of the text, which has no next byte.

## Main definitions

* `Json.Cause`: What is wrong.
* `Json.Fault`: What is wrong and how many bytes lie behind it.
* `Json.Fault.message`: The wording, with line and column.
-/

namespace LogQuery

namespace Json

/-- What is wrong with a JSON text. -/
inductive Cause where
  | endInList
  | endInObject
  | endInString
  | endInValue
  | colonExpected
  | listCommaOrEndExpected
  | objectCommaOrEndExpected
  | identExpected
  | valueExpected
  | invalidEscape
  | invalidNumber
  | numberOutOfRange
  | controlCharacter
  | keyNotString
  | loneSurrogate
  | trailingComma
  | trailingCharacters
  | hexEscapeCutShort
  | nestedTooDeeply
deriving DecidableEq, Repr

def Cause.message : Cause → String
  | endInList => "EOF while parsing a list"
  | endInObject => "EOF while parsing an object"
  | endInString => "EOF while parsing a string"
  | endInValue => "EOF while parsing a value"
  | colonExpected => "expected `:`"
  | listCommaOrEndExpected => "expected `,` or `]`"
  | objectCommaOrEndExpected => "expected `,` or `\x7d`"
  | identExpected => "expected ident"
  | valueExpected => "expected value"
  | invalidEscape => "invalid escape"
  | invalidNumber => "invalid number"
  | numberOutOfRange => "number out of range"
  | controlCharacter =>
    "control character (\\u0000-\\u001F) found while parsing a string"
  | keyNotString => "key must be a string"
  | loneSurrogate => "lone leading surrogate in hex escape"
  | trailingComma => "trailing comma"
  | trailingCharacters => "trailing characters"
  | hexEscapeCutShort => "unexpected end of hex escape"
  | nestedTooDeeply => "recursion limit exceeded"

/-- A cause, and how many bytes of the text lie behind the place of it. -/
structure Fault where
  cause : Cause
  left : Nat
deriving DecidableEq, Repr

/-- A fault that lies before the rest of the text. -/
def Fault.here (cause : Cause) (rest : List Char) : Fault := ⟨cause, Utf8.size rest⟩

/-- A fault that lies behind the next byte of the rest. -/
def Fault.beyond (cause : Cause) (rest : List Char) : Fault := ⟨cause, Utf8.size rest - 1⟩

/-- The wording of a fault in `text`. -/
def Fault.message (fault : Fault) (text : List Char) : String :=
  let position := Position.ofLeft text fault.left
  fault.cause.message ++ " at line " ++ toString position.line ++ " column " ++
    toString position.column

end Json

end LogQuery
