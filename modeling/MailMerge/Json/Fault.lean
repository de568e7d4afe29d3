/-!
# What can be wrong with a document

A document fails to be read either because its text is not JSON (a `Fault`) or because
the text is JSON but does not say what the reader needs (a `DataError`).

## Main definitions

* `Json.Fault`, `Json.DataError`, `Json.ReadError`: the causes.
* `Json.ReadError.category`, `Json.ReadError.message`: how a cause is reported.
-/

namespace MailMerge.Json

/-- Why a text is not JSON. -/
inductive Fault where
  | endInList
  | endInObject
  | endInString
  | endInValue
  | expectedColon
  | expectedListCommaOrEnd
  | expectedObjectCommaOrEnd
  | expectedWord
  | expectedValue
  | invalidEscape
  | invalidNumber
  | numberOutOfRange
  | controlCharacter
  | keyNotString
  | loneSurrogate
  | hexEscapeEnd
  | trailingComma
  | trailingCharacters
  | tooDeep
deriving DecidableEq, Repr

namespace Fault

/-- True when the text only lacks its end. -/
def isEnd : Fault → Bool
  | .endInList | .endInObject | .endInString | .endInValue => true
  | _ => false

/-- The wording of a fault. -/
def message : Fault → String
  | .endInList => "EOF while parsing a list"
  | .endInObject => "EOF while parsing an object"
  | .endInString => "EOF while parsing a string"
  | .endInValue => "EOF while parsing a value"
  | .expectedColon => "expected `:`"
  | .expectedListCommaOrEnd => "expected `,` or `]`"
  | .expectedObjectCommaOrEnd => "expected `,` or `\x7d`"
  | .expectedWord => "expected ident"
  | .expectedValue => "expected value"
  | .invalidEscape => "invalid escape"
  | .invalidNumber => "invalid number"
  | .numberOutOfRange => "number out of range"
  | .controlCharacter => "control character (\\u0000-\\u001F) found while parsing a string"
  | .keyNotString => "key must be a string"
  | .loneSurrogate => "lone leading surrogate in hex escape"
  | .hexEscapeEnd => "unexpected end of hex escape"
  | .trailingComma => "trailing comma"
  | .trailingCharacters => "trailing characters"
  | .tooDeep => "recursion limit exceeded"

end Fault

/-- Why a JSON value is not what its reader needs. -/
inductive DataError where
  | invalidType (found expected : String)
  | invalidValue (found expected : String)
  | invalidLength (length : Nat) (expected : String)
  | unknownVariant (found expected : String)
  | missingField (field : String)
  | duplicateField (field : String)
deriving DecidableEq, Repr

/-- The wording of a data error. -/
def DataError.message : DataError → String
  | .invalidType found expected => "invalid type: " ++ found ++ ", expected " ++ expected
  | .invalidValue found expected => "invalid value: " ++ found ++ ", expected " ++ expected
  | .invalidLength length expected =>
    "invalid length " ++ toString length ++ ", expected " ++ expected
  | .unknownVariant found expected => "unknown variant `" ++ found ++ "`, expected " ++ expected
  | .missingField field => "missing field `" ++ field ++ "`"
  | .duplicateField field => "duplicate field `" ++ field ++ "`"

/-- Why a document could not be read. -/
inductive ReadError where
  | text (fault : Fault)
  | data (error : DataError)
deriving DecidableEq, Repr

/-- The three kinds of read errors. -/
inductive Category where
  | syntactic
  | data
  | ending
deriving DecidableEq, Repr

namespace ReadError

/-- The kind of a read error. -/
def category : ReadError → Category
  | .text fault => if fault.isEnd then .ending else .syntactic
  | .data _ => .data

/-- The wording of a read error. -/
def message : ReadError → String
  | .text fault => fault.message
  | .data error => error.message

end ReadError

end MailMerge.Json
