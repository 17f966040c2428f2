import ProbeHost.Decimal.Shortest
import ProbeHost.Text.Quoted
import ProbeHost.Text.Utf8

/-! Why a text is not the JSON of the value asked for.

A text can end early, be malformed, or be well formed and hold the wrong data. Reading is a
single pass, so the first of these in reading order is the one reported.
-/

set_option autoImplicit false

namespace ProbeHost.Json

inductive Construct where
  | value
  | string
  | list
  | object
  deriving DecidableEq, Repr

def Construct.phrase : Construct → String
  | .value => "a value"
  | .string => "a string"
  | .list => "a list"
  | .object => "an object"

inductive Malformation where
  | expectedValue
  | expectedWord
  | expectedColon
  | expectedListSeparator
  | expectedObjectSeparator
  | keyNotString
  | trailingComma
  | trailingCharacters
  | invalidNumber
  | numberOutOfRange
  | invalidEscape
  | unfinishedEscape
  | loneSurrogate
  | invalidCodePoint
  | controlCharacter
  deriving DecidableEq, Repr

def Malformation.message : Malformation → String
  | .expectedValue => "expected value"
  | .expectedWord => "expected ident"
  | .expectedColon => "expected `:`"
  | .expectedListSeparator => "expected `,` or `]`"
  | .expectedObjectSeparator => "expected `,` or `\x7d`"
  | .keyNotString => "key must be a string"
  | .trailingComma => "trailing comma"
  | .trailingCharacters => "trailing characters"
  | .invalidNumber => "invalid number"
  | .numberOutOfRange => "number out of range"
  | .invalidEscape => "invalid escape"
  | .unfinishedEscape => "unexpected end of hex escape"
  | .loneSurrogate => "lone leading surrogate in hex escape"
  | .invalidCodePoint => "invalid unicode code point"
  | .controlCharacter => "control character (\\u0000-\\u001F) found while parsing a string"

/-- A value found where another was asked for; a float is given by the bits of its double. -/
inductive Found where
  | null
  | boolean (value : Bool)
  | integer (value : Int)
  | float (bits : UInt64)
  | string (value : String)
  | sequence
  | map
  deriving DecidableEq, Repr

def Found.phrase : Found → String
  | .null => "null"
  | .boolean value => "boolean `" ++ Text.boolean value ++ "`"
  | .integer value => "integer `" ++ toString value ++ "`"
  | .float bits => "floating point `" ++ Decimal.Layout.message.writeBits bits ++ "`"
  | .string value => "string " ++ Text.quoted value
  | .sequence => "sequence"
  | .map => "map"

inductive Mismatch where
  | invalidType (found : Found) (expected : String)
  | invalidValue (found : Found) (expected : String)
  | invalidLength (length : Nat) (expected : String)
  | missingField (name : String)
  | duplicateField (name : String)
  | unknownVariant (name : String) (variants : List String)
  | refused
  deriving DecidableEq, Repr

def alternatives : List String → String
  | [] => "there are no variants"
  | [a] => "expected `" ++ a ++ "`"
  | [a, b] => "expected `" ++ a ++ "` or `" ++ b ++ "`"
  | names => "expected one of " ++ ", ".intercalate (names.map fun name => "`" ++ name ++ "`")

def Mismatch.message : Mismatch → String
  | .invalidType found expected => "invalid type: " ++ found.phrase ++ ", expected " ++ expected
  | .invalidValue found expected => "invalid value: " ++ found.phrase ++ ", expected " ++ expected
  | .invalidLength length expected =>
    "invalid length " ++ toString length ++ ", expected " ++ expected
  | .missingField name => "missing field `" ++ name ++ "`"
  | .duplicateField name => "duplicate field `" ++ name ++ "`"
  | .unknownVariant name variants =>
    "unknown variant `" ++ name ++ "`, " ++ alternatives variants
  | .refused => "refused to serialize"

inductive Cause where
  | ended (within : Construct)
  | malformed (malformation : Malformation)
  | data (mismatch : Mismatch)
  deriving DecidableEq, Repr

inductive Category where
  | ended
  | malformed
  | data
  deriving DecidableEq, Repr

def Cause.category : Cause → Category
  | .ended _ => .ended
  | .malformed _ => .malformed
  | .data _ => .data

def Cause.message : Cause → String
  | .ended within => "EOF while parsing " ++ within.phrase
  | .malformed malformation => malformation.message
  | .data mismatch => mismatch.message

/-- Why reading stopped, and where: the place is told by how many bytes lie behind it. -/
structure Stop where
  cause : Cause
  remaining : Nat
  deriving DecidableEq, Repr

namespace Stop

def ended (within : Construct) : Stop :=
  ⟨.ended within, 0⟩

def upon (malformation : Malformation) (input : Bytes) : Stop :=
  ⟨.malformed malformation, input.length - 1⟩

def facing (malformation : Malformation) (rest : Bytes) : Stop :=
  ⟨.malformed malformation, rest.length⟩

/-- What was read last is not as it should be from `stray` on, and the place goes back by that. -/
def behind (malformation : Malformation) (stray rest : Bytes) : Stop :=
  ⟨.malformed malformation, stray.length + rest.length⟩

def unlike (mismatch : Mismatch) (rest : Bytes) : Stop :=
  ⟨.data mismatch, rest.length⟩

end Stop

structure Position where
  line : Nat
  column : Nat
  deriving DecidableEq, Repr

/-- The place behind all but the last `remaining` bytes of a text. -/
def Position.find (text : Bytes) (remaining : Nat) : Position :=
  let read := text.take (text.length - remaining)
  ⟨1 + read.count 0x0A, (read.reverse.takeWhile (· ≠ 0x0A)).length⟩

structure Error where
  cause : Cause
  position : Option Position := none
  deriving DecidableEq, Repr

def Error.ofStop (text : Bytes) (stop : Stop) : Error :=
  ⟨stop.cause, some (.find text stop.remaining)⟩

def Error.category (e : Error) : Category :=
  e.cause.category

def Error.message (e : Error) : String :=
  e.cause.message ++
    match e.position with
    | none => ""
    | some place => " at line " ++ toString place.line ++ " column " ++ toString place.column

end ProbeHost.Json
