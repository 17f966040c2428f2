import ProbeHost.Json.Record
import ProbeHost.Measurement.Basic

/-! Measurement types that are declared by listing their fields.

The declaration decides the JSON form, the text of a value and the description. Declarations are
data and can be compared, so they are the kinds of a family of measurement types.
-/

set_option autoImplicit false

namespace ProbeHost

inductive FieldKind where
  | uint8
  | uint32
  | uint64
  | int64
  | boolean
  | string
  | integers
  | optionalString
  deriving DecidableEq, Repr

namespace FieldKind

abbrev Value : FieldKind → Type
  | uint8 => UInt8
  | uint32 => UInt32
  | uint64 => UInt64
  | int64 => Int64
  | boolean => Bool
  | string => String
  | integers => List Int64
  | optionalString => Option String

def codec : (kind : FieldKind) → Json.Codec kind.Value
  | uint8 => .uint8
  | uint32 => .uint32
  | uint64 => .uint64
  | int64 => .int64
  | boolean => .boolean
  | string => .string
  | integers => .list .int64
  | optionalString => .optional .string

def absent : (kind : FieldKind) → Option kind.Value
  | optionalString => some none
  | _ => none

def text : (kind : FieldKind) → kind.Value → String
  | uint8, n => toString n.toNat
  | uint32, n => toString n.toNat
  | uint64, n => toString n.toNat
  | int64, n => toString n.toInt
  | boolean, b => Text.boolean b
  | string, s => Text.quoted s
  | integers, ns => Text.list (ns.map fun n => toString n.toInt)
  | optionalString, s => Text.optional Text.quoted s

end FieldKind

structure DeclaredField where
  name : String
  key : String
  kind : FieldKind
  deriving DecidableEq, Repr

def DeclaredField.field (declared : DeclaredField) : Json.Field where
  key := declared.key
  Value := declared.kind.Value
  codec := declared.kind.codec
  absent := declared.kind.absent

structure Declaration where
  typeName : String
  fields : List DeclaredField
  description : Description
  /-- The name of a boolean field; a value where it is set cannot be written. -/
  refusal : Option String := none
  deriving DecidableEq, Repr

namespace Declaration

def jsonFields (fields : List DeclaredField) : List Json.Field :=
  fields.map DeclaredField.field

abbrev Value (declaration : Declaration) : Type :=
  Json.Values (jsonFields declaration.fields)

def isSet (name : String) : (fields : List DeclaredField) → Json.Values (jsonFields fields) → Bool
  | [], _ => false
  | ⟨fieldName, _, .boolean⟩ :: fields, (value, values) =>
    (fieldName = name && value) || isSet name fields values
  | _ :: fields, (_, values) => isSet name fields values

def isRefused (declaration : Declaration) (value : declaration.Value) : Bool :=
  declaration.refusal.any fun name => isSet name declaration.fields value

def write (declaration : Declaration) (value : declaration.Value) : Except Json.Error Bytes :=
  if declaration.isRefused value then .error { cause := .data .refused }
  else .ok (Json.writeRecord (jsonFields declaration.fields) value)

def read (declaration : Declaration) (bytes : Bytes) : Except Json.Error declaration.Value :=
  (Json.Codec.record declaration.typeName (jsonFields declaration.fields)).decode bytes

def fieldTexts : (fields : List DeclaredField) → Json.Values (jsonFields fields) → Text.Fields
  | [], _ => []
  | declared :: fields, (value, values) =>
    (declared.name, declared.kind.text value) :: fieldTexts fields values

def text (declaration : Declaration) (value : declaration.Value) : String :=
  Text.record declaration.typeName (fieldTexts declaration.fields value)

instance : Measurement Declaration where
  decEq := inferInstance
  Carrier := Declaration.Value
  description := Declaration.description
  write := Declaration.write
  read := Declaration.read
  text := Declaration.text

end Declaration

end ProbeHost
