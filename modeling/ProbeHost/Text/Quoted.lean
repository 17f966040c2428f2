import ProbeHost.Text.Unprintable

/-! Values as a reader of a log sees them: quoted text, records, lists and optional values, all
on one line.
-/

set_option autoImplicit false

namespace ProbeHost.Text

def hexDigits (n : Nat) : List Char :=
  Nat.toDigits 16 n

def escape (c : Char) : List Char :=
  if c = '\n' then ['\\', 'n']
  else if c = '\r' then ['\\', 'r']
  else if c = '\t' then ['\\', 't']
  else if c.toNat = 0 then ['\\', '0']
  else if c = '\\' ∨ c = '"' then ['\\', c]
  else if isUnprintable c then ['\\', 'u', '\x7b'] ++ hexDigits c.toNat ++ ['\x7d']
  else [c]

/-- Text between double quotes; a single quote stands for itself. -/
def quoted (s : String) : String :=
  String.ofList (['"'] ++ s.toList.flatMap escape ++ ['"'])

def optional {α : Type} (text : α → String) : Option α → String
  | none => "None"
  | some value => "Some(" ++ text value ++ ")"

def list (items : List String) : String :=
  "[" ++ ", ".intercalate items ++ "]"

def set (items : List String) : String :=
  "\x7b" ++ ", ".intercalate items ++ "\x7d"

abbrev Fields := List (String × String)

def Fields.text (fields : Fields) : String :=
  ", ".intercalate (fields.map fun (name, value) => name ++ ": " ++ value)

def record (name : String) (fields : Fields) : String :=
  if fields.isEmpty then name else name ++ " \x7b " ++ fields.text ++ " \x7d"

def partialRecord (name : String) (fields : Fields) : String :=
  if fields.isEmpty then name ++ " \x7b .. \x7d" else name ++ " \x7b " ++ fields.text ++ ", .. \x7d"

def boolean (b : Bool) : String :=
  if b then "true" else "false"

end ProbeHost.Text
