import ProbeHost.Path
import ProbeHost.Text.Unprintable
import ProbeHost.Text.Utf8

/-! The files that a program finds around it.

A directory holds files by relative paths; the directories between are there when a file is in
them, and nothing else exists. Paths are resolved step by step, so a step through a file is told
apart from a step to nothing. Names and paths are limited in length, as a system limits them.
-/

set_option autoImplicit false

namespace ProbeHost

structure Directory where
  files : List (List String × Bytes) := []

inductive ReadFault where
  | notFound
  | isDirectory
  | notDirectory
  | nameTooLong
  | nulInName
  | notText
  | other (text : String)
  deriving DecidableEq, Repr

def ReadFault.message : ReadFault → String
  | .notFound => "No such file or directory (os error 2)"
  | .isDirectory => "Is a directory (os error 21)"
  | .notDirectory => "Not a directory (os error 20)"
  | .nameTooLong => "File name too long (os error 36)"
  | .nulInName => "file name contained an unexpected NUL byte"
  | .notText => "stream did not contain valid UTF-8"
  | .other text => text

def nameLimit : Nat := 255

def pathLimit : Nat := 4095

/-- The fault of a path that leads nowhere whatever there is. -/
def ReadFault.ofPath? (path : Path) : Option ReadFault :=
  if Text.hasNul path then some .nulInName
  else if path = "" then some .notFound
  else if pathLimit < (Utf8.encode path).length then some .nameTooLong
  else none

/-- What reading gives for each path. -/
structure Files where
  read : Path → Except ReadFault Bytes

def Files.readText (files : Files) (path : Path) : Except ReadFault Bytes :=
  match files.read path with
  | .error fault => .error fault
  | .ok content => if (Utf8.decode content).isSome then .ok content else .error .notText

namespace Directory

/-- Something that a path leads to: an inner directory by the names to it, or one around them. -/
inductive Place where
  | inside (names : List String)
  | outside
  | file (content : Bytes)

def splitSlashes : List Char → List (List Char)
  | [] => [[]]
  | c :: cs =>
    if c = '/' then [] :: splitSlashes cs
    else
      match splitSlashes cs with
      | [] => [[c]]
      | stretch :: stretches => (c :: stretch) :: stretches

def steps (path : Path) : List String :=
  (splitSlashes path.toList).map String.ofList

def child (directory : Directory) (names : List String) : Except ReadFault Place :=
  match directory.files.find? fun file => file.1 = names with
  | some file => .ok (.file file.2)
  | none =>
    if directory.files.any fun file => names.isPrefixOf file.1 then .ok (.inside names)
    else .error .notFound

def isTooLong (name : String) : Bool :=
  nameLimit < (Utf8.encode name).length

def step (directory : Directory) (place : Place) (name : String) : Except ReadFault Place :=
  match place with
  | .file _ => .error .notDirectory
  | .outside =>
    if name = "" ∨ name = "." ∨ name = ".." then .ok .outside
    else .error (if isTooLong name then .nameTooLong else .notFound)
  | .inside names =>
    if name = "" ∨ name = "." then .ok (.inside names)
    else if name = ".." then .ok (if names.isEmpty then .outside else .inside names.dropLast)
    else if isTooLong name then .error .nameTooLong
    else directory.child (names ++ [name])

/-- What a path leads to; one that starts with a slash leads outside. -/
def resolve (directory : Directory) (path : Path) : Except ReadFault Place :=
  match ReadFault.ofPath? path with
  | some fault => .error fault
  | none =>
    match steps path with
    | "" :: names => names.foldlM directory.step .outside
    | names => names.foldlM directory.step (.inside [])

def readBytes (directory : Directory) (path : Path) : Except ReadFault Bytes :=
  match directory.resolve path with
  | .error fault => .error fault
  | .ok (.file content) => .ok content
  | .ok _ => .error .isDirectory

def asFiles (directory : Directory) : Files :=
  ⟨directory.readBytes⟩

end Directory

end ProbeHost
