import ProbeHost.Config.Environment
import ProbeHost.Table
import ProbeHost.Text.Alphanumeric
import ProbeHost.Text.Quoted
import ProbeHost.Text.Whitespace

/-! Files that set environment variables.

Each line is empty, a comment, or an assignment `KEY=value`, which may be marked with `export`. A
variable that is already set keeps its value. Reading stops at the first line that is none of
these; the assignments before it hold. An assignment of a value with a NUL in it is a line of this
format, but no variable can hold such a value, so it is reported.
-/

set_option autoImplicit false

namespace ProbeHost.Dotenv

abbrev Variables := Table Bytes

/-- What a name denotes. A variable is kept as `NAME=value` and looked for by what comes before an
equals sign, so a name that has one itself reaches into the value. -/
def content? (known : Variables) (name : String) : Option Bytes :=
  let value := known.find? (String.ofList (name.toList.takeWhile (· ≠ '=')))
  match name.toList.dropWhile (· ≠ '=') with
  | [] => value
  | _ :: start => value.bind (Utf8.encodeChars (start ++ ['='])).isPrefixOf?

def text? (known : Variables) (name : String) : Option String :=
  (content? known name).bind Utf8.decode

inductive Quoting where
  | none
  | weak
  | strong
  deriving DecidableEq, Repr

inductive Stage where
  | ordinary
  | escaped
  /-- A blank came before, so only blanks and a comment may follow. -/
  | ending
  /-- The name of a variable, latest character first; `braced` if it is between braces. -/
  | substituting (braced : Bool) (name : List Char)
  deriving DecidableEq, Repr

def escape? (c : Char) : Option Char :=
  if c = '\\' ∨ c = '\'' ∨ c = '"' ∨ c = '$' ∨ c = ' ' then some c
  else if c = 'n' then some '\n'
  else none

def readValue (lookup : String → String) :
    Quoting → Stage → (output : String) → List Char → Option String
  | quoting, .substituting false name, output, [] =>
    if quoting = .none then some (output ++ lookup (String.ofList name.reverse)) else none
  | _, .substituting true _, _, [] => none
  | quoting, _, output, [] => if quoting = .none then some output else none
  | quoting, .ending, output, c :: cs =>
    if c = ' ' ∨ c = '\t' then readValue lookup quoting .ending output cs
    else if c = '#' then (if quoting = .none then some output else none)
    else none
  | quoting, .escaped, output, c :: cs =>
    match escape? c with
    | some meant => readValue lookup quoting .ordinary (output.push meant) cs
    | none => none
  | .strong, stage, output, c :: cs =>
    if c = '\'' then readValue lookup .none stage output cs
    else readValue lookup .strong stage (output.push c) cs
  | quoting, .substituting braced name, output, c :: cs =>
    if Text.isAlphanumeric c then
      readValue lookup quoting (.substituting braced (c :: name)) output cs
    else if braced then
      if c = '\x7d' then
        readValue lookup quoting .ordinary (output ++ lookup (String.ofList name.reverse)) cs
      else readValue lookup quoting (.substituting true (c :: name)) output cs
    else if c = '\x7b' ∧ name = [] then readValue lookup quoting (.substituting true []) output cs
    else
      let output := output ++ lookup (String.ofList name.reverse)
      if c = '$' then readValue lookup quoting (.substituting false []) output cs
      else readValue lookup quoting .ordinary (output.push c) cs
  | quoting, .ordinary, output, c :: cs =>
    if c = '$' then readValue lookup quoting (.substituting false []) output cs
    else if c = '\\' then readValue lookup quoting .escaped output cs
    else if quoting = .weak then
      if c = '"' then readValue lookup .none .ordinary output cs
      else readValue lookup .weak .ordinary (output.push c) cs
    else if c = '\'' then readValue lookup .strong .ordinary output cs
    else if c = '"' then readValue lookup .weak .ordinary output cs
    else if c = ' ' ∨ c = '\t' then readValue lookup .none .ending output cs
    else readValue lookup .none .ordinary (output.push c) cs

def startsKey (c : Char) : Bool :=
  c.isAlpha || c == '_'

def continuesKey (c : Char) : Bool :=
  c.isAlphanum || c == '_' || c == '.'

def readKey (cs : List Char) : Option (String × List Char) :=
  if cs.head?.any startsKey then
    some (String.ofList (cs.takeWhile continuesKey), Text.trimStart (cs.dropWhile continuesKey))
  else none

def readEquals : List Char → Option (List Char)
  | '=' :: cs => some cs
  | _ => none

/-- The key of an assignment and what follows its equals sign; `export` is a mark before the key,
or a key itself. -/
def readTarget (cs : List Char) : Option (String × List Char) := do
  let (key, cs) ← readKey cs
  match readEquals cs with
  | some cs => some (key, cs)
  | none =>
    -- Only without an equals sign behind it is `export` a mark.
    if key = "export" then
      let (key, cs) ← readKey cs
      let cs ← readEquals cs
      some (key, cs)
    else none

inductive Line where
  | blank
  | assignment (key value : String)
  | malformed
  deriving DecidableEq, Repr

def isBlankOrComment (cs : List Char) : Bool :=
  cs.isEmpty || cs.head? == some '#'

def readLine (lookup : String → String) (line : String) : Line :=
  let cs := Text.trimStart (Text.trimEnd line.toList)
  if isBlankOrComment cs then .blank
  else
    match readTarget cs with
    | none => .malformed
    | some (key, rest) =>
      let rest := Text.trimStart rest
      if isBlankOrComment rest then .assignment key ""
      else
        match readValue lookup .none .ordinary "" rest with
        | none => .malformed
        | some value => .assignment key value

/-- The lines of a file; what follows the last line feed is a line unless it is empty. -/
def splitLines : Bytes → List Bytes
  | [] => []
  | b :: bs =>
    if b = 0x0A then [] :: splitLines bs
    else
      match splitLines bs with
      | [] => [[b]]
      | line :: lines => (b :: line) :: lines

structure Unsettable where
  key : String
  value : String
  deriving DecidableEq, Repr

def Unsettable.message (assignment : Unsettable) : String :=
  "failed to set environment variable `" ++ Text.quoted assignment.key ++ "` to `" ++
    Text.quoted assignment.value ++ "`: nul byte found in provided data"

/-- Set a variable that is not set. -/
def assign (known : Variables) (key value : String) : Except Unsettable Variables :=
  if (text? known key).isSome then .ok known
  else if Text.hasNul value then .error ⟨key, value⟩
  else .ok (known.insert key (Utf8.encode value))

def loadLines (known : Variables) (assigned : Table String) :
    List Bytes → Except Unsettable Variables
  | [] => .ok known
  | line :: lines =>
    match Utf8.decode line with
    | none => .ok known
    | some line =>
      let lookup (name : String) : String :=
        ((text? known name) <|> assigned.find? name).getD ""
      match readLine lookup line with
      | .malformed => .ok known
      | .blank => loadLines known assigned lines
      | .assignment key value =>
        match assign known key value with
        | .error unsettable => .error unsettable
        | .ok known => loadLines known (assigned.insert key value) lines

def load (known : Variables) (file : Bytes) : Except Unsettable Variables :=
  loadLines known {} (splitLines file)

def ofEnvironment (environment : Environment) : Variables where
  rows := (environment.nodeId?.map (Environment.nodeIdVariable, ·)).toList ++
    (environment.probeRate?.map (Environment.probeRateVariable, ·)).toList

def toEnvironment (known : Variables) : Environment where
  nodeId? := known.find? Environment.nodeIdVariable
  probeRate? := known.find? Environment.probeRateVariable

/-- The environment after a file has set what was not set. -/
def extend (environment : Environment) (file : Bytes) : Except Unsettable Environment :=
  (load (ofEnvironment environment) file).map toEnvironment

end ProbeHost.Dotenv
