/-
Environments made of variables and a file of assignments.

The value of a variable is a string of bytes other than zero, and one that is not valid
text counts as not set.  A file of assignments has one on each line, `NAME=value`, with
blanks as it likes around the name and the value; blank lines and comments say nothing.
The file only sets what is not set already, so the variables win over the file and
earlier lines over later ones.

A file is read up to the first line that makes no sense, and a byte order mark in front of
it is no part of it.  Values are plain: a space or a tab ends one, and nothing but a
comment may follow.  In a run of blanks the first, the third and so on are gaps.  A number
sign right behind a gap begins a comment, and a file that ends right behind a gap leaves
its last line unread.
-/
import SchoolFees.Config.Basic

namespace SchoolFees

/-- Variables with the bytes of their values. -/
abbrev Variables := List (Setting × ByteArray)

/-- The value that a variable has with these bytes. -/
def Variables.value? (bytes : ByteArray) : Option ByteArray :=
  if bytes.data.contains 0 then none else some bytes

/-! ### Files of assignments -/

/-- What a line of a file says. -/
inductive FileLine where
  /-- The line is blank or a comment. -/
  | nothing
  | assignment (name value : String)

namespace FileLine

/-- A text without the byte order mark in front of it, if there is one. -/
def unmarked : List Char → List Char
  | '\ufeff' :: rest => rest
  | text => text

/-- Parts a text behind its line feeds. -/
def split : List Char → List (List Char)
  | [] => []
  | c :: rest =>
    if c = '\n' then [c] :: split rest
    else match split rest with
      | [] => [[c]]
      | line :: more => (c :: line) :: more

/-- The blanks that can stand in a line. -/
def isBlank (c : Char) : Bool := Text.isBlank c && c != '\n' && c != '\r'

/-- The line up to a comment, unless it ends right behind a gap. -/
def uncommented? (afterGap : Bool) : List Char → Option (List Char)
  | [] => if afterGap then none else some []
  | c :: rest =>
    if afterGap && c == '#' then some []
    else (uncommented? (!afterGap && isBlank c) rest).map (c :: ·)

/-- A character of a name. -/
def isNameChar (c : Char) : Bool := c.isAlphanum || c == '_' || c == '.'

/-- The name that a line begins with, and what follows it. -/
def name? (line : List Char) : Option (String × List Char) :=
  if line.head?.any fun c => c.isAlpha || c == '_' then
    some (String.ofList (line.takeWhile isNameChar), line.dropWhile isNameChar)
  else none

/-- A character that ends a value. -/
def endsValue (c : Char) : Bool := c == ' ' || c == '\t'

/-- The value that is the rest of a line, apart from a comment. -/
def value? (rest : List Char) : Option String :=
  if rest.head? = some '#' then some ""
  else
    let after := (rest.dropWhile fun c => !endsValue c).dropWhile endsValue
    if after.isEmpty ∨ after.head? = some '#' then
      some (String.ofList (rest.takeWhile fun c => !endsValue c))
    else none

/-- Reads a line, unless it makes no sense. -/
def read? (line : List Char) : Option FileLine :=
  if (Text.dropBlanks line).head? = some '#' then some .nothing
  else do
    let content ← uncommented? false line
    match (Text.trim (String.ofList content)).toList with
    | [] => some .nothing
    | content =>
      let (name, rest) ← name? content
      match Text.dropBlanks rest with
      | '=' :: rest => (value? (Text.dropBlanks rest)).map (assignment name)
      | _ => none

/-- The assignments of lines, up to the first that makes no sense. -/
def assignments : List (List Char) → List (String × String)
  | [] => []
  | line :: rest =>
    match read? line with
    | none => []
    | some .nothing => assignments rest
    | some (.assignment name value) => (name, value) :: assignments rest

end FileLine

/-- The environment of these variables, with a file of assignments behind them. -/
def Environment.ofVariables (vars : Variables) (file : String) : Environment := fun setting =>
  (vars.find? (·.1 = setting)).bind (fun v => String.fromUTF8? v.2) <|>
    (FileLine.assignments (FileLine.split (FileLine.unmarked file.toList))).lookup
      setting.variableName

end SchoolFees
