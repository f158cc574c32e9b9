/-
Names of reconciliation runs.

A run is named by a number of a hundred and twenty-eight bits in hexadecimal, or, where
runs are counted, by its place in the count.  The hexadecimal form may be read in any
of its four spellings and is always written in one: small letters in groups of eight,
four, four, four and twelve.
-/

namespace SchoolFees

/-- The name of a run, as it is written. -/
structure RunId where
  text : String
deriving DecidableEq

namespace RunId

/-- The name of the `n`th run of a count. -/
def numbered (n : Nat) : RunId := ⟨s!"run-{n}"⟩

/-- A hexadecimal digit, in either case. -/
def isHexDigit (c : Char) : Bool := c.isDigit || ('a' ≤ c && c ≤ 'f') || ('A' ≤ c && c ≤ 'F')

/-- Writes thirty-two digits in groups. -/
def grouped (digits : List Char) : List Char :=
  digits.take 8 ++ '-' :: (digits.drop 8).take 4 ++ '-' :: (digits.drop 12).take 4 ++
    '-' :: (digits.drop 16).take 4 ++ '-' :: digits.drop 20

/-- The digits of a name that is written in groups. -/
def ungrouped? (cs : List Char) : Option (List Char) :=
  let digits := cs.filter (· != '-')
  if digits.length = 32 ∧ grouped digits = cs then some digits else none

/-- What a resource name starts with, in either case. -/
def resourceMark : List Char := "urn:uuid:".toList

/-- The digits of a name in any spelling: bare, in groups, in braces, or as a resource name. -/
def digits? (cs : List Char) : Option (List Char) :=
  if cs.length = 32 then some cs
  else if cs.length = 36 then ungrouped? cs
  else if cs.length = 38 then
    if cs.head? = some '{' ∧ cs.getLast? = some '}' then ungrouped? (cs.drop 1).dropLast else none
  else if (cs.take resourceMark.length).map Char.toLower = resourceMark then
    ungrouped? (cs.drop resourceMark.length)
  else none

/-- Reads a hexadecimal name. -/
def ofText? (text : String) : Option RunId := do
  let digits ← digits? text.toList
  if digits.all isHexDigit then some ⟨String.ofList (grouped (digits.map Char.toLower))⟩ else none

end RunId

end SchoolFees
