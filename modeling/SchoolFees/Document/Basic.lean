/-
Documents: values as they travel.

A document is a tree of named and listed values.  `Wire` says how a type is written as
one and read back.  Nothing is converted on reading: a text is read from a text, a
number from a number.  The exception is a decimal, which may be a text or any number,
and a number with a binary fraction is read as exactly that.

A record is read by the names of its fields; names it does not know are ignored, and an
optional value may be null or left out.  A record may also come as the bare list of its
fields, all of them and in order.
-/
import SchoolFees.Calendar.DateTime
import SchoolFees.Decimal.Binary
import SchoolFees.Decimal.Text
import SchoolFees.RunId

namespace SchoolFees

/-- A value as it travels. -/
inductive Document where
  | null
  | bool (b : Bool)
  /-- A whole number that was written as one. -/
  | integer (n : Int)
  /-- Any other number, as the binary fraction nearest to it. -/
  | real (x : Dyadic)
  | text (s : String)
  | list (items : List Document)
  | record (fields : List (String × Document))

/-- A type whose values can travel. -/
class Wire (α : Type) where
  /-- Writes a value. -/
  encode : α → Document
  /-- Reads a value back, from whatever form it may have. -/
  decode? : Document → Option α

export Wire (encode decode?)

/-- The fields of a record, by name. -/
structure Fields where
  lookup : String → Option Document

namespace Document

/-- The fields of a document that is a record of these names, in this order where it is a list. -/
def fields? (names : List String) : Document → Option Fields
  | .record fields => some ⟨fun name => fields.lookup name⟩
  | .list items =>
    if items.length = names.length then some ⟨fun name => (names.zip items).lookup name⟩ else none
  | _ => none

/-- The choice that a document makes among names: the name alone, or a record with that field. -/
def choice? : Document → Option (String × Document)
  | .text name => some (name, .null)
  | .record [(name, content)] => some (name, content)
  | _ => none

/-- A choice that has no content, which is null. -/
def name? (d : Document) : Option String :=
  match d.choice? with
  | some (name, .null) => some name
  | _ => none

/-- A choice that has no content, which is null or a record of nothing. -/
def looseName? (d : Document) : Option String :=
  match d.choice? with
  | some (name, .null) => some name
  | some (name, .record []) => some name
  | _ => none

/-- The parts of a document that is a kind beside its content.  As one of two named parts the kind
may be any choice that has no content, and in a list it is a text. -/
def kindAndContent? (kindName contentName : String) : Document → Option (String × Document)
  | .record fields => do
    let kind ← (← fields.lookup kindName).name?
    return (kind, ← fields.lookup contentName)
  | .list [.text kind, content] => some (kind, content)
  | _ => none

/-- The items of a document that is a list, each read. -/
def listOf? {α : Type} (read? : Document → Option α) : Document → Option (List α)
  | .list items => items.mapM read?
  | _ => none

/-- The text that a document is, read further. -/
def textWith? {α : Type} (read? : String → Option α) : Document → Option α
  | .text s => read? s
  | _ => none

end Document

namespace Fields

/-- The value of a field that has to be there, read in a given way. -/
def requiredBy {α : Type} (read? : Document → Option α) (f : Fields) (name : String) : Option α :=
  (f.lookup name).bind read?

/-- The value of a field that may be null or left out, read in a given way. -/
def optionalBy {α : Type} (read? : Document → Option α) (f : Fields) (name : String) :
    Option (Option α) :=
  match f.lookup name with
  | none => some none
  | some .null => some none
  | some content => (read? content).map some

/-- The value of a field that has to be there. -/
def required {α : Type} [Wire α] (f : Fields) (name : String) : Option α :=
  f.requiredBy decode? name

/-- The value of a field that may be null or left out. -/
def optional {α : Type} [Wire α] (f : Fields) (name : String) : Option (Option α) :=
  f.optionalBy decode? name

end Fields

/-! ### Plain values -/

instance : Wire Document := ⟨id, some⟩

instance : Wire Bool where
  encode := .bool
  decode?
    | .bool b => some b
    | _ => none

/-- Numbers on the wire fit a machine word. -/
instance : Wire Nat where
  encode n := .integer n
  decode?
    | .integer n => if 0 ≤ n ∧ n < Text.wordBound then some n.toNat else none
    | _ => none

instance : Wire String := ⟨.text, Document.textWith? some⟩

instance {α : Type} [Wire α] : Wire (Option α) where
  encode
    | none => .null
    | some a => encode a
  decode?
    | .null => some none
    | d => (decode? d).map some

instance {α : Type} [Wire α] : Wire (List α) where
  encode as := .list (as.map encode)
  decode? := Document.listOf? decode?

instance : Wire Decimal where
  encode d := .text d.toText
  decode?
    | .text s => Decimal.ofText? s
    | .integer n => some (Decimal.ofInt n)
    | .real x => some (Decimal.ofDyadic x)
    | _ => none

instance : Wire Date := ⟨fun d => .text d.toText, Document.textWith? Date.ofText?⟩

instance : Wire DateTime := ⟨fun t => .text t.toText, Document.textWith? DateTime.ofText?⟩

instance : Wire RunId := ⟨fun r => .text r.text, Document.textWith? RunId.ofText?⟩

end SchoolFees
