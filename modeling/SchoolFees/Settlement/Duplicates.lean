/-
Duplicates: items that share a key.

Keys count without the blanks around them, and an item whose key is missing or blank is
in no group.  One pass over the items gathers them by key: the groups stand in the order in
which their keys turned up, and beside them is kept where the group of each key stands, so
that an item goes straight to its group.  A key that turned up once makes no group.
-/
import SchoolFees.Registry
import SchoolFees.Settlement.Report

namespace SchoolFees

/-- What one pass has gathered so far. -/
structure KeyedGroups (α : Type) where
  /-- Where the group of a key stands. -/
  places : Registry String Nat
  /-- The items under each key, in the order in which the keys turned up. -/
  groups : List (String × List α)
  /-- There is a group at every place. -/
  inRange : ∀ {key : String} {place : Nat}, places.get? key = some place → place < groups.length

namespace KeyedGroups

variable {α : Type}

/-- Nothing is gathered yet. -/
def empty : KeyedGroups α := ⟨∅, [], nofun⟩

/-- Begins the group of a key, behind all others. -/
def begun (g : KeyedGroups α) (key : String) (item : α) : KeyedGroups α where
  places := g.places.set key g.groups.length
  groups := g.groups ++ [(key, [item])]
  inRange := by
    intro k place found
    rw [Registry.get?_set] at found
    rw [List.length_append, List.length_singleton]
    split at found
    · cases found
      exact Nat.lt_succ_self _
    · exact Nat.lt_succ_of_lt (g.inRange found)

/-- Adds an item to the group at a place. -/
def joined (g : KeyedGroups α) (place : Nat) (inRange : place < g.groups.length) (item : α) :
    KeyedGroups α where
  places := g.places
  groups := g.groups.set place (g.groups[place].1, g.groups[place].2 ++ [item])
  inRange := by
    intro k place' found
    rw [List.length_set]
    exact g.inRange found

/-- Takes in the next item, which joins the group of its key or begins it. -/
def take (key : α → Option String) (g : KeyedGroups α) (item : α) : KeyedGroups α :=
  match Text.keyed (key item) with
  | none => g
  | some k =>
    match known : g.places.get? k with
    | none => g.begun k item
    | some place => g.joined place (g.inRange known) item

/-- Gathers a list of items. -/
def ofItems (key : α → Option String) (items : List α) : KeyedGroups α :=
  items.foldl (take key) empty

end KeyedGroups

/-- The groups of items that share a key. -/
def DuplicateGroup.find {α : Type} (key : α → Option String) (items : List α) :
    List (DuplicateGroup α) :=
  ((KeyedGroups.ofItems key items).groups.filter fun group => 1 < group.2.length).map
    fun (k, members) => ⟨k, members.length, members⟩

/-- Looks for each kind of shared key among the same records. -/
def DuplicateReport.scan (records : List SchoolRecord) : DuplicateReport where
  byEmail := DuplicateGroup.find (·.email) records
  byClientId := DuplicateGroup.find (·.clientId) records
  byPriceKey := DuplicateGroup.find (·.priceKey) records

end SchoolFees
