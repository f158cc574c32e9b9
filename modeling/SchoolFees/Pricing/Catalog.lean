/-
Catalogs: the charges of one owner.

A catalog is a list of entries in the order in which they were added.  Its keys are
pairwise different up to the case of ASCII letters; `add` refuses the second entry of a
key, and no other operation changes one.  So a key names at most one entry, and which
spelling it is asked under makes no difference.

A key with no entry of its own is priced by the entry for the rest of its platform, if
the catalog has one.
-/
import SchoolFees.Pricing.Validator

namespace SchoolFees

/-- The charges of one owner. -/
structure Catalog where
  /-- The entries, in the order in which they were added. -/
  entries : List Entry
deriving DecidableEq

namespace Catalog

/-- The catalog without entries. -/
def empty : Catalog := ⟨[]⟩

instance : Inhabited Catalog := ⟨empty⟩

/-! ### Looking up -/

/-- The entry under a key, whatever its spelling. -/
def find? (c : Catalog) (key : ChargeKey) : Option Entry := c.entries.find? (·.key.same key)

/-- The entry that prices a key: its own, or else that of the rest of its platform. -/
def lookup (c : Catalog) (key : ChargeKey) : Except FeeError Entry :=
  match c.find? key <|> c.find? key.fallback with
  | some entry => .ok entry
  | none => .error (.noChargeConfigured key)

/-! ### Changing -/

/-- Adds an entry at the end, if the validator takes it and its key is new. -/
def add (c : Catalog) (accepts : Validator) (entry : Entry) : Except FeeError Catalog := do
  accepts entry
  match c.find? entry.key with
  | some _ => .error (.duplicateCharge entry.key)
  | none => .ok ⟨c.entries ++ [entry]⟩

/-- Puts new tiers under the first entry with this key, which keeps its spelling and its place. -/
def replaceTiers (key : ChargeKey) (tiers : TierTable) : List Entry → List Entry
  | [] => []
  | e :: rest =>
    if e.key.same key then { e with tiers := tiers } :: rest else e :: replaceTiers key tiers rest

/-- Gives an existing key new tiers. -/
def update (c : Catalog) (entry : Entry) : Except FeeError Catalog := do
  Validator.standard entry
  match c.find? entry.key with
  | some _ => .ok ⟨replaceTiers entry.key entry.tiers c.entries⟩
  | none => .error (.chargeNotFound entry.key)

/-- Takes the entry under a key out, and hands it back. -/
def delete (c : Catalog) (key : ChargeKey) : Except FeeError (Entry × Catalog) :=
  match c.find? key with
  | some entry => .ok (entry, ⟨c.entries.eraseP (·.key.same key)⟩)
  | none => .error (.chargeNotFound key)

/-! ### Building -/

/-- Adds entries one by one; the first that is refused ends it. -/
def addAll (c : Catalog) (accepts : Validator) (entries : List Entry) : Except FeeError Catalog :=
  entries.foldlM (fun c entry => c.add accepts entry) c

/-- The catalog of a list of entries. -/
def ofEntries (entries : List Entry) : Except FeeError Catalog :=
  empty.addAll Validator.standard entries

/-- The platforms that a new catalog starts with. -/
def standardPlatforms : List String :=
  ["UPI", "DebitCard", "NetBanking", "CreditCard", "Wallet", "PayLater", "CardLess",
    "CORPORATE CARDS"]

/-- A catalog that charges nothing on any of the standard platforms. -/
def standard : Catalog :=
  ⟨standardPlatforms.map fun platform => Entry.zeroRated ⟨platform, ChargeKey.others⟩⟩

end Catalog

end SchoolFees
