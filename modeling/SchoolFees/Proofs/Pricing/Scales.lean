/-
Tables whose amounts are written at other scales.

Two tables are equal when they have equal tiers in the same order, and two catalogs when
they have equal entries under the same keys.  Everything that looks at a table looks at it
by comparing amounts, so it comes to the same on two equal tables: the same tier accepts an
amount, the same checks pass, and an error names the same thing, with amounts that are
equal (`FeeError.Equal`).

A fee that is taken as it stands is as equal as the charges are.  A percentage is a
quotient, and a quotient is cut off after so many digits of its coefficient, zeros at the
end included.  So percentages of equal amounts are sure to be equal where the product that
is divided has no more digits than are kept (`Tier.ExactOn`).
-/
import Mathlib.Data.List.Forall2
import SchoolFees.Pricing.Catalog
import SchoolFees.Proofs.Decimal.Scales
import SchoolFees.Proofs.Outcome

namespace SchoolFees

/-! ### Equal but for scales -/

/-- The same tier, with amounts that are worth the same. -/
structure Tier.Equal (t t' : Tier) : Prop where
  bound : Option.Rel (· ≈ ·) t.bound t'.bound
  kind : t.kind = t'.kind
  charge : t.charge ≈ t'.charge

/-- The same tiers under the same key in the same spelling. -/
structure Entry.Equal (e e' : Entry) : Prop where
  key : e.key = e'.key
  tiers : List.Forall₂ Tier.Equal e.tiers e'.tiers

/-- The same entries in the same order. -/
def Catalog.Equal (c c' : Catalog) : Prop := List.Forall₂ Entry.Equal c.entries c'.entries

/-- The violation with its amount normalized. -/
def Violation.normalized : Violation → Violation
  | .negativeCharge charge => .negativeCharge charge.normalize
  | .percentAboveHundred charge => .percentAboveHundred charge.normalize
  | .boundNotPositive bound => .boundNotPositive bound.normalize
  | violation => violation

/-- The error with its amounts normalized. -/
def FeeError.normalized : FeeError → FeeError
  | .noMatchingTier amount => .noMatchingTier amount.normalize
  | .layerFailed layer cause => .layerFailed layer cause.normalized
  | .validation violation => .validation violation.normalized
  | .gst fault => .gst ⟨fault.rate.normalize⟩
  | e => e

/-- The same error, about amounts that are worth the same. -/
def FeeError.Equal (e e' : FeeError) : Prop := e.normalized = e'.normalized

theorem FeeError.Equal.refl (e : FeeError) : e.Equal e := rfl

/-- Errors that are equal are so in their layer. -/
theorem Outcome.Rel.inLayer {α β : Type} {agree : α → β → Prop} {x : Except FeeError α}
    {y : Except FeeError β} (layer : Layer) (h : Rel FeeError.Equal agree x y) :
    Rel FeeError.Equal agree (x.mapError (FeeError.inLayer layer))
      (y.mapError (FeeError.inLayer layer)) := by
  cases h with
  | ok h => exact .ok h
  | error h => exact .error (congrArg (FeeError.layerFailed layer) h)

/-! ### Lists side by side -/

section

variable {α β : Type} {R : α → β → Prop} {as : List α} {bs : List β} {p : α → Bool} {q : β → Bool}

theorem findIdx?_of_forall₂ (h : List.Forall₂ R as bs) (same : ∀ a b, R a b → p a = q b) :
    as.findIdx? p = bs.findIdx? q := by
  induction h with
  | nil => rfl
  | cons head _ ih => rw [List.findIdx?_cons, List.findIdx?_cons, same _ _ head, ih]

theorem find?_of_forall₂ (h : List.Forall₂ R as bs) (same : ∀ a b, R a b → p a = q b) :
    Option.Rel R (as.find? p) (bs.find? q) := by
  induction h with
  | nil => exact .none
  | cons head _ ih =>
    rw [List.find?_cons, List.find?_cons, same _ _ head]
    split
    · exact .some head
    · exact ih

theorem countP_of_forall₂ (h : List.Forall₂ R as bs) (same : ∀ a b, R a b → p a = q b) :
    as.countP p = bs.countP q := by
  induction h with
  | nil => rfl
  | cons head _ ih => rw [List.countP_cons, List.countP_cons, same _ _ head, ih]

/-- Checks of two lists, item by item, come to the same. -/
theorem Outcome.Rel.forM {errors : FeeError → FeeError → Prop} {check : α → Except FeeError Unit}
    {check' : β → Except FeeError Unit} (h : List.Forall₂ R as bs)
    (checks : ∀ a b, R a b → Outcome.Rel errors Eq (check a) (check' b)) :
    Outcome.Rel errors Eq (as.forM check) (bs.forM check') := by
  induction h with
  | nil => exact .ok rfl
  | cons head _ ih => exact (checks _ _ head).bind fun _ _ _ => ih

end

/-! ### Tiers -/

namespace Tier

variable {t t' : Tier} {amount amount' : Decimal}

theorem Equal.accepts_iff (h : t.Equal t') (amounts : amount ≈ amount') :
    t.Accepts amount ↔ t'.Accepts amount' := by
  have bounds := h.bound
  unfold Accepts
  generalize t.bound = bound, t'.bound = bound' at bounds ⊢
  cases bounds with
  | none => rfl
  | some bounds => exact Decimal.le_congr amounts bounds

theorem Equal.isCatchAll_iff (h : t.Equal t') : t.IsCatchAll ↔ t'.IsCatchAll := by
  have bounds := h.bound
  unfold IsCatchAll
  generalize t.bound = bound, t'.bound = bound' at bounds ⊢
  cases bounds with
  | none => simp
  | some bounds => simp

/-- No digit of the tier's fee on the amount is cut off. -/
def ExactOn (t : Tier) (amount : Decimal) : Prop :=
  t.kind = .percent → (t.charge * amount).significantDigits ≤ Quotient.significantDigits

instance (t : Tier) (amount : Decimal) : Decidable (t.ExactOn amount) :=
  inferInstanceAs (Decidable (_ → _))

/-- **Equal tiers charge equal fees on equal amounts**, where no digit is cut off. -/
theorem Equal.fee_equiv (h : t.Equal t') (amounts : amount ≈ amount')
    (exactOn : t.ExactOn amount) : t.fee amount ≈ t'.fee amount' := by
  unfold fee
  rw [← h.kind]
  cases kind : t.kind with
  | flat => exact h.charge
  | percent => exact Decimal.div_hundred_congr (Decimal.mul_congr h.charge amounts) (exactOn kind)

/-- Of an amount with more digits, more are kept when it is written with zeros behind the point. -/
example : ∃ amount amount' : Decimal, amount ≈ amount' ∧
    ¬ (Tier.mk none .percent 3).fee amount ≈ (Tier.mk none .percent 3).fee amount' :=
  ⟨⟨10 ^ 100 + 1, 0⟩, ⟨(10 ^ 100 + 1) * 100, 2⟩, by decide +kernel⟩

theorem Equal.check_rel (h : t.Equal t') : Outcome.Rel FeeError.Equal Eq t.check t'.check := by
  have charges := Decimal.normalize_eq_iff.mpr h.charge
  have zero := Decimal.equiv_refl 0
  have hundred := Decimal.equiv_refl 100
  unfold check
  refine (require_rel ?_ ?_).bind fun _ _ _ => ?_
  · exact not_congr (Decimal.lt_congr h.charge zero)
  · exact congrArg (FeeError.validation ∘ Violation.negativeCharge) charges
  refine (require_rel ?_ ?_).bind fun _ _ _ => ?_
  · rw [h.kind, Decimal.lt_congr hundred h.charge]
  · exact congrArg (FeeError.validation ∘ Violation.percentAboveHundred) charges
  have bounds := h.bound
  generalize t.bound = bound, t'.bound = bound' at bounds ⊢
  cases bounds with
  | none => exact .ok rfl
  | some bounds =>
    refine require_rel ?_ ?_
    · exact not_congr (Decimal.le_congr bounds zero)
    · exact congrArg (FeeError.validation ∘ Violation.boundNotPositive)
        (Decimal.normalize_eq_iff.mpr bounds)

end Tier

/-! ### Tables -/

namespace TierTable

variable {table table' : TierTable} {amount amount' : Decimal}

/-- The tier that prices an amount stands at the same place in equal tables. -/
theorem selectedAt?_of_equal (h : List.Forall₂ Tier.Equal table table')
    (amounts : amount ≈ amount') : table.selectedAt? amount = table'.selectedAt? amount' :=
  findIdx?_of_forall₂ h fun _ _ tiers => decide_eq_decide.mpr (tiers.accepts_iff amounts)

theorem select_rel (h : List.Forall₂ Tier.Equal table table') (amounts : amount ≈ amount') :
    Outcome.Rel FeeError.Equal Tier.Equal (table.select amount) (table'.select amount') := by
  have found : Option.Rel Tier.Equal (table.find? fun t => t.Accepts amount)
      (table'.find? fun t => t.Accepts amount') :=
    find?_of_forall₂ h fun _ _ tiers => decide_eq_decide.mpr (tiers.accepts_iff amounts)
  unfold select
  generalize table.find? (fun t => t.Accepts amount) = tier,
    table'.find? (fun t => t.Accepts amount') = tier' at found ⊢
  cases found with
  | none =>
    exact .error (congrArg FeeError.noMatchingTier (Decimal.normalize_eq_iff.mpr amounts))
  | some tiers => exact .ok tiers

theorem check_of_equal (h : List.Forall₂ Tier.Equal table table') : table.check = table'.check := by
  have count : table.catchAllCount = table'.catchAllCount :=
    countP_of_forall₂ h fun _ _ tiers => decide_eq_decide.mpr tiers.isCatchAll_iff
  have some_tier : table ≠ [] ↔ table' ≠ [] := by
    rw [Ne, Ne, ← List.length_eq_zero_iff, ← List.length_eq_zero_iff, h.length_eq]
  unfold check
  simp only [count, some_tier]

theorem bounds_of_equal (h : List.Forall₂ Tier.Equal table table') :
    List.Forall₂ (· ≈ ·) table.bounds table'.bounds :=
  List.rel_filterMap (fun _ _ tiers => tiers.bound) h

end TierTable

/-! ### Validators -/

theorem Decimal.areAscending_of_equiv {ds ds' : List Decimal} (h : List.Forall₂ (· ≈ ·) ds ds') :
    areAscending ds = areAscending ds' := by
  induction h with
  | nil => rfl
  | cons head rest ih =>
    cases rest with
    | nil => rfl
    | cons second rest =>
      unfold areAscending
      rw [ih, decide_eq_decide.mpr (lt_congr head second)]

namespace Validator

variable {e e' : Entry}

/-- The standard check does not look at amounts. -/
theorem standard_of_equal (h : e.Equal e') : standard e = standard e' := by
  unfold standard
  rw [h.key, TierTable.check_of_equal h.tiers]

theorem standard_rel (h : e.Equal e') :
    Outcome.Rel FeeError.Equal Eq (standard e) (standard e') := by
  rw [standard_of_equal h]
  exact .refl FeeError.Equal.refl (fun _ => rfl) _

/-- The strict check compares amounts, and names the first that does not make sense. -/
theorem strict_rel (h : e.Equal e') :
    Outcome.Rel FeeError.Equal Eq (strict e) (strict e') := by
  refine (standard_rel h).bind fun _ _ _ => ?_
  refine (Outcome.Rel.forM h.tiers fun _ _ tiers => tiers.check_rel).bind fun _ _ _ => ?_
  have ascending := Decimal.areAscending_of_equiv (TierTable.bounds_of_equal h.tiers)
  exact require_rel (by rw [ascending]) (by rw [h.key]; rfl)

end Validator

/-! ### Catalogs -/

namespace Catalog

variable {c c' : Catalog}

theorem Equal.find?_rel (h : c.Equal c') (key : ChargeKey) :
    Option.Rel Entry.Equal (c.find? key) (c'.find? key) :=
  find?_of_forall₂ h fun _ _ entries => by rw [entries.key]

theorem Equal.lookup_rel (h : c.Equal c') (key : ChargeKey) :
    Outcome.Rel FeeError.Equal Entry.Equal (c.lookup key) (c'.lookup key) := by
  have own := h.find?_rel key
  have rest := h.find?_rel key.fallback
  unfold lookup
  generalize c.find? key = found, c'.find? key = found' at own ⊢
  cases own with
  | some entries => exact .ok entries
  | none =>
    generalize c.find? key.fallback = found, c'.find? key.fallback = found' at rest ⊢
    cases rest with
    | some entries => exact .ok entries
    | none => exact .error rfl

end Catalog

end SchoolFees
