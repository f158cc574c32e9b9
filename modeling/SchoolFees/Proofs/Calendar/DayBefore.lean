/-
The day before a date.

Going back a day stays in the month where it can, and else goes to the last day of the
month before, or of the year before.  That no date is passed over on the way is a matter of
the order of dates alone: what is found is the latest of the earlier dates
(`previous?_eq_some_iff`), and nothing is found for a date that no other one is earlier
than (`previous?_eq_none_iff`).
-/
import SchoolFees.Calendar.Date

namespace SchoolFees

namespace Date

open Calendar

variable {date asOf d : Date}

/-- The latest date that is earlier than another one. -/
structure IsDayBefore (date asOf : Date) : Prop where
  earlier : date < asOf
  latest : ∀ d : Date, d < asOf → ¬ date < d

/-! ### The order of dates -/

theorem lt_iff {a b : Date} :
    a < b ↔ a.year < b.year ∨
      a.year = b.year ∧ (a.month < b.month ∨ a.month = b.month ∧ a.day < b.day) := by
  show compare a b = .lt ↔ _
  unfold compare
  simp only [Ordering.then_eq_lt, Int.compare_eq_lt, Int.compare_eq_eq, Nat.compare_eq_lt,
    Nat.compare_eq_eq]

theorem eq_of_not_lt {a b : Date} (h : ¬ a < b) (h' : ¬ b < a) : a = b := by
  rw [lt_iff] at h h'
  obtain ⟨year, month, day, _⟩ := a
  obtain ⟨year', month', day', _⟩ := b
  simp only at h h'
  obtain rfl : year = year' := by omega
  obtain rfl : month = month' := by omega
  obtain rfl : day = day' := by omega
  rfl

theorem of?_eq_some_iff {year : Int} {month day : Nat} :
    of? year month day = some d ↔ d.year = year ∧ d.month = month ∧ d.day = day := by
  unfold of?
  by_cases h : HasDay year month day
  · rw [dif_pos h, Option.some.injEq]
    refine ⟨?_, ?_⟩
    · rintro rfl
      exact ⟨rfl, rfl, rfl⟩
    · rintro ⟨rfl, rfl, rfl⟩
      rfl
  · rw [dif_neg h]
    refine ⟨nofun, ?_⟩
    rintro ⟨rfl, rfl, rfl⟩
    exact absurd d.exists_day h

theorem one_le_daysIn {year : Int} {month : Nat} : 1 ≤ daysIn year month := by
  unfold daysIn
  split
  · split <;> decide
  · split <;> decide

theorem exists_of? {year : Int} {month day : Nat} (h : HasDay year month day) :
    ∃ d, of? year month day = some d := ⟨_, dif_pos h⟩

/-! ### Going back a day -/

theorem isDayBefore_of_previous? (h : asOf.previous? = some date) : date.IsDayBefore asOf := by
  unfold previous? at h
  obtain ⟨_, ⟨month, _⟩, day, _⟩ := asOf.exists_day
  by_cases sameMonth : 1 < asOf.day
  · rw [if_pos sameMonth] at h
    obtain ⟨hyear, hmonth, hday⟩ := of?_eq_some_iff.mp h
    refine ⟨lt_iff.mpr (by omega), ?_⟩
    intro d earlier later
    rw [lt_iff] at earlier later
    omega
  · rw [if_neg sameMonth] at h
    by_cases sameYear : 1 < asOf.month
    · rw [if_pos sameYear] at h
      obtain ⟨hyear, hmonth, hday⟩ := of?_eq_some_iff.mp h
      refine ⟨lt_iff.mpr (by omega), ?_⟩
      intro d earlier later
      rw [lt_iff] at earlier later
      -- A date between the two would come after the last day of its month.
      obtain ⟨_, _, first, last⟩ := d.exists_day
      have inMonth : d.year = asOf.year ∧ d.month = asOf.month - 1 := by omega
      rw [inMonth.1, inMonth.2] at last
      omega
    · rw [if_neg sameYear] at h
      obtain ⟨hyear, hmonth, hday⟩ := of?_eq_some_iff.mp h
      refine ⟨lt_iff.mpr (by omega), ?_⟩
      intro d earlier later
      rw [lt_iff] at earlier later
      obtain ⟨_, ⟨firstMonth, lastMonth⟩, first, last⟩ := d.exists_day
      have inMonth : d.year = asOf.year - 1 ∧ d.month = 12 := by omega
      rw [inMonth.1, inMonth.2] at last
      have december : daysIn (asOf.year - 1) 12 = 31 := rfl
      omega

/-- An earlier date leaves room for the day before. -/
theorem exists_previous?_of_lt (earlier : d < asOf) : ∃ date, asOf.previous? = some date := by
  rw [lt_iff] at earlier
  obtain ⟨⟨first, _⟩, ⟨month, _⟩, day, _⟩ := d.exists_day
  obtain ⟨⟨_, final⟩, ⟨month', inYear⟩, day', inMonth⟩ := asOf.exists_day
  unfold previous?
  by_cases sameMonth : 1 < asOf.day
  · rw [if_pos sameMonth]
    exact exists_of? ⟨⟨by omega, final⟩, ⟨month', inYear⟩, by omega, by omega⟩
  · rw [if_neg sameMonth]
    by_cases sameYear : 1 < asOf.month
    · rw [if_pos sameYear]
      refine exists_of? ⟨⟨by omega, final⟩, ⟨by omega, by omega⟩, one_le_daysIn, Nat.le_refl _⟩
    · rw [if_neg sameYear]
      exact exists_of? ⟨⟨by omega, by omega⟩, by decide, by decide, Nat.le_refl _⟩

/-- **The day before is the latest earlier date.** -/
theorem previous?_eq_some_iff : asOf.previous? = some date ↔ date.IsDayBefore asOf := by
  refine ⟨isDayBefore_of_previous?, ?_⟩
  intro h
  obtain ⟨found, hfound⟩ := exists_previous?_of_lt h.earlier
  have isBefore := isDayBefore_of_previous? hfound
  rw [hfound, eq_of_not_lt (isBefore.latest date h.earlier) (h.latest found isBefore.earlier)]

/-- **Only the first date has no day before.** -/
theorem previous?_eq_none_iff : asOf.previous? = none ↔ ∀ d : Date, ¬ d < asOf := by
  refine ⟨?_, ?_⟩
  · intro h d earlier
    obtain ⟨date, hdate⟩ := exists_previous?_of_lt earlier
    rw [h] at hdate
    cases hdate
  · intro h
    cases hdate : asOf.previous? with
    | none => rfl
    | some date => exact absurd (isDayBefore_of_previous? hdate).earlier (h date)

end Date

end SchoolFees
