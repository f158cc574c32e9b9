/-
Catalogs built from lists.

A list of entries becomes a catalog entry by entry.  An entry is at fault when the validator
does not take it, or when it does and an entry in front of it has the same key; what stands
behind it has no part in that (`faultAt_append`).  Adding an entry to a catalog fails for
exactly its fault behind the entries that are there.  So the building stops at the first
fault of the list and reports it, and a list without fault is taken over as it is
(`addAll_cases`): the list is taken apart from its end, since each entry is judged by those
in front of it.

A list is without fault when each entry is accepted on its own and the keys are pairwise
different (`faultless_iff`).
-/
import Mathlib.Data.List.Induction
import SchoolFees.Proofs.Pricing.CatalogKeys

namespace SchoolFees

namespace Catalog

variable {accepts : Validator} {entries before after : List Entry} {entry : Entry} {i j : Nat}
  {reason reason' : FeeError}

/-! ### Faults -/

/-- What is wrong with an entry behind these. -/
inductive Fault (accepts : Validator) (earlier : List Entry) (entry : Entry) : FeeError → Prop
  /-- The validator does not take it, whether its key is new or not. -/
  | rejected {reason : FeeError} (rejected : accepts entry = .error reason) :
      Fault accepts earlier entry reason
  /-- An earlier entry has its key, up to the case of ASCII letters. -/
  | repeated {other : Entry} (accepted : accepts entry = .ok ()) (mem : other ∈ earlier)
      (same : other.key.folded = entry.key.folded) :
      Fault accepts earlier entry (.duplicateCharge entry.key)

theorem Fault.unique (h : Fault accepts before entry reason)
    (h' : Fault accepts before entry reason') : reason = reason' := by
  cases h with
  | rejected rejected =>
    cases h' with
    | rejected rejected' => exact Except.error.inj (rejected.symm.trans rejected')
    | repeated accepted => cases accepted.symm.trans rejected
  | repeated accepted =>
    cases h' with
    | rejected rejected => cases accepted.symm.trans rejected
    | repeated => rfl

/-- The entry at this place is at fault, for this reason. -/
def FaultAt (accepts : Validator) (entries : List Entry) (i : Nat) (reason : FeeError) : Prop :=
  ∃ entry, entries[i]? = some entry ∧ Fault accepts (entries.take i) entry reason

/-- The first place at which an entry is at fault, and its reason. -/
structure FirstFault (accepts : Validator) (entries : List Entry) (i : Nat) (reason : FeeError) :
    Prop where
  fault : FaultAt accepts entries i reason
  first : ∀ j < i, ∀ other, ¬ FaultAt accepts entries j other

theorem FaultAt.lt_length (h : FaultAt accepts entries i reason) : i < entries.length := by
  obtain ⟨entry, found, -⟩ := h
  exact (List.getElem?_eq_some_iff.mp found).1

/-- Whether an entry is at fault does not depend on those behind it. -/
theorem faultAt_append (h : i < before.length) :
    FaultAt accepts (before ++ after) i reason ↔ FaultAt accepts before i reason := by
  unfold FaultAt
  rw [List.getElem?_append_left h, List.take_append_of_le_length (Nat.le_of_lt h)]

theorem faultAt_take {n : Nat} (h : i < n) :
    FaultAt accepts (entries.take n) i reason ↔ FaultAt accepts entries i reason := by
  unfold FaultAt
  rw [List.getElem?_take_of_lt h, List.take_take, Nat.min_eq_left (Nat.le_of_lt h)]

theorem faultAt_length :
    FaultAt accepts (before ++ entry :: after) before.length reason ↔
      Fault accepts before entry reason := by
  simp [FaultAt]

theorem FirstFault.append (h : FirstFault accepts before i reason) (after : List Entry) :
    FirstFault accepts (before ++ after) i reason := by
  have inside := h.fault.lt_length
  refine ⟨(faultAt_append inside).mpr h.fault, ?_⟩
  intro j hj other
  rw [faultAt_append (Nat.lt_trans hj inside)]
  exact h.first j hj other

/-- The entries behind the first fault may be others. -/
theorem FirstFault.replaced (h : FirstFault accepts entries i reason) (after : List Entry) :
    FirstFault accepts (entries.take (i + 1) ++ after) i reason := by
  refine FirstFault.append ⟨(faultAt_take (Nat.lt_succ_self i)).mpr h.fault, ?_⟩ after
  intro j hj other
  rw [faultAt_take (Nat.lt_succ_of_lt hj)]
  exact h.first j hj other

theorem FirstFault.unique (h : FirstFault accepts entries i reason)
    (h' : FirstFault accepts entries j reason') : reason = reason' := by
  rcases Nat.lt_trichotomy i j with earlier | rfl | later
  · exact absurd h.fault (h'.first i earlier reason)
  · obtain ⟨entry, found, fault⟩ := h.fault
    obtain ⟨entry', found', fault'⟩ := h'.fault
    cases found.symm.trans found'
    exact fault.unique fault'
  · exact absurd h'.fault (h.first j later reason')

/-- Every entry is accepted, and the keys are pairwise different up to the case of ASCII letters. -/
structure Faultless (accepts : Validator) (entries : List Entry) : Prop where
  accepted : ∀ e ∈ entries, accepts e = .ok ()
  distinct : entries.Pairwise fun a b => a.key.folded ≠ b.key.folded

theorem faultless_iff :
    Faultless accepts entries ↔ ∀ i reason, ¬ FaultAt accepts entries i reason := by
  refine ⟨?_, ?_⟩
  · intro h i reason fault
    obtain ⟨entry, found, fault⟩ := fault
    cases fault with
    | rejected rejected =>
      cases (h.accepted entry (List.mem_of_getElem? found)).symm.trans rejected
    | @repeated other accepted mem same =>
      obtain ⟨inside, rfl⟩ := List.getElem?_eq_some_iff.mp found
      obtain ⟨j, hj, rfl⟩ := List.mem_take_iff_getElem.mp mem
      have earlier : j < i := by omega
      exact List.pairwise_iff_getElem.mp h.distinct j i _ inside earlier same
  · intro h
    have accepted : ∀ i (inside : i < entries.length), accepts entries[i] = .ok () := by
      intro i inside
      cases checked : accepts entries[i] with
      | ok _ => rfl
      | error reason =>
        exact absurd ⟨_, List.getElem?_eq_getElem inside, .rejected checked⟩ (h i reason)
    refine ⟨?_, List.pairwise_iff_getElem.mpr ?_⟩
    · intro e he
      obtain ⟨i, inside, rfl⟩ := List.mem_iff_getElem.mp he
      exact accepted i inside
    · intro i j hi hj earlier same
      have mem : entries[i] ∈ entries.take j :=
        List.mem_take_iff_getElem.mpr ⟨i, by omega, rfl⟩
      exact h j _ ⟨_, List.getElem?_eq_getElem hj, .repeated (accepted j hj) mem same⟩

/-! ### Building -/

/-- Adding an entry fails for its fault behind the entries that are there. -/
theorem add_eq_error_iff_fault {c : Catalog} :
    c.add accepts entry = .error reason ↔ Fault accepts c.entries entry reason := by
  rw [add_eq_error_iff, ne_eq, find?_eq_none_iff, not_not]
  refine ⟨?_, ?_⟩
  · intro h
    rcases h with rejected | ⟨accepted, taken, rfl⟩
    · exact .rejected rejected
    · obtain ⟨other, mem, same⟩ := List.mem_map.mp taken
      exact .repeated accepted mem same
  · intro h
    cases h with
    | rejected rejected => exact .inl rejected
    | repeated accepted mem same => exact .inr ⟨accepted, List.mem_map.mpr ⟨_, mem, same⟩, rfl⟩

/-- **Building takes a list over that is without fault, and else reports the first one.** -/
theorem addAll_cases (accepts : Validator) (entries : List Entry) :
    (Faultless accepts entries ∧ empty.addAll accepts entries = .ok ⟨entries⟩) ∨
      ∃ i reason, FirstFault accepts entries i reason ∧
        empty.addAll accepts entries = .error reason := by
  induction entries using List.reverseRecOn with
  | nil => exact .inl ⟨⟨nofun, .nil⟩, rfl⟩
  | append_singleton before entry ih =>
    have step : empty.addAll accepts (before ++ [entry]) =
        (empty.addAll accepts before >>= fun c => c.add accepts entry) := by
      unfold addAll
      rw [List.foldlM_append]
      simp only [List.foldlM_cons, List.foldlM_nil, bind_pure]
    rcases ih with ⟨faultless, built⟩ | ⟨i, reason, fault, failed⟩
    · rw [step, built]
      -- Nothing is wrong so far, and so the new entry is the first that can be at fault.
      have sound := faultless_iff.mp faultless
      show (_ ∧ add ⟨before⟩ accepts entry = _) ∨ ∃ i reason, _ ∧ add ⟨before⟩ accepts entry = _
      cases added : add ⟨before⟩ accepts entry with
      | error reason =>
        refine .inr ⟨before.length, reason, ⟨faultAt_length.mpr ?_, ?_⟩, rfl⟩
        · exact add_eq_error_iff_fault.mp added
        · intro j inside other fault
          exact sound j other ((faultAt_append inside).mp fault)
      | ok c =>
        obtain ⟨-, -, rfl⟩ := add_eq_ok_iff.mp added
        refine .inl ⟨faultless_iff.mpr ?_, rfl⟩
        intro i reason fault
        have inside := fault.lt_length
        rw [List.length_append, List.length_singleton] at inside
        rcases Nat.lt_succ_iff_lt_or_eq.mp inside with earlier | rfl
        · exact sound i reason ((faultAt_append earlier).mp fault)
        · cases added.symm.trans (add_eq_error_iff_fault.mpr (faultAt_length.mp fault))
    · refine .inr ⟨i, reason, fault.append [entry], ?_⟩
      rw [step, failed]
      rfl

/--
**A list of entries becomes a catalog when every entry passes the standard check and the keys
are pairwise different**, and then the catalog is the list.  Otherwise the first entry is
reported that does not pass or, if it does, has the key of an earlier one, and no later entry
makes a difference.
-/
theorem ofEntries_reports_first_fault (entries : List Entry) :
    (∀ c, ofEntries entries = .ok c ↔ Faultless .standard entries ∧ c.entries = entries) ∧
      (∀ reason, ofEntries entries = .error reason ↔
        ∃ i, FirstFault .standard entries i reason) ∧
      ∀ i reason, FirstFault .standard entries i reason →
        ∀ after, ofEntries (entries.take (i + 1) ++ after) = .error reason := by
  have reported : ∀ {entries : List Entry} {i : Nat} {reason : FeeError},
      FirstFault .standard entries i reason → ofEntries entries = .error reason := by
    intro entries i reason fault
    rcases addAll_cases .standard entries with ⟨faultless, -⟩ | ⟨_, reason', fault', failed⟩
    · exact absurd fault.fault (faultless_iff.mp faultless i reason)
    · rw [fault.unique fault']
      exact failed
  refine ⟨?_, ?_, fun i reason fault after => reported (fault.replaced after)⟩
  · intro c
    rcases addAll_cases .standard entries with ⟨faultless, built⟩ | ⟨i, reason, fault, failed⟩
    · rw [ofEntries, built, Except.ok.injEq, and_iff_right faultless]
      obtain ⟨listed⟩ := c
      rw [Catalog.mk.injEq, eq_comm]
    · rw [ofEntries, failed]
      refine ⟨nofun, ?_⟩
      intro h
      exact absurd fault.fault (faultless_iff.mp h.1 i reason)
  · intro reason
    refine ⟨?_, fun ⟨i, fault⟩ => reported fault⟩
    intro refused
    rcases addAll_cases .standard entries with ⟨-, built⟩ | ⟨i, reason', fault, failed⟩
    · cases refused.symm.trans built
    · cases refused.symm.trans failed
      exact ⟨i, fault⟩

/-- Charges for one key, and none for another spelling of it. -/
def untieredRespelling : List Entry := [.zeroRated ⟨"UPI", "Card"⟩, ⟨⟨"upi", "CARD"⟩, []⟩]

/-- The second entry is reported for its tiers, though its key is taken too, whatever follows. -/
theorem ofEntries_reports_first_fault_untiered :
    FirstFault .standard untieredRespelling 1 (.validation .emptyTable) ∧
      ∀ after, ofEntries (untieredRespelling ++ after) = .error (.validation .emptyTable) := by
  have fault : FirstFault .standard untieredRespelling 1 (.validation .emptyTable) := by
    refine ⟨⟨_, rfl, .rejected (by decide +kernel)⟩, ?_⟩
    intro j hj other earlier
    obtain rfl : j = 0 := by omega
    obtain ⟨entry, found, fault⟩ := earlier
    cases found
    cases fault with
    | rejected rejected =>
      have passes : Validator.standard (.zeroRated ⟨"UPI", "Card"⟩) = .ok () := by decide +kernel
      cases passes.symm.trans rejected
    | repeated _ mem => cases mem
  exact ⟨fault, (ofEntries_reports_first_fault untieredRespelling).2.2 1 _ fault⟩

end Catalog

end SchoolFees
