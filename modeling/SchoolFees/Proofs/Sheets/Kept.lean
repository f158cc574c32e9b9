/-
Charges that stay on a sheet.

A manager writes back a whole sheet that it read before.  What is on the sheet is on it
again afterwards, but for the one charge that a change replaces or takes off: adding
writes behind the entries that are there, and an update or a deletion works at the place
of its own key.
-/
import SchoolFees.Proofs.Pricing.CatalogKeys
import SchoolFees.Proofs.Sheets.Locality
import SchoolFees.Proofs.Spelling

namespace SchoolFees

/-- The change replaces or takes off what stands under this key. -/
def SheetChange.Displaces (key : ChargeKey) : SheetChange → Prop
  | .updateCharge entry => entry.key.Respelled key
  | .deleteCharge key' => key'.Respelled key
  | _ => False

/-- The owner's sheet has this entry. -/
def SheetStore.Has (s : SheetStore) (owner : Owner) (entry : Entry) : Prop :=
  ∃ c, s.sheets.get? owner = some c ∧ entry ∈ c.entries

/-- What a scan finds under another key is another entry. -/
theorem Catalog.mem_of_split {before after entries : List Entry} {found entry : Entry}
    {key : ChargeKey} (parts : entries = before ++ found :: after) (here : entry ∈ entries)
    (same : found.key.same key = true) (other : ¬ key.Respelled entry.key) :
    entry ∈ before ∨ entry ∈ after := by
  rw [parts, List.mem_append, List.mem_cons] at here
  rcases here with inFront | rfl | behind
  · exact .inl inFront
  · exact absurd (ChargeKey.folded_eq_iff.mp (ChargeKey.same_iff.mp same).symm) other
  · exact .inr behind

theorem SheetChange.mem_of_revise {accepts : Validator} {owner : Owner} {change : SheetChange}
    {c revised : Catalog} {answer : ChangeAnswer} {entry : Entry}
    (h : change.revise accepts owner (some c) = .ok ⟨answer, some revised⟩)
    (here : entry ∈ c.entries) (kept : ¬ change.Displaces entry.key) : entry ∈ revised.entries := by
  cases change with
  | ensureDefaults => cases h
  | addCharge added =>
    obtain ⟨c₁, hadd, h⟩ := Outcome.bind_eq_ok.mp h
    cases h
    obtain ⟨-, -, rfl⟩ := Catalog.add_eq_ok_iff.mp hadd
    exact List.mem_append_left _ here
  | updateCharge updated =>
    obtain ⟨c₁, hupdate, h⟩ := Outcome.bind_eq_ok.mp h
    cases h
    obtain ⟨-, hfound, rfl⟩ := Catalog.update_eq_ok_iff.mp hupdate
    obtain ⟨found, hfound⟩ := Option.ne_none_iff_exists'.mp hfound
    obtain ⟨before, after, parts, same, others⟩ := Catalog.split_of_find? hfound
    have stays := Catalog.mem_of_split parts here same kept
    show entry ∈ Catalog.replaceTiers updated.key updated.tiers c.entries
    rw [parts, Catalog.replaceTiers_of_split others same, List.mem_append, List.mem_cons]
    exact stays.imp_right .inr
  | deleteCharge key =>
    obtain ⟨⟨removed, c₁⟩, hdelete, h⟩ := Outcome.bind_eq_ok.mp h
    cases h
    obtain ⟨hfound, rfl⟩ := Catalog.delete_eq_ok_iff.mp hdelete
    have hfound : c.find? key = some removed := hfound
    obtain ⟨before, after, parts, same, others⟩ := Catalog.split_of_find? hfound
    have stays := Catalog.mem_of_split parts here same kept
    show entry ∈ c.entries.eraseP (·.key.same key)
    rw [parts, Catalog.eraseP_of_split others same, List.mem_append]
    exact stays

namespace SheetStore

variable {s : SheetStore} {accepts : Validator} {owner other : Owner} {change : SheetChange}
  {entry : Entry}

/-- A charge that was added is on the sheet. -/
theorem has_of_added {answer : ChangeAnswer} (adds : change = .addCharge entry)
    (h : (s.tryCall (.changeSheet accepts owner change)).1 = .ok answer) :
    (s.tryCall (.changeSheet accepts owner change)).2.Has owner entry := by
  unfold tryCall at h ⊢
  cases called : s.call (.changeSheet accepts owner change) with
  | error e =>
    rw [called] at h
    cases h
  | ok ended =>
    obtain ⟨answer', s'⟩ := ended
    obtain ⟨pending, hprepare, hcommit⟩ := Outcome.bind_eq_ok.mp called
    obtain ⟨_, hcommit, last⟩ := Outcome.bind_eq_ok.mp hcommit
    cases last
    obtain ⟨-, -, hprepare⟩ := Outcome.bind_eq_ok.mp hprepare
    obtain ⟨sheet, -, hprepare⟩ := Outcome.bind_eq_ok.mp hprepare
    obtain ⟨revision, hrevise, last⟩ := Outcome.bind_eq_ok.mp hprepare
    cases last
    rw [adds] at hrevise
    obtain ⟨revised, hadd, last⟩ := Outcome.bind_eq_ok.mp hrevise
    cases last
    obtain ⟨-, -, rfl⟩ := Catalog.add_eq_ok_iff.mp hadd
    exact ⟨_, get?_of_write hcommit, List.mem_append_right _ (List.mem_singleton_self entry)⟩

/-- A charge stays on a sheet until another change replaces it or takes it off. -/
theorem Has.changeSheet (has : s.Has owner entry)
    (kept : other = owner → change.Displaces entry.key →
      ∃ e, (s.tryCall (.changeSheet accepts other change)).1 = .error e) :
    (s.tryCall (.changeSheet accepts other change)).2.Has owner entry := by
  obtain ⟨c, hsheet, here⟩ := has
  by_cases own : other = owner
  · subst own
    rcases tryCall_store s (.changeSheet accepts other change) with
      same | ⟨sheet, answer, revised, hread, hrevise, hwrite⟩
    · rw [same]
      exact ⟨c, hsheet, here⟩
    · by_cases displaces : change.Displaces entry.key
      · obtain ⟨e, failed⟩ := kept rfl displaces
        rw [tryCall_of_error failed]
        exact ⟨c, hsheet, here⟩
      · have read : sheet = some c := by
          unfold read at hread
          split at hread
          · cases hread
          · exact (Except.ok.inj hread).symm.trans hsheet
        subst read
        exact ⟨revised, get?_of_write hwrite, SheetChange.mem_of_revise hrevise here displaces⟩
  · have ne : owner ≠ (ManagerCall.changeSheet accepts other change).owner := Ne.symm own
    have agree := agreesAt_tryCall s ne
    exact ⟨c, agree.sheet.symm.trans hsheet, here⟩

end SheetStore

end SchoolFees
