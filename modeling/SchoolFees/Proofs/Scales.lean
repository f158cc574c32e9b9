/-
Scales are of no account.

An amount can be written with more zeros or fewer, and nothing that is computed from it
makes anything of that but other zeros.  Two configurations and two sets of collaborators
that agree but for scales are told apart by no table, by no validator of the library, by no
computation of a commission and by no reconciliation.

There is one place where zeros matter.  A percentage with more digits than are kept is cut
off at a digit that depends on how its amount is written, which is why the fees of
percentages are compared only up to that many digits.
-/
import SchoolFees.Proofs.Settlement.Scales

namespace SchoolFees

/--
**Answers depend on what amounts are worth.**  Take two configurations, two states and two
pairs of feeds that differ in the scales of their amounts at most.  Equal tables select the
tier at the same place, and equal entries pass the same validators.  A request has a
commission in both states, from the same sources and with fees and figures that are equal
where no digits are cut off, or in neither, for the same reason in the same layer.  A
reconciliation has equal reports, cancelled or not, and whatever the schedules of the two
are, they compare and skip the same schools.
-/
theorem answers_of_equal_amounts (config config' : Config) (configs : config.Equal config')
    (s s' : PricingState) (states : s.Equal s') (localFeed localFeed' : Feed)
    (locals : localFeed.Equal localFeed') (remoteFeed remoteFeed' : Feed)
    (remotes : remoteFeed.Equal remoteFeed') :
    (∀ (table table' : TierTable) (amount amount' : Decimal),
      List.Forall₂ Tier.Equal table table' → amount ≈ amount' →
        table.selectedAt? amount = table'.selectedAt? amount' ∧
          Outcome.Rel FeeError.Equal Tier.Equal (table.select amount) (table'.select amount')) ∧
      (∀ e e' : Entry, e.Equal e' → ∀ accepts ∈ [Validator.standard, Validator.strict],
        Outcome.Rel FeeError.Equal Eq (accepts e) (accepts e')) ∧
      (∀ request, Outcome.Rel FeeError.Equal Commission.Equal (s.answer config request)
        (s'.answer config' request)) ∧
      (∀ run schools window cancelAt, Outcome.Rel FeeError.Equal ReconciliationReport.Equal
        (Reconciler.create config localFeed remoteFeed >>=
          (·.reconcileUntil run schools window cancelAt))
        (Reconciler.create config' localFeed' remoteFeed' >>=
          (·.reconcileUntil run schools window cancelAt))) ∧
      ∀ r r', Reconciler.create config localFeed remoteFeed = .ok r →
        Reconciler.create config' localFeed' remoteFeed' = .ok r' →
        ∀ run run' schools window report report', r.Possible run schools window report →
          r'.Possible run' schools window report' →
          List.Forall₂ ReconciliationRecord.Equal report.records report'.records ∧
            report.skipped.Perm report'.skipped := by
  refine ⟨?_, ?_, states.answer_rel configs, ?_, ?_⟩
  · intro table table' amount amount' tables amounts
    exact ⟨TierTable.selectedAt?_of_equal tables amounts, TierTable.select_rel tables amounts⟩
  · intro e e' entries
    simp only [List.forall_mem_cons, List.not_mem_nil, false_implies, implies_true, and_true]
    exact ⟨Validator.standard_rel entries, Validator.strict_rel entries⟩
  · exact Reconciler.create_reconcileUntil_rel configs locals remotes
  · intro r r' created created' run run' schools window report report' possible possible'
    obtain ⟨-, rfl⟩ := Reconciler.create_eq_ok.mp created
    obtain ⟨-, rfl⟩ := Reconciler.create_eq_ok.mp created'
    have reconcilers : Reconciler.Equal ⟨config, localFeed, remoteFeed⟩
        ⟨config', localFeed', remoteFeed'⟩ := ⟨configs, locals, remotes⟩
    exact reconcilers.agree_of_possible possible possible'

/-- A configuration with these two amounts. -/
def Config.taxing (gstRate mismatchTolerance : Decimal) : Config :=
  ⟨"pg", gstRate, 2, ⟨1⟩, mismatchTolerance⟩

/-- A sheet that prices every payment on one platform by one charge. -/
def Catalog.charging (kind : ChargeKind) (charge : Decimal) : Catalog :=
  ⟨[⟨⟨"UPI", ChargeKey.others⟩, [⟨none, kind, charge⟩]⟩]⟩

/-- A feed that knows of one school. -/
def Feed.telling (total : Decimal) : Feed := Feed.empty.setTotal "s1" total

theorem Feed.telling_equal {total total' : Decimal} (h : total ≈ total') :
    (telling total).Equal (telling total') :=
  ⟨Registry.set_rel Registry.empty_rel "s1" h, rfl, rfl⟩

namespace PricingState

/-- One charge everywhere, flat at the gateway and for the base rate, in percent for the final one,
and a transaction of that amount. -/
def charging (charge amount : Decimal) : PricingState :=
  ⟨⟨(((∅ : Registry Owner Catalog).set (.gateway "pg") (.charging .flat charge)).set
      (.schoolBase "s1") (.charging .flat charge)).set (.schoolFinal "s1")
      (.charging .percent charge), [], []⟩,
    Payments.empty.setAmount "x1" amount⟩

theorem charging_equal {charge charge' amount amount' : Decimal} (charges : charge ≈ charge')
    (amounts : amount ≈ amount') : (charging charge amount).Equal (charging charge' amount') := by
  have sheet : ∀ kind, (Catalog.charging kind charge).Equal (.charging kind charge') :=
    fun kind => .cons ⟨rfl, .cons ⟨.none, rfl, charges⟩ .nil⟩ .nil
  have gateway := Registry.set_rel Registry.empty_rel (Owner.gateway "pg") (sheet .flat)
  have base := Registry.set_rel gateway (.schoolBase "s1") (sheet .flat)
  have final := Registry.set_rel base (.schoolFinal "s1") (sheet .percent)
  have ordered := Registry.set_rel Registry.empty_rel "x1" amounts
  exact ⟨⟨final, rfl, rfl⟩, ⟨ordered, Registry.empty_rel, rfl, rfl, rfl⟩⟩

/-- A charge of `1.5` on an amount of `2000`, and totals of `10` and `12`, with other zeros the
second time. -/
theorem answers_of_equal_amounts_charging :
    ∃ commission commission' report report',
      (charging ⟨15, 1⟩ 2000).answer (.taxing ⟨18, 2⟩ 2) corporatePayment = .ok commission ∧
      (charging ⟨150, 2⟩ ⟨2, -3⟩).answer (.taxing ⟨180, 3⟩ ⟨20, 1⟩) corporatePayment =
        .ok commission' ∧
      commission.taxed.withTax.total ≈ ⟨3363, 2⟩ ∧ commission'.taxed.withTax.total ≈ ⟨3363, 2⟩ ∧
      (Reconciler.create (.taxing ⟨18, 2⟩ 2) (.telling 10) (.telling 12) >>=
        (·.reconcileUntil ⟨"run-0"⟩ [⟨"s1", "t1"⟩] (.day ⟨2024, 1, 1, by decide⟩) none)) =
          .ok report ∧
      (Reconciler.create (.taxing ⟨180, 3⟩ ⟨20, 1⟩) (.telling ⟨100, 1⟩) (.telling ⟨120, 1⟩) >>=
        (·.reconcileUntil ⟨"run-0"⟩ [⟨"s1", "t1"⟩] (.day ⟨2024, 1, 1, by decide⟩) none)) =
          .ok report' ∧
      report.Equal report' := by
  have configs : (Config.taxing ⟨18, 2⟩ 2).Equal (.taxing ⟨180, 3⟩ ⟨20, 1⟩) :=
    ⟨rfl, by decide, rfl, rfl, by decide⟩
  have states : (charging ⟨15, 1⟩ 2000).Equal (charging ⟨150, 2⟩ ⟨2, -3⟩) :=
    charging_equal (by decide) (by decide)
  have locals : (Feed.telling 10).Equal (.telling ⟨100, 1⟩) := Feed.telling_equal (by decide)
  have remotes : (Feed.telling 12).Equal (.telling ⟨120, 1⟩) := Feed.telling_equal (by decide)
  obtain ⟨-, -, answers, reports, -⟩ :=
    answers_of_equal_amounts _ _ configs _ _ states _ _ locals _ _ remotes
  -- The first commission can be computed, and no fee of it has digits cut off.
  have priced : ((charging ⟨15, 1⟩ 2000).answer (.taxing ⟨18, 2⟩ 2)
      corporatePayment).toOption.any (fun commission =>
        (∀ quote ∈ commission.quotes.toList, quote.tier.ExactOn commission.orderAmount) ∧
          ⟨3363, 2⟩ ≈ commission.taxed.withTax.total) = true := by
    decide +kernel
  obtain ⟨commission, computed, known⟩ := (Option.any_eq_true _ _).mp priced
  have computed := Outcome.toOption_eq_some_iff.mp computed
  obtain ⟨exactOn, total⟩ := of_decide_eq_true known
  obtain ⟨commission', computed', equal⟩ := (answers _).exists_ok computed
  have totals := (equal.figures exactOn).2.2 Figures.total (by simp [Figures.parts])
  -- A configuration that passes its check has a report.
  have valid : (Config.taxing ⟨18, 2⟩ 2).check = .ok () := Config.check_eq_ok.mpr (by decide)
  obtain ⟨report, reconciled, -⟩ := @Reconciler.exists_reconcile
    ⟨.taxing ⟨18, 2⟩ 2, .telling 10, .telling 12⟩ [⟨"s1", "t1"⟩] (by decide) ⟨"run-0"⟩ (by decide)
    (.day ⟨2024, 1, 1, by decide⟩)
  have reported : (Reconciler.create (.taxing ⟨18, 2⟩ 2) (.telling 10) (.telling 12) >>=
      (·.reconcileUntil ⟨"run-0"⟩ [⟨"s1", "t1"⟩] (.day ⟨2024, 1, 1, by decide⟩) none)) =
        .ok report :=
    Outcome.bind_eq_ok.mpr ⟨_, Reconciler.create_eq_ok.mpr ⟨valid, rfl⟩, reconciled⟩
  obtain ⟨report', reported', same⟩ := (reports _ _ _ _).exists_ok reported
  exact ⟨commission, commission', report, report', computed, computed', Decimal.equiv_symm total,
    Decimal.equiv_symm (Decimal.equiv_trans total totals), reported, reported', same⟩

end PricingState

end SchoolFees
