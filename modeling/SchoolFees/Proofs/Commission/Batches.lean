/-
Batches of payments, and the payments alone.

A batch asks about its payments side by side and hands the answers over in the order of
the requests.  What a payment is answered depends on the sheets and on the backend and on
nothing that another payment is answered, so a batch is a run of `Fanout.Line` with
`compute` as the question.  All that is proved about such runs holds of batches: wherever
a run stands, the beginning of the answers has been handed over, and at its end all of
them have, whatever order the payments landed in and however many were worked on at once.
-/
import SchoolFees.Commission.Batch
import SchoolFees.Proofs.Commission.Balance
import SchoolFees.Proofs.Fanout.Ordered

namespace SchoolFees

namespace Cascade

variable {c : Cascade} {requests : List CommissionRequest} {order : List Nat}

/-- The payments of a batch with these answers under way: some have started, some of those have
landed, and some of the answers have been handed over. -/
def BatchRun (c : Cascade) (requests : List CommissionRequest) :
    Fanout.Line (Except FeeError Commission) → Prop :=
  Fanout.Line.Reached c.config.maxConcurrency c.compute requests

/-- One event of a batch. -/
def BatchStep (c : Cascade) (requests : List CommissionRequest) :
    Fanout.Line (Except FeeError Commission) → Fanout.Line (Except FeeError Commission) → Prop :=
  Fanout.Line.Step c.config.maxConcurrency c.compute requests

/-- A batch whose payments have landed in any complete order answers each of them. -/
theorem computeBatch_of_complete (complete : order.Perm (List.range requests.length)) :
    c.computeBatch requests order = requests.map c.compute :=
  Fanout.inInputOrder_gather (by rwa [List.length_map])

theorem computeBatch_of_feasible {width : Nat}
    (feasible : Fanout.Feasible width requests.length order)
    (whole : order.length = requests.length) :
    c.computeBatch requests order = requests.map c.compute :=
  computeBatch_of_complete (Fanout.perm_range_of_feasible feasible whole)

/--
**A batch answers each request as if it were alone.**  However the payments of a batch
land, no more of them are under way than the bound allows, what has been handed over is
where the answers to the requests begin, and the run can be brought to an end; at its end
there is one answer for each request, in the order of the requests, and it is the one that
`compute` gives.  What the other requests of a batch are, how long they take and whether
they fail makes no difference to the answer at a position.
-/
theorem computeBatch_answers_each (c : Cascade) (room : c.config.maxConcurrency ≠ 0)
    (requests : List CommissionRequest) :
    (∀ l, c.BatchRun requests l →
      l.underWay ≤ c.config.maxConcurrency ∧
        l.handed <+: requests.map c.compute ∧
        (∃ l', Relation.ReflTransGen (c.BatchStep requests) l l' ∧ l'.Ended requests.length) ∧
        (l.Ended requests.length →
          l.handed = requests.map c.compute ∧ l.handed = c.computeBatch requests l.order)) ∧
      (∀ order, Fanout.Feasible c.config.maxConcurrency requests.length order →
        order.length = requests.length →
        c.computeBatch requests order = requests.map c.compute) ∧
      ∀ (width : Nat) (others : List CommissionRequest) (order order' : List Nat),
        Fanout.Feasible c.config.maxConcurrency requests.length order →
        order.length = requests.length →
        Fanout.Feasible width others.length order' → order'.length = others.length →
        ∀ i : Nat, others[i]? = requests[i]? →
          (c.computeBatch others order')[i]? = (c.computeBatch requests order)[i]? := by
  refine ⟨?_, ?_, ?_⟩
  · intro l run
    have sound := Fanout.Line.Reached.sound run
    refine ⟨sound.underWay_le, sound.handed, sound.exists_ended room, ?_⟩
    intro ended
    have whole := sound.handed_of_ended ended
    refine ⟨whole, ?_⟩
    rw [whole, computeBatch_of_feasible sound.feasible (sound.length_order_of_ended ended)]
  · intro order feasible whole
    exact computeBatch_of_feasible feasible whole
  · intro width others order order' feasible whole feasible' whole' i same
    rw [computeBatch_of_feasible feasible whole, computeBatch_of_feasible feasible' whole',
      List.getElem?_map, List.getElem?_map, same]

/-- The same prices as `mixedRates`, with room for two payments at once. -/
def roomForTwo : Cascade :=
  { mixedRates with config := { mixedRates.config with maxConcurrency := 2 } }

/-- Of three requests the second fails and lands first; the others are repeats of one another, and
have the same commission. -/
theorem computeBatch_answers_each_roomForTwo :
    roomForTwo.config.maxConcurrency ≠ 0 ∧ ∃ commission,
      roomForTwo.compute ⟨⟨"s1", "t1"⟩, "x1", ⟨"UPI", "Corporate"⟩⟩ = .ok commission ∧
      roomForTwo.computeBatch [⟨⟨"s1", "t1"⟩, "x1", ⟨"UPI", "Corporate"⟩⟩,
          ⟨⟨"s1", "t1"⟩, "x2", ⟨"UPI", "Corporate"⟩⟩, ⟨⟨"s1", "t1"⟩, "x1", ⟨"UPI", "Corporate"⟩⟩]
        [1, 2, 0] = [.ok commission, .error (.amountUnavailable "x2"), .ok commission] := by
  have room : roomForTwo.config.maxConcurrency ≠ 0 := by decide
  have computed : (roomForTwo.compute
      ⟨⟨"s1", "t1"⟩, "x1", ⟨"UPI", "Corporate"⟩⟩).toOption.isSome = true := by decide +kernel
  obtain ⟨commission, computed⟩ := Option.isSome_iff_exists.mp computed
  have computed := Outcome.toOption_eq_some_iff.mp computed
  obtain ⟨-, answers, -⟩ := computeBatch_answers_each roomForTwo room
    [⟨⟨"s1", "t1"⟩, "x1", ⟨"UPI", "Corporate"⟩⟩, ⟨⟨"s1", "t1"⟩, "x2", ⟨"UPI", "Corporate"⟩⟩,
      ⟨⟨"s1", "t1"⟩, "x1", ⟨"UPI", "Corporate"⟩⟩]
  refine ⟨room, commission, computed, ?_⟩
  rw [answers [1, 2, 0] (by decide) rfl, List.map_cons, List.map_cons, List.map_cons, computed]
  rfl

end Cascade

end SchoolFees
