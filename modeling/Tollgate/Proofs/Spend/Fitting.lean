import Mathlib.Algebra.Order.BigOperators.Group.List
import Mathlib.Algebra.Order.Ring.Int
import Tollgate.Proofs.Spend.Writes

/-!
Charges of one key within one period. Every charge is recorded, and the total of
them saturates; yet the verdicts are those of the exact sums, so what is allowed
is the longest beginning that fits under the limit.
-/

namespace Tollgate

/-! Sums that fit -/

/-- Amount by amount, whether the sum of all up to it is within the limit. -/
def fits (limit sofar : Int) : List Int → List Bool
  | [] => []
  | amount :: rest =>
      decide (sofar + amount ≤ limit) :: fits limit (sofar + amount) rest

@[simp]
theorem length_fits (limit sofar : Int) (amounts : List Int) :
    (fits limit sofar amounts).length = amounts.length := by
  induction amounts generalizing sofar with
  | nil => rfl
  | cons amount rest ih => simp [fits, ih]

theorem getElem?_fits (limit sofar : Int) {amounts : List Int} {i : Nat}
    (there : i < amounts.length) :
    (fits limit sofar amounts)[i]? =
      some (decide (sofar + (amounts.take (i + 1)).sum ≤ limit)) := by
  induction amounts generalizing sofar i with
  | nil => simp at there
  | cons amount rest ih =>
      cases i with
      | zero => simp [fits]
      | succ i =>
          rw [fits, List.getElem?_cons_succ,
            ih (sofar + amount) (Nat.lt_of_succ_lt_succ there),
            List.take_succ_cons, List.sum_cons, Int.add_assoc]

theorem count_fits_replicate (limit sofar : Int) {each : Int}
    (positive : 0 < each) (n : Nat) :
    (fits limit sofar (List.replicate n each)).count true =
      min n ((limit - sofar) / each).toNat := by
  induction n generalizing sofar with
  | zero => simp [fits]
  | succ n ih =>
      have one : (limit - (sofar + each)) / each =
          (limit - sofar) / each - 1 := by
        have less : limit - (sofar + each) = limit - sofar + -1 * each := by
          omega
        rw [less, Int.add_mul_ediv_right _ _ (Int.ne_of_gt positive)]
        rfl
      have room : sofar + each ≤ limit ↔ 1 ≤ (limit - sofar) / each := by
        rw [Int.le_ediv_iff_mul_le positive]
        omega
      rw [List.replicate_succ, fits, List.count_cons, ih, one]
      by_cases fit : sofar + each ≤ limit
      · have some := room.mp fit
        simp only [fit, decide_true, beq_self_eq_true, if_true]
        omega
      · have none : ¬ 1 ≤ (limit - sofar) / each := fun some =>
          fit (room.mpr some)
        simp only [fit, decide_false, Bool.false_beq, Bool.not_true,
          Bool.false_eq_true, if_false]
        omega

theorem sum_take_le {amounts : List Int}
    (nonneg : ∀ amount ∈ amounts, 0 ≤ amount) {i j : Nat} (before : i ≤ j) :
    (amounts.take i).sum ≤ (amounts.take j).sum := by
  have part : amounts.take i <+: amounts.take j :=
    List.take_prefix_take_left before
  exact part.sublist.sum_le_sum fun amount member =>
    nonneg amount (List.mem_of_mem_take member)

/-- Saturating on the way makes no difference to saturating once. -/
theorem Micros.add_min_greatest {total amount : Int} (first : 0 ≤ total)
    (second : 0 ≤ amount) :
    add (min total greatest) amount =
      min (total + amount) greatest := by
  have top := greatest_nonneg
  rw [add_eq_of_nonneg (by omega) second]
  omega

/-! Charges on one key -/

namespace SpendOp

def amountOn? (key : String) : SpendOp → Option Int
  | .reserve other amount _ _ => if other = key then some amount else none
  | .release .. | .current _ => none

/-- To the key, the operation does nothing but charge it against the limit
before its period is over, or look at it. -/
def OnlyCharges (key : String) (limit : Int) (endsAt now : Nat) :
    SpendOp → Prop
  | .reserve other amount against _ =>
      other = key → against = limit ∧ 0 ≤ amount ∧ now < endsAt
  | .release other _ _ => other ≠ key
  | .current _ => True

/-- After the operation nothing is left of the key's period. -/
def LooksAfter (key : String) (endsAt now : Nat) (op : SpendOp) : Prop :=
  op = .current key ∧ endsAt ≤ now

end SpendOp

def SpendReply.allowed? : SpendReply → Option Bool
  | .charge c => some c.allowed
  | .total _ | .clockOverflow => none

namespace SpendStore

def amountsOn (key : String) (ops : List (Nat × SpendOp)) : List Int :=
  ops.filterMap (·.2.amountOn? key)

/-- Of the charges on the key, which were allowed. -/
def verdictsOn (s : SpendStore) (key : String) (ops : List (Nat × SpendOp)) :
    List Bool :=
  (ops.zip (s.run ops).1).filterMap fun (event, reply) =>
    (event.2.amountOn? key).bind fun _ => reply.allowed?

variable {s : SpendStore} {key : String} {limit sum : Int}
  {now later endsAt : Nat} {op : SpendOp} {ops : List (Nat × SpendOp)}

/-- The key has an entry of the period, and its total is the sum, saturated. -/
def Holds (s : SpendStore) (key : String) (endsAt : Nat) (sum : Int) : Prop :=
  ∃ period,
    s.entries.get? key = some ⟨min sum Micros.greatest, endsAt, period⟩

theorem Holds.live? (holds : s.Holds key endsAt sum) (early : now < endsAt) :
    ∃ period, s.live? now key =
      some ⟨min sum Micros.greatest, endsAt, period⟩ := by
  obtain ⟨period, found⟩ := holds
  exact ⟨period, live?_eq_some.mpr ⟨found, decide_eq_true early⟩⟩

/-- A charge adds its amount to the sum, and is allowed if that is within the
limit; nothing else that may be asked in the period changes it. -/
theorem Holds.perform (holds : s.Holds key endsAt sum) (nonneg : 0 ≤ sum)
    (below : limit < Micros.greatest)
    (only : op.OnlyCharges key limit endsAt now)
    (during : ¬ op.LooksAfter key endsAt now) :
    (s.perform now op).2.Holds key endsAt (sum + (op.amountOn? key).getD 0) ∧
      ∀ amount, op.amountOn? key = some amount → 0 ≤ amount ∧
        (s.perform now op).1.allowed? =
          some (decide (sum + amount ≤ limit)) := by
  have others (different : op.key ≠ key) :
      (s.perform now op).2.Holds key endsAt sum := by
    obtain ⟨period, found⟩ := holds
    exact ⟨period,
      ((Writes.perform s now op).get?_other different).trans found⟩
  cases op with
  | reserve other amount against length =>
      by_cases own : other = key
      · subst own
        obtain ⟨rfl, charged, early⟩ := only rfl
        obtain ⟨period, live⟩ := holds.live? early
        have total := Micros.add_min_greatest nonneg charged
        simp only [SpendStore.perform, reserve_of_live live, total,
          SpendOp.amountOn?, if_true, Option.getD_some]
        refine ⟨⟨period, Assoc.get?_insert_self _ _ _⟩, ?_⟩
        rintro _ ⟨⟩
        refine ⟨charged, ?_⟩
        simp only [SpendReply.ofCharge, SpendReply.allowed?, Option.some.injEq,
          decide_eq_decide]
        omega
      · simp only [SpendOp.amountOn?, own, if_false, Option.getD_none,
          Int.add_zero]
        refine ⟨others own, ?_⟩
        rintro _ ⟨⟩
  | release other amount period =>
      simp only [SpendOp.amountOn?, Option.getD_none, Int.add_zero]
      refine ⟨others only, ?_⟩
      rintro _ ⟨⟩
  | current other =>
      simp only [SpendOp.amountOn?, Option.getD_none, Int.add_zero]
      refine ⟨?_, by rintro _ ⟨⟩⟩
      by_cases own : other = key
      · subst own
        have early : now < endsAt :=
          Nat.not_le.mp fun late => during ⟨rfl, late⟩
        obtain ⟨period, live⟩ := holds.live? early
        simp only [SpendStore.perform, current_of_live live]
        exact ⟨period, (live?_eq_some.mp live).1⟩
      · exact others own

theorem verdictsOn_cons (s : SpendStore) (key : String) (now : Nat)
    (op : SpendOp) (rest : List (Nat × SpendOp)) :
    s.verdictsOn key ((now, op) :: rest) =
      ((op.amountOn? key).bind fun _ => (s.perform now op).1.allowed?).toList ++
        (s.perform now op).2.verdictsOn key rest := by
  simp only [verdictsOn, run_cons, List.zip_cons_cons, List.filterMap_cons]
  split <;> rename_i verdict <;> rw [verdict] <;> rfl

theorem amountsOn_cons (key : String) (now : Nat) (op : SpendOp)
    (rest : List (Nat × SpendOp)) :
    amountsOn key ((now, op) :: rest) =
      (op.amountOn? key).toList ++ amountsOn key rest := by
  simp only [amountsOn, List.filterMap_cons]
  split <;> rename_i amount <;> rw [amount] <;> rfl

theorem verdictsOn_of_uncharged
    (uncharged : ∀ event ∈ ops, event.2.amountOn? key = none) :
    s.verdictsOn key ops = [] := by
  induction ops generalizing s with
  | nil => rfl
  | cons event rest ih =>
      obtain ⟨first, others⟩ := List.forall_mem_cons.mp uncharged
      rw [verdictsOn_cons, first, ih others]
      rfl

/-- The order of the instants does not matter. What ends it is a look at the key
after the period, for then the entry is gone. -/
theorem Holds.run (holds : s.Holds key endsAt sum) (nonneg : 0 ≤ sum)
    (below : limit < Micros.greatest)
    (only : ∀ event ∈ ops, event.2.OnlyCharges key limit endsAt event.1)
    (during : ops.Pairwise fun event next =>
      event.2.LooksAfter key endsAt event.1 → next.2.amountOn? key = none) :
    s.verdictsOn key ops = fits limit sum (amountsOn key ops) ∧
      ∀ amount ∈ amountsOn key ops, 0 ≤ amount := by
  induction ops generalizing s sum with
  | nil => exact ⟨rfl, nofun⟩
  | cons event rest ih =>
      obtain ⟨now, op⟩ := event
      obtain ⟨first, later⟩ := List.forall_mem_cons.mp only
      obtain ⟨after, during⟩ := List.pairwise_cons.mp during
      rw [verdictsOn_cons, amountsOn_cons]
      by_cases past : op.LooksAfter key endsAt now
      · have uncharged := fun event member => after event member past
        have none : amountsOn key rest = [] :=
          List.filterMap_eq_nil_iff.mpr uncharged
        rw [past.1, verdictsOn_of_uncharged uncharged, none]
        exact ⟨rfl, nofun⟩
      · obtain ⟨next, verdict⟩ := holds.perform nonneg below first past
        cases charge : op.amountOn? key with
        | none =>
            simp only [charge, Option.getD_none, Int.add_zero] at next
            exact ih next nonneg later during
        | some amount =>
            obtain ⟨more, allowed⟩ := verdict amount charge
            simp only [charge, Option.getD_some] at next
            obtain ⟨verdicts, others⟩ := ih next (by omega) later during
            simp only [Option.bind_some, allowed, verdicts, Option.toList_some,
              List.singleton_append, fits, List.forall_mem_cons]
            exact ⟨trivial, more, others⟩

/-- A key without a live period is charged, against one limit that a total can
pass, for as long as the period lasts that the first charge starts; nothing is
taken back from it, it is not charged again once it was looked at after the
period, and what is asked of other keys is left open. Every charge is answered,
and allowed exactly if the sum of it and all before it is within the limit. So
what comes after a denied charge is denied, a charge that lands on the limit is
allowed, and of equal charges as many are as fit into the limit. -/
theorem allowed_iff_sum_fits (s : SpendStore) (key : String) {limit first : Int}
    {opening length : Nat} {later : List (Nat × SpendOp)}
    (ended : s.live? opening key = none)
    (holds : opening + length < Clock.limit)
    (below : limit < Micros.greatest) (nonneg : 0 ≤ first)
    (only : ∀ event ∈ later,
      event.2.OnlyCharges key limit (opening + length) event.1)
    (during : later.Pairwise fun event next =>
      event.2.LooksAfter key (opening + length) event.1 →
        next.2.amountOn? key = none) :
    let ops := (opening, .reserve key first limit length) :: later
    let amounts := amountsOn key ops
    let verdicts := s.verdictsOn key ops
    verdicts.length = amounts.length ∧
      (∀ i < amounts.length,
        verdicts[i]? = some (decide ((amounts.take (i + 1)).sum ≤ limit))) ∧
      (∀ i j, i ≤ j → j < amounts.length →
        verdicts[i]? = some false → verdicts[j]? = some false) ∧
      (∀ i < amounts.length, (amounts.take (i + 1)).sum = limit →
        verdicts[i]? = some true) ∧
      ∀ each > 0, (∀ amount ∈ amounts, amount = each) →
        verdicts.count true = min amounts.length (limit / each).toNat := by
  intro ops amounts verdicts
  have opens : Clock.after? opening length = some (opening + length) :=
    if_pos holds
  have started := reserve_of_ended ended opens first limit
  have total : Micros.add 0 first = min first Micros.greatest := by
    rw [Micros.add_eq_of_nonneg (Int.le_refl 0) nonneg, Int.zero_add]
  have begun : (s.perform opening (.reserve key first limit length)).2.Holds
      key (opening + length) first := by
    simp only [SpendStore.perform, started, total]
    exact ⟨_, Assoc.get?_insert_self _ _ _⟩
  have answer : (s.perform opening (.reserve key first limit length)).1.allowed?
      = some (decide (first ≤ limit)) := by
    simp only [SpendStore.perform, started, total, SpendReply.ofCharge,
      SpendReply.allowed?, Option.some.injEq, decide_eq_decide]
    omega
  obtain ⟨others, charged⟩ := begun.run nonneg below only during
  have charges : amounts = first :: amountsOn key later := by
    simp [amounts, ops, amountsOn_cons, SpendOp.amountOn?]
  have nonneg : ∀ amount ∈ amounts, 0 ≤ amount := by
    rw [charges]
    exact List.forall_mem_cons.mpr ⟨nonneg, charged⟩
  have exact : verdicts = fits limit 0 amounts := by
    rw [charges, fits, Int.zero_add, ← others]
    simp only [verdicts, ops, verdictsOn_cons, answer, SpendOp.amountOn?,
      if_true, Option.bind_some, Option.toList_some, List.singleton_append]
  have verdict : ∀ i < amounts.length, verdicts[i]? =
      some (decide ((amounts.take (i + 1)).sum ≤ limit)) := by
    intro i there
    rw [exact, getElem?_fits limit 0 there, Int.zero_add]
  refine ⟨?_, verdict, ?_, ?_, ?_⟩
  · rw [exact, length_fits]
  · intro i j before there denied
    have more := sum_take_le nonneg (Nat.add_le_add_right before 1)
    rw [verdict i (Nat.lt_of_le_of_lt before there), Option.some.injEq,
      decide_eq_false_iff_not] at denied
    rw [verdict j there, Option.some.injEq, decide_eq_false_iff_not]
    omega
  · intro i there lands
    rw [verdict i there, lands, decide_eq_true (Int.le_refl limit)]
  · intro each positive same
    have equal : amounts = List.replicate amounts.length each :=
      List.eq_replicate_of_mem same
    rw [exact, equal, count_fits_replicate limit 0 positive, Int.sub_zero,
      List.length_replicate]

/-- An ended period is left of the key. Two charges land on the limit, two more
saturate the total, and after them nothing is allowed, not even a charge of
nothing; the instants do not come in order, another key is charged and looked at
meanwhile, and at the end the key is looked at after its period. -/
theorem allowed_iff_sum_fits_saturated :
    let s := (run {} [(0, .reserve "a" 5 50 10)]).2
    let later : List (Nat × SpendOp) := [
      (61, .reserve "b" 7 9 0), (70, .current "a"),
      (70, .reserve "a" 30 50 600), (90, .reserve "a" Micros.greatest 50 1),
      (80, .reserve "a" Micros.greatest 50 1), (95, .release "b" 7 none),
      (99, .reserve "a" 0 50 1), (100, .current "a")]
    let ops := (60, .reserve "a" 20 50 40) :: later
    s.live? 60 "a" = none ∧
      (∀ event ∈ later, event.2.OnlyCharges "a" 50 (60 + 40) event.1) ∧
      (later.Pairwise fun event next =>
        event.2.LooksAfter "a" (60 + 40) event.1 →
          next.2.amountOn? "a" = none) ∧
      s.verdictsOn "a" ops = [true, true, false, false, false] ∧
      (s.verdictsOn "a" ops)[4]? =
        some (decide (((amountsOn "a" ops).take 5).sum ≤ 50)) := by
  intro s later ops
  have ended : s.live? 60 "a" = none := by decide +kernel
  have only : ∀ event ∈ later,
      event.2.OnlyCharges "a" 50 (60 + 40) event.1 := by
    simp [later, SpendOp.OnlyCharges, Micros.greatest]
  have during : later.Pairwise fun event next =>
      event.2.LooksAfter "a" (60 + 40) event.1 →
        next.2.amountOn? "a" = none := by
    simp [later, SpendOp.LooksAfter, SpendOp.amountOn?]
  obtain ⟨-, verdict, -, -, -⟩ :=
    allowed_iff_sum_fits s "a" ended (by decide) (by decide)
      (show (0 : Int) ≤ 20 by decide) only during
  exact ⟨ended, only, during, by decide +kernel,
    verdict 4 (by decide +kernel)⟩

end SpendStore

end Tollgate
