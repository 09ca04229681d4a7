import Mathlib.Logic.Function.Iterate
import ObjectQuery.Proofs.JoinOrder.Placement

/-!
# More sweeps

A barren sweep leaves an order as it is, so stopping at one hides nothing: the order that is found
is the one that as many sweeps find which never stop early. More sweeps therefore only go on where
fewer left off, and after as many sweeps as there are joins none of them finds anything more. What
was placed is placed again by a single sweep, in the same order.
-/

namespace ObjectQuery.JoinOrder

/-- The order after one more sweep, whether or not the sweep places a join. -/
def next (order : JoinOrder) : JoinOrder :=
  sweep order.placed order.waiting

variable {order : JoinOrder} {joins placed waiting : List JoinEntity} {passes : ℕ}

/-- A barren sweep changes nothing: no join has left, so none has been placed. -/
theorem next_eq_self_of_barren (barren : ¬order.next.waiting.length < order.waiting.length) :
    order.next = order := by
  have waiting_eq : order.next.waiting = order.waiting :=
    (sweep_waiting_sublist _ _).eq_of_length_le (Nat.le_of_not_lt barren)
  have total : (order.next.placed ++ order.next.waiting).length =
      (order.placed ++ order.waiting).length := (sweep_perm _ _).length_eq
  have kept : order.placed <+: order.next.placed := prefix_sweep _ _
  have placed_eq : order.placed = order.next.placed := by
    simp only [waiting_eq, List.length_append] at total
    exact kept.eq_of_length (by omega)
  exact congr (congrArg JoinOrder.mk placed_eq.symm) waiting_eq

theorem extend_succ_of_lt (more : order.next.waiting.length < order.waiting.length) :
    order.extend (passes + 1) = order.next.extend passes :=
  if_pos more

theorem extend_succ_of_barren (barren : ¬order.next.waiting.length < order.waiting.length) :
    order.extend (passes + 1) = order :=
  if_neg barren

/-- Stopping at a barren sweep makes no difference. -/
theorem extend_eq_iterate (order : JoinOrder) (passes : ℕ) :
    order.extend passes = next^[passes] order := by
  induction passes generalizing order with
  | zero => rfl
  | succ passes ih =>
      rw [Function.iterate_succ_apply]
      by_cases more : order.next.waiting.length < order.waiting.length
      · rw [extend_succ_of_lt more, ih]
      · have unchanged := next_eq_self_of_barren more
        rw [extend_succ_of_barren more, unchanged, Function.iterate_fixed unchanged]

theorem extend_add (order : JoinOrder) (passes more : ℕ) :
    order.extend (passes + more) = (order.extend passes).extend more := by
  rw [extend_eq_iterate, extend_eq_iterate, extend_eq_iterate, Nat.add_comm,
    Function.iterate_add_apply]

theorem prefix_extend (order : JoinOrder) (passes : ℕ) :
    order.placed <+: (order.extend passes).placed := by
  have step : ∀ later : JoinOrder, order.placed <+: later.placed →
      order.placed <+: (sweep later.placed later.waiting).placed :=
    fun later extended => extended.trans (prefix_sweep later.placed later.waiting)
  exact extend_induction step (List.prefix_refl _) passes

theorem extend_waiting_sublist (order : JoinOrder) (passes : ℕ) :
    (order.extend passes).waiting.Sublist order.waiting := by
  have step : ∀ later : JoinOrder, later.waiting.Sublist order.waiting →
      (sweep later.placed later.waiting).waiting.Sublist order.waiting :=
    fun later remaining => (sweep_waiting_sublist later.placed later.waiting).trans remaining
  exact extend_induction step (List.Sublist.refl _) passes

/-- After as many sweeps as joins were waiting, one more sweep changes nothing. -/
theorem next_extend_eq_self (enough : order.waiting.length ≤ passes) :
    (order.extend passes).next = order.extend passes := by
  induction passes generalizing order with
  | zero =>
      have none_waiting : order.waiting = [] := List.length_eq_zero_iff.mp (by omega)
      apply next_eq_self_of_barren
      simp [extend, none_waiting]
  | succ passes ih =>
      by_cases more : order.next.waiting.length < order.waiting.length
      · rw [extend_succ_of_lt more]
        exact ih (by omega)
      · rw [extend_succ_of_barren more]
        exact next_eq_self_of_barren more

theorem extend_eq_self (settled : order.next = order) (passes : ℕ) :
    order.extend passes = order := by
  rw [extend_eq_iterate, Function.iterate_fixed settled]

/-- Joins that stand behind their parents are placed by one sweep, as they stand. -/
theorem sweep_of_sound (sound : Sound (placed ++ waiting)) :
    sweep placed waiting = { placed := placed ++ waiting } := by
  induction waiting generalizing placed with
  | nil => simp [sweep]
  | cons join rest ih =>
      have ready : join.isReady placed = true := sound placed join rest rfl
      have sound' : Sound (placed ++ [join] ++ rest) := by simpa using sound
      rw [sweep_cons_of_ready ready, ih sound']
      simp

theorem ofJoins_of_sound (sound : Sound joins) (again : 1 ≤ passes) :
    ofJoins joins passes = { placed := joins } := by
  obtain ⟨passes, rfl⟩ := Nat.exists_eq_add_of_le again
  have swept : (ofJoins joins 1) = { placed := joins } := by
    rw [ofJoins, extend_eq_iterate]
    exact sweep_of_sound sound
  rw [ofJoins, extend_add, show extend { waiting := joins } 1 = _ from swept]
  exact extend_eq_self rfl passes

/-- More sweeps only extend the order that is found: what was placed stays in front, and what waits
is some of what waited. From as many sweeps on as there are joins the order is the same, whether or
not the sweeps stop at a barren one. What was placed is found again as it is, by any sweeps. -/
theorem ofJoins_extends_settles_repeats (joins : List JoinEntity) :
    (∀ passes more, passes ≤ more →
      (ofJoins joins passes).placed <+: (ofJoins joins more).placed ∧
        (ofJoins joins more).waiting.Sublist (ofJoins joins passes).waiting) ∧
      (∀ passes, joins.length ≤ passes →
        ofJoins joins passes = ofJoins joins joins.length ∧
          ofJoins joins passes = next^[passes] { waiting := joins }) ∧
      ∀ passes again, 1 ≤ again →
        ofJoins (ofJoins joins passes).placed again =
          { placed := (ofJoins joins passes).placed } := by
  refine ⟨?_, ?_, ?_⟩
  · intro passes more le
    obtain ⟨further, rfl⟩ := Nat.exists_eq_add_of_le le
    rw [ofJoins, ofJoins, extend_add]
    exact ⟨prefix_extend _ further, extend_waiting_sublist _ further⟩
  · intro passes enough
    refine ⟨?_, extend_eq_iterate _ passes⟩
    obtain ⟨further, rfl⟩ := Nat.exists_eq_add_of_le enough
    rw [ofJoins, ofJoins, extend_add]
    exact extend_eq_self (next_extend_eq_self (Nat.le_refl _)) further
  · intro passes again at_least
    exact ofJoins_of_sound (arranges_ofJoins joins passes).sound at_least

/-- Two joins below each other, listed in the wrong order, and one that hangs on a fetch. A single
sweep places the parent, a second one the child, and then nothing changes any more. -/
theorem ofJoins_extends_settles_repeats_of_chain :
    let parent : JoinEntity := { operator := .inner, name := "roles", aliasName := "r" }
    let child : JoinEntity :=
      { operator := .left, name := "groups", parent := parent.toOwner, aliasName := "g" }
    let stray : JoinEntity :=
      { operator := .left, name := "tags", parent := .fetch .leftFetch "notes" .root none
        aliasName := "t" }
    let joins := [child, stray, parent]
    ((1 ≤ 2 ∧ (ofJoins joins 1).placed = [parent] ∧ (ofJoins joins 2).placed = [parent, child]) ∧
      (ofJoins joins 1).placed <+: (ofJoins joins 2).placed ∧
      (ofJoins joins 2).waiting.Sublist (ofJoins joins 1).waiting) ∧
    (joins.length ≤ 5 ∧ ofJoins joins 5 = ofJoins joins 3 ∧
      ofJoins joins 5 = next^[5] { waiting := joins }) ∧
    (1 ≤ 1 ∧ ofJoins (ofJoins joins 2).placed 1 = { placed := [parent, child] }) := by
  intro parent child stray joins
  have placed_eq : (ofJoins joins 2).placed = [parent, child] := by decide
  rcases ofJoins_extends_settles_repeats joins with ⟨more_extends, settles, repeats⟩
  refine ⟨⟨⟨by decide, by decide, placed_eq⟩, more_extends 1 2 (by decide)⟩,
    ⟨by decide, settles 5 (by decide)⟩, Nat.le_refl 1, ?_⟩
  rw [← placed_eq]
  exact repeats 2 1 (Nat.le_refl 1)

end ObjectQuery.JoinOrder
