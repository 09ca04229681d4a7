import ObjectQuery.Proofs.JoinOrder.Placement

/-!
# Occurrences of joins

Equal joins cannot be told apart by what they are, yet one of them may be placed while the other
still waits. Here every join carries the place where it stands in a list. The sweeps take the same
way over numbered joins, so they tell which occurrences are left over, and they take the same way
again once occurrences that they never place are gone.
-/

namespace ObjectQuery.JoinOrder

/-- An order of joins that carry their places in a list. -/
structure Occurrences where
  placed : List (JoinEntity × ℕ) := []
  waiting : List (JoinEntity × ℕ) := []

namespace Occurrences

/-- One sweep over waiting joins, which takes their places along. -/
def sweep (placed : List (JoinEntity × ℕ)) : List (JoinEntity × ℕ) → Occurrences
  | [] => { placed }
  | occurrence :: rest =>
      if occurrence.1.isReady (placed.map Prod.fst) then sweep (placed ++ [occurrence]) rest
      else
        let order := sweep placed rest
        { order with waiting := occurrence :: order.waiting }

/-- Up to `passes` sweeps, as long as each places a join. -/
def extend (order : Occurrences) : (passes : ℕ) → Occurrences
  | 0 => order
  | passes + 1 =>
      let next := sweep order.placed order.waiting
      if next.waiting.length < order.waiting.length then next.extend passes else order

/-- The order that up to `passes` sweeps find for numbered joins. -/
def ofJoins (joins : List (JoinEntity × ℕ)) (passes : ℕ) : Occurrences :=
  extend { waiting := joins } passes

/-- The order of the joins themselves. -/
def toOrder (order : Occurrences) : JoinOrder where
  placed := order.placed.map Prod.fst
  waiting := order.waiting.map Prod.fst

section Sweep

variable {placed waiting : List (JoinEntity × ℕ)} {occurrence : JoinEntity × ℕ}

theorem sweep_cons_of_ready (ready : occurrence.1.isReady (placed.map Prod.fst) = true) :
    sweep placed (occurrence :: waiting) = sweep (placed ++ [occurrence]) waiting :=
  if_pos ready

theorem sweep_cons_of_not_ready (not_ready : ¬occurrence.1.isReady (placed.map Prod.fst) = true) :
    sweep placed (occurrence :: waiting) =
      { placed := (sweep placed waiting).placed
        waiting := occurrence :: (sweep placed waiting).waiting } :=
  if_neg not_ready

/-- A sweep over numbered joins is a sweep over the joins. -/
theorem toOrder_sweep (placed waiting : List (JoinEntity × ℕ)) :
    (sweep placed waiting).toOrder =
      JoinOrder.sweep (placed.map Prod.fst) (waiting.map Prod.fst) := by
  induction waiting generalizing placed with
  | nil => rfl
  | cons occurrence rest ih =>
      by_cases ready : occurrence.1.isReady (placed.map Prod.fst) = true
      · rw [sweep_cons_of_ready ready, List.map_cons, JoinOrder.sweep_cons_of_ready ready, ih]
        simp
      · rw [sweep_cons_of_not_ready ready, List.map_cons, JoinOrder.sweep_cons_of_not_ready ready,
          ← ih]
        rfl

theorem sweep_perm (placed waiting : List (JoinEntity × ℕ)) :
    ((sweep placed waiting).placed ++ (sweep placed waiting).waiting).Perm (placed ++ waiting) := by
  induction waiting generalizing placed with
  | nil => exact List.Perm.refl _
  | cons occurrence rest ih =>
      by_cases ready : occurrence.1.isReady (placed.map Prod.fst) = true
      · rw [sweep_cons_of_ready ready]
        simpa using ih (placed ++ [occurrence])
      · rw [sweep_cons_of_not_ready ready]
        exact List.perm_middle.trans ((ih placed).cons occurrence |>.trans List.perm_middle.symm)

theorem prefix_sweep (placed waiting : List (JoinEntity × ℕ)) :
    placed <+: (sweep placed waiting).placed := by
  induction waiting generalizing placed with
  | nil => exact List.prefix_refl _
  | cons occurrence rest ih =>
      by_cases ready : occurrence.1.isReady (placed.map Prod.fst) = true
      · rw [sweep_cons_of_ready ready]
        exact (List.prefix_append placed [occurrence]).trans (ih _)
      · rw [sweep_cons_of_not_ready ready]
        exact ih placed

/-- What a sweep does not place can be taken out beforehand. -/
theorem sweep_filter {keep : JoinEntity × ℕ → Bool}
    (kept : ∀ occurrence ∈ (sweep placed waiting).placed, keep occurrence = true) :
    sweep placed (waiting.filter keep) =
      { placed := (sweep placed waiting).placed
        waiting := (sweep placed waiting).waiting.filter keep } := by
  induction waiting generalizing placed with
  | nil => rfl
  | cons occurrence rest ih =>
      by_cases ready : occurrence.1.isReady (placed.map Prod.fst) = true
      · rw [sweep_cons_of_ready ready] at kept ⊢
        have occurrence_kept : keep occurrence = true := by
          apply kept
          apply (prefix_sweep (placed ++ [occurrence]) rest).subset
          simp
        rw [List.filter_cons_of_pos occurrence_kept, sweep_cons_of_ready ready]
        exact ih kept
      · rw [sweep_cons_of_not_ready ready] at kept ⊢
        -- It waits behind the sweep as well, so it makes no difference to those after it.
        by_cases occurrence_kept : keep occurrence = true
        · rw [List.filter_cons_of_pos occurrence_kept, sweep_cons_of_not_ready ready, ih kept]
          simp [occurrence_kept]
        · rw [List.filter_cons_of_neg occurrence_kept, ih kept]
          simp [occurrence_kept]

/-- A sweep leaves fewer joins waiting exactly if it places some. -/
theorem length_waiting_lt_iff (placed waiting : List (JoinEntity × ℕ)) :
    (sweep placed waiting).waiting.length < waiting.length ↔
      placed.length < (sweep placed waiting).placed.length := by
  have total := (sweep_perm placed waiting).length_eq
  simp only [List.length_append] at total
  omega

end Sweep

variable {order : Occurrences}

theorem toOrder_extend (order : Occurrences) (passes : ℕ) :
    (order.extend passes).toOrder = order.toOrder.extend passes := by
  induction passes generalizing order with
  | zero => rfl
  | succ passes ih =>
      have swept := toOrder_sweep order.placed order.waiting
      have length_eq (order : Occurrences) :
          order.toOrder.waiting.length = order.waiting.length := List.length_map _
      simp only [extend, JoinOrder.extend]
      rw [show JoinOrder.sweep order.toOrder.placed order.toOrder.waiting = _ from swept.symm,
        length_eq, length_eq]
      split
      · exact ih _
      · rfl

/-- What every sweep keeps is kept by any number of them. -/
theorem extend_induction {motive : Occurrences → Prop}
    (step : ∀ order, motive order → motive (sweep order.placed order.waiting))
    (start : motive order) (passes : ℕ) : motive (order.extend passes) := by
  induction passes generalizing order with
  | zero => exact start
  | succ passes ih =>
      simp only [extend]
      split
      · exact ih (step order start)
      · exact start

theorem extend_perm (order : Occurrences) (passes : ℕ) :
    ((order.extend passes).placed ++ (order.extend passes).waiting).Perm
      (order.placed ++ order.waiting) := by
  have step : ∀ later : Occurrences,
      (later.placed ++ later.waiting).Perm (order.placed ++ order.waiting) →
        ((sweep later.placed later.waiting).placed ++
          (sweep later.placed later.waiting).waiting).Perm (order.placed ++ order.waiting) :=
    fun later arranged => (sweep_perm later.placed later.waiting).trans arranged
  exact extend_induction step (List.Perm.refl _) passes

theorem prefix_extend (order : Occurrences) (passes : ℕ) :
    order.placed <+: (order.extend passes).placed := by
  have step : ∀ later : Occurrences, order.placed <+: later.placed →
      order.placed <+: (sweep later.placed later.waiting).placed :=
    fun later extended => extended.trans (prefix_sweep later.placed later.waiting)
  exact extend_induction step (List.prefix_refl _) passes

/-- What no sweep places can be taken out beforehand. The sweeps go on for just as long, since each
of them places the same joins as before. -/
theorem extend_filter {keep : JoinEntity × ℕ → Bool} {passes : ℕ}
    (kept : ∀ occurrence ∈ (order.extend passes).placed, keep occurrence = true) :
    extend { order with waiting := order.waiting.filter keep } passes =
      { placed := (order.extend passes).placed
        waiting := (order.extend passes).waiting.filter keep } := by
  induction passes generalizing order with
  | zero => rfl
  | succ passes ih =>
      have next_kept : ∀ occurrence ∈ (sweep order.placed order.waiting).placed,
          keep occurrence = true := by
        intro occurrence occurrence_mem
        apply kept
        simp only [extend]
        split
        · exact (prefix_extend _ passes).subset occurrence_mem
        · next barren =>
            -- A barren sweep has placed nothing beyond what had a place before.
            rw [length_waiting_lt_iff, Nat.not_lt] at barren
            have same := (prefix_sweep order.placed order.waiting).eq_of_length_le barren
            rwa [same]
      have swept := sweep_filter next_kept
      have places_more := length_waiting_lt_iff order.placed (order.waiting.filter keep)
      rw [swept, ← length_waiting_lt_iff] at places_more
      simp only [extend] at kept ⊢
      rw [swept]
      by_cases more : (sweep order.placed order.waiting).waiting.length < order.waiting.length
      · rw [if_pos more] at kept ⊢
        rw [if_pos (places_more.mpr more)]
        exact ih kept
      · rw [if_neg more, if_neg (mt places_more.mp more)]

/-- If no two joins have one place, those left over can be told by their places. Without them, the
same joins are placed in the same order, and none is left over. -/
theorem ofJoins_filter {joins : List (JoinEntity × ℕ)} (passes : ℕ)
    (distinct : (joins.map Prod.snd).Nodup) :
    ofJoins
        (joins.filter fun occurrence => occurrence.2 ∉ (ofJoins joins passes).waiting.map Prod.snd)
        passes =
      { placed := (ofJoins joins passes).placed } := by
  have arranged := (extend_perm { waiting := joins } passes).map Prod.snd
  have apart := arranged.nodup_iff.mpr distinct
  rw [List.map_append, List.nodup_append] at apart
  have kept : ∀ occurrence ∈ (ofJoins joins passes).placed,
      decide (occurrence.2 ∉ (ofJoins joins passes).waiting.map Prod.snd) = true := by
    intro occurrence occurrence_mem
    rw [decide_eq_true_eq]
    intro waits
    exact apart.2.2 _ (List.mem_map_of_mem occurrence_mem) _ waits rfl
  have none_waiting : ((ofJoins joins passes).waiting.filter fun occurrence =>
      occurrence.2 ∉ (ofJoins joins passes).waiting.map Prod.snd) = [] := by
    rw [List.filter_eq_nil_iff]
    intro occurrence occurrence_mem
    rw [decide_eq_true_eq, not_not]
    exact List.mem_map_of_mem occurrence_mem
  have filtered := extend_filter kept
  rw [show (extend { waiting := joins } passes) = ofJoins joins passes from rfl,
    none_waiting] at filtered
  exact filtered

end Occurrences

end ObjectQuery.JoinOrder
