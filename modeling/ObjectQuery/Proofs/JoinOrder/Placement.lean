import Mathlib.Data.List.Basic
import ObjectQuery.JoinOrder

/-!
# Which joins are placed

A sweep only moves joins: none is lost, and those that stay keep their order. Every join that is
placed was ready after the joins before it, so nothing is placed that hangs on a fetch or on a join
that is not listed. All other joins are placed in time. After as many sweeps as a join has joins in
its chain, the join does not wait any more, and a sweep that places nothing has left nothing of
that kind behind.
-/

namespace ObjectQuery

namespace Owner

/-- The joins that lead to an owner, the last one first. -/
def joins : Owner → List JoinEntity
  | .root | .domain _ | .fetch _ _ _ _ => []
  | .join operator name parent aliasName => { operator, name, parent, aliasName } :: parent.joins

/-- Whether the joins that lead to an owner begin at a fetch, and not at the root or beside it. -/
def beginsAtFetch : Owner → Bool
  | .root | .domain _ => false
  | .join _ _ parent _ => parent.beginsAtFetch
  | .fetch _ _ _ _ => true

end Owner

namespace JoinEntity

/-- A join with the joins that it hangs on. -/
def chain (join : JoinEntity) : List JoinEntity :=
  join :: join.parent.joins

variable {join parent : JoinEntity} {placed more : List JoinEntity}

theorem isReady_of_subset (subset : placed ⊆ more) (ready : join.isReady placed = true) :
    join.isReady more = true := by
  rcases join with ⟨operator, name, parent, aliasName⟩
  cases parent with
  | root => rfl
  | domain entity => rfl
  | join operator' name' parent' aliasName' =>
      simp only [isReady, List.contains_iff_mem] at ready ⊢
      exact subset ready
  | fetch operator' name' parent' aliasName' => simp [isReady] at ready

theorem mem_of_isReady (ready : join.isReady placed = true)
    (parent_eq : join.parent = parent.toOwner) : parent ∈ placed := by
  simpa [isReady, parent_eq, toOwner] using ready

theorem exists_parent_of_not_isReady (not_ready : join.isReady placed = false)
    (not_fetched : join.parent.beginsAtFetch = false) :
    ∃ parent : JoinEntity, join.parent = parent.toOwner ∧ parent ∉ placed := by
  rcases join with ⟨operator, name, parent, aliasName⟩
  cases parent with
  | root => simp [isReady] at not_ready
  | domain entity => simp [isReady] at not_ready
  | join operator' name' parent' aliasName' =>
      refine ⟨⟨operator', name', parent', aliasName'⟩, rfl, ?_⟩
      simpa [isReady] using not_ready
  | fetch operator' name' parent' aliasName' => simp [Owner.beginsAtFetch] at not_fetched

end JoinEntity

namespace JoinOrder

/-- Every join is ready once the joins before it have a place. -/
def Sound (placed : List JoinEntity) : Prop :=
  ∀ before join after, placed = before ++ join :: after → join.isReady before = true

theorem sound_nil : Sound [] := by
  intro before join after impossible
  simp at impossible

theorem Sound.concat {placed : List JoinEntity} {join : JoinEntity} (sound : Sound placed)
    (ready : join.isReady placed = true) : Sound (placed ++ [join]) := by
  intro before later after split
  rcases List.eq_nil_or_concat after with rfl | ⟨middle, last, rfl⟩
  · rcases List.append_inj' split rfl with ⟨rfl, same⟩
    simp only [List.cons.injEq, and_true] at same
    subst later
    exact ready
  · have split' : placed ++ [join] = (before ++ later :: middle) ++ [last] := by simpa using split
    exact sound before later middle (List.append_inj' split' rfl).1

/-- What is placed hangs on no fetch, and all that it hangs on is placed too. -/
theorem Sound.parent {placed : List JoinEntity} (sound : Sound placed) (owner : Owner) :
    ∀ join ∈ placed, join.parent = owner →
      owner.beginsAtFetch = false ∧ ∀ ancestor ∈ owner.joins, ancestor ∈ placed := by
  induction owner with
  | root => simp [Owner.beginsAtFetch, Owner.joins]
  | domain entity => simp [Owner.beginsAtFetch, Owner.joins]
  | join operator name parent aliasName ih =>
      intro join join_mem parent_eq
      rcases List.append_of_mem join_mem with ⟨before, after, split⟩
      have parent_mem : ⟨operator, name, parent, aliasName⟩ ∈ placed := by
        rw [split]
        apply List.mem_append_left
        exact JoinEntity.mem_of_isReady (sound before join after split) parent_eq
      rcases ih _ parent_mem rfl with ⟨not_fetched, ancestors_placed⟩
      refine ⟨not_fetched, ?_⟩
      intro ancestor ancestor_mem
      rcases List.mem_cons.mp ancestor_mem with rfl | further
      · exact parent_mem
      · exact ancestors_placed ancestor further
  | fetch operator name parent aliasName =>
      intro join join_mem parent_eq
      rcases List.append_of_mem join_mem with ⟨before, after, split⟩
      have ready := sound before join after split
      simp [JoinEntity.isReady, parent_eq] at ready

section Sweep

variable {placed waiting : List JoinEntity} {join : JoinEntity}

theorem sweep_cons_of_ready (ready : join.isReady placed = true) :
    sweep placed (join :: waiting) = sweep (placed ++ [join]) waiting :=
  if_pos ready

theorem sweep_cons_of_not_ready (not_ready : ¬join.isReady placed = true) :
    sweep placed (join :: waiting) =
      { placed := (sweep placed waiting).placed
        waiting := join :: (sweep placed waiting).waiting } :=
  if_neg not_ready

theorem sweep_perm (placed waiting : List JoinEntity) :
    ((sweep placed waiting).placed ++ (sweep placed waiting).waiting).Perm (placed ++ waiting) := by
  induction waiting generalizing placed with
  | nil => exact List.Perm.refl _
  | cons join rest ih =>
      by_cases ready : join.isReady placed = true
      · rw [sweep_cons_of_ready ready]
        simpa using ih (placed ++ [join])
      · rw [sweep_cons_of_not_ready ready]
        exact List.perm_middle.trans ((ih placed).cons join |>.trans List.perm_middle.symm)

theorem prefix_sweep (placed waiting : List JoinEntity) :
    placed <+: (sweep placed waiting).placed := by
  induction waiting generalizing placed with
  | nil => exact List.prefix_refl _
  | cons join rest ih =>
      by_cases ready : join.isReady placed = true
      · rw [sweep_cons_of_ready ready]
        exact (List.prefix_append placed [join]).trans (ih _)
      · rw [sweep_cons_of_not_ready ready]
        exact ih placed

theorem sweep_waiting_sublist (placed waiting : List JoinEntity) :
    (sweep placed waiting).waiting.Sublist waiting := by
  induction waiting generalizing placed with
  | nil => exact List.Sublist.refl _
  | cons join rest ih =>
      by_cases ready : join.isReady placed = true
      · rw [sweep_cons_of_ready ready]
        exact (ih _).cons join
      · rw [sweep_cons_of_not_ready ready]
        exact (ih placed).cons_cons join

theorem sweep_sound (sound : Sound placed) : Sound (sweep placed waiting).placed := by
  induction waiting generalizing placed with
  | nil => exact sound
  | cons join rest ih =>
      by_cases ready : join.isReady placed = true
      · rw [sweep_cons_of_ready ready]
        exact ih (sound.concat ready)
      · rw [sweep_cons_of_not_ready ready]
        exact ih sound

theorem not_isReady_of_mem_sweep_waiting (waits : join ∈ (sweep placed waiting).waiting) :
    join.isReady placed = false := by
  induction waiting generalizing placed with
  | nil => simp [sweep] at waits
  | cons first rest ih =>
      by_cases ready : first.isReady placed = true
      · rw [sweep_cons_of_ready ready] at waits
        have still_not_ready := ih waits
        by_contra was_ready
        have now_ready := JoinEntity.isReady_of_subset (List.subset_append_left placed [first])
          (Bool.of_not_eq_false was_ready)
        rw [still_not_ready] at now_ready
        exact Bool.false_ne_true now_ready
      · rw [sweep_cons_of_not_ready ready] at waits
        rcases List.mem_cons.mp waits with rfl | later
        · exact Bool.of_not_eq_true ready
        · exact ih later

end Sweep

/-- What every sweep keeps is kept by any number of them. -/
theorem extend_induction {motive : JoinOrder → Prop} {order : JoinOrder}
    (step : ∀ order, motive order → motive (sweep order.placed order.waiting))
    (start : motive order) (passes : ℕ) : motive (order.extend passes) := by
  induction passes generalizing order with
  | zero => exact start
  | succ passes ih =>
      simp only [extend]
      split
      · exact ih (step order start)
      · exact start

/-- An order in which every join of a list is either placed or waits. -/
structure Arranges (order : JoinOrder) (joins : List JoinEntity) : Prop where
  perm : (order.placed ++ order.waiting).Perm joins
  sublist : order.waiting.Sublist joins
  sound : Sound order.placed

theorem Arranges.sweep {order : JoinOrder} {joins : List JoinEntity}
    (arranges : order.Arranges joins) :
    (JoinOrder.sweep order.placed order.waiting).Arranges joins where
  perm := (sweep_perm _ _).trans arranges.perm
  sublist := (sweep_waiting_sublist _ _).trans arranges.sublist
  sound := sweep_sound arranges.sound

theorem arranges_ofJoins (joins : List JoinEntity) (passes : ℕ) :
    (ofJoins joins passes).Arranges joins := by
  have step : ∀ order : JoinOrder, order.Arranges joins →
      (JoinOrder.sweep order.placed order.waiting).Arranges joins :=
    fun _ arranges => arranges.sweep
  exact extend_induction step ⟨by simp, List.Sublist.refl _, sound_nil⟩ passes

namespace Arranges

variable {order : JoinOrder} {joins : List JoinEntity} {join : JoinEntity}

theorem mem_iff (arranges : order.Arranges joins) :
    join ∈ joins ↔ join ∈ order.placed ∨ join ∈ order.waiting := by
  rw [← arranges.perm.mem_iff, List.mem_append]

theorem parent_of_mem_placed (arranges : order.Arranges joins) (join_placed : join ∈ order.placed) :
    join.parent.beginsAtFetch = false ∧ ∀ ancestor ∈ join.parent.joins, ancestor ∈ joins := by
  rcases arranges.sound.parent join.parent join join_placed rfl with ⟨not_fetched, ancestors⟩
  exact ⟨not_fetched, fun ancestor ancestor_mem =>
    arranges.mem_iff.mpr (Or.inl (ancestors ancestor ancestor_mem))⟩

end Arranges

/-- No join of a list waits that can be placed and has a chain of at most so many joins. -/
def Settled (order : JoinOrder) (joins : List JoinEntity) (depth : ℕ) : Prop :=
  ∀ join ∈ joins, join.parent.beginsAtFetch = false →
    (∀ ancestor ∈ join.parent.joins, ancestor ∈ joins) → join.chain.length ≤ depth →
      join ∉ order.waiting

theorem settled_zero (order : JoinOrder) (joins : List JoinEntity) : order.Settled joins 0 := by
  intro join _ _ _ short
  simp [JoinEntity.chain] at short

theorem Settled.sweep {order : JoinOrder} {joins : List JoinEntity} {depth : ℕ}
    (arranges : order.Arranges joins) (settled : order.Settled joins depth) :
    (JoinOrder.sweep order.placed order.waiting).Settled joins (depth + 1) := by
  intro join join_mem not_fetched ancestors_listed short waits
  -- A join that still waits was not ready, so its parent waited as well before the sweep. The chain
  -- of the parent is shorter by one.
  have not_ready := not_isReady_of_mem_sweep_waiting waits
  rcases JoinEntity.exists_parent_of_not_isReady not_ready not_fetched with
    ⟨parent, parent_eq, parent_not_placed⟩
  simp only [JoinEntity.chain, parent_eq, JoinEntity.toOwner, Owner.joins, List.length_cons,
    List.forall_mem_cons, Owner.beginsAtFetch] at short ancestors_listed not_fetched
  have parent_waits : parent ∈ order.waiting :=
    (arranges.mem_iff.mp ancestors_listed.1).resolve_left parent_not_placed
  refine settled parent ancestors_listed.1 not_fetched ancestors_listed.2 ?_ parent_waits
  simp only [JoinEntity.chain, List.length_cons]
  omega

/-- If a sweep places nothing, more sweeps would not either. -/
theorem Settled.of_barren {order : JoinOrder} {joins : List JoinEntity}
    (arranges : order.Arranges joins)
    (barren : ¬(JoinOrder.sweep order.placed order.waiting).waiting.length < order.waiting.length)
    (depth : ℕ) : order.Settled joins depth := by
  have unchanged : (JoinOrder.sweep order.placed order.waiting).waiting = order.waiting :=
    (sweep_waiting_sublist _ _).eq_of_length_le (by omega)
  induction depth with
  | zero => exact settled_zero order joins
  | succ depth ih =>
      have settled := ih.sweep arranges
      simpa only [Settled, unchanged] using settled

theorem settled_extend {order : JoinOrder} {joins : List JoinEntity} {depth : ℕ}
    (arranges : order.Arranges joins) (settled : order.Settled joins depth) (passes : ℕ) :
    (order.extend passes).Settled joins (depth + passes) := by
  induction passes generalizing order depth with
  | zero => exact settled
  | succ passes ih =>
      simp only [extend]
      split
      · rw [Nat.add_comm passes 1, ← Nat.add_assoc]
        exact ih arranges.sweep (settled.sweep arranges)
      · next barren => exact Settled.of_barren arranges barren _

/-- The order that is found for joins loses none of them, puts every join after its parent, places
each join that it has sweeps enough for, and leaves those waiting that can never be placed. -/
theorem ofJoins_lossless_sound_complete (joins : List JoinEntity) (passes : ℕ) :
    ((ofJoins joins passes).placed ++ (ofJoins joins passes).waiting).Perm joins ∧
      (ofJoins joins passes).waiting.Sublist joins ∧
      (∀ before join after parent, (ofJoins joins passes).placed = before ++ join :: after →
        join.parent = JoinEntity.toOwner parent → parent ∈ before) ∧
      (∀ join ∈ joins, join.parent.beginsAtFetch = false →
        (∀ ancestor ∈ join.parent.joins, ancestor ∈ joins) → join.chain.length ≤ passes →
          join ∈ (ofJoins joins passes).placed ∧ join ∉ (ofJoins joins passes).waiting) ∧
      (∀ join ∈ joins, (join.parent.beginsAtFetch = true ∨
        ∃ ancestor ∈ join.parent.joins, ancestor ∉ joins) →
          join ∈ (ofJoins joins passes).waiting ∧ join ∉ (ofJoins joins passes).placed) := by
  have arranges := arranges_ofJoins joins passes
  refine ⟨arranges.perm, arranges.sublist, ?_, ?_, ?_⟩
  · intro before join after parent split parent_eq
    exact JoinEntity.mem_of_isReady (arranges.sound before join after split) parent_eq
  · intro join join_mem not_fetched ancestors_listed short
    have start : Arranges { waiting := joins } joins :=
      ⟨by simp, List.Sublist.refl _, sound_nil⟩
    have settled := settled_extend start (settled_zero _ joins) passes
    have not_waiting : join ∉ (ofJoins joins passes).waiting :=
      settled join join_mem not_fetched ancestors_listed (by omega)
    exact ⟨(arranges.mem_iff.mp join_mem).resolve_right not_waiting, not_waiting⟩
  · intro join join_mem blocked
    have not_placed : join ∉ (ofJoins joins passes).placed := by
      intro join_placed
      rcases arranges.parent_of_mem_placed join_placed with ⟨not_fetched, ancestors_listed⟩
      rcases blocked with fetched | ⟨ancestor, ancestor_mem, unlisted⟩
      · rw [not_fetched] at fetched
        exact Bool.false_ne_true fetched
      · exact unlisted (ancestors_listed ancestor ancestor_mem)
    exact ⟨(arranges.mem_iff.mp join_mem).resolve_left not_placed, not_placed⟩

/-- A child that is listed before its parent is placed after it in two sweeps, a second copy of it
as well. A join that hangs on a fetch waits. -/
theorem ofJoins_child_before_parent :
    let parent : JoinEntity := { operator := .inner, name := "roles", aliasName := "r" }
    let child : JoinEntity :=
      { operator := .left, name := "groups", parent := parent.toOwner, aliasName := "g" }
    let stray : JoinEntity :=
      { operator := .left, name := "tags", parent := .fetch .leftFetch "notes" .root none
        aliasName := "t" }
    let joins := [child, stray, parent, child]
    (child ∈ joins ∧ child.parent.beginsAtFetch = false ∧
      (∀ ancestor ∈ child.parent.joins, ancestor ∈ joins) ∧ child.chain.length ≤ 2 ∧
      child ∈ (ofJoins joins 2).placed ∧ child ∉ (ofJoins joins 2).waiting) ∧
    ((ofJoins joins 2).placed = [parent, child] ++ child :: [] ∧ child.parent = parent.toOwner ∧
      parent ∈ [parent, child]) ∧
    (stray ∈ joins ∧ stray.parent.beginsAtFetch = true ∧
      stray ∈ (ofJoins joins 2).waiting ∧ stray ∉ (ofJoins joins 2).placed) := by
  intro parent child stray joins
  have child_mem : child ∈ joins := List.mem_cons_self
  have stray_mem : stray ∈ joins := List.mem_cons_of_mem _ List.mem_cons_self
  have ancestors_listed : ∀ ancestor ∈ child.parent.joins, ancestor ∈ joins := by decide
  have placed_eq : (ofJoins joins 2).placed = [parent, child] ++ child :: [] := by decide
  rcases ofJoins_lossless_sound_complete joins 2 with ⟨-, -, follows, completes, blocks⟩
  exact ⟨⟨child_mem, rfl, ancestors_listed, Nat.le_refl 2,
      completes child child_mem rfl ancestors_listed (Nat.le_refl 2)⟩,
    ⟨placed_eq, rfl, follows [parent, child] child [] parent placed_eq rfl⟩,
    ⟨stray_mem, rfl, blocks stray stray_mem (Or.inl rfl)⟩⟩

end JoinOrder

end ObjectQuery
