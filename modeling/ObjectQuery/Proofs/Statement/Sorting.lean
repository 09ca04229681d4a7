import Mathlib.Data.List.Pairwise
import ObjectQuery.Proofs.Query.Placeholders

/-!
# The primary key in ORDER BY clauses

Rows that are tied by all orders come in any sequence, so a page of a result is the same each time
only if no two rows are tied. The primary key of the root, which is put behind the orders, tells all
rows apart. It is left out, though, if an order has its name, and nobody asks whose field that order
is on. So the rows of a find have one sequence unless every order that has the name of the key is on
a field with another alias than the root's.
-/

namespace ObjectQuery

theorem sameIgnoringCase_iff (s t : String) :
    sameIgnoringCase s t = true ↔ s.toList.map Char.toLower = t.toList.map Char.toLower :=
  beq_iff_eq

/-- Whoever runs statements: how rows compare by the value at each path, which is given by an alias and
a name. The case of ASCII letters in a name makes no difference. -/
structure Store (Row : Type) where
  compareAt : String → String → Row → Row → Ordering
  swapped : ∀ aliasName name row other,
    compareAt aliasName name other row = (compareAt aliasName name row other).swap
  ignores_case : ∀ aliasName name other, sameIgnoringCase name other = true →
    compareAt aliasName name = compareAt aliasName other

namespace Store

variable {Row : Type} (store : Store Row) (row other : Row)

/-- How rows compare by one order. -/
def compareBy (order : Order) : Ordering :=
  let ascending := store.compareAt order.field.owner.aliasName order.field.name row other
  match order.direction with
  | .asc => ascending
  | .desc => ascending.swap

/-- How rows compare by several orders, of which the first that tells them apart decides. -/
def compareRows : List Order → Ordering
  | [] => .eq
  | order :: rest => (store.compareBy row other order).then (compareRows rest)

/-- No row stands before one that the orders put in front of it. -/
def Sorts (orders : List Order) (rows : List Row) : Prop :=
  rows.Pairwise fun row other => (store.compareRows row other orders).isLE = true

theorem compareBy_eq_eq_iff (order : Order) :
    store.compareBy row other order = .eq ↔
      store.compareAt order.field.owner.aliasName order.field.name row other = .eq := by
  unfold compareBy
  cases order.direction with
  | asc => rfl
  | desc => exact Ordering.swap_eq_eq

/-- Rows are tied if no order tells them apart. -/
theorem compareRows_eq_eq_iff (orders : List Order) :
    store.compareRows row other orders = .eq ↔
      ∀ order ∈ orders,
        store.compareAt order.field.owner.aliasName order.field.name row other = .eq := by
  induction orders with
  | nil => simp [compareRows]
  | cons order rest ih =>
      rw [compareRows, Ordering.then_eq_eq, ih, compareBy_eq_eq_iff, List.forall_mem_cons]

theorem compareRows_swapped (orders : List Order) :
    store.compareRows other row orders = (store.compareRows row other orders).swap := by
  induction orders with
  | nil => rfl
  | cons order rest ih =>
      have first_swapped :
          store.compareBy other row order = (store.compareBy row other order).swap := by
        unfold compareBy
        rw [store.swapped _ _ row other]
        cases order.direction <;> rfl
      rw [compareRows, compareRows, Ordering.swap_then, ih, first_swapped]

/-- Rows that may stand either way around are tied. -/
theorem compareRows_eq_eq_of_isLE {orders : List Order}
    (before : (store.compareRows row other orders).isLE = true)
    (behind : (store.compareRows other row orders).isLE = true) :
    store.compareRows row other orders = .eq := by
  rw [compareRows_swapped] at behind
  cases decided : store.compareRows row other orders with
  | eq => rfl
  | lt => simp [decided] at behind
  | gt => simp [decided] at before

end Store

namespace EntityType

variable (root : EntityType)

/-- A field has the name of the primary key, whatever its owner. -/
def NamesKey (field : Field) : Prop :=
  sameIgnoringCase field.name root.primaryKey = true

/-- A field is the primary key of the root: it has the key's name and the root's alias. -/
def IsKey (field : Field) : Prop :=
  field.owner.aliasName = rootAlias ∧ root.NamesKey field

instance (field : Field) : Decidable (root.NamesKey field) :=
  inferInstanceAs (Decidable (_ = true))

instance (field : Field) : Decidable (root.IsKey field) :=
  inferInstanceAs (Decidable (_ ∧ _))

/-- Whatever the store, these orders leave one sequence only to rows of which no two have the same
primary key. -/
def SortedUniquely (orders : List Order) : Prop :=
  ∀ (Row : Type) (store : Store Row) (rows again : List Row),
    rows.Pairwise (fun row other => store.compareAt rootAlias root.primaryKey row other ≠ .eq) →
      rows.Perm again → store.Sorts orders rows → store.Sorts orders again → rows = again

/-- A store of two rows that differ in nothing but the primary key. -/
def twoRows : Store Bool where
  compareAt aliasName name row other :=
    if aliasName = rootAlias ∧ sameIgnoringCase name root.primaryKey then compare row other else .eq
  swapped := by
    intro aliasName name row other
    split
    · exact Std.OrientedCmp.eq_swap
    · rfl
  ignores_case := by
    intro aliasName name other same
    have alike : sameIgnoringCase name root.primaryKey = sameIgnoringCase other root.primaryKey := by
      rw [Bool.eq_iff_iff, sameIgnoringCase_iff, sameIgnoringCase_iff,
        (sameIgnoringCase_iff name other).mp same]
    simp only [alike]

theorem compareAt_key_of_tied {Row : Type} {store : Store Row} {row other : Row}
    {orders : List Order} (keyed : ∃ order ∈ orders, root.IsKey order.field)
    (tied : store.compareRows row other orders = .eq) :
    store.compareAt rootAlias root.primaryKey row other = .eq := by
  rcases keyed with ⟨order, order_mem, at_root, named⟩
  have order_tied := (store.compareRows_eq_eq_iff row other orders).mp tied order order_mem
  rwa [at_root, store.ignores_case _ _ _ named] at order_tied

theorem sortedUniquely_of_isKey {orders : List Order}
    (keyed : ∃ order ∈ orders, root.IsKey order.field) : root.SortedUniquely orders := by
  intro Row store rows again keys_differ perm sorted again_sorted
  apply List.Perm.eq_of_pairwise _ sorted again_sorted perm
  intro row other row_mem other_mem before behind
  have same_key := root.compareAt_key_of_tied keyed
    (store.compareRows_eq_eq_of_isLE row other before behind)
  have symmetric : Std.Symm fun row other =>
      store.compareAt rootAlias root.primaryKey row other ≠ .eq := by
    refine ⟨fun row other differ same => differ ?_⟩
    rw [store.swapped, same]
    rfl
  by_contra distinct
  exact keys_differ.forall row_mem (perm.mem_iff.mpr other_mem) distinct same_key

theorem sortedUniquely_iff (orders : List Order) :
    root.SortedUniquely orders ↔ ∃ order ∈ orders, root.IsKey order.field := by
  refine ⟨?_, root.sortedUniquely_of_isKey⟩
  intro unique
  by_contra no_key
  push Not at no_key
  -- Nothing tells the two rows apart that differ in the key alone, so they are sorted either way.
  have tied : ∀ row other, root.twoRows.compareRows row other orders = .eq := by
    intro row other
    rw [Store.compareRows_eq_eq_iff]
    intro order order_mem
    exact if_neg (no_key order order_mem)
  have sorted : ∀ row other, root.twoRows.Sorts orders [row, other] := by
    intro row other
    simp [Store.Sorts, tied]
  have key_named : sameIgnoringCase root.primaryKey root.primaryKey = true :=
    (sameIgnoringCase_iff _ _).mpr rfl
  have differ : root.twoRows.compareAt rootAlias root.primaryKey false true = .lt :=
    if_pos ⟨rfl, key_named⟩
  have same := unique Bool root.twoRows [false, true] [true, false] (by simp [differ])
    (List.Perm.swap true false []) (sorted false true) (sorted true false)
  cases same

theorem isKey_tiebreaker : root.IsKey root.tiebreaker.field :=
  ⟨rfl, (sameIgnoringCase_iff _ _).mpr rfl⟩

theorem completeOrders_of_named {orders : List Order}
    (named : ∃ order ∈ orders, root.NamesKey order.field) : root.completeOrders orders = orders :=
  if_pos (List.any_eq_true.mpr named)

theorem completeOrders_of_not_named {orders : List Order}
    (not_named : ¬∃ order ∈ orders, root.NamesKey order.field) :
    root.completeOrders orders = orders ++ [root.tiebreaker] :=
  if_neg (mt List.any_eq_true.mp not_named)

theorem exists_isKey_completeOrders_iff (orders : List Order) :
    (∃ order ∈ root.completeOrders orders, root.IsKey order.field) ↔
      ((∃ order ∈ orders, root.NamesKey order.field) →
        ∃ order ∈ orders, root.IsKey order.field) := by
  by_cases named : ∃ order ∈ orders, root.NamesKey order.field
  · rw [root.completeOrders_of_named named]
    exact ⟨fun keyed _ => keyed, fun keyed => keyed named⟩
  · rw [root.completeOrders_of_not_named named]
    refine ⟨fun _ also => absurd also named, fun _ => ⟨root.tiebreaker, ?_, root.isKey_tiebreaker⟩⟩
    exact List.mem_append_right _ List.mem_cons_self

end EntityType

namespace Query

theorem find_ok {options : Options} {root : EntityType} {spec : SearchSpec} {query : Query}
    (found : (find options root spec).result = .ok query) :
    ∃ front, query.text = front ++ orderText root spec := by
  rcases Compilation.result_bind_eq_ok_iff.mp found with ⟨⟨statement, parameters⟩, selected, logs⟩
  rcases select_ok selected with ⟨-, orders_eq, -, -⟩
  rw [logged_ok logs, orderText, ← orders_eq]
  exact ⟨_, rfl⟩

/-- A find is sorted by the given orders as they are, and by the primary key of the root behind them
if none of them has its name. So its rows have one sequence exactly if the orders that have the name
of the key, if there are any, are not all on fields with another alias than the root's. -/
theorem ordered_by_key_unless_named_elsewhere (options : Options) (root : EntityType)
    (spec : SearchSpec) :
    let entries := root.completeOrders spec.orders
    (∀ query, (find options root spec).result = .ok query →
      ∃ front, query.text = front ++ Order.clauseText entries) ∧
    ((∃ order ∈ spec.orders, root.NamesKey order.field) ∧ entries = spec.orders ∨
      (∀ order ∈ spec.orders, ¬root.NamesKey order.field) ∧
        entries = spec.orders ++ [root.tiebreaker]) ∧
    ((∃ entry ∈ entries, root.IsKey entry.field) ↔
      ((∃ order ∈ spec.orders, root.NamesKey order.field) →
        ∃ order ∈ spec.orders, root.IsKey order.field)) ∧
    (root.SortedUniquely entries ↔ ∃ entry ∈ entries, root.IsKey entry.field) := by
  refine ⟨fun query found => find_ok found, ?_, root.exists_isKey_completeOrders_iff spec.orders,
    root.sortedUniquely_iff _⟩
  by_cases named : ∃ order ∈ spec.orders, root.NamesKey order.field
  · exact Or.inl ⟨named, root.completeOrders_of_named named⟩
  · refine Or.inr ⟨?_, root.completeOrders_of_not_named named⟩
    intro order order_mem names
    exact named ⟨order, order_mem, names⟩

/-- The primary key in another case, behind a property of a join that has its name. -/
theorem ordered_by_key_of_both_named :
    let root : EntityType := { typeName := "T", keyName := some "number" }
    let join : JoinEntity := { operator := .inner, name := "roles", aliasName := "r" }
    let spec : SearchSpec :=
      { orders := [{ field := { name := "number", owner := join.toOwner }, direction := .desc },
          { field := { name := "NUMBER" } }]
        entities := [.join join] }
    ∃ query, (find {} root spec).result = .ok query ∧
      (∃ front, query.text = front ++ Order.clauseText spec.orders) ∧
      root.SortedUniquely spec.orders := by
  intro root join spec
  have found : ∃ query, (find {} root spec).result = .ok query := ⟨_, rfl⟩
  rcases found with ⟨query, found⟩
  have complete : root.completeOrders spec.orders = spec.orders := by decide
  have ordered := ordered_by_key_unless_named_elsewhere {} root spec
  rw [complete] at ordered
  rcases ordered with ⟨sorted, -, -, unique⟩
  exact ⟨query, found, sorted query found, unique.mpr (by decide)⟩

/-- An order on a property of a join that has the name of the primary key: rows may be tied. -/
theorem not_ordered_by_key_of_named_elsewhere :
    let root : EntityType := { typeName := "T" }
    let join : JoinEntity := { operator := .inner, name := "roles", aliasName := "r" }
    let spec : SearchSpec :=
      { orders := [{ field := { name := "id", owner := join.toOwner } }], entities := [.join join] }
    (∃ query, (find {} root spec).result = .ok query ∧
      query.text = "SELECT DISTINCT e FROM T AS e INNER JOIN e.roles r ORDER BY r.id ASC") ∧
    (¬∃ entry ∈ root.completeOrders spec.orders, root.IsKey entry.field) ∧
      ¬root.SortedUniquely (root.completeOrders spec.orders) := by
  intro root join spec
  have no_key : ¬∃ entry ∈ root.completeOrders spec.orders, root.IsKey entry.field := by decide
  refine ⟨⟨_, rfl, by decide⟩, no_key, ?_⟩
  rw [root.sortedUniquely_iff]
  exact no_key

end Query

end ObjectQuery
