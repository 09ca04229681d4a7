import ObjectQuery.Proofs.Json.Reading
import ObjectQuery.Value.Canonical

/-!
# Values survive their JSON

A value is what its document is read as. Its text is read as its document if no float is in it.
-/

namespace ObjectQuery.Value

mutual

/-- No part of the value is a float. -/
def FloatFree : Value → Prop
  | .float _ => False
  | .list items => AllFloatFree items
  | .null | .bool _ | .int _ | .text _ => True

def AllFloatFree : List Value → Prop
  | [] => True
  | item :: rest => item.FloatFree ∧ AllFloatFree rest

end

mutual

theorem FloatFree.toJson {value : Value} (free : value.FloatFree) : value.toJson.DecimalFree := by
  cases value with
  | null | bool b | int i | text s => exact trivial
  | float x => exact absurd free id
  | list items => exact AllFloatFree.itemsToJson free

theorem AllFloatFree.itemsToJson {items : List Value} (free : AllFloatFree items) :
    Json.DecimalFreeItems (itemsToJson items) := by
  cases items with
  | nil => exact trivial
  | cons item rest => exact ⟨FloatFree.toJson free.1, AllFloatFree.itemsToJson free.2⟩

end

theorem allFloatFree_iff (items : List Value) :
    AllFloatFree items ↔ ∀ item ∈ items, item.FloatFree := by
  induction items with
  | nil => simp [AllFloatFree]
  | cons item rest ih => rw [AllFloatFree, ih, List.forall_mem_cons]

theorem itemsToJson_eq_map (items : List Value) : itemsToJson items = items.map toJson := by
  induction items with
  | nil => rfl
  | cons item rest ih => rw [itemsToJson, ih, List.map_cons]

theorem ofInteger_toInt (i : Int64) : ofInteger i.toInt = .int i := by
  rw [ofInteger, if_pos ⟨Int64.minValue_le_toInt i, Int64.toInt_le i⟩, Int64.ofInt_toInt]

mutual

theorem ofJson?_toJson (value : Value) : ofJson? value.toJson = some value := by
  cases value with
  | null | bool b | float x | text s => rfl
  | int i => rw [toJson, ofJson?, ofInteger_toInt]
  | list items =>
      rw [toJson, ofJson?, itemsOfJson?_itemsToJson items]
      rfl

theorem itemsOfJson?_itemsToJson (items : List Value) :
    itemsOfJson? (itemsToJson items) = some items := by
  cases items with
  | nil => rfl
  | cons item rest =>
      rw [itemsToJson, itemsOfJson?, ofJson?_toJson item, itemsOfJson?_itemsToJson rest]
      rfl

end

/-- A value without floats is read back from its canonical text. -/
theorem FloatFree.eq_of_canonical_eq {value other : Value} (free : value.FloatFree)
    (other_free : other.FloatFree) (same : value.canonical = other.canonical) : value = other := by
  have documents_eq : some value.toJson = some other.toJson := by
    rw [← Json.read?_compact _ free.toJson, ← Json.read?_compact _ other_free.toJson]
    exact congrArg Json.read? same
  apply Option.some.inj
  rw [← ofJson?_toJson value, ← ofJson?_toJson other, Option.some.inj documents_eq]

theorem eq_null_of_isNull {value : Value} (null : value.isNull = true) : value = .null := by
  cases value with
  | null => rfl
  | bool b | int i | float x | text s | list items => simp [isNull] at null

end ObjectQuery.Value
