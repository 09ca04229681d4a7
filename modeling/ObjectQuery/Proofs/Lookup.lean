import Mathlib.Data.List.Nodup

/-!
# Looking names up

Placeholders of fragments and parameters are kept in lists, by name, and the first entry of a name
is the one that counts. Where names are distinct, an entry counts exactly if it is in the list.
-/

namespace ObjectQuery

variable {α : Type} {entries : List (String × α)} {found : String × α}

theorem lookup_cons_eq (name : String) (first : String × α) (rest : List (String × α)) :
    (first :: rest).lookup name = if name = first.1 then some first.2 else rest.lookup name := by
  rcases first with ⟨other, value⟩
  rw [List.lookup_cons]
  by_cases same : name = other
  · simp [same]
  · have differ : (name == other) = false := beq_eq_false_iff_ne.mpr same
    simp [differ, same]

theorem mem_of_lookup {κ : Type} [BEq κ] [LawfulBEq κ] {entries : List (κ × α)} {found : κ × α}
    (counts : entries.lookup found.1 = some found.2) : found ∈ entries := by
  rcases List.lookup_eq_some_iff.mp counts with ⟨before, after, split, -⟩
  simp [split]

theorem lookup_eq_some_iff_mem (distinct : (entries.map Prod.fst).Nodup) :
    entries.lookup found.1 = some found.2 ↔ found ∈ entries := by
  constructor
  · exact mem_of_lookup
  · intro listed
    rcases List.append_of_mem listed with ⟨before, after, split⟩
    rw [List.lookup_eq_some_iff]
    refine ⟨before, after, split, ?_⟩
    intro other other_mem
    simp only [bne_iff_ne, ne_eq]
    intro same
    rw [split, List.map_append, List.nodup_append] at distinct
    exact distinct.2.2 other.1 (List.mem_map_of_mem other_mem) found.1 (by simp) same.symm

end ObjectQuery
