import Mathlib.Data.List.Infix
import ObjectQuery.Proofs.Criteria.Conflicts
import ObjectQuery.Proofs.Text.Placeholders

/-!
# Parameters that a fragment refers to

A fragment refers to a parameter where its text has the parameter's placeholder, a colon with the
whole name behind it and no further character of a name. Binding looks for less: the colon and the
name may also be the beginning of a longer placeholder. The parameters that are bound, and those
that a warning is logged for, are therefore told apart by the beginnings of placeholders; for a
fragment in which no declared name only begins one, that is the same.
-/

namespace ObjectQuery

section Markers

variable {name text : List Char}

/-- The placeholders of a text are found behind its colons. -/
theorem mem_placeholderNames_iff {placeholder : String} :
    placeholder ∈ placeholderNames text ↔ ∃ front rest, text = front ++ ':' :: rest ∧
      placeholder = String.ofList (rest.takeWhile isNameChar) := by
  induction text with
  | nil => simp [placeholderNames]
  | cons c others ih =>
      rw [placeholderNames]
      constructor
      · intro listed
        split at listed
        · next colon =>
            rcases List.mem_cons.mp listed with here | later
            · exact ⟨[], others, by simp [colon], here⟩
            · rcases ih.mp later with ⟨front, rest, rfl, made⟩
              exact ⟨c :: front, rest, rfl, made⟩
        · rcases ih.mp listed with ⟨front, rest, rfl, made⟩
          exact ⟨c :: front, rest, rfl, made⟩
      · rintro ⟨front, rest, split_eq, made⟩
        cases front with
        | nil =>
            simp only [List.nil_append, List.cons.injEq] at split_eq
            rcases split_eq with ⟨rfl, rfl⟩
            simp [made]
        | cons first front =>
            simp only [List.cons_append, List.cons.injEq] at split_eq
            have later := ih.mpr ⟨front, rest, split_eq.2, made⟩
            split
            · exact List.mem_cons_of_mem _ later
            · exact later

/-- A colon with a name behind it is the beginning of a placeholder. -/
theorem infix_iff_begins (name_chars : ∀ c ∈ name, isNameChar c = true) :
    ':' :: name <:+: text ↔ ∃ placeholder ∈ placeholderNames text, name <+: placeholder.toList := by
  constructor
  · rintro ⟨front, back, rfl⟩
    refine ⟨_, mem_placeholderNames_iff.mpr ⟨front, name ++ back, by simp, rfl⟩, ?_⟩
    rw [String.toList_ofList, List.takeWhile_append_of_pos name_chars]
    exact List.prefix_append _ _
  · rintro ⟨placeholder, listed, begins⟩
    rcases mem_placeholderNames_iff.mp listed with ⟨front, rest, rfl, rfl⟩
    rw [String.toList_ofList] at begins
    have stands : name <+: rest := begins.trans (List.takeWhile_prefix isNameChar)
    have colon_stands : ':' :: name <+: ':' :: rest := List.cons_prefix_cons.mpr ⟨rfl, stands⟩
    exact colon_stands.isInfix.trans (List.suffix_append front _).isInfix

/-- A colon with a name behind it that does not go on is a placeholder. -/
theorem exists_complete_iff {name : String}
    (name_chars : ∀ c ∈ name.toList, isNameChar c = true) :
    (∃ front back, text = front ++ (placeholderText name).toList ++ back ∧ EndsName back) ↔
      name ∈ placeholderNames text := by
  rw [mem_placeholderNames_iff]
  constructor
  · rintro ⟨front, back, rfl, ends⟩
    refine ⟨front, name.toList ++ back, by simp [placeholderText], ?_⟩
    rw [List.takeWhile_append_of_pos name_chars]
    cases back with
    | nil => simp
    | cons c rest => simp [ends c rfl]
  · rintro ⟨front, rest, rfl, rfl⟩
    refine ⟨front, rest.dropWhile isNameChar, ?_, ?_⟩
    · simp [placeholderText, List.takeWhile_append_dropWhile]
    · intro c c_mem
      have stops := List.head?_dropWhile_not isNameChar rest
      rw [Option.mem_def.mp c_mem] at stops
      exact stops

end Markers

instance : DecidablePred EndsName :=
  fun rest => Option.decidableForallMem rest.head?

namespace PersonalCriteria

variable (personal : PersonalCriteria)

/-- The text of a fragment has the placeholder of a parameter, and no name goes on behind it. -/
def RefersTo (name : String) : Prop :=
  ∃ front back,
    personal.text.toList = front ++ (placeholderText name).toList ++ back ∧ EndsName back

/-- A placeholder in the text of a fragment begins with a name, whether or not it goes on. -/
def BeginsPlaceholder (name : String) : Prop :=
  ∃ placeholder ∈ placeholderNames personal.text.toList, name.toList <+: placeholder.toList

theorem refersTo_iff (name : String) : personal.RefersTo name ↔
    ∃ rest ∈ personal.text.toList.tails, (placeholderText name).toList <+: rest ∧
      EndsName (rest.drop (placeholderText name).toList.length) := by
  simp only [List.mem_tails]
  constructor
  · rintro ⟨front, back, text_eq, ends⟩
    refine ⟨(placeholderText name).toList ++ back, ⟨front, ?_⟩, List.prefix_append _ _, ?_⟩
    · rw [text_eq, List.append_assoc]
    · rwa [List.drop_left]
  · rintro ⟨_, ⟨front, text_eq⟩, ⟨back, rfl⟩, ends⟩
    refine ⟨front, back, ?_, ?_⟩
    · rw [← text_eq, List.append_assoc]
    · rwa [List.drop_left] at ends

instance : DecidablePred personal.RefersTo :=
  fun name => decidable_of_iff' _ (personal.refersTo_iff name)

instance : DecidablePred personal.BeginsPlaceholder :=
  fun _ => List.decidableBEx _ (placeholderNames personal.text.toList)

variable {personal} {name : String}

theorem mentions_iff_beginsPlaceholder (name_chars : ∀ c ∈ name.toList, isNameChar c = true) :
    personal.mentions name = true ↔ personal.BeginsPlaceholder name := by
  rw [mentions, Fragment.occursIn_iff]
  exact infix_iff_begins name_chars

theorem RefersTo.beginsPlaceholder (name_chars : ∀ c ∈ name.toList, isNameChar c = true)
    (refers : personal.RefersTo name) : personal.BeginsPlaceholder name :=
  ⟨name, (exists_complete_iff name_chars).mp refers, List.prefix_refl _⟩

section Binding

variable {before after start final : Parameters} {value : Value}
  {declarations : List (String × Value)}

theorem bindParameter_eq
    (bound : (personal.bindParameter before (name, value)).result = .ok after) :
    after = if personal.mentions name then before.add name value else before := by
  let step : Criteria.Step := .declaration personal name value
  have made : step.run before = .ok after := bound
  by_cases raised : ∃ error, step.Raises before error
  · rcases raised with ⟨error, raises⟩
    rw [Criteria.Step.run_of_raises raises] at made
    cases made
  · push Not at raised
    rw [Criteria.Step.run_of_not_raises raised] at made
    exact (Except.ok.inj made).symm

theorem log_bindParameter (personal : PersonalCriteria) (before : Parameters)
    (declared : String × Value) : (personal.bindParameter before declared).log =
      if personal.mentions declared.1 then [] else [.unusedParameter declared.1] := by
  rcases declared with ⟨name, value⟩
  simp only [bindParameter]
  split
  · split
    · rfl
    · split <;> rfl
  · rfl

/-- The names that are mentioned come behind those that are bound already, and each of the other
declarations leaves a warning. -/
theorem foldlM_bindParameter
    (bound : (declarations.foldlM personal.bindParameter before).result = .ok after) :
    after.names = (before.names ++
        (declarations.filter fun declared => personal.mentions declared.1).map
          Prod.fst).eraseDups ∧
      (declarations.foldlM personal.bindParameter before).log =
        (declarations.filter fun declared => !personal.mentions declared.1).map
          fun declared => .unusedParameter declared.1 := by
  induction declarations generalizing before with
  | nil =>
      simp only [List.foldlM_nil, Compilation.result_pure, Except.ok.injEq] at bound
      simp [bound]
  | cons first rest ih =>
      simp only [List.foldlM_cons, Compilation.result_bind_eq_ok_iff] at bound
      rcases bound with ⟨between, first_bound, rest_bound⟩
      rcases ih rest_bound with ⟨rest_names, rest_log⟩
      have between_eq := bindParameter_eq first_bound
      have first_log := log_bindParameter personal before first
      simp only [List.foldlM_cons, Compilation.bind_of_ok first_bound, rest_names, rest_log,
        first_log]
      by_cases mentioned : personal.mentions first.1 = true
      · rw [if_pos mentioned] at between_eq
        simp [mentioned, between_eq, Parameters.names_add,
          eraseDups_eraseDups_append]
      · rw [if_neg mentioned] at between_eq
        simp [mentioned, between_eq]

/-- A fragment binds the declared parameters for which `refers` holds. Names that are bound already
keep their values, and each other declaration is reported by one warning. -/
structure BindsThose (personal : PersonalCriteria) (refers : String → Prop) [DecidablePred refers]
    (start final : Parameters) : Prop where
  kept : start.entries <+: final.entries
  bound_iff : ∀ declared ∈ personal.parameters, declared.1 ∉ start.names →
    (declared.1 ∈ final.names ↔ refers declared.1)
  warned : (personal.bind start).log =
    (personal.parameters.filter fun declared => ¬refers declared.1).map
      fun declared => .unusedParameter declared.1

theorem bindsThose_beginsPlaceholder
    (name_chars : ∀ declared ∈ personal.parameters, ∀ c ∈ declared.1.toList, isNameChar c = true)
    (succeeds : (personal.bind start).result = .ok final) :
    personal.BindsThose personal.BeginsPlaceholder start final := by
  rcases foldlM_bindParameter succeeds with ⟨names_eq, log_eq⟩
  refine ⟨(foldlM_bindParameter_ok succeeds).1, ?_, ?_⟩
  · intro declared declared_mem free
    rw [names_eq, List.mem_eraseDups, List.mem_append, or_iff_right free, List.mem_map,
      ← mentions_iff_beginsPlaceholder (name_chars declared declared_mem)]
    constructor
    · rintro ⟨other, other_mem, name_eq⟩
      rw [← name_eq]
      exact (List.mem_filter.mp other_mem).2
    · intro mentioned
      exact ⟨declared, List.mem_filter.mpr ⟨declared_mem, mentioned⟩, rfl⟩
  · refine log_eq.trans (congrArg (List.map _) (List.filter_congr ?_))
    intro declared declared_mem
    rw [Bool.eq_iff_iff, Bool.not_eq_true', decide_eq_true_iff, ← Bool.not_eq_true,
      mentions_iff_beginsPlaceholder (name_chars declared declared_mem)]

theorem BindsThose.congr {refers refers' : String → Prop} [DecidablePred refers]
    [DecidablePred refers'] (binds : personal.BindsThose refers start final)
    (same : ∀ declared ∈ personal.parameters, refers declared.1 ↔ refers' declared.1) :
    personal.BindsThose refers' start final where
  kept := binds.kept
  bound_iff := by
    intro declared declared_mem free
    rw [binds.bound_iff declared declared_mem free, same declared declared_mem]
  warned := by
    refine binds.warned.trans (congrArg (List.map _) (List.filter_congr ?_))
    intro declared declared_mem
    simp only [same declared declared_mem]

/-- A name that is reported as unused is one that `refers` does not hold for. -/
theorem BindsThose.not_refers_of_warned {refers : String → Prop} [DecidablePred refers]
    (binds : personal.BindsThose refers start final)
    (warned : .unusedParameter name ∈ (personal.bind start).log) : ¬refers name := by
  rw [binds.warned, List.mem_map] at warned
  rcases warned with ⟨declared, declared_mem, ⟨⟩⟩
  simpa using (List.mem_filter.mp declared_mem).2

/-- A fragment binds the declared parameters whose names begin placeholders of its text, and reports
each of the others once. These are the parameters that the text refers to exactly if no declared
name only begins a longer placeholder. -/
theorem binds_referenced_iff (personal : PersonalCriteria) (start final : Parameters)
    (name_chars : ∀ declared ∈ personal.parameters, ∀ c ∈ declared.1.toList, isNameChar c = true)
    (succeeds : (personal.bind start).result = .ok final) :
    personal.BindsThose personal.BeginsPlaceholder start final ∧
      (personal.BindsThose personal.RefersTo start final ↔
        ∀ declared ∈ personal.parameters,
          personal.BeginsPlaceholder declared.1 → personal.RefersTo declared.1) := by
  have binds := bindsThose_beginsPlaceholder name_chars succeeds
  refine ⟨binds, ?_, ?_⟩
  · intro binds_referenced declared declared_mem begins
    by_contra not_referenced
    have warned : .unusedParameter declared.1 ∈ (personal.bind start).log := by
      rw [binds_referenced.warned]
      exact List.mem_map_of_mem (List.mem_filter.mpr ⟨declared_mem, by simpa⟩)
    exact binds.not_refers_of_warned warned begins
  · intro whole
    apply binds.congr
    intro declared declared_mem
    exact ⟨whole declared declared_mem,
      RefersTo.beginsPlaceholder (name_chars declared declared_mem)⟩

/-- One name is the beginning of the other, and the fragment refers to both. -/
theorem binds_referenced_of_shared_beginning :
    let personal : PersonalCriteria := {
      query := "age > :p10 AND e.rank = :p1"
      placeholders := [("age", { name := "age" })]
      parameters := [("p1", .int 1), ("max", .int 9), ("p10", .int 10)] }
    let start : Parameters := Parameters.add {} "old" .null
    ∃ final, (∀ declared ∈ personal.parameters, ∀ c ∈ declared.1.toList, isNameChar c = true) ∧
      (personal.bind start).result = .ok final ∧
      (∀ declared ∈ personal.parameters,
        personal.BeginsPlaceholder declared.1 → personal.RefersTo declared.1) ∧
      personal.BindsThose personal.RefersTo start final ∧
      final.names = ["old", "p1", "p10"] ∧
      (personal.bind start).log = [.unusedParameter "max"] := by
  intro personal start
  have name_chars : ∀ declared ∈ personal.parameters, ∀ c ∈ declared.1.toList,
      isNameChar c = true := by
    simp [personal, isNameChar]
  have whole : ∀ declared ∈ personal.parameters,
      personal.BeginsPlaceholder declared.1 → personal.RefersTo declared.1 := by
    decide
  have made : ∃ final, (personal.bind start).result = .ok final ∧
      final.names = ["old", "p1", "p10"] ∧
      (personal.bind start).log = [.unusedParameter "max"] := by
    simp only [personal, start]
    exact ⟨_, rfl, rfl, rfl⟩
  rcases made with ⟨final, succeeds, names_eq, log_eq⟩
  have binds := binds_referenced_iff personal start final name_chars succeeds
  exact ⟨final, name_chars, succeeds, whole, binds.2.mpr whole, names_eq, log_eq⟩

/-- A fragment refers to `p10` only, and yet `p1` is bound and no warning is given. -/
theorem binds_beginning_of_longer :
    let personal : PersonalCriteria := {
      query := "e.age > :p10"
      parameters := [("p1", .int 1), ("p10", .int 10)] }
    ∃ final, (personal.bind {}).result = .ok final ∧ final.names = ["p1", "p10"] ∧
      (personal.bind {}).log = [] ∧ ¬personal.RefersTo "p1" ∧
      ¬personal.BindsThose personal.RefersTo {} final := by
  intro personal
  have not_referenced : ¬personal.RefersTo "p1" := by
    decide
  have made : ∃ final, (personal.bind {}).result = .ok final ∧ final.names = ["p1", "p10"] ∧
      (personal.bind {}).log = [] := by
    simp only [personal]
    exact ⟨_, rfl, rfl, rfl⟩
  rcases made with ⟨final, succeeds, names_eq, log_eq⟩
  refine ⟨final, succeeds, names_eq, log_eq, not_referenced, ?_⟩
  intro binds
  apply not_referenced
  apply (binds.bound_iff ("p1", .int 1) List.mem_cons_self List.not_mem_nil).mp
  simp [names_eq]

end Binding

end PersonalCriteria

end ObjectQuery
