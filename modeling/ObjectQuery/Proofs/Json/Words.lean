import Mathlib.Data.List.Basic
import Mathlib.Data.List.TakeDrop
import Mathlib.Data.List.TakeWhile
import Mathlib.Tactic.IntervalCases
import ObjectQuery.Json.Reader
import ObjectQuery.Json.Writer

/-!
# Written words are read back

What is written for a text or for a whole number is one token at the head of whatever follows it. A
text ends with its closing quote. A whole number has no end of its own, so what follows must not go
on with it.
-/

namespace ObjectQuery.Json.Token

section Texts

theorem hexValue?_hexDigit {n : ℕ} (small : n < 16) : hexValue? (hexDigit n) = some n := by
  interval_cases n <;> rfl

theorem unit?_control {n : ℕ} (small : n < 256) :
    unit? '0' '0' (hexDigit (n / 16)) (hexDigit (n % 16)) = some n := by
  have zero : hexValue? '0' = some 0 := rfl
  have high : hexValue? (hexDigit (n / 16)) = some (n / 16) := hexValue?_hexDigit (by omega)
  have low : hexValue? (hexDigit (n % 16)) = some (n % 16) := hexValue?_hexDigit (by omega)
  simp only [unit?, zero, high, low, Option.pure_def, Option.bind_eq_bind, Option.bind_some,
    Option.some.injEq]
  omega

/-- What a character is read as: control characters come as a unit if they have no letter. -/
structure Part.IsFor (part : Part) (c : Char) : Prop where
  scanned : ∀ text : List Char, scanParts? (escape c ++ text) =
    scanParts? text >>= fun (parts, following) => some (part :: parts, following)
  joined : ∀ parts : List Part, joinParts? (part :: parts) = (c :: ·) <$> joinParts? parts

theorem Part.isFor_unit {c : Char} (control : c.toNat < 0x20)
    (escaped : escape c = ['\\', 'u', '0', '0', hexDigit (c.toNat / 16), hexDigit (c.toNat % 16)]) :
    (Part.unit c.toNat).IsFor c where
  scanned := by
    intro text
    have read : unit? '0' '0' (hexDigit (c.toNat / 16)) (hexDigit (c.toNat % 16)) = some c.toNat :=
      unit?_control (by omega)
    simp only [escaped, List.cons_append, List.nil_append, scanParts?, read, Option.bind_eq_bind,
      Option.bind_some]
  joined := by
    intro parts
    have single : charOfUnit? c.toNat = some c := by
      rw [charOfUnit?, if_neg (by omega), Char.ofNat_toNat]
    rcases parts with _ | ⟨_ | low, rest⟩
    · simp [joinParts?, single]
    · simp [joinParts?, single]
    · rw [joinParts?, if_neg (by omega), single]
      rfl

theorem Part.isFor_letter {c letter : Char} (escaped : escape c = ['\\', letter])
    (not_unit : letter ≠ 'u') (read : unescape? letter = some c) : (Part.char c).IsFor c where
  scanned := by
    intro text
    simp only [escaped, List.cons_append, List.nil_append]
    rw [scanParts?]
    · simp only [read, Option.bind_eq_bind, Option.bind_some]
    · intro _ _ _ _ _ unit_mark
      exact absurd unit_mark not_unit
  joined := by
    intro parts
    rw [joinParts?]

theorem Part.isFor_plain {c : Char} (escaped : escape c = [c]) (not_quote : c ≠ '"')
    (not_backslash : c ≠ '\\') (not_control : ¬c.toNat < 0x20) : (Part.char c).IsFor c where
  scanned := by
    intro text
    simp only [escaped, List.cons_append, List.nil_append]
    rw [scanParts?]
    · exact if_neg (not_or.mpr ⟨not_backslash, not_control⟩)
    · exact not_quote
    · intro _ _ _ _ _ backslash
      exact absurd backslash not_backslash
    · intro _ _ backslash
      exact absurd backslash not_backslash
  joined := by
    intro parts
    rw [joinParts?]

theorem exists_isFor (c : Char) : ∃ part : Part, part.IsFor c := by
  fun_cases escape c with
  | case1 | case2 | case3 | case4 | case5 | case6 | case7 =>
      exact ⟨_, Part.isFor_letter rfl (by decide) rfl⟩
  | case8 c _ _ _ _ _ _ _ control =>
      refine ⟨_, Part.isFor_unit control ?_⟩
      simp [escape, *]
  | case9 c not_quote not_backslash _ _ _ _ _ not_control =>
      refine ⟨_, Part.isFor_plain ?_ not_quote not_backslash not_control⟩
      simp [escape, *]

/-- A written text is read up to its closing quote. -/
theorem next?_quote (s : String) (text : List Char) :
    next? (quote s ++ text) = some (.text s, text) := by
  have read : ∀ chars : List Char, ∃ parts : List Part,
      scanParts? (chars.flatMap escape ++ '"' :: text) = some (parts, text) ∧
        joinParts? parts = some chars := by
    intro chars
    induction chars with
    | nil => exact ⟨[], rfl, rfl⟩
    | cons c chars ih =>
        rcases ih with ⟨parts, scanned, joined⟩
        rcases exists_isFor c with ⟨part, isFor⟩
        refine ⟨part :: parts, ?_, ?_⟩
        · rw [List.flatMap_cons, List.append_assoc, isFor.scanned, scanned]
          rfl
        · rw [isFor.joined, joined]
          rfl
  rcases read s.toList with ⟨parts, scanned, joined⟩
  simp only [quote, List.cons_append, List.append_assoc, List.nil_append, next?, scanned, joined,
    Option.bind_eq_bind, Option.bind_some, String.ofList_toList]

end Texts

section Numbers

/-- What may follow a whole number: the end, or a character that does not go on with it. -/
def EndsNumber (text : List Char) : Prop :=
  ∀ c ∈ text.head?, c.isDigit = false ∧ c ≠ '.' ∧ c ≠ 'e' ∧ c ≠ 'E'

theorem toList_toString_int (i : ℤ) :
    (toString i).toList = (if i < 0 then ['-'] else []) ++ Nat.toDigits 10 i.natAbs := by
  cases i with
  | ofNat n => exact Nat.toList_repr
  | negSucc n =>
      rw [if_pos (Int.negSucc_lt_zero n)]
      show ("-" ++ Nat.repr (n + 1)).toList = _
      rw [String.toList_append, Nat.toList_repr]
      rfl

theorem toDigits_of_leading_zero {n : ℕ} (leading : (Nat.toDigits 10 n).head? = some '0') :
    Nat.toDigits 10 n = ['0'] := by
  induction n using Nat.strong_induction_on with
  | _ n ih =>
      by_cases single : n < 10
      · rw [Nat.toDigits_of_lt_base single] at leading ⊢
        simpa using leading
      · rw [Nat.toDigits_of_base_le (by decide) (by omega),
          List.head?_append_of_ne_nil _ Nat.toDigits_ne_nil] at leading
        have tens_eq : Nat.toDigits 10 (n / 10) = ['0'] := ih (n / 10) (by omega) leading
        have tens_zero : n / 10 = 0 := by
          calc n / 10 = Nat.ofDigitChars 10 (Nat.toDigits 10 (n / 10)) 0 := by simp
            _ = 0 := by rw [tens_eq]; rfl
        omega

variable {text : List Char}

theorem takeWhile_digits (n : ℕ) (ends : EndsNumber text) :
    (Nat.toDigits 10 n ++ text).takeWhile Char.isDigit = Nat.toDigits 10 n := by
  rw [List.takeWhile_append_of_pos]
  · rcases text with _ | ⟨c, rest⟩
    · simp
    · simp [(ends c rfl).1]
  · intro c c_mem
    exact Nat.isDigit_of_mem_toDigits (by decide) (by decide) c_mem

theorem dropWhile_digits (n : ℕ) (ends : EndsNumber text) :
    (Nat.toDigits 10 n ++ text).dropWhile Char.isDigit = text := by
  have parted := @List.takeWhile_append_dropWhile _ Char.isDigit (Nat.toDigits 10 n ++ text)
  rw [takeWhile_digits n ends] at parted
  exact List.append_cancel_left parted

theorem scanFraction?_of_ends (ends : EndsNumber text) :
    Decimal.scanFraction? text = some ([], text) := by
  unfold Decimal.scanFraction?
  split
  · exact absurd rfl (ends '.' rfl).2.1
  · rfl

theorem scanExponent?_of_ends (ends : EndsNumber text) :
    Decimal.scanExponent? text = some (none, text) := by
  unfold Decimal.scanExponent?
  dsimp only
  split
  · exact absurd rfl (ends 'e' rfl).2.2.1
  · exact absurd rfl (ends 'E' rfl).2.2.2
  · rfl

theorem exists_toDigits_eq_cons (n : ℕ) :
    ∃ first others, Nat.toDigits 10 n = first :: others ∧ first.isDigit = true := by
  rcases List.exists_cons_of_ne_nil (Nat.toDigits_ne_nil : Nat.toDigits 10 n ≠ []) with
    ⟨first, others, digits_eq⟩
  refine ⟨first, others, digits_eq, ?_⟩
  apply @Nat.isDigit_of_mem_toDigits 10 n _ (by decide) (by decide)
  exact digits_eq ▸ List.mem_cons_self

theorem ne_minus_of_isDigit {c : Char} (digit : c.isDigit = true) : c ≠ '-' := by
  rintro rfl
  exact absurd digit (by decide)

theorem digits_ne_minus (n : ℕ) (rest : List Char) : Nat.toDigits 10 n ++ text ≠ '-' :: rest := by
  rcases exists_toDigits_eq_cons n with ⟨first, others, digits_eq, digit⟩
  intro minus
  rw [digits_eq, List.cons_append, List.cons.injEq] at minus
  exact ne_minus_of_isDigit digit minus.1

/-- The digits of a number are scanned as the number, behind a sign as well. -/
theorem scan?_toString (i : ℤ) (ends : EndsNumber text) :
    Decimal.Literal.scan? ((toString i).toList ++ text) = some (Decimal.Literal.ofInt i, text) := by
  have digits_ne : (Nat.toDigits 10 i.natAbs).isEmpty = false := by
    simp [Nat.toDigits_ne_nil]
  have number_eq : Decimal.ofDigits (Nat.toDigits 10 i.natAbs ++ []) = i.natAbs := by
    rw [List.append_nil]
    exact Nat.ofDigitChars_toDigits (by decide) (by decide)
  rw [toList_toString_int]
  unfold Decimal.Literal.scan?
  by_cases negative : i < 0
  · simp only [negative, if_true, List.cons_append, List.nil_append,
      List.span_eq_takeWhile_dropWhile, takeWhile_digits i.natAbs ends,
      dropWhile_digits i.natAbs ends, digits_ne, Option.bind_eq_bind, Option.bind_some,
      scanFraction?_of_ends ends, scanExponent?_of_ends ends, number_eq]
    simp [Decimal.Literal.ofInt, negative]
  · simp only [negative, if_false, List.nil_append]
    split
    next minus => exact absurd minus (digits_ne_minus i.natAbs _)
    next =>
      simp only [List.span_eq_takeWhile_dropWhile, takeWhile_digits i.natAbs ends,
        dropWhile_digits i.natAbs ends, digits_ne, Option.bind_eq_bind, Option.bind_some,
        scanFraction?_of_ends ends, scanExponent?_of_ends ends, number_eq]
      simp [Decimal.Literal.ofInt, negative]

/-- A written whole number is read up to where it ends. -/
theorem scanNumber?_toString (i : ℤ) (ends : EndsNumber text) :
    scanNumber? ((toString i).toList ++ text) = some (.integer i, text) := by
  have unsigned_eq :
      (if ((toString i).toList ++ text).head? = some '-' then ((toString i).toList ++ text).tail
        else (toString i).toList ++ text) = Nat.toDigits 10 i.natAbs ++ text := by
    rw [toList_toString_int]
    by_cases negative : i < 0
    · simp [negative]
    · rcases exists_toDigits_eq_cons i.natAbs with ⟨first, others, digits_eq, digit⟩
      have not_minus : first ≠ '-' := ne_minus_of_isDigit digit
      simp [negative, digits_eq, not_minus]
  have single : ¬((Nat.toDigits 10 i.natAbs).head? = some '0' ∧
      1 < (Nat.toDigits 10 i.natAbs).length) := by
    rintro ⟨leading, long⟩
    simp [toDigits_of_leading_zero leading] at long
  simp only [scanNumber?, unsigned_eq, takeWhile_digits i.natAbs ends, single,
    scan?_toString i ends, Option.bind_eq_bind, Option.bind_some]
  have read : (Decimal.Literal.ofInt i).toInt? = some i := by
    by_cases negative : i < 0
    · simp [Decimal.Literal.toInt?, Decimal.Literal.ofInt, negative, abs_of_neg]
    · have abs_eq : |i| = i := abs_of_nonneg (not_lt.mp negative)
      simp [Decimal.Literal.toInt?, Decimal.Literal.ofInt, negative, abs_eq]
  simp [read]

/-- Whatever starts like a number is read as a number. -/
theorem next?_eq_scanNumber? {c : Char} (starts : c.isDigit = true ∨ c = '-') (rest : List Char) :
    next? (c :: rest) = scanNumber? (c :: rest) := by
  unfold next?
  split
  all_goals simp_all

/-- A whole number is written with a digit or a sign first. -/
theorem exists_toString_eq_cons (i : ℤ) : ∃ first others,
    (toString i).toList = first :: others ∧ (first.isDigit = true ∨ first = '-') := by
  rw [toList_toString_int]
  rcases exists_toDigits_eq_cons i.natAbs with ⟨first, others, digits_eq, digit⟩
  by_cases negative : i < 0
  · exact ⟨'-', first :: others, by simp [negative, digits_eq], Or.inr rfl⟩
  · exact ⟨first, others, by simp [negative, digits_eq], Or.inl digit⟩

theorem next?_toString (i : ℤ) (ends : EndsNumber text) :
    next? ((toString i).toList ++ text) = some (.integer i, text) := by
  rw [← scanNumber?_toString i ends]
  rcases exists_toString_eq_cons i with ⟨first, others, text_eq, starts⟩
  rw [text_eq, List.cons_append]
  exact next?_eq_scanNumber? starts _

end Numbers

end ObjectQuery.Json.Token
