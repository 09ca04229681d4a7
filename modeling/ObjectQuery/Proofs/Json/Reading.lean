import ObjectQuery.Proofs.Json.Words

/-!
# Written documents are read back

The text of a document that holds no decimal number is split into the tokens it was written with,
and these are read as the document. Decimal numbers are left out: those that are no finite number
are written as null.
-/

namespace ObjectQuery.Json

mutual

/-- No part of the document is a decimal number. -/
def DecimalFree : Json → Prop
  | .decimal _ => False
  | .list items => DecimalFreeItems items
  | .object members => DecimalFreeMembers members
  | .null | .bool _ | .integer _ | .text _ => True

def DecimalFreeItems : List Json → Prop
  | [] => True
  | item :: rest => item.DecimalFree ∧ DecimalFreeItems rest

def DecimalFreeMembers : List (String × Json) → Prop
  | [] => True
  | (_, value) :: rest => value.DecimalFree ∧ DecimalFreeMembers rest

end

mutual

/-- The tokens that a document is written with. -/
def tokens : Json → List Token
  | .null => [.null]
  | .bool b => [.bool b]
  | .integer i => [.integer i]
  | .decimal x => [.decimal x]
  | .text s => [.text s]
  | .list items => .openList :: itemTokens items ++ [.closeList]
  | .object members => .openObject :: memberTokens members ++ [.closeObject]

def itemTokens : List Json → List Token
  | [] => []
  | [item] => item.tokens
  | item :: next :: rest => item.tokens ++ .comma :: itemTokens (next :: rest)

def memberTokens : List (String × Json) → List Token
  | [] => []
  | [(key, value)] => .text key :: .colon :: value.tokens
  | (key, value) :: next :: rest =>
      .text key :: .colon :: value.tokens ++ .comma :: memberTokens (next :: rest)

end

section Scanning

open Token

/-- A text is split into tokens, however many tokens are allowed beyond its length. -/
def Scans (text : List Char) (tokens : List Token) : Prop :=
  ∀ limit, text.length ≤ limit → scanUpTo? limit text = some tokens

variable {text following : List Char} {head : Token} {tokens : List Token}

theorem Scans.nil : Scans [] [] := by
  intro limit _
  cases limit <;> rfl

theorem Scans.word {c : Char} {rest : List Char}
    (next : next? (c :: rest) = some (head, following)) (solid : isBlank c = false)
    (behind : following <:+ rest) (scans : Scans following tokens) :
    Scans (c :: rest) (head :: tokens) := by
  intro limit enough
  have shorter : following.length ≤ rest.length := behind.length_le
  rw [List.length_cons] at enough
  rcases limit with _ | limit
  · omega
  have scanned : scanUpTo? limit following = some tokens := scans limit (by omega)
  simp [scanUpTo?, solid, next, scanned]

theorem Scans.quote (scans : Scans text tokens) (s : String) :
    Scans (Json.quote s ++ text) (.text s :: tokens) :=
  Scans.word (next?_quote s text) rfl (List.suffix_append _ _) scans

theorem isBlank_of_isDigit {c : Char} (digit : c.isDigit = true) : isBlank c = false := by
  rw [Bool.eq_false_iff]
  intro blank
  simp only [isBlank, Bool.or_eq_true, beq_iff_eq] at blank
  rcases blank with ((rfl | rfl) | rfl) | rfl
  all_goals exact absurd digit (by decide)

theorem Scans.integer (scans : Scans text tokens) (ends : EndsNumber text) (i : ℤ) :
    Scans ((toString i).toList ++ text) (.integer i :: tokens) := by
  have next := next?_toString i ends
  rcases exists_toString_eq_cons i with ⟨first, others, text_eq, starts⟩
  rw [text_eq] at next ⊢
  apply Scans.word next _ (List.suffix_append _ _) scans
  rcases starts with digit | rfl
  · exact isBlank_of_isDigit digit
  · rfl

theorem endsNumber_cons {c : Char} (mark : c = ',' ∨ c = ']' ∨ c = '}') (text : List Char) :
    EndsNumber (c :: text) := by
  intro first first_eq
  obtain rfl : c = first := by simpa using first_eq
  rcases mark with rfl | rfl | rfl
  all_goals decide

mutual

/-- What is written for a document is split into the document's tokens. -/
theorem Scans.write (document : Json) (free : document.DecimalFree) {text : List Char}
    {tokens : List Token} (ends : EndsNumber text) (scans : Scans text tokens) :
    Scans (document.write ++ text) (document.tokens ++ tokens) := by
  cases document with
  | null => exact Scans.word rfl rfl (List.suffix_append ['u', 'l', 'l'] text) scans
  | bool b =>
      cases b with
      | true => exact Scans.word rfl rfl (List.suffix_append ['r', 'u', 'e'] text) scans
      | false => exact Scans.word rfl rfl (List.suffix_append ['a', 'l', 's', 'e'] text) scans
  | integer i => exact scans.integer ends i
  | decimal x => exact absurd free id
  | text s => exact scans.quote s
  | list items =>
      have closed : Scans (']' :: text) (.closeList :: tokens) :=
        Scans.word rfl rfl List.suffix_rfl scans
      have ends : EndsNumber (']' :: text) := endsNumber_cons (Or.inr (Or.inl rfl)) text
      have scanned := Scans.writeItems items free ends closed
      simp only [Json.write, Json.tokens, List.cons_append, List.append_assoc, List.nil_append]
      exact Scans.word rfl rfl List.suffix_rfl scanned
  | object members =>
      have closed : Scans ('}' :: text) (.closeObject :: tokens) :=
        Scans.word rfl rfl List.suffix_rfl scans
      have ends : EndsNumber ('}' :: text) := endsNumber_cons (Or.inr (Or.inr rfl)) text
      have scanned := Scans.writeMembers members free ends closed
      simp only [Json.write, Json.tokens, List.cons_append, List.append_assoc, List.nil_append]
      exact Scans.word rfl rfl List.suffix_rfl scanned

theorem Scans.writeItems (items : List Json) (free : DecimalFreeItems items) {text : List Char}
    {tokens : List Token} (ends : EndsNumber text) (scans : Scans text tokens) :
    Scans (Json.writeItems items ++ text) (itemTokens items ++ tokens) := by
  match items with
  | [] => exact scans
  | [item] => exact Scans.write item free.1 ends scans
  | item :: next :: rest =>
      have separated : Scans (',' :: (Json.writeItems (next :: rest) ++ text))
          (.comma :: (itemTokens (next :: rest) ++ tokens)) :=
        Scans.word rfl rfl List.suffix_rfl (Scans.writeItems (next :: rest) free.2 ends scans)
      simp only [Json.writeItems, itemTokens, List.append_assoc, List.cons_append]
      exact Scans.write item free.1 (endsNumber_cons (Or.inl rfl) _) separated

theorem Scans.writeMembers (members : List (String × Json)) (free : DecimalFreeMembers members)
    {text : List Char} {tokens : List Token} (ends : EndsNumber text) (scans : Scans text tokens) :
    Scans (Json.writeMembers members ++ text) (memberTokens members ++ tokens) := by
  match members with
  | [] => exact scans
  | [(key, value)] =>
      simp only [Json.writeMembers, memberTokens, List.append_assoc, List.cons_append]
      apply Scans.quote
      exact Scans.word rfl rfl List.suffix_rfl (Scans.write value free.1 ends scans)
  | (key, value) :: next :: rest =>
      have separated : Scans (',' :: (Json.writeMembers (next :: rest) ++ text))
          (.comma :: (memberTokens (next :: rest) ++ tokens)) :=
        Scans.word rfl rfl List.suffix_rfl (Scans.writeMembers (next :: rest) free.2 ends scans)
      simp only [Json.writeMembers, memberTokens, List.append_assoc, List.cons_append]
      apply Scans.quote
      apply Scans.word rfl rfl List.suffix_rfl
      exact Scans.write value free.1 (endsNumber_cons (Or.inl rfl) _) separated

end

theorem scan?_write (document : Json) (free : document.DecimalFree) :
    scan? document.write = some document.tokens := by
  have ends : EndsNumber [] := by
    intro c first
    simp at first
  have scanned := Scans.write document free ends Scans.nil
  rw [List.append_nil, List.append_nil] at scanned
  exact scanned _ le_rfl

end Scanning

section Reading

open Reader

/-- A list that is just opened expects of its first item what an open list expects. -/
theorem foldlM_expectItem (item : Json) (others : List Json) (frames : List Frame)
    (rest : List Token) :
    (itemTokens (item :: others) ++ rest).foldlM step? (.expectItem frames) =
      (itemTokens (item :: others) ++ rest).foldlM step? (.expectValue (.list [] :: frames)) := by
  have first : ∀ following : List Token,
      (item.tokens ++ following).foldlM step? (.expectItem frames) =
        (item.tokens ++ following).foldlM step? (.expectValue (.list [] :: frames)) := by
    intro following
    cases item <;> rfl
  cases others with
  | nil => exact first rest
  | cons next others =>
      rw [itemTokens, List.append_assoc]
      exact first _

theorem foldlM_expectMember (member : String × Json) (others : List (String × Json))
    (frames : List Frame) (rest : List Token) :
    (memberTokens (member :: others) ++ rest).foldlM step? (.expectMember frames) =
      (memberTokens (member :: others) ++ rest).foldlM step? (.expectKey [] frames) := by
  cases others <;> rfl

mutual

/-- The tokens of a document are read as the document, within whatever is open. -/
theorem foldlM_tokens (document : Json) (frames : List Frame) (rest : List Token) :
    (document.tokens ++ rest).foldlM step? (.expectValue frames) =
      rest.foldlM step? (.after document frames) := by
  match document with
  | .null | .bool b | .integer i | .decimal x | .text s => rfl
  | .list [] => rfl
  | .list (item :: others) =>
      rw [tokens, List.append_assoc]
      apply (foldlM_expectItem item others frames _).trans
      exact foldlM_items (item :: others) (List.cons_ne_nil _ _) [] frames rest
  | .object [] => rfl
  | .object (member :: others) =>
      rw [tokens, List.append_assoc]
      apply (foldlM_expectMember member others frames _).trans
      exact foldlM_members (member :: others) (List.cons_ne_nil _ _) [] frames rest

/-- The items that are left of a list are put behind those it has, which come latest first. -/
theorem foldlM_items (items : List Json) (left : items ≠ []) (done : List Json)
    (frames : List Frame) (rest : List Token) :
    (itemTokens items ++ .closeList :: rest).foldlM step? (.expectValue (.list done :: frames)) =
      rest.foldlM step? (.after (.list (done.reverse ++ items)) frames) := by
  match items with
  | [item] =>
      rw [itemTokens, foldlM_tokens item]
      show rest.foldlM step? (.after (.list (item :: done).reverse) frames) = _
      rw [List.reverse_cons]
  | item :: next :: others =>
      rw [itemTokens, List.append_assoc, foldlM_tokens item]
      have others_read :=
        foldlM_items (next :: others) (List.cons_ne_nil _ _) (item :: done) frames rest
      rw [List.reverse_cons, List.append_assoc, List.singleton_append] at others_read
      exact others_read

/-- The members that are left of an object are put behind those it has, which come latest first. -/
theorem foldlM_members (members : List (String × Json)) (left : members ≠ [])
    (done : List (String × Json)) (frames : List Frame) (rest : List Token) :
    (memberTokens members ++ .closeObject :: rest).foldlM step? (.expectKey done frames) =
      rest.foldlM step? (.after (.object (done.reverse ++ members)) frames) := by
  match members with
  | [(key, value)] =>
      have value_read := foldlM_tokens value (.member done key :: frames) (.closeObject :: rest)
      rw [← List.reverse_cons]
      exact value_read
  | (key, value) :: next :: others =>
      have value_read := foldlM_tokens value (.member done key :: frames)
        (.comma :: (memberTokens (next :: others) ++ .closeObject :: rest))
      have others_read := foldlM_members (next :: others) (List.cons_ne_nil _ _)
        ((key, value) :: done) frames rest
      rw [List.reverse_cons, List.append_assoc, List.singleton_append] at others_read
      simp only [memberTokens, List.cons_append, List.append_assoc]
      exact value_read.trans others_read

end

theorem ofTokens?_tokens (document : Json) : ofTokens? document.tokens = some document := by
  have read := foldlM_tokens document [] []
  rw [List.append_nil] at read
  rw [ofTokens?, read]
  rfl

/-- A document without decimal numbers is read back from its text. -/
theorem read?_compact (document : Json) (free : document.DecimalFree) :
    read? document.compact = some document := by
  simp only [read?, compact, String.toList_ofList, scan?_write document free,
    Option.bind_eq_bind, Option.bind_some, ofTokens?_tokens]

end Reading

end ObjectQuery.Json
