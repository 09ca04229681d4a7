import ObjectQuery.Json.Decode
import ObjectQuery.Proofs.Json.Reading
import ObjectQuery.Proofs.Lookup

/-!
# Documents with members that may be left out

A form is a document whose members tell the default they may be left out for. The documents that
trim it lack any of the members that have their default, at any depth. What a decoder makes of all
of these is said once for each part that decoders are made of.
-/

namespace ObjectQuery.Json

/-- A document in which a member with a default names it. -/
inductive Form where
  | leaf (document : Json)
  | list (items : List Form)
  | object (members : List (String × Option Json × Form))

namespace Form

/-- A member that has to be there. -/
def required (name : String) (content : Form) : String × Option Json × Form :=
  (name, none, content)

/-- A member that may be left out where it has its default. -/
def defaulted (name : String) (default : Json) (content : Form) : String × Option Json × Form :=
  (name, some default, content)

@[simp]
theorem fst_required (name : String) (content : Form) : (required name content).1 = name :=
  rfl

@[simp]
theorem fst_defaulted (name : String) (default : Json) (content : Form) :
    (defaulted name default content).1 = name :=
  rfl

mutual

/-- The document with all its members. -/
def full : Form → Json
  | .leaf document => document
  | .list items => .list (fullItems items)
  | .object members => .object (fullMembers members)

def fullItems : List Form → List Json
  | [] => []
  | item :: rest => item.full :: fullItems rest

def fullMembers : List (String × Option Json × Form) → List (String × Json)
  | [] => []
  | (name, _, content) :: rest => (name, content.full) :: fullMembers rest

end

theorem fullItems_map {α : Type} (formOf : α → Form) (items : List α) :
    fullItems (items.map formOf) = items.map fun item => (formOf item).full := by
  induction items with
  | nil => rfl
  | cons item rest ih => rw [List.map_cons, fullItems, ih, List.map_cons]

theorem decimalFreeItems_map {α : Type} {documentOf : α → Json} {items : List α}
    (free : ∀ item ∈ items, (documentOf item).DecimalFree) :
    DecimalFreeItems (items.map documentOf) := by
  induction items with
  | nil => exact trivial
  | cons item rest ih =>
      rw [List.forall_mem_cons] at free
      exact ⟨free.1, ih free.2⟩

mutual

/-- The document lacks some of the members that have their default, and no others. -/
inductive Trims : Form → Json → Prop
  | leaf (document : Json) : Trims (.leaf document) document
  | list {items : List Form} {documents : List Json} :
      TrimsItems items documents → Trims (.list items) (.list documents)
  | object {members : List (String × Option Json × Form)} {kept : List (String × Json)} :
      TrimsMembers members kept → Trims (.object members) (.object kept)

inductive TrimsItems : List Form → List Json → Prop
  | nil : TrimsItems [] []
  | cons {item : Form} {rest : List Form} {document : Json} {documents : List Json} :
      Trims item document → TrimsItems rest documents →
        TrimsItems (item :: rest) (document :: documents)

inductive TrimsMembers : List (String × Option Json × Form) → List (String × Json) → Prop
  | nil : TrimsMembers [] []
  | keep {name : String} {default? : Option Json} {content : Form} {document : Json}
      {rest : List (String × Option Json × Form)} {kept : List (String × Json)} :
      Trims content document → TrimsMembers rest kept →
        TrimsMembers ((name, default?, content) :: rest) ((name, document) :: kept)
  | drop {name : String} {default? : Option Json} {content : Form}
      {rest : List (String × Option Json × Form)} {kept : List (String × Json)} :
      default? = some content.full → TrimsMembers rest kept →
        TrimsMembers ((name, default?, content) :: rest) kept

end

mutual

theorem trims_full (form : Form) : form.Trims form.full := by
  cases form with
  | leaf document => exact .leaf document
  | list items => exact .list (trimsItems_full items)
  | object members => exact .object (trimsMembers_full members)

theorem trimsItems_full (items : List Form) : TrimsItems items (fullItems items) := by
  match items with
  | [] => exact .nil
  | item :: rest => exact .cons (trims_full item) (trimsItems_full rest)

theorem trimsMembers_full (members : List (String × Option Json × Form)) :
    TrimsMembers members (fullMembers members) := by
  match members with
  | [] => exact .nil
  | (name, default?, content) :: rest => exact .keep (trims_full content) (trimsMembers_full rest)

end

mutual

/-- What is left of a document without decimal numbers has none. -/
theorem Trims.decimalFree (form : Form) {document : Json} (trims : form.Trims document)
    (free : form.full.DecimalFree) : document.DecimalFree := by
  cases trims with
  | leaf document => exact free
  | list items_trim => exact TrimsItems.decimalFree _ items_trim free
  | object members_trim => exact TrimsMembers.decimalFree _ members_trim free

theorem TrimsItems.decimalFree (items : List Form) {documents : List Json}
    (trims : TrimsItems items documents) (free : DecimalFreeItems (fullItems items)) :
    DecimalFreeItems documents := by
  cases trims with
  | nil => exact trivial
  | cons item_trims rest_trim =>
      exact ⟨Trims.decimalFree _ item_trims free.1, TrimsItems.decimalFree _ rest_trim free.2⟩

theorem TrimsMembers.decimalFree (members : List (String × Option Json × Form))
    {kept : List (String × Json)} (trims : TrimsMembers members kept)
    (free : DecimalFreeMembers (fullMembers members)) : DecimalFreeMembers kept := by
  cases trims with
  | nil => exact trivial
  | keep content_trims rest_trim =>
      exact ⟨Trims.decimalFree _ content_trims free.1, TrimsMembers.decimalFree _ rest_trim free.2⟩
  | drop default_eq rest_trim => exact TrimsMembers.decimalFree _ rest_trim free.2

end

/-- What an object has of a member: a trimmed document, or nothing in place of the default. -/
inductive Holds (kept : List (String × Json)) : String × Option Json × Form → Prop
  | kept {name : String} {default? : Option Json} {content : Form} {document : Json} :
      kept.lookup name = some document → content.Trims document →
        Holds kept (name, default?, content)
  | missing {name : String} {default? : Option Json} {content : Form} :
      kept.lookup name = none → default? = some content.full → Holds kept (name, default?, content)

theorem Holds.behind {kept : List (String × Json)} {member : String × Option Json × Form}
    {name : String} (holds : Holds kept member) (differ : member.1 ≠ name) (document : Json) :
    Holds ((name, document) :: kept) member := by
  cases holds with
  | kept found trims => exact .kept (by rw [lookup_cons_eq, if_neg differ, found]) trims
  | missing absent default_eq =>
      exact .missing (by rw [lookup_cons_eq, if_neg differ, absent]) default_eq

theorem TrimsMembers.mem_names {members : List (String × Option Json × Form)}
    {kept : List (String × Json)} (trims : TrimsMembers members kept) {name : String}
    (name_mem : name ∈ kept.map Prod.fst) : name ∈ members.map Prod.fst := by
  induction members generalizing kept with
  | nil =>
      cases trims
      exact name_mem
  | cons first rest ih =>
      cases trims with
      | keep content_trims rest_trim =>
          rw [List.map_cons, List.mem_cons] at name_mem ⊢
          exact name_mem.imp id (ih rest_trim)
      | drop default_eq rest_trim => exact List.mem_cons_of_mem _ (ih rest_trim name_mem)

theorem TrimsMembers.holds {members : List (String × Option Json × Form)}
    {kept : List (String × Json)} (trims : TrimsMembers members kept)
    (distinct : (members.map Prod.fst).Nodup) : ∀ member ∈ members, Holds kept member := by
  induction members generalizing kept with
  | nil => simp
  | cons first rest ih =>
      rw [List.map_cons, List.nodup_cons] at distinct
      rw [List.forall_mem_cons]
      cases trims with
      | keep content_trims rest_trim =>
          refine ⟨.kept (by rw [lookup_cons_eq, if_pos rfl]) content_trims, ?_⟩
          -- What stands in front of a member does not hide it, since it has another name.
          intro member member_mem
          apply (ih rest_trim distinct.2 member member_mem).behind
          intro same
          exact distinct.1 (List.mem_map.mpr ⟨member, member_mem, same⟩)
      | drop default_eq rest_trim =>
          refine ⟨.missing ?_ default_eq, ih rest_trim distinct.2⟩
          rw [List.lookup_eq_none_iff]
          intro entry entry_mem
          rw [bne_iff_ne]
          intro same
          apply distinct.1
          exact rest_trim.mem_names (List.mem_map.mpr ⟨entry, entry_mem, same.symm⟩)

section Decoders

variable {α β : Type} {decode : Json → Option α}

/-- A decoder makes one thing of all documents that trim a form. -/
def Decodes (decode : Json → Option α) (form : Form) (a : α) : Prop :=
  ∀ document, form.Trims document → decode document = some a

theorem decodes_leaf {document : Json} {a : α} (decoded : decode document = some a) :
    Decodes decode (.leaf document) a := by
  rintro _ ⟨⟩
  exact decoded

theorem decodes_text (s : String) : Decodes text? (.leaf (.text s)) s :=
  decodes_leaf rfl

theorem decodes_bool (b : Bool) : Decodes bool? (.leaf (.bool b)) b :=
  decodes_leaf rfl

theorem decodes_int64 (i : Int64) : Decodes int64? (.leaf (.integer i.toInt)) i := by
  apply decodes_leaf
  rw [int64?, if_pos ⟨Int64.minValue_le_toInt i, Int64.toInt_le i⟩, Int64.ofInt_toInt]

theorem decodes_optionalText (text : Option String) :
    Decodes (nullable? text?) (.leaf (ofOption .text text)) text := by
  cases text <;> exact decodes_leaf rfl

theorem decodes_object {members : List (String × Option Json × Form)} {a : α}
    (distinct : (members.map Prod.fst).Nodup)
    (decoded : ∀ kept, List.Forall (Holds kept) members → decode (.object kept) = some a) :
    Decodes decode (.object members) a := by
  intro document trims
  cases trims with
  | object members_trim =>
      apply decoded
      exact List.forall_iff_forall_mem.mpr (members_trim.holds distinct)

theorem decodes_items {formOf : α → Form} {values : List α}
    (each : ∀ a ∈ values, Decodes decode (formOf a) a) :
    Decodes (items? decode) (.list (values.map formOf)) values := by
  intro document trims
  cases trims with
  | @list _ documents items_trim =>
      show documents.mapM decode = some values
      induction values generalizing documents with
      | nil =>
          cases items_trim
          rfl
      | cons a rest ih =>
          rw [List.forall_mem_cons] at each
          cases items_trim with
          | cons item_trims rest_trim =>
              rw [List.mapM_cons, each.1 _ item_trims, ih each.2 rest_trim]
              rfl

theorem items?_nil : items? decode (.list []) = some [] :=
  rfl

theorem decodes_pair {first : Json → Option α} {second : Json → Option β} {form form' : Form}
    {a : α} {b : β} (first_decodes : Decodes first form a)
    (second_decodes : Decodes second form' b) :
    Decodes (pair? first second) (.list [form, form']) (a, b) := by
  rintro _ (_ | ⟨_ | ⟨first_trims, _ | ⟨second_trims, ⟨⟩⟩⟩⟩)
  simp [pair?, first_decodes _ first_trims, second_decodes _ second_trims]

variable {kept : List (String × Json)} {name : String} {content : Form} {a : α}

theorem val_member? (name : String) (kept : List (String × Json)) :
    ((Json.object kept).member? name).map Subtype.val = kept.lookup name := by
  rw [member?, Option.map_map]
  induction kept with
  | nil => rfl
  | cons member rest ih =>
      rcases member with ⟨key, value⟩
      rw [lookup?, lookup_cons_eq]
      by_cases same : key = name
      · simp [same]
      · rw [if_neg same, if_neg (Ne.symm same), ← ih, Option.map_map]
        rfl

theorem fieldOr?_object (name : String) (default : α) (kept : List (String × Json))
    (decode : Json → Option α) :
    (Json.object kept).fieldOr? name default decode =
      ((kept.lookup name).map decode).getD (some default) := by
  rw [← val_member?]
  unfold fieldOr?
  cases (Json.object kept).member? name <;> rfl

theorem Holds.exists_member (holds : Holds kept (required name content)) :
    ∃ member, (Json.object kept).member? name = some member ∧ content.Trims member.1 := by
  rcases holds with ⟨found, trims⟩ | ⟨-, ⟨⟩⟩
  rw [← val_member?, Option.map_eq_some_iff] at found
  rcases found with ⟨member, member_eq, rfl⟩
  exact ⟨member, member_eq, trims⟩

theorem Holds.field? (holds : Holds kept (required name content))
    (decodes : Decodes decode content a) : (Json.object kept).field? name decode = some a := by
  rcases holds.exists_member with ⟨member, member_eq, trims⟩
  rw [Json.field?, member_eq]
  exact decodes _ trims

/-- A member may be left out if its default is read as what stands for a missing member. -/
theorem Holds.fieldOr? {default : Json} {missing : α}
    (holds : Holds kept (defaulted name default content)) (decodes : Decodes decode content a)
    (default_read : decode default = some missing) :
    (Json.object kept).fieldOr? name missing decode = some a := by
  rw [fieldOr?_object]
  rcases holds with ⟨found, trims⟩ | ⟨absent, default_eq⟩
  · rw [found]
    exact decodes _ trims
  · have full_read := decodes _ content.trims_full
    rw [← Option.some.inj default_eq, default_read] at full_read
    rw [absent]
    exact full_read

theorem Holds.optional? {value : Option α} (holds : Holds kept (defaulted name .null content))
    (decodes : Decodes (nullable? decode) content value) :
    (Json.object kept).optional? name decode = some value :=
  holds.fieldOr? decodes rfl

end Decoders

end Form

end ObjectQuery.Json
