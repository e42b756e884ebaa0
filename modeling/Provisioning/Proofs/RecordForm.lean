import Provisioning.Proofs.LawfulForm

/-!
Records by their fields. The fields are read by their names from an object, which may not repeat
them, and by their order from a list. The main statement says that a record whose fields all have
lawful forms has a lawful form itself.
-/

namespace Provisioning

namespace Json

variable {name : String} {document : Json} {fields : List (String × Json)}

/-- A name that no field has is the name of no document. -/
theorem documentsOf_of_notMem (absent : name ∉ fields.map Prod.fst) :
    documentsOf name fields = [] := by
  induction fields with
  | nil => rfl
  | cons field rest inductionHypothesis =>
      obtain ⟨other, value⟩ := field
      obtain ⟨differs, absent⟩ := List.ne_and_not_mem_of_not_mem_cons absent
      rw [documentsOf, if_neg differs, inductionHypothesis absent]

/-- Where each name stands once, every field is the only one of its name. -/
theorem documentsOf_of_mem (distinct : (fields.map Prod.fst).Nodup)
    (member : (name, document) ∈ fields) : documentsOf name fields = [document] := by
  induction fields with
  | nil => nomatch member
  | cons field rest inductionHypothesis =>
      obtain ⟨other, value⟩ := field
      obtain ⟨fresh, distinct⟩ := List.nodup_cons.mp distinct
      rw [documentsOf]
      rcases List.mem_cons.mp member with same | later
      · cases same
        rw [if_pos rfl, documentsOf_of_notMem fresh]
      · rw [if_neg]
        · exact inductionHypothesis distinct later
        · rintro rfl
          exact fresh (List.mem_map.mpr ⟨_, later, rfl⟩)

/-- An object with one document for each name finds the documents in the order of the names. -/
theorem documentsOf_zip {names : List String} {items : List Json} (distinct : names.Nodup)
    (same : items.length = names.length) (index : Nat) (name : String)
    (named : names[index]? = some name) :
    documentsOf name (names.zip items) = items[index]?.toList := by
  obtain ⟨inside, here⟩ := List.getElem?_eq_some_iff.mp named
  have found : items[index]? = some items[index] := List.getElem?_eq_getElem (same ▸ inside)
  have paired : (names.zip items)[index]? = some (name, items[index]) :=
    List.getElem?_zip_eq_some.mpr ⟨named, found⟩
  rw [found]
  apply documentsOf_of_mem
  · rw [List.map_fst_zip (Nat.le_of_eq same.symm)]
    exact distinct
  · exact List.mem_of_getElem? paired

end Json

namespace FieldList

/-- A field list is lawful when it is made of fields that have lawful forms. It is a class, so that
the forms are found along the list. -/
class inductive Lawful {ρ : Type} : {α : Type} → FieldList ρ α → Type 1 where
  | start {α : Type} (constructor : α) : Lawful (.start constructor)
  | field {α β : Type} [JsonForm α] [content : LawfulForm α] {fields : FieldList ρ (α → β)}
      (former : Lawful fields) (name : String) (part : ρ → α) : Lawful (fields.field name part)

section Steps

variable {ρ α β : Type} [JsonForm α] {fields : FieldList ρ (α → β)} {name : String} {part : ρ → α}

theorem write_field (record : ρ) : (fields.field name part).write record =
    fields.write record ++ [(name, encode (part record))] := rfl

theorem read_field (source : FieldSource) : (fields.field name part).read source =
    (fields.read source).bind fun former => (former.2.take name).bind fun taken =>
      some (former.1 taken.1, taken.2) := rfl

/-- A value that is given is read, and a missing one has to be optional. -/
def readField (name : String) (given : List (String × Json)) : Option α :=
  Json.readField JsonForm.absent decode name given

theorem take_named (given : List (String × Json)) : FieldSource.take name (.named given) =
    (readField name given).map fun value : α => (value, .named given) := rfl

theorem take_ordered (item : Json) (rest : List Json) :
    FieldSource.take name (.ordered (item :: rest)) =
      (decode item).map fun value : α => (value, .ordered rest) := rfl

/-- What is written of a field that is read is its full form. -/
theorem map_readField [content : LawfulForm α] (name : String) (given : List (String × Json)) :
    (readField name given : Option α).map encode =
      Json.readField content.schema.missing? content.schema.fullForm? name given := by
  rw [readField, Json.readField, Json.readField]
  rcases Json.documentsOf name given with _ | ⟨document, _ | ⟨second, rest⟩⟩
  · exact content.missing
  · exact content.map_encode document
  · rfl

end Steps

namespace Lawful

variable {ρ α β : Type} {fields : FieldList ρ α}

attribute [instance] start

instance [JsonForm α] [LawfulForm α] {fields : FieldList ρ (α → β)} [former : Lawful fields]
    {name : String} {part : ρ → α} : Lawful (fields.field name part) := .field former name part

/-- The values of the fields are a tuple, which any record has and any source may give. -/
def Values {α : Type} {fields : FieldList ρ α} : Lawful fields → Type
  | start _ => Unit
  | @field _ α _ _ _ _ former _ _ => former.Values × α

/-- The constructor is applied to the values that were read. -/
def build {α : Type} {fields : FieldList ρ α} : (lawful : Lawful fields) → lawful.Values → α
  | start constructor, _ => constructor
  | field former _ _, values => former.build values.1 values.2

def valuesOf {α : Type} {fields : FieldList ρ α} (record : ρ) :
    (lawful : Lawful fields) → lawful.Values
  | start _ => ()
  | field former _ part => (former.valuesOf record, part record)

def writeValues {α : Type} {fields : FieldList ρ α} :
    (lawful : Lawful fields) → lawful.Values → List (String × Json)
  | start _, _ => []
  | field former name _, values => former.writeValues values.1 ++ [(name, encode values.2)]

def readValues {α : Type} {fields : FieldList ρ α} (given : List (String × Json)) :
    (lawful : Lawful fields) → Option lawful.Values
  | start _ => some ()
  | field former name _ => do
      let values ← former.readValues given
      let value ← readField name given
      return (values, value)

def fieldSchemas {α : Type} {fields : FieldList ρ α} : Lawful fields → List (String × Schema)
  | start _ => []
  | @field _ _ _ _ content _ former name _ => former.fieldSchemas ++ [(name, content.schema)]

section Laws

variable (lawful : Lawful fields) {given : List (String × Json)}

/-- One more field has one more schema. -/
theorem length_field [JsonForm α] [LawfulForm α] {fields : FieldList ρ (α → β)}
    (former : Lawful fields) (name : String) (part : ρ → α) :
    (fieldSchemas (field former name part)).length = former.fieldSchemas.length + 1 := by
  rw [fieldSchemas, List.length_append, List.length_singleton]

/-- One more field adds its name at the end. -/
theorem names_field [JsonForm α] [LawfulForm α] {fields : FieldList ρ (α → β)}
    (former : Lawful fields) (name : String) (part : ρ → α) :
    (fieldSchemas (field former name part)).map Prod.fst =
      former.fieldSchemas.map Prod.fst ++ [name] := by
  rw [fieldSchemas, List.map_append, List.map_singleton]

/-- A record is written by its values. -/
theorem write_eq (record : ρ) :
    fields.write record = lawful.writeValues (lawful.valuesOf record) := by
  induction lawful with
  | start constructor => rfl
  | field former name part inductionHypothesis =>
      rw [write_field, writeValues, valuesOf, inductionHypothesis]

/-- The names of the fields are written in their order. -/
theorem map_fst_writeValues (values : lawful.Values) :
    (lawful.writeValues values).map Prod.fst = lawful.fieldSchemas.map Prod.fst := by
  induction lawful with
  | start constructor => rfl
  | field former name part inductionHypothesis =>
      rw [writeValues, names_field, List.map_append, inductionHypothesis, List.map_singleton]

/-- The values of an object are found by their names. -/
theorem read_named : fields.read (.named given) =
    (lawful.readValues given).map fun values => (lawful.build values, .named given) := by
  induction lawful with
  | start constructor => rfl
  | @field α _ _ _ _ former name part inductionHypothesis =>
      rw [read_field, readValues, inductionHypothesis]
      cases former.readValues given with
      | none => rfl
      | some values =>
          change (FieldSource.take name (.named given)).bind _ = _
          rw [take_named]
          cases (readField name given : Option α) <;> rfl

/-- What was written is read back wherever it is found. -/
theorem readValues_of_written {values : lawful.Values}
    (finds : ∀ entry ∈ lawful.writeValues values, Json.documentsOf entry.1 given = [entry.2]) :
    lawful.readValues given = some values := by
  induction lawful with
  | start constructor => rfl
  | @field _ _ _ content _ former name part inductionHypothesis =>
      obtain ⟨values, value⟩ := values
      have here : Json.documentsOf name given = [encode value] :=
        finds (name, encode value) (List.mem_append_right _ List.mem_cons_self)
      have before := inductionHypothesis fun entry member =>
        finds entry (List.mem_append_left _ member)
      have found : readField name given = some value := by
        rw [readField, Json.readField, here]
        exact content.decode_encode value
      rw [readValues, before, found]
      rfl

/-- What is written of the values that are read is the full form of the fields that are given. -/
theorem map_writeValues : (lawful.readValues given).map lawful.writeValues =
    Schema.fullFields? lawful.fieldSchemas given := by
  induction lawful with
  | start constructor => rfl
  | @field α _ _ _ _ former name part inductionHypothesis =>
      rw [fieldSchemas, Schema.fullFields?_append, ← inductionHypothesis, readValues,
        Schema.fullFields?.eq_2, ← map_readField]
      cases former.readValues given with
      | none => rfl
      | some values => cases (readField name given : Option α) <;> rfl

/-- A list that is read gives away one item for each field. -/
theorem rest_of_read_ordered {items : List Json} {read : α × FieldSource}
    (done : fields.read (.ordered items) = some read) :
    lawful.fieldSchemas.length ≤ items.length ∧
      read.2 = .ordered (items.drop lawful.fieldSchemas.length) := by
  -- A list is never read past its end, so each field takes the item at its own place.
  induction lawful with
  | start constructor =>
      cases done
      exact ⟨Nat.zero_le _, rfl⟩
  | field former name part inductionHypothesis =>
      rw [read_field] at done
      obtain ⟨before, doneBefore, done⟩ := Option.bind_eq_some_iff.mp done
      obtain ⟨taken, takes, same⟩ := Option.bind_eq_some_iff.mp done
      cases same
      obtain ⟨enough, left⟩ := inductionHypothesis doneBefore
      rw [left] at takes
      rw [length_field, ← List.tail_drop]
      cases remains : items.drop former.fieldSchemas.length with
      | nil =>
          rw [remains] at takes
          nomatch takes
      | cons item rest =>
          rw [remains] at takes
          obtain ⟨value, decoded, same⟩ := Option.map_eq_some_iff.mp takes
          cases same
          have counted := congrArg List.length remains
          rw [List.length_drop, List.length_cons] at counted
          exact ⟨by omega, rfl⟩

/-- A list is read like the object that gives its items the names of the fields in their order. -/
theorem read_ordered {items : List Json}
    (orders : ∀ (index : Nat) (name : String),
      (lawful.fieldSchemas.map Prod.fst)[index]? = some name →
      Json.documentsOf name given = items[index]?.toList)
    (enough : lawful.fieldSchemas.length ≤ items.length) :
    fields.read (.ordered items) = (lawful.readValues given).map fun values =>
      (lawful.build values, .ordered (items.drop lawful.fieldSchemas.length)) := by
  induction lawful with
  | start constructor => rfl
  | @field α _ _ content _ former name part inductionHypothesis =>
      rw [length_field] at enough ⊢
      rw [names_field] at orders
      have before : ∀ (index : Nat) (other : String),
          (former.fieldSchemas.map Prod.fst)[index]? = some other →
          Json.documentsOf other given = items[index]?.toList := by
        intro index other named
        apply orders
        rw [List.getElem?_append_left (List.getElem?_eq_some_iff.mp named).1, named]
      have last : Json.documentsOf name given = items[former.fieldSchemas.length]?.toList := by
        apply orders
        rw [← List.length_map Prod.fst, List.getElem?_concat_length]
      have here : (readField name given : Option α) = decode items[former.fieldSchemas.length] := by
        rw [readField, Json.readField, last, List.getElem?_eq_getElem enough]
        rfl
      rw [read_field, inductionHypothesis before (Nat.le_of_succ_le enough), readValues, here,
        List.drop_eq_getElem_cons enough]
      cases former.readValues given with
      | none => rfl
      | some values =>
          change (FieldSource.take name (.ordered (_ :: _))).bind _ = _
          rw [take_ordered]
          cases (decode items[former.fieldSchemas.length] : Option α) <;> rfl

end Laws

section Records

variable {fields : FieldList ρ ρ} (lawful : Lawful fields)

/-- An object is read by the names of its fields. -/
theorem decode_obj (given : List (String × Json)) :
    (JsonForm.ofFields fields).decode (.obj given) =
      (lawful.readValues given).map lawful.build := by
  change (fields.read (.named given)).bind
    (fun read => if read.2.isComplete then some read.1 else none) = _
  rw [lawful.read_named]
  cases lawful.readValues given <;> rfl

/-- A list of the right length is read like the object that it stands for. -/
theorem decode_arr (distinct : (lawful.fieldSchemas.map Prod.fst).Nodup) (items : List Json) :
    (JsonForm.ofFields fields).decode (.arr items) =
      if items.length = lawful.fieldSchemas.length then
        (lawful.readValues ((lawful.fieldSchemas.map Prod.fst).zip items)).map lawful.build
      else none := by
  change (fields.read (.ordered items)).bind
    (fun read => if read.2.isComplete then some read.1 else none) = _
  split
  next same =>
    have orders := Json.documentsOf_zip distinct (same.trans (List.length_map _).symm)
    rw [lawful.read_ordered orders (Nat.le_of_eq same.symm), ← same, List.drop_length]
    cases lawful.readValues ((lawful.fieldSchemas.map Prod.fst).zip items) <;> rfl
  next different =>
    cases done : fields.read (.ordered items) with
    | none => rfl
    | some read =>
        obtain ⟨enough, left⟩ := lawful.rest_of_read_ordered done
        obtain ⟨item, rest, remains⟩ : ∃ item rest,
            items.drop lawful.fieldSchemas.length = item :: rest := by
          apply List.exists_cons_of_ne_nil
          intro empty
          exact different (Nat.le_antisymm (List.drop_eq_nil_iff.mp empty) enough)
        change (if read.2.isComplete then some read.1 else none) = none
        rw [left, remains]
        rfl

end Records

end Lawful

end FieldList

/-- A field list is faithful to a record when it puts each record together from its own parts, and
when its fields have names of their own. -/
structure FieldList.Faithful {ρ : Type} (fields : FieldList ρ ρ) where
  lawful : fields.Lawful
  rebuilds : ∀ record, lawful.build (lawful.valuesOf record) = record := by exact fun _ => rfl
  returns : ∀ values, lawful.valuesOf (lawful.build values) = values := by exact fun _ => rfl
  distinct : (lawful.fieldSchemas.map Prod.fst).Nodup := by decide

namespace FieldList.Faithful

variable {ρ : Type} {fields : FieldList ρ ρ} (faithful : fields.Faithful)

/-- What is written of the values that are read is the full form of what is given. -/
theorem rewrites (given : List (String × Json)) :
    ((faithful.lawful.readValues given).map faithful.lawful.build).map
        (fun record => Json.obj (fields.write record)) =
      (Schema.fullFields? faithful.lawful.fieldSchemas given).map .obj := by
  rw [← faithful.lawful.map_writeValues, Option.map_map, Option.map_map]
  apply congrArg (Option.map · _)
  funext values
  change Json.obj (fields.write (faithful.lawful.build values)) =
    .obj (faithful.lawful.writeValues values)
  rw [faithful.lawful.write_eq, faithful.returns]

/-- A record that is written has every field once under its name. -/
theorem documentsOf_write (record : ρ) :
    ∀ entry ∈ faithful.lawful.writeValues (faithful.lawful.valuesOf record),
      Json.documentsOf entry.1 (fields.write record) = [entry.2] := by
  intro entry member
  rw [faithful.lawful.write_eq]
  apply Json.documentsOf_of_mem _ member
  rw [faithful.lawful.map_fst_writeValues]
  exact faithful.distinct

end FieldList.Faithful

/-- A record with a faithful field list has a lawful form. -/
abbrev LawfulForm.ofFields {ρ : Type} {fields : FieldList ρ ρ} (faithful : fields.Faithful) :
    @LawfulForm ρ (.ofFields fields) :=
  letI : JsonForm ρ := .ofFields fields
  { schema := .record faithful.lawful.fieldSchemas
    decode_encode := fun record => by
      change decode (Json.obj (fields.write record)) = some record
      rw [faithful.lawful.decode_obj,
        faithful.lawful.readValues_of_written (faithful.documentsOf_write record), Option.map_some,
        faithful.rebuilds]
    map_encode := fun document => by
      cases document with
      | obj given =>
          rw [faithful.lawful.decode_obj]
          exact faithful.rewrites given
      | arr items =>
          rw [faithful.lawful.decode_arr faithful.distinct, Schema.fullForm?]
          split
          · exact faithful.rewrites _
          · rfl
      | _ => rfl
    missing := rfl }

end Provisioning
