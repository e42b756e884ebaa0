import Provisioning.Json.Form

/-!
Schemas: what the documents of a type look like. A document that fits a schema has a full form, in
which unknown fields are dropped and missing optional fields are null. A document that repeats a
field of its record does not fit. The main statement says how the fields of a full form come from
the fields that are given.
-/

namespace Provisioning

namespace Json

/-- A choice is a name, or an object that gives the name with nothing in it. -/
def choice? (names : List String) : Json → Option Json
  | .str name => if name ∈ names then some (.str name) else none
  | .obj [(name, .null)] => if name ∈ names then some (.str name) else none
  | _ => none

variable {α : Type} {name : String} {given : List (String × Json)}

/-- The first field of a name has the first of its documents. -/
theorem fieldOf_eq_head? (name : String) (given : List (String × Json)) :
    fieldOf name given = (documentsOf name given).head? := by
  induction given with
  | nil => rfl
  | cons field rest inductionHypothesis =>
      obtain ⟨other, document⟩ := field
      rw [fieldOf, documentsOf]
      split
      · rfl
      · exact inductionHypothesis

/-- A field that is read is given at most once, and its value is that of the first document of its
name. -/
theorem readField_eq_some {missing : Option α} {read : Json → Option α} {value : α}
    (done : readField missing read name given = some value) :
    (documentsOf name given).length ≤ 1 ∧ (fieldOf name given).elim missing read = some value := by
  rw [fieldOf_eq_head?]
  rw [readField] at done
  generalize documentsOf name given = documents at done ⊢
  rcases documents with _ | ⟨document, _ | ⟨second, rest⟩⟩
  · exact ⟨Nat.zero_le _, done⟩
  · exact ⟨Nat.le_refl _, done⟩
  · nomatch done

end Json

/-- A schema says what a document may be. The fields of a record have schemas of their own. -/
inductive Schema where
  | flag
  | text
  | whole (bound : Nat)
  | address
  | choice (names : List String)
  | tagged (names : List String) (tag : String) (content : Schema)
  | optional (content : Schema)
  | list (item : Schema)
  | table (item : Schema)
  | record (fields : List (String × Schema))

namespace Schema

/-- A missing document stands for null where null is allowed. -/
def missing? : Schema → Option Json
  | optional _ => some .null
  | _ => none

mutual

/-- A document that fits has a full form. A record may be given as the list of its fields. -/
def fullForm? : Schema → Json → Option Json
  | flag, .bool value => some (.bool value)
  | text, .str value => some (.str value)
  | whole bound, document => (document.natBelow? bound).map .ofNat
  | address, .str value => (Ipv4.ofText? value).map fun _ => .str value
  | choice names, document => document.choice? names
  | tagged names tag content, document =>
      match document with
      | .obj [(name, inner)] =>
          if name = tag then (content.fullForm? inner).map fun full => .obj [(tag, full)]
          else document.choice? names
      | _ => document.choice? names
  | optional content, document =>
      match document with
      | .null => some .null
      | _ => content.fullForm? document
  | list item, .arr items => (items.mapM item.fullForm?).map .arr
  | table item, .obj entries =>
      (entries.mapM fun entry => (item.fullForm? entry.2).map (entry.1, ·)).map fun entries =>
        .obj (SortedMap.ofList entries).entries
  | record fields, .obj given => (fullFields? fields given).map .obj
  | record fields, .arr items =>
      if items.length = fields.length then
        (fullFields? fields ((fields.map Prod.fst).zip items)).map .obj
      else none
  | _, _ => none

/-- The full form of a record has each field once, whether it is given or missing. -/
def fullFields? : List (String × Schema) → List (String × Json) → Option (List (String × Json))
  | [], _ => some []
  | (name, content) :: rest, given => do
      let full ← Json.readField content.missing? content.fullForm? name given
      let others ← fullFields? rest given
      return (name, full) :: others

end

/-- A document without the tag of a schema is a plain choice. -/
theorem fullForm?_tagged {names : List String} {tag : String} {content : Schema} {document : Json}
    (untagged : ∀ inner, document ≠ .obj [(tag, inner)]) :
    (tagged names tag content).fullForm? document = document.choice? names := by
  by_cases single : ∃ name inner, document = .obj [(name, inner)]
  · obtain ⟨name, inner, rfl⟩ := single
    rw [fullForm?, if_neg]
    rintro rfl
    exact untagged inner rfl
  · rw [fullForm?]
    exact fun name inner same => single ⟨name, inner, same⟩

/-- Some fields complete others when they are the named ones, in their order. No field is given more
than once. A field that is given has its full form, and a missing one is optional and null. -/
structure Completes (fields : List (String × Schema)) (given full : List (String × Json)) :
    Prop where
  names : full.map Prod.fst = fields.map Prod.fst
  once : ∀ name content, (name, content) ∈ fields → (Json.documentsOf name given).length ≤ 1
  present : ∀ name content document, (name, content) ∈ fields →
    Json.fieldOf name given = some document →
    ∃ complete, content.fullForm? document = some complete ∧ (name, complete) ∈ full
  missing : ∀ name content, (name, content) ∈ fields → Json.fieldOf name given = none →
    (∃ inner, content = .optional inner) ∧ (name, .null) ∈ full

variable {fields : List (String × Schema)} {given full : List (String × Json)}

/-- Only an optional field may be missing, and it is null then. -/
theorem missing?_eq_some {schema : Schema} {document : Json}
    (allowed : schema.missing? = some document) :
    (∃ inner, schema = .optional inner) ∧ document = .null := by
  cases schema with
  | optional inner =>
      cases allowed
      exact ⟨⟨inner, rfl⟩, rfl⟩
  | _ => nomatch allowed

/-- One more field is completed when it is given once with its full form, or when it is missing and
optional. -/
theorem Completes.cons {name : String} {content : Schema} {here : Json}
    (completes : Completes fields given full)
    (single : (Json.documentsOf name given).length ≤ 1)
    (found : (Json.fieldOf name given).elim content.missing? content.fullForm? = some here) :
    Completes ((name, content) :: fields) given ((name, here) :: full) where
  names := by rw [List.map_cons, List.map_cons, completes.names]
  once other inner member := by
    rcases List.mem_cons.mp member with same | later
    · cases same
      exact single
    · exact completes.once other inner later
  present other inner document member given := by
    rcases List.mem_cons.mp member with same | later
    · cases same
      rw [given] at found
      exact ⟨here, found, List.mem_cons_self⟩
    · obtain ⟨whole, complete, listed⟩ := completes.present other inner document later given
      exact ⟨whole, complete, List.mem_cons_of_mem _ listed⟩
  missing other inner member absent := by
    rcases List.mem_cons.mp member with same | later
    · cases same
      rw [absent] at found
      obtain ⟨optional, rfl⟩ := missing?_eq_some found
      exact ⟨optional, List.mem_cons_self⟩
    · obtain ⟨optional, listed⟩ := completes.missing other inner later absent
      exact ⟨optional, List.mem_cons_of_mem _ listed⟩

/-- The full form of a record completes the fields that are given. -/
theorem completes_of_fullFields? (complete : fullFields? fields given = some full) :
    Completes fields given full := by
  induction fields generalizing full with
  | nil =>
      cases complete
      exact ⟨rfl, nofun, nofun, nofun⟩
  | cons field rest inductionHypothesis =>
      obtain ⟨name, content⟩ := field
      obtain ⟨here, found, complete⟩ := Option.bind_eq_some_iff.mp complete
      obtain ⟨others, completed, done⟩ := Option.bind_eq_some_iff.mp complete
      cases done
      obtain ⟨single, found⟩ := Json.readField_eq_some found
      exact (inductionHypothesis completed).cons single found

/-- The full form of more fields follows the full form of the first ones. -/
theorem fullFields?_append (fields more : List (String × Schema)) (given : List (String × Json)) :
    fullFields? (fields ++ more) given = do
      let former ← fullFields? fields given
      let latter ← fullFields? more given
      return former ++ latter := by
  induction fields with
  | nil =>
      rw [List.nil_append]
      cases fullFields? more given <;> rfl
  | cons field rest inductionHypothesis =>
      obtain ⟨name, content⟩ := field
      rw [List.cons_append, fullFields?, fullFields?, inductionHypothesis]
      simp only [bind_assoc, pure_bind, List.cons_append]

end Schema

end Provisioning
