import Provisioning.Proofs.Schema

/-!
Lawful forms. A form is lawful when a value that is written is read back, and when a document that
is read is written as its full form. Numbers, texts, addresses, choices, and the options, lists and
maps of lawful forms are lawful.
-/

namespace Provisioning

/-- A lawful form has a schema. The value of a missing document is written as the schema says. -/
class LawfulForm (α : Type) [JsonForm α] where
  schema : Schema
  decode_encode : ∀ value : α, decode (encode value) = some value
  map_encode : ∀ document, (decode document : Option α).map encode = schema.fullForm? document
  missing : (JsonForm.absent : Option α).map encode = schema.missing?

/-- A form without null leaves null to absent optional values. -/
class WithoutNull (α : Type) [JsonForm α] : Prop where
  encode_ne_null : ∀ value : α, encode value ≠ .null

namespace Json

/-- A whole number below the bound is read back. -/
theorem natBelow?_ofNat {bound number : Nat} (below : number < bound) :
    (ofNat number).natBelow? bound = some number := if_pos below

/-- Every number that is read is below the bound. -/
theorem natBelow?_eq_some {bound number : Nat} {document : Json}
    (read : document.natBelow? bound = some number) : number < bound := by
  rw [natBelow?.eq_def] at read
  split at read
  next other =>
    split at read
    next below =>
      cases read
      exact below
    next => nomatch read
  next => nomatch read

end Json

namespace SortedMap

variable {κ ν μ : Type} [LT κ] [DecidableEq κ] [DecidableLT κ] [KeyOrder κ]

/-- A map is made of its entries. -/
theorem ofList_entries (map : SortedMap κ ν) : ofList map.entries = map := by
  apply ext
  intro key
  change (empty.override map).get? key = map.get? key
  rw [get?_override, get?_empty, Option.or_none]

/-- The values of a map may be changed before or after an insertion. -/
theorem mapValues_insert (change : κ → ν → μ) (map : SortedMap κ ν) (key : κ) (value : ν) :
    (map.insert key value).mapValues change =
      (map.mapValues change).insert key (change key value) := by
  apply ext
  intro other
  rw [get?_mapValues, get?_insert, get?_insert, get?_mapValues]
  split
  next same =>
    subst same
    rfl
  next => rfl

/-- Values may be changed before the entries are collected or after it. -/
theorem mapValues_ofList (change : κ → ν → μ) (entries : List (κ × ν)) :
    (ofList entries).mapValues change =
      ofList (entries.map fun entry => (entry.1, change entry.1 entry.2)) := by
  -- A map collects the entries one by one, so what it has collected is generalized.
  have collects (map : SortedMap κ ν) :
      (entries.foldl (fun map entry => map.insert entry.1 entry.2) map).mapValues change =
        (entries.map fun entry => (entry.1, change entry.1 entry.2)).foldl
          (fun map entry => map.insert entry.1 entry.2) (map.mapValues change) := by
    induction entries generalizing map with
    | nil => rfl
    | cons entry rest inductionHypothesis =>
        rw [List.foldl_cons, inductionHypothesis, mapValues_insert]
        rfl
  exact collects empty

end SortedMap

namespace LawfulForm

section Basic

instance : LawfulForm Bool where
  schema := .flag
  decode_encode _ := rfl
  map_encode document := by cases document <;> rfl
  missing := rfl

instance : LawfulForm String where
  schema := .text
  decode_encode _ := rfl
  map_encode document := by cases document <;> rfl
  missing := rfl

instance : WithoutNull String := ⟨fun _ => nofun⟩

/-- Numbers of a fixed width are written as whole numbers. -/
abbrev wholeForm {α : Type} (bound : Nat) (toNat : α → Nat) (ofNat : Nat → α) : JsonForm α where
  encode number := .ofNat (toNat number)
  decode document := (document.natBelow? bound).map ofNat

/-- Numbers of a fixed width are the whole numbers below a bound. -/
abbrev ofWhole {α : Type} {toNat : α → Nat} {ofNat : Nat → α} (bound : Nat)
    (below : ∀ number, toNat number < bound) (back : ∀ number, ofNat (toNat number) = number)
    (forth : ∀ number < bound, toNat (ofNat number) = number) :
    @LawfulForm α (wholeForm bound toNat ofNat) :=
  letI : JsonForm α := wholeForm bound toNat ofNat
  { schema := .whole bound
    decode_encode := fun number => by
      change ((Json.ofNat (toNat number)).natBelow? bound).map ofNat = _
      rw [Json.natBelow?_ofNat (below number), Option.map_some, back]
    map_encode := fun document => by
      change ((document.natBelow? bound).map ofNat).map _ =
        (document.natBelow? bound).map Json.ofNat
      cases read : document.natBelow? bound with
      | none => rfl
      | some number =>
          exact congrArg (some ∘ Json.ofNat) (forth number (Json.natBelow?_eq_some read))
    missing := rfl }

instance : LawfulForm UInt8 :=
  ofWhole UInt8.size UInt8.toNat_lt (fun _ => UInt8.ofNat_toNat) fun _ => UInt8.toNat_ofNat_of_lt

instance : LawfulForm UInt16 :=
  ofWhole UInt16.size UInt16.toNat_lt (fun _ => UInt16.ofNat_toNat) fun _ =>
    UInt16.toNat_ofNat_of_lt

instance : LawfulForm UInt32 :=
  ofWhole UInt32.size UInt32.toNat_lt (fun _ => UInt32.ofNat_toNat) fun _ =>
    UInt32.toNat_ofNat_of_lt

instance : LawfulForm UInt64 :=
  ofWhole UInt64.size UInt64.toNat_lt (fun _ => UInt64.ofNat_toNat) fun _ =>
    UInt64.toNat_ofNat_of_lt

instance : WithoutNull UInt8 := ⟨fun _ => nofun⟩

instance : WithoutNull UInt16 := ⟨fun _ => nofun⟩

instance : LawfulForm Ipv4 where
  schema := .address
  decode_encode address := Ipv4.ofText?_text address
  map_encode document := by
    cases document with
    | str text =>
        change (Ipv4.ofText? text).map _ = (Ipv4.ofText? text).map _
        cases read : Ipv4.ofText? text with
        | none => rfl
        | some address => exact congrArg (some ∘ Json.str) (Ipv4.text_of_ofText? read)
    | _ => rfl
  missing := rfl

instance : WithoutNull Ipv4 := ⟨fun _ => nofun⟩

end Basic

section Compound

variable {α β : Type}

/-- A wrapper is written as what it wraps. -/
abbrev wrapperForm [JsonForm α] (wrap : α → β) (unwrap : β → α) : JsonForm β where
  encode value := encode (unwrap value)
  decode document := (decode document).map wrap

/-- A wrapper has the form of its content, which may not be missing. -/
abbrev ofWrapper [JsonForm α] [content : LawfulForm α] (wrap : α → β) (unwrap : β → α)
    (back : ∀ value, wrap (unwrap value) = value) (forth : ∀ value, unwrap (wrap value) = value)
    (required : content.schema.missing? = none) : @LawfulForm β (wrapperForm wrap unwrap) :=
  letI : JsonForm β := wrapperForm wrap unwrap
  { schema := content.schema
    decode_encode := fun value => by
      change (decode (encode (unwrap value))).map wrap = some value
      rw [content.decode_encode, Option.map_some, back]
    map_encode := fun document => by
      change ((decode document).map wrap).map (fun value => encode (unwrap value)) = _
      rw [Option.map_map, ← content.map_encode]
      exact congrArg (Option.map · _) (funext fun value => congrArg encode (forth value))
    missing := required.symm }

instance : LawfulForm ResourceId :=
  ofWrapper ResourceId.mk ResourceId.value (fun _ => rfl) (fun _ => rfl) rfl

instance : LawfulForm Tag := ofWrapper Tag.mk Tag.label (fun _ => rfl) (fun _ => rfl) rfl

/-- A choice that is found by its name is a choice among the names of all. -/
theorem map_find?_name {name : α → String} (all : List α) (text : String) :
    (all.find? fun choice => name choice == text).map (fun choice => Json.str (name choice)) =
      if text ∈ all.map name then some (.str text) else none := by
  cases found : all.find? fun choice => name choice == text with
  | none =>
      rw [if_neg]
      · rfl
      · intro listed
        obtain ⟨choice, member, same⟩ := List.mem_map.mp listed
        exact List.find?_eq_none.mp found choice member (beq_iff_eq.mpr same)
  | some choice =>
      have chosen := List.find?_some found
      have same : name choice = text := beq_iff_eq.mp chosen
      rw [if_pos (List.mem_map.mpr ⟨choice, List.mem_of_find?_eq_some found, same⟩)]
      exact congrArg (some ∘ Json.str) same

/-- A choice among names may be written in two ways, and its full form is the name. -/
theorem map_encode_ofNames {name : α → String} (all : List α) (document : Json) :
    ((JsonForm.ofNames name all).decode document).map (fun choice => Json.str (name choice)) =
      document.choice? (all.map name) := by
  cases document with
  | str text => exact map_find?_name all text
  | obj fields =>
      rcases fields with _ | ⟨⟨text, value⟩, _ | ⟨second, rest⟩⟩
      · rfl
      · cases value with
        | null => exact map_find?_name all text
        | _ => rfl
      · cases value <;> rfl
  | _ => rfl

/-- A choice that is read is one of the choices. -/
theorem mem_of_ofNames {name : α → String} {all : List α} {document : Json} {choice : α}
    (read : (JsonForm.ofNames name all).decode document = some choice) : choice ∈ all := by
  simp only [JsonForm.decode] at read
  split at read
  next => exact List.mem_of_find?_eq_some read
  next => exact List.mem_of_find?_eq_some read
  next => nomatch read

/-- A choice among names is lawful when each choice is found by its own name. -/
abbrev ofNames (name : α → String) (all : List α)
    (finds : ∀ choice, (all.find? fun other => name other == name choice) = some choice) :
    @LawfulForm α (.ofNames name all) :=
  letI : JsonForm α := .ofNames name all
  { schema := .choice (all.map name)
    decode_encode := finds
    map_encode := map_encode_ofNames all
    missing := rfl }

instance [JsonForm α] [content : LawfulForm α] [WithoutNull α] : LawfulForm (Option α) where
  schema := .optional content.schema
  decode_encode value := by
    cases value with
    | none => rfl
    | some value =>
        have present := WithoutNull.encode_ne_null value
        have back := content.decode_encode value
        change decode (encode value) = some (some value)
        generalize encode value = document at present back
        cases document with
        | null => exact absurd rfl present
        | _ => exact congrArg (Option.map some) back
  map_encode document := by
    -- Only null is absent, and every other document is left to the content.
    cases document with
    | null => rfl
    | _ =>
        refine Eq.trans ?_ (content.map_encode _)
        exact Option.map_map _ _ _
  missing := rfl

/-- Changing the items that are read is reading them with the change. -/
theorem mapM_map {γ δ : Type} (read : γ → Option α) (change : α → δ) (items : List γ) :
    (items.mapM read).map (List.map change) = items.mapM fun item => (read item).map change := by
  induction items with
  | nil => rfl
  | cons item rest inductionHypothesis =>
      rw [List.mapM_cons, List.mapM_cons, ← inductionHypothesis]
      cases read item with
      | none => rfl
      | some value => cases rest.mapM read <;> rfl

instance [JsonForm α] [item : LawfulForm α] : LawfulForm (List α) where
  schema := .list item.schema
  decode_encode values := by
    change (values.map encode).mapM decode = some values
    rw [List.mapM_map]
    calc
      _ = values.mapM (pure : α → Option α) := congrArg values.mapM (funext item.decode_encode)
      _ = pure (values.map id) := List.mapM_pure
      _ = _ := congrArg some (List.map_id values)
  map_encode document := by
    cases document with
    | arr items =>
        change (items.mapM decode : Option (List α)).map (fun values => .arr (values.map encode)) =
          (items.mapM item.schema.fullForm?).map Json.arr
        rw [← funext item.map_encode, ← mapM_map, Option.map_map]
        rfl
    | _ => rfl
  missing := rfl

instance [JsonForm α] [content : LawfulForm α] : LawfulForm (SortedMap String α) where
  schema := .table content.schema
  decode_encode map := by
    let write (entry : String × α) : String × Json := (entry.1, encode entry.2)
    let read (field : String × Json) : Option (String × α) := (decode field.2).map (field.1, ·)
    change ((map.entries.map write).mapM read).bind (fun entries => some (.ofList entries)) =
      some map
    have back : read ∘ write = pure := funext fun entry => by
      change (decode (encode entry.2)).map _ = _
      rw [content.decode_encode]
      rfl
    have entries : map.entries.mapM (pure : _ → Option (String × α)) = some map.entries :=
      calc
        _ = pure (map.entries.map id) := List.mapM_pure
        _ = _ := congrArg some (List.map_id _)
    rw [List.mapM_map, back, entries, Option.bind_some, SortedMap.ofList_entries]
  map_encode document := by
    cases document with
    | obj fields =>
        let write (entry : String × α) : String × Json := (entry.1, encode entry.2)
        let read (field : String × Json) : Option (String × α) := (decode field.2).map (field.1, ·)
        have each (field : String × Json) : (read field).map write =
            (content.schema.fullForm? field.2).map (field.1, ·) := by
          rw [← content.map_encode, Option.map_map, Option.map_map]
          rfl
        change ((fields.mapM read).bind fun entries => some (.ofList entries)).map
            (fun map : SortedMap String α => Json.obj (map.entries.map write)) =
          (fields.mapM fun field => (content.schema.fullForm? field.2).map (field.1, ·)).map
            fun entries => .obj (SortedMap.ofList entries).entries
        rw [← funext each, ← mapM_map]
        cases fields.mapM read with
        | none => rfl
        | some entries =>
            have same := SortedMap.mapValues_ofList (fun _ => encode) entries
            exact congrArg (fun map => some (Json.obj map.entries)) same
    | _ => rfl
  missing := rfl

end Compound

end LawfulForm

end Provisioning
