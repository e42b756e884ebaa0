/-!
Finite maps whose keys are listed in strictly ascending order. The order is part of the type, so two
maps are equal exactly when every key finds the same value in both. The main statements say what
`get?` finds after `insert`, `erase`, `modify` and `override`.
-/

namespace Provisioning

/-- A key order is a strict order in which any two distinct keys compare. -/
class KeyOrder (κ : Type) [LT κ] : Prop where
  irrefl : ∀ key : κ, ¬ key < key
  trans : ∀ {first second third : κ}, first < second → second < third → first < third
  connected : ∀ {first second : κ}, ¬ first < second → ¬ second < first → first = second

instance : KeyOrder String where
  irrefl key := String.lt_irrefl key
  trans first second := String.lt_trans first second
  connected first second :=
    String.le_antisymm (String.not_lt.mp second) (String.not_lt.mp first)

instance : KeyOrder UInt8 where
  irrefl key := UInt8.lt_irrefl key
  trans first second := UInt8.lt_trans first second
  connected first second :=
    UInt8.le_antisymm (UInt8.not_lt.mp second) (UInt8.not_lt.mp first)

/-- This predicate says that the keys of the entries ascend strictly. -/
def Ascending {κ ν : Type} [LT κ] (entries : List (κ × ν)) : Prop :=
  entries.Pairwise fun left right => left.1 < right.1

/-- A sorted map is a list of entries with strictly ascending keys. -/
structure SortedMap (κ ν : Type) [LT κ] where
  entries : List (κ × ν)
  ascending : Ascending entries

namespace SortedMap

variable {κ ν : Type} [LT κ]

instance [DecidableEq κ] [DecidableEq ν] : DecidableEq (SortedMap κ ν) := fun left right =>
  if same : left.entries = right.entries then
    isTrue (by cases left; cases right; cases same; rfl)
  else
    isFalse fun equal => same (congrArg SortedMap.entries equal)

def empty : SortedMap κ ν := ⟨[], List.Pairwise.nil⟩

instance : Inhabited (SortedMap κ ν) := ⟨empty⟩

def isEmpty (map : SortedMap κ ν) : Bool := map.entries.isEmpty

def keys (map : SortedMap κ ν) : List κ := map.entries.map Prod.fst

def values (map : SortedMap κ ν) : List ν := map.entries.map Prod.snd

section Lookup

variable [DecidableEq κ]

/-- This function reads the first value stored under a key. -/
def find? (key : κ) : List (κ × ν) → Option ν
  | [] => none
  | (other, value) :: rest => if key = other then some value else find? key rest

def get? (map : SortedMap κ ν) (key : κ) : Option ν := find? key map.entries

end Lookup

section Insertion

variable [DecidableEq κ] [DecidableLT κ]

/-- Insertion keeps the order and replaces the value of a key that is already there. -/
def put (key : κ) (value : ν) : List (κ × ν) → List (κ × ν)
  | [] => [(key, value)]
  | (other, old) :: rest =>
      if key = other then (key, value) :: rest
      else if key < other then (key, value) :: (other, old) :: rest
      else (other, old) :: put key value rest

theorem mem_put {key : κ} {value : ν} {entries : List (κ × ν)} {entry : κ × ν}
    (member : entry ∈ put key value entries) : entry = (key, value) ∨ entry ∈ entries := by
  induction entries with
  | nil => simpa [put] using member
  | cons head rest inductionHypothesis =>
      obtain ⟨other, old⟩ := head
      rw [put] at member
      split at member
      · rcases List.mem_cons.mp member with same | inside
        · exact .inl same
        · exact .inr (List.mem_cons_of_mem _ inside)
      · split at member
        · rcases List.mem_cons.mp member with same | inside
          · exact .inl same
          · exact .inr inside
        · rcases List.mem_cons.mp member with same | inside
          · exact .inr (same ▸ List.mem_cons_self)
          · rcases inductionHypothesis inside with new | kept
            · exact .inl new
            · exact .inr (List.mem_cons_of_mem _ kept)

theorem ascending_put [KeyOrder κ] (key : κ) (value : ν) {entries : List (κ × ν)}
    (ascending : Ascending entries) : Ascending (put key value entries) := by
  induction entries with
  | nil => exact List.pairwise_singleton _ _
  | cons head rest inductionHypothesis =>
      obtain ⟨other, old⟩ := head
      obtain ⟨above, restAscending⟩ := List.pairwise_cons.mp ascending
      rw [put]
      split
      next same =>
        subst same
        exact List.pairwise_cons.mpr ⟨above, restAscending⟩
      next different =>
        split
        next below =>
          refine List.pairwise_cons.mpr ⟨fun entry member => ?_, ascending⟩
          rcases List.mem_cons.mp member with same | inside
          · exact same ▸ below
          · exact KeyOrder.trans below (above entry inside)
        next notBelow =>
          refine List.pairwise_cons.mpr ⟨fun entry member => ?_, inductionHypothesis restAscending⟩
          rcases mem_put member with new | kept
          · subst new
            apply Classical.byContradiction
            intro notAbove
            exact different (KeyOrder.connected notBelow notAbove)
          · exact above entry kept

def insert [KeyOrder κ] (map : SortedMap κ ν) (key : κ) (value : ν) : SortedMap κ ν :=
  ⟨put key value map.entries, ascending_put key value map.ascending⟩

/-- The last of several entries with one key wins. -/
def ofList [KeyOrder κ] (entries : List (κ × ν)) : SortedMap κ ν :=
  entries.foldl (fun map entry => map.insert entry.1 entry.2) empty

/-- The entries of the second map override those of the first, key by key. -/
def override [KeyOrder κ] (map changes : SortedMap κ ν) : SortedMap κ ν :=
  changes.entries.foldl (fun merged entry => merged.insert entry.1 entry.2) map

end Insertion

/-- This function keeps the entries that satisfy a test. -/
def filter (map : SortedMap κ ν) (keep : κ × ν → Bool) : SortedMap κ ν :=
  ⟨map.entries.filter keep, map.ascending.filter keep⟩

def erase [DecidableEq κ] (map : SortedMap κ ν) (key : κ) : SortedMap κ ν :=
  map.filter fun entry => decide (entry.1 ≠ key)

/-- This function changes every value and keeps every key. -/
def mapValues {μ : Type} (map : SortedMap κ ν) (change : κ → ν → μ) : SortedMap κ μ where
  entries := map.entries.map fun entry => (entry.1, change entry.1 entry.2)
  ascending := by
    rw [Ascending, List.pairwise_map]
    exact map.ascending

/-- This function changes the value stored under one key, if there is one. -/
def modify [DecidableEq κ] (map : SortedMap κ ν) (key : κ) (change : ν → ν) : SortedMap κ ν :=
  map.mapValues fun other value => if other = key then change value else value

section Laws

variable [DecidableEq κ]

@[simp] theorem get?_empty (key : κ) : (empty : SortedMap κ ν).get? key = none := rfl

theorem find?_put [DecidableLT κ] (key other : κ) (value : ν) (entries : List (κ × ν)) :
    find? other (put key value entries) =
      if other = key then some value else find? other entries := by
  induction entries with
  | nil => simp [put, find?]
  | cons head rest inductionHypothesis =>
      obtain ⟨first, old⟩ := head
      by_cases same : key = first
      · subst same
        by_cases here : other = key <;> simp [put, find?, here]
      · by_cases below : key < first
        · by_cases here : other = key <;> simp [put, find?, same, below, here]
        · by_cases here : other = key
          · subst here
            simp [put, find?, same, below, inductionHypothesis]
          · simp [put, find?, same, below, here, inductionHypothesis]

/-- Insertion changes what one key finds and nothing else. -/
@[simp] theorem get?_insert [DecidableLT κ] [KeyOrder κ] (map : SortedMap κ ν) (key other : κ)
    (value : ν) :
    (map.insert key value).get? other = if other = key then some value else map.get? other :=
  find?_put key other value map.entries

theorem get?_insert_self [DecidableLT κ] [KeyOrder κ] (map : SortedMap κ ν) (key : κ) (value : ν) :
    (map.insert key value).get? key = some value := by
  rw [get?_insert, if_pos rfl]

omit [LT κ] in
theorem find?_filter_ne (key other : κ) (entries : List (κ × ν)) :
    find? other (entries.filter fun entry => decide (entry.1 ≠ key)) =
      if other = key then none else find? other entries := by
  induction entries with
  | nil => simp [find?]
  | cons head rest inductionHypothesis =>
      obtain ⟨first, old⟩ := head
      by_cases same : first = key
      · subst same
        by_cases here : other = first <;> simp_all [find?]
      · by_cases here : other = key
        · subst here
          simp_all [find?, Ne.symm same]
        · simp_all [find?]

/-- Erasure forgets one key and nothing else. -/
@[simp] theorem get?_erase (map : SortedMap κ ν) (key other : κ) :
    (map.erase key).get? other = if other = key then none else map.get? other :=
  find?_filter_ne key other map.entries

omit [LT κ] in
theorem find?_map {μ : Type} (key : κ) (change : κ → ν → μ) (entries : List (κ × ν)) :
    find? key (entries.map fun entry => (entry.1, change entry.1 entry.2)) =
      (find? key entries).map (change key) := by
  induction entries with
  | nil => rfl
  | cons head rest inductionHypothesis =>
      by_cases here : key = head.1
      · subst here
        simp [find?]
      · simp [find?, here, inductionHypothesis]

@[simp] theorem get?_mapValues {μ : Type} (map : SortedMap κ ν) (change : κ → ν → μ) (key : κ) :
    (map.mapValues change).get? key = (map.get? key).map (change key) :=
  find?_map key change map.entries

/-- Modification changes the value of one key and no set of keys. -/
@[simp] theorem get?_modify (map : SortedMap κ ν) (key other : κ) (change : ν → ν) :
    (map.modify key change).get? other =
      if other = key then (map.get? other).map change else map.get? other := by
  rw [modify, get?_mapValues]
  by_cases here : other = key <;> simp [here]

omit [LT κ] in
theorem mem_of_find? {entries : List (κ × ν)} {key : κ} {value : ν}
    (found : find? key entries = some value) : (key, value) ∈ entries := by
  induction entries with
  | nil => nomatch found
  | cons head rest inductionHypothesis =>
      obtain ⟨other, kept⟩ := head
      rw [find?] at found
      split at found
      next same =>
        cases found
        exact same ▸ List.mem_cons_self
      next => exact List.mem_cons_of_mem _ (inductionHypothesis found)

/-- Keys that ascend are met once, so every entry is found under its key. -/
theorem find?_of_mem [KeyOrder κ] {entries : List (κ × ν)} {key : κ} {value : ν}
    (ascending : Ascending entries) (member : (key, value) ∈ entries) :
    find? key entries = some value := by
  induction entries with
  | nil => nomatch member
  | cons head rest inductionHypothesis =>
      obtain ⟨other, kept⟩ := head
      obtain ⟨above, restAscending⟩ := List.pairwise_cons.mp ascending
      rw [find?]
      rcases List.mem_cons.mp member with same | inside
      · cases same
        rw [if_pos rfl]
      · have apart : key ≠ other := by
          rintro rfl
          exact KeyOrder.irrefl key (above _ inside)
        rw [if_neg apart]
        exact inductionHypothesis restAscending inside

theorem get?_of_isEmpty {map : SortedMap κ ν} (empty : map.isEmpty) (key : κ) :
    map.get? key = none := by
  obtain ⟨entries, ascending⟩ := map
  cases List.isEmpty_iff.mp empty
  rfl

/-- A key finds the value that overrides its former one, if there is such a value. -/
theorem get?_override [DecidableLT κ] [KeyOrder κ] (map changes : SortedMap κ ν) (key : κ) :
    (map.override changes).get? key = (changes.get? key).or (map.get? key) := by
  obtain ⟨entries, ascending⟩ := changes
  -- The later entries override what the first one has written, so the map is generalized.
  induction entries generalizing map with
  | nil => rfl
  | cons entry rest inductionHypothesis =>
      obtain ⟨above, restAscending⟩ := List.pairwise_cons.mp ascending
      have step := inductionHypothesis (map.insert entry.1 entry.2) restAscending
      change ((map.insert entry.1 entry.2).override ⟨rest, restAscending⟩).get? key = _
      rw [step, get?_insert]
      change (find? key rest).or _ = (find? key (entry :: rest)).or _
      rw [find?]
      split
      next same =>
        have absent : find? key rest = none := by
          rw [Option.eq_none_iff_forall_ne_some]
          intro value found
          have below : entry.1 < key := above (key, value) (mem_of_find? found)
          exact KeyOrder.irrefl key (same ▸ below)
        rw [absent]
        rfl
      next => rfl

/-- Two maps are equal when every key finds the same value in both. -/
@[ext] theorem ext [KeyOrder κ] {left right : SortedMap κ ν}
    (same : ∀ key, left.get? key = right.get? key) : left = right := by
  have found (map : SortedMap κ ν) (entry : κ × ν) :
      entry ∈ map.entries ↔ map.get? entry.1 = some entry.2 :=
    ⟨find?_of_mem map.ascending, mem_of_find?⟩
  have distinct (map : SortedMap κ ν) : map.entries.Nodup := by
    apply map.ascending.imp
    intro first second below equal
    exact KeyOrder.irrefl first.1 (equal ▸ below)
  have permuted : left.entries.Perm right.entries := by
    rw [List.perm_ext_iff_of_nodup (distinct left) (distinct right)]
    intro entry
    rw [found, found, same]
  have equal : left.entries = right.entries := by
    apply permuted.eq_of_pairwise _ left.ascending right.ascending
    intro first second _ _ below above
    exact absurd (KeyOrder.trans below above) (KeyOrder.irrefl first.1)
  cases left
  cases right
  cases equal
  rfl

end Laws

end SortedMap

end Provisioning
