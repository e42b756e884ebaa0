import Mathlib.Data.List.Nodup
import Mathlib.Logic.Function.Basic
import Provisioning.Identifier

/-!
Links that are kept on both sides. A server lists its disks, and a disk names the server that is its
home. The main statements tell what becomes of the agreement when both sides are written, and when
the list of a former home is left as it is.
-/

namespace Provisioning.Cloud

section Links

/-- A disk is listed when some server has it on its list. -/
def Listed (lists : ResourceId → Option (List ResourceId)) (disk : ResourceId) : Prop :=
  ∃ server list, lists server = some list ∧ disk ∈ list

/-- Lists and homes are linked when a disk is on the list of exactly the server that is its home,
and on no list twice. -/
structure Linked (lists : ResourceId → Option (List ResourceId))
    (homes : ResourceId → Option ResourceId) : Prop where
  agree : ∀ server list disk home, lists server = some list → homes disk = some home →
    (disk ∈ list ↔ home = server)
  once : ∀ server list, lists server = some list → list.Nodup

/-- Every disk is on the list of its home, if that server is there. -/
def AtHome (lists : ResourceId → Option (List ResourceId))
    (homes : ResourceId → Option ResourceId) : Prop :=
  ∀ server list disk, lists server = some list → homes disk = some server → disk ∈ list

/-- This is what becomes of lists and homes when a fresh identifier may be drawn. A server moves to
the fresh identifier with its list and its disks. A disk that is attached to a home is put on the
list of the home, and a disk that is missed is put on a list without being there. -/
inductive Relinks (lists : ResourceId → Option (List ResourceId))
    (homes : ResourceId → Option ResourceId) (fresh : ResourceId) (drawn relists : Prop) :
    (ResourceId → Option (List ResourceId)) → (ResourceId → Option ResourceId) → Prop where
  | kept (quiet : ¬ relists) : Relinks lists homes fresh drawn relists lists homes
  | serverBuilt (new : drawn) (quiet : ¬ relists) :
      Relinks lists homes fresh drawn relists (Function.update lists fresh (some [])) homes
  | serverDeleted (server : ResourceId) (quiet : ¬ relists) :
      Relinks lists homes fresh drawn relists (Function.update lists server none) homes
  | serverMoved (server : ResourceId) (list : List ResourceId) (stored : lists server = some list)
      (new : drawn) (quiet : ¬ relists) :
      Relinks lists homes fresh drawn relists
        (Function.update (Function.update lists server none) fresh (some list))
        (fun disk => (homes disk).map fun home => if home = server then fresh else home)
  | diskDeleted (disk : ResourceId) (quiet : ¬ relists) :
      Relinks lists homes fresh drawn relists lists (Function.update homes disk none)
  | diskAttached (disk home : ResourceId) (known : home = .unset ∨ (lists home).isSome)
      (again : relists ↔ Listed lists disk) :
      Relinks lists homes fresh drawn relists
        (Function.update lists home ((lists home).map (· ++ [disk])))
        (Function.update homes disk (some home))
  | diskMissed (disk server : ResourceId) (list : List ResourceId) (absent : homes disk = none)
      (stored : lists server = some list) (again : relists ↔ disk ∈ list) :
      Relinks lists homes fresh drawn relists
        (Function.update lists server (some (list ++ [disk]))) homes

variable {lists newLists : ResourceId → Option (List ResourceId)}
  {homes newHomes : ResourceId → Option ResourceId} {fresh : ResourceId} {drawn relists : Prop}

/-- An updated function has its new value at one place and its former values elsewhere. -/
theorem update_eq_some_iff {κ ν : Type} [DecidableEq κ] {values : κ → Option ν} {place other : κ}
    {new : Option ν} {value : ν} :
    Function.update values place new other = some value ↔
      other = place ∧ new = some value ∨ other ≠ place ∧ values other = some value := by
  rw [Function.update_apply]
  split
  next here => exact ⟨fun same => .inl ⟨here, same⟩, fun found => (found.resolve_right
    fun elsewhere => elsewhere.1 here).2⟩
  next elsewhere => exact ⟨fun same => .inr ⟨elsewhere, same⟩, fun found => (found.resolve_left
    fun here => elsewhere here.1).2⟩

/-- Where lists and homes are linked, every disk is on the list of its home. -/
theorem Linked.atHome (linked : Linked lists homes) : AtHome lists homes :=
  fun server list disk stored home => (linked.agree server list disk server stored home).mpr rfl

/-- Lists and homes stay linked when a server is removed with its list. -/
theorem Linked.eraseServer (linked : Linked lists homes) (server : ResourceId) :
    Linked (Function.update lists server none) homes where
  agree other list disk home stored named := by
    obtain ⟨-, ⟨⟩⟩ | ⟨-, stored⟩ := update_eq_some_iff.mp stored
    exact linked.agree other list disk home stored named
  once other list stored := by
    obtain ⟨-, ⟨⟩⟩ | ⟨-, stored⟩ := update_eq_some_iff.mp stored
    exact linked.once other list stored

/-- Lists and homes stay linked when a disk is removed, though its list may still have it. -/
theorem Linked.eraseDisk (linked : Linked lists homes) (disk : ResourceId) :
    Linked lists (Function.update homes disk none) where
  agree server list other home stored named := by
    obtain ⟨-, ⟨⟩⟩ | ⟨-, named⟩ := update_eq_some_iff.mp named
    exact linked.agree server list other home stored named
  once := linked.once

/-- A new server has an empty list, and no disk names it yet. -/
theorem Linked.build (linked : Linked lists homes) (unnamed : ∀ disk, homes disk ≠ some fresh) :
    Linked (Function.update lists fresh (some [])) homes where
  agree server list disk home stored named := by
    obtain ⟨rfl, ⟨⟩⟩ | ⟨-, stored⟩ := update_eq_some_iff.mp stored
    · exact ⟨nofun, fun same => absurd (same ▸ named) (unnamed disk)⟩
    · exact linked.agree server list disk home stored named
  once server list stored := by
    obtain ⟨rfl, ⟨⟩⟩ | ⟨-, stored⟩ := update_eq_some_iff.mp stored
    · exact List.nodup_nil
    · exact linked.once server list stored

/-- The disks of a server follow it to its new name. -/
theorem Linked.move {server : ResourceId} {list : List ResourceId} (linked : Linked lists homes)
    (stored : lists server = some list) (unnamed : ∀ disk, homes disk ≠ some fresh) :
    Linked (Function.update (Function.update lists server none) fresh (some list))
      (fun disk => (homes disk).map fun home => if home = server then fresh else home) where
  agree other found disk home storedOther named := by
    obtain ⟨former, was, rfl⟩ := Option.map_eq_some_iff.mp named
    have old : former ≠ fresh := fun same => unnamed disk (same ▸ was)
    obtain ⟨rfl, ⟨⟩⟩ | ⟨new, storedOther⟩ := update_eq_some_iff.mp storedOther
    · rw [linked.agree server list disk former stored was]
      split
      next same => exact iff_of_true same rfl
      next different => exact iff_of_false different old
    · obtain ⟨-, ⟨⟩⟩ | ⟨different, storedOther⟩ := update_eq_some_iff.mp storedOther
      rw [linked.agree other found disk former storedOther was]
      split
      next same => exact iff_of_false (fun here => different (here.symm.trans same)) (Ne.symm new)
      next => exact Iff.rfl
  once other found storedOther := by
    obtain ⟨rfl, ⟨⟩⟩ | ⟨-, storedOther⟩ := update_eq_some_iff.mp storedOther
    · exact linked.once server list stored
    · exact (linked.eraseServer server).once other found storedOther

/-- A disk is linked to the home that it is attached to unless it was on a list before. -/
theorem Linked.attach_iff (linked : Linked lists homes) (disk home : ResourceId) :
    Linked (Function.update lists home ((lists home).map (· ++ [disk])))
      (Function.update homes disk (some home)) ↔ ¬ Listed lists disk := by
  constructor
  · rintro after ⟨server, list, stored, listed⟩
    by_cases here : server = home
    · subst here
      have longer : Function.update lists server ((lists server).map (· ++ [disk])) server =
          some (list ++ [disk]) := by
        rw [Function.update_self, stored]
        rfl
      have once := after.once server _ longer
      exact List.disjoint_of_nodup_append once listed List.mem_cons_self
    · have agree := after.agree server list disk home
        ((Function.update_of_ne here _ _).trans stored) (Function.update_self _ _ _)
      exact here (agree.mp listed).symm
  · intro unlisted
    have former : ∀ server list, lists server = some list → disk ∉ list :=
      fun server list stored listed => unlisted ⟨server, list, stored, listed⟩
    constructor
    · intro server list other named storedNow namedNow
      obtain ⟨rfl, ⟨⟩⟩ | ⟨otherDisk, wasNamed⟩ := update_eq_some_iff.mp namedNow
      · obtain ⟨rfl, longer⟩ | ⟨elsewhere, stored⟩ := update_eq_some_iff.mp storedNow
        · obtain ⟨before, stored, rfl⟩ := Option.map_eq_some_iff.mp longer
          exact iff_of_true (List.mem_append_right _ List.mem_cons_self) rfl
        · exact iff_of_false (former server list stored) (Ne.symm elsewhere)
      · obtain ⟨rfl, longer⟩ | ⟨elsewhere, stored⟩ := update_eq_some_iff.mp storedNow
        · obtain ⟨before, stored, rfl⟩ := Option.map_eq_some_iff.mp longer
          rw [List.mem_append, List.mem_singleton, or_iff_left otherDisk]
          exact linked.agree server before other named stored wasNamed
        · exact linked.agree server list other named stored wasNamed
    · intro server list storedNow
      obtain ⟨rfl, longer⟩ | ⟨elsewhere, stored⟩ := update_eq_some_iff.mp storedNow
      · obtain ⟨before, stored, rfl⟩ := Option.map_eq_some_iff.mp longer
        exact (linked.once server before stored).append (List.nodup_singleton _)
          (List.disjoint_singleton.mpr (former server before stored))
      · exact linked.once server list stored

/-- A disk that is missed counts only as an entry of a list. -/
theorem Linked.miss_iff {disk server : ResourceId} {list : List ResourceId}
    (linked : Linked lists homes) (absent : homes disk = none)
    (stored : lists server = some list) :
    Linked (Function.update lists server (some (list ++ [disk]))) homes ↔ disk ∉ list := by
  constructor
  · intro after listed
    have once := after.once server _ (Function.update_self _ _ _)
    exact List.disjoint_of_nodup_append once listed List.mem_cons_self
  · intro unlisted
    constructor
    · intro other found otherDisk home storedNow named
      obtain ⟨rfl, ⟨⟩⟩ | ⟨-, storedOther⟩ := update_eq_some_iff.mp storedNow
      · have present : otherDisk ≠ disk := by
          rintro rfl
          nomatch absent.symm.trans named
        rw [List.mem_append, List.mem_singleton, or_iff_left present]
        exact linked.agree other list otherDisk home stored named
      · exact linked.agree other found otherDisk home storedOther named
    · intro other found storedNow
      obtain ⟨rfl, ⟨⟩⟩ | ⟨-, storedOther⟩ := update_eq_some_iff.mp storedNow
      · exact (linked.once other list stored).append (List.nodup_singleton _)
          (List.disjoint_singleton.mpr unlisted)
      · exact linked.once other found storedOther

/-- Lists and homes stay linked exactly as long as no disk is put on a list again. -/
theorem Relinks.linked_iff (relinks : Relinks lists homes fresh drawn relists newLists newHomes)
    (linked : Linked lists homes) (unnamed : drawn → ∀ disk, homes disk ≠ some fresh) :
    Linked newLists newHomes ↔ ¬ relists := by
  cases relinks with
  | kept quiet => exact iff_of_true linked quiet
  | serverBuilt new quiet => exact iff_of_true (linked.build (unnamed new)) quiet
  | serverDeleted server quiet => exact iff_of_true (linked.eraseServer server) quiet
  | serverMoved server list stored new quiet =>
      exact iff_of_true (linked.move stored (unnamed new)) quiet
  | diskDeleted disk quiet => exact iff_of_true (linked.eraseDisk disk) quiet
  | diskAttached disk home known again =>
      exact (linked.attach_iff disk home).trans (not_congr again).symm
  | diskMissed disk server list absent stored again =>
      exact (linked.miss_iff absent stored).trans (not_congr again).symm

/-- Whatever becomes of lists and homes, every disk stays on the list of its home. -/
theorem Relinks.atHome (relinks : Relinks lists homes fresh drawn relists newLists newHomes)
    (atHome : AtHome lists homes) (unnamed : drawn → ∀ disk, homes disk ≠ some fresh) :
    AtHome newLists newHomes := by
  intro server list disk stored named
  cases relinks with
  | kept quiet => exact atHome server list disk stored named
  | serverBuilt new quiet =>
      obtain ⟨rfl, -⟩ | ⟨-, stored⟩ := update_eq_some_iff.mp stored
      · exact absurd named (unnamed new disk)
      · exact atHome server list disk stored named
  | serverDeleted removed quiet =>
      obtain ⟨-, ⟨⟩⟩ | ⟨-, stored⟩ := update_eq_some_iff.mp stored
      exact atHome server list disk stored named
  | serverMoved former moved storedMoved new quiet =>
      obtain ⟨home, was, follows⟩ := Option.map_eq_some_iff.mp named
      obtain ⟨rfl, ⟨⟩⟩ | ⟨other, stored⟩ := update_eq_some_iff.mp stored
      · split at follows
        next same => exact atHome former list disk storedMoved (same ▸ was)
        next => exact absurd (follows ▸ was) (unnamed new disk)
      · obtain ⟨-, ⟨⟩⟩ | ⟨-, stored⟩ := update_eq_some_iff.mp stored
        split at follows
        next => exact absurd follows.symm other
        next => exact atHome server list disk stored (follows ▸ was)
  | diskDeleted removed quiet =>
      obtain ⟨-, ⟨⟩⟩ | ⟨-, named⟩ := update_eq_some_iff.mp named
      exact atHome server list disk stored named
  | diskAttached attached home known again =>
      obtain ⟨rfl, ⟨⟩⟩ | ⟨-, was⟩ := update_eq_some_iff.mp named
      · obtain ⟨-, longer⟩ | ⟨elsewhere, -⟩ := update_eq_some_iff.mp stored
        · obtain ⟨before, -, rfl⟩ := Option.map_eq_some_iff.mp longer
          exact List.mem_append_right _ List.mem_cons_self
        · exact absurd rfl elsewhere
      · obtain ⟨rfl, longer⟩ | ⟨-, stored⟩ := update_eq_some_iff.mp stored
        · obtain ⟨before, former, rfl⟩ := Option.map_eq_some_iff.mp longer
          exact List.mem_append_left _ (atHome server before disk former was)
        · exact atHome server list disk stored was
  | diskMissed missed lister former absent storedFormer again =>
      obtain ⟨rfl, ⟨⟩⟩ | ⟨-, stored⟩ := update_eq_some_iff.mp stored
      · exact List.mem_append_left _ (atHome server former disk storedFormer named)
      · exact atHome server list disk stored named

/-- A home that was not named before is a server by now, or no name at all. -/
theorem Relinks.homes_named (relinks : Relinks lists homes fresh drawn relists newLists newHomes)
    {disk home : ResourceId} (named : newHomes disk = some home) :
    (∃ disk, homes disk = some home) ∨ home = .unset ∨ (newLists home).isSome := by
  cases relinks with
  | kept | serverBuilt | serverDeleted | diskMissed => exact .inl ⟨disk, named⟩
  | serverMoved former moved stored new quiet =>
      obtain ⟨before, was, rfl⟩ := Option.map_eq_some_iff.mp named
      split
      · rw [Function.update_self]
        exact .inr (.inr rfl)
      · exact .inl ⟨disk, was⟩
  | diskDeleted removed quiet =>
      obtain ⟨-, ⟨⟩⟩ | ⟨-, was⟩ := update_eq_some_iff.mp named
      exact .inl ⟨disk, was⟩
  | diskAttached attached place known again =>
      obtain ⟨-, ⟨⟩⟩ | ⟨-, was⟩ := update_eq_some_iff.mp named
      · rw [Function.update_self, Option.isSome_map]
        exact .inr known
      · exact .inl ⟨disk, was⟩

end Links

end Provisioning.Cloud
