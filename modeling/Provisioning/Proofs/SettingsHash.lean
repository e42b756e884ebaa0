import Provisioning.Proofs.Run

/-!
Settings hashes. Databases, routers and gateways keep a hash of their settings, and an update names
the hash that its client has seen. A guarded kind is a table with a place for the hash, and each
step of such a table moves the hashes in one of three ways.
-/

namespace Provisioning

/-- The records of these kinds guard their settings by a hash. -/
inductive Guarded where
  | database
  | vpcRouter
  | mobileGateway
  | localRouter
  deriving DecidableEq, Repr

/-- The hash that the cloud keeps beside the settings of a record. -/
def Cloud.settingsHash? (cloud : Cloud) : Guarded → ResourceId → Option String
  | .database, id => (cloud.databases.get? id).map Database.settingsHash
  | .vpcRouter, id => (cloud.vpcRouters.get? id).map VpcRouter.settingsHash
  | .mobileGateway, id => (cloud.mobileGateways.get? id).map MobileGateway.settingsHash
  | .localRouter, id => (cloud.localRouters.get? id).map LocalRouter.settingsHash

/-- An update names its record and the hash that its client has seen. -/
def Request.update? : Request → Option (Guarded × ResourceId × String)
  | .database _ (.update id request) => some (.database, id, request.settingsHash)
  | .vpcRouter _ (.update id request) => some (.vpcRouter, id, request.settingsHash)
  | .mobileGateway _ (.update id request) => some (.mobileGateway, id, request.settingsHash)
  | .localRouter (.updateSettings id _ settingsHash) => some (.localRouter, id, settingsHash)
  | _ => none

/-- An answer shows a guarded record on one of these occasions. -/
inductive Occasion where
  | creation
  | read
  | update
  deriving DecidableEq, Repr

/-- The calls of a family are about one kind of guarded record or about none. -/
def Request.guarded? : Request → Option Guarded
  | .database .. => some .database
  | .vpcRouter .. => some .vpcRouter
  | .mobileGateway .. => some .mobileGateway
  | .localRouter _ => some .localRouter
  | _ => none

namespace Exchange

/-- An answer that shows a guarded record tells the record and its hash. -/
def shows? : Exchange → Option (Occasion × Guarded × ResourceId × String)
  | ⟨.database _ (.create _), .ok record⟩ =>
      some (.creation, .database, record.id, record.settingsHash)
  | ⟨.database _ (.read id), .ok record⟩ => some (.read, .database, id, record.settingsHash)
  | ⟨.database _ (.update id _), .ok record⟩ => some (.update, .database, id, record.settingsHash)
  | ⟨.vpcRouter _ (.create _), .ok record⟩ =>
      some (.creation, .vpcRouter, record.id, record.settingsHash)
  | ⟨.vpcRouter _ (.read id), .ok record⟩ => some (.read, .vpcRouter, id, record.settingsHash)
  | ⟨.vpcRouter _ (.update id _), .ok record⟩ =>
      some (.update, .vpcRouter, id, record.settingsHash)
  | ⟨.mobileGateway _ (.create _), .ok record⟩ =>
      some (.creation, .mobileGateway, record.id, record.settingsHash)
  | ⟨.mobileGateway _ (.read id), .ok record⟩ =>
      some (.read, .mobileGateway, id, record.settingsHash)
  | ⟨.mobileGateway _ (.update id _), .ok record⟩ =>
      some (.update, .mobileGateway, id, record.settingsHash)
  | ⟨.localRouter (.create _), .ok record⟩ =>
      some (.creation, .localRouter, record.id, record.settingsHash)
  | ⟨.localRouter (.read id), .ok record⟩ => some (.read, .localRouter, id, record.settingsHash)
  | ⟨.localRouter (.updateSettings id _ _), .ok record⟩ =>
      some (.update, .localRouter, id, record.settingsHash)
  | _ => none

/-- This exchange creates a record. -/
def Creates (exchange : Exchange) (kind : Guarded) (id : ResourceId) : Prop :=
  ∃ hash, exchange.shows? = some (.creation, kind, id, hash)

/-- This exchange hands out the hash of a record. -/
def HandsOut (exchange : Exchange) (kind : Guarded) (id : ResourceId) (hash : String) : Prop :=
  ∃ occasion, exchange.shows? = some (occasion, kind, id, hash)

/-- This exchange is an update of a record that succeeds with a hash. -/
def Accepts (exchange : Exchange) (kind : Guarded) (id : ResourceId) (given : String) : Prop :=
  exchange.request.update? = some (kind, id, given) ∧ exchange.answer.isOk

end Exchange

/-- No two identifiers have the same text. -/
theorem ResourceId.text_injective {first second : ResourceId} (same : first.text = second.text) :
    first = second := by
  have digits := congrArg (fun text : String => Nat.ofDigitChars 10 text.toList 0) same
  simp only [text, Nat.toString_eq_repr, Nat.toList_repr] at digits
  rw [Nat.ofDigitChars_toDigits (by decide) (by decide),
    Nat.ofDigitChars_toDigits (by decide) (by decide)] at digits
  cases first
  cases second
  exact congrArg ResourceId.mk (UInt64.toNat_inj.mp digits)

/-- Two numbers never become one hash. -/
theorem Cloud.hashText_injective {first second : UInt64}
    (same : hashText first = hashText second) : first = second := by
  have text : (ResourceId.mk first).text = (ResourceId.mk second).text :=
    (String.append_right_inj "hash-").mp same
  exact congrArg ResourceId.value (ResourceId.text_injective text)

/-- A hash stays, goes with its record, or is drawn from the counter. -/
inductive HashMove (last next : UInt64) (before : Option String) : Option String → Prop where
  | kept : HashMove last next before before
  | gone : HashMove last next before none
  | drawn (number : UInt64) (above : last < number) (counted : number ≤ next) :
      HashMove last next before (some (Cloud.hashText number))

/-- This relation says how the hashes of one kind move from one cloud to the next. -/
def Guarded.Moves (kind : Guarded) (before after : Cloud) : Prop :=
  ∀ id, HashMove before.lastId after.lastId (before.settingsHash? kind id)
    (after.settingsHash? kind id)

/-- Hashes move as they would with any counts of reads. -/
theorem Guarded.moves_of_pending (kind : Guarded) {before after : Cloud} {pending : Records Nat}
    (moves : kind.Moves { before with pending := pending } after) : kind.Moves before after := by
  cases kind <;> exact moves

/-- Hashes move after a call is logged as they would before. -/
theorem Guarded.moves_of_logging (kind : Guarded) {before after : Cloud} {request : Request}
    {failures : List (Endpoint × RemoteError)}
    (moves : kind.Moves (before.logging request failures) after) : kind.Moves before after := by
  cases kind <;> exact moves

/-- This is the table of a guarded kind, together with the place where its records keep a hash. -/
structure Guarded.Keeper (kind : Guarded) (ρ : Type) where
  table : Cloud.Table ρ
  hash : ρ → String
  settingsHash? : ∀ cloud id, cloud.settingsHash? kind id = ((table.read cloud).get? id).map hash
  lawful : table.Lawful

namespace Guarded.Keeper

def databases : Keeper .database Database where
  table := Cloud.databaseTable
  hash := Database.settingsHash
  settingsHash? _ _ := rfl
  lawful := Cloud.databaseTable_lawful

def vpcRouters : Keeper .vpcRouter VpcRouter where
  table := Cloud.vpcRouterTable
  hash := VpcRouter.settingsHash
  settingsHash? _ _ := rfl
  lawful := Cloud.vpcRouterTable_lawful

def mobileGateways : Keeper .mobileGateway MobileGateway where
  table := Cloud.mobileGatewayTable
  hash := MobileGateway.settingsHash
  settingsHash? _ _ := rfl
  lawful := Cloud.mobileGatewayTable_lawful

def localRouters : Keeper .localRouter LocalRouter where
  table := Cloud.localRouterTable
  hash := LocalRouter.settingsHash
  settingsHash? _ _ := rfl
  lawful := Cloud.localRouterTable_lawful

variable {kind : Guarded} {ρ : Type} (keeper : Keeper kind ρ) {cloud after : Cloud}
  {id : ResourceId} {record : ρ}

theorem read_counter (cloud : Cloud) (last : UInt64) :
    keeper.table.read { cloud with lastId := last } = keeper.table.read cloud :=
  keeper.lawful.read_counters cloud last cloud.pending cloud.calls cloud.failures

theorem read_pending (cloud : Cloud) (pending : Records Nat) :
    keeper.table.read { cloud with pending := pending } = keeper.table.read cloud :=
  keeper.lawful.read_counters cloud cloud.lastId pending cloud.calls cloud.failures

/-- Hashes stay where the table does. -/
theorem moves_same (same : keeper.table.read after = keeper.table.read cloud) :
    kind.Moves cloud after := by
  intro other
  rw [keeper.settingsHash? after, same, ← keeper.settingsHash?]
  exact .kept

/-- A removal takes the hash of its record away, and the others stay. -/
theorem moves_erase (written : keeper.table.read after = (keeper.table.read cloud).erase id) :
    kind.Moves cloud after := by
  intro other
  rw [keeper.settingsHash? after, written, SortedMap.get?_erase]
  split
  · exact .gone
  · rw [← keeper.settingsHash?]
    exact .kept

/-- A record that is written moves its own hash, and the others stay. -/
theorem moves_insert
    (written : keeper.table.read after = (keeper.table.read cloud).insert id record)
    (move : HashMove cloud.lastId after.lastId (cloud.settingsHash? kind id)
      (some (keeper.hash record))) :
    kind.Moves cloud after := by
  intro other
  rw [keeper.settingsHash? after, written, SortedMap.get?_insert]
  split
  next same =>
    subst same
    exact move
  next different =>
    rw [← keeper.settingsHash?]
    exact .kept

/-- A record that is written shows its own hash. -/
theorem shows_insert {records : Records ρ}
    (written : keeper.table.read after = records.insert id record) :
    after.settingsHash? kind id = some (keeper.hash record) := by
  rw [keeper.settingsHash?, written, SortedMap.get?_insert_self]
  rfl

/-- A change that keeps the hash of its record moves no hash. -/
theorem moves_change {before : ρ} (stored : (keeper.table.read cloud).get? id = some before)
    (keeps : keeper.hash record = keeper.hash before)
    (written : keeper.table.read after = (keeper.table.read cloud).insert id record) :
    kind.Moves cloud after := by
  apply keeper.moves_insert written
  rw [keeper.settingsHash?, stored, keeps]
  exact .kept

open CloudStep

/-- A change that keeps the hash of its record keeps all hashes, and the answer has the hash that is
stored. -/
theorem yields_change_moves (change : ρ → ρ)
    (keeps : ∀ record, keeper.hash (change record) = keeper.hash record) :
    Yields (keeper.table.change id change) cloud
      (fun record after =>
        kind.Moves cloud after ∧ after.settingsHash? kind id = some (keeper.hash record))
      (fun _ after => kind.Moves cloud after) := by
  rw [yields_change]
  cases stored : (keeper.table.read cloud).get? id with
  | none => exact keeper.moves_same rfl
  | some record =>
      have written := keeper.lawful.read_write cloud
        ((keeper.table.read cloud).insert id (change record))
      exact ⟨keeper.moves_change stored (keeps record) written, keeper.shows_insert written⟩

/-- A read shows the hash that the cloud keeps, whether the record settles or not. -/
theorem yields_readSettling_moves (settled : ρ → ρ)
    (keeps : ∀ record, keeper.hash (settled record) = keeper.hash record) :
    Yields (keeper.table.readSettling id settled) cloud
      (fun record after =>
        kind.Moves cloud after ∧ after.settingsHash? kind id = some (keeper.hash record))
      (fun _ after => kind.Moves cloud after) := by
  rw [yields_readSettling]
  cases stored : (keeper.table.read cloud).get? id with
  | none => exact keeper.moves_same rfl
  | some record =>
      dsimp only
      cases cloud.pending.get? id with
      | none => exact keeper.yields_change_moves settled keeps
      | some left =>
          dsimp only
          split
          · rw [yields_find, keeper.read_pending, stored]
            refine ⟨keeper.moves_same (keeper.read_pending _ _), ?_⟩
            rw [keeper.settingsHash?, keeper.read_pending, stored]
            rfl
          · exact (keeper.yields_change_moves settled keeps).mono
              (fun _ _ shown => ⟨kind.moves_of_pending shown.1, shown.2⟩)
              (fun _ _ moves => kind.moves_of_pending moves)

/-- An update draws a hash first, then looks at its record, and then compares the hashes. -/
def update (id : ResourceId) (given : String) (change : String → ρ → ρ) : CloudStep ρ := do
  let fresh ← Cloud.freshHash
  let record ← keeper.table.find id
  Cloud.checkHash (keeper.hash record) given
  keeper.table.change id (change fresh)

/-- An update succeeds with the hash that is stored and draws the next one, and a refused update
moves the counter and nothing else. -/
theorem yields_update {given : String} {change : String → ρ → ρ}
    (keeps : ∀ fresh record, keeper.hash (change fresh record) = fresh) :
    Yields (keeper.update id given change) cloud
      (fun record after => cloud.settingsHash? kind id = some given ∧
        after.lastId = cloud.lastId + 1 ∧ keeper.hash record = Cloud.hashText (cloud.lastId + 1) ∧
        keeper.table.read after = (keeper.table.read cloud).insert id record)
      (fun _ after => cloud.settingsHash? kind id ≠ some given ∧
        after = { cloud with lastId := cloud.lastId + 1 }) := by
  rw [update, yields_bind, yields_freshHash, yields_bind, yields_find, keeper.read_counter]
  rw [keeper.settingsHash?]
  cases stored : (keeper.table.read cloud).get? id with
  | none => exact ⟨nofun, rfl⟩
  | some record =>
      dsimp only
      rw [yields_bind, yields_checkHash]
      split
      next same =>
        rw [yields_change, keeper.read_counter, stored]
        refine ⟨congrArg some same, ?_, keeps _ _, ?_⟩
        · rw [keeper.lawful.lastId_write]
        · rw [keeper.lawful.read_write]
      next different =>
        exact ⟨fun same => different (Option.some.inj same), rfl⟩

end Guarded.Keeper

end Provisioning
