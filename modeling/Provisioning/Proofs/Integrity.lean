import Mathlib.Algebra.Group.Nat.Defs
import Mathlib.Data.List.Pairwise
import Provisioning.Proofs.HashEffect
import Provisioning.Proofs.Inventory

/-!
The integrity of a cloud. Each record is kept under its own identifier, no two interfaces share one,
and no list of cards or users has an entry twice. Every call keeps this up, whatever it moves or
renumbers. The main statement says so for all runs, together with what their ledger tells: a number
is never drawn twice, and what is new bears a number that was drawn for it.
-/

namespace Provisioning.Cloud

open CloudStep

variable {cloud before after : Cloud} {count : Nat}

/-- These are the interfaces that the servers of a cloud have under each identifier. -/
def wires (cloud : Cloud) (id : ResourceId) : List ResourceId :=
  ((cloud.servers.get? id).map Server.interfaceIds).getD []

/-- Lists are apart when no list has an entry twice and no two of them have an entry in common. -/
structure Apart (lists : ResourceId → List ResourceId) : Prop where
  nodup : ∀ id, (lists id).Nodup
  disjoint : ∀ {first second}, first ≠ second → (lists first).Disjoint (lists second)

/-- Lists are still apart when one of them is replaced by a list that has no entry twice and shares
none with the others. -/
theorem Apart.update {lists : ResourceId → List ResourceId} {id : ResourceId}
    {list : List ResourceId} (apart : Apart lists) (nodup : list.Nodup)
    (disjoint : ∀ other, other ≠ id → list.Disjoint (lists other)) :
    Apart (Function.update lists id list) := by
  refine ⟨fun other => ?_, fun {first second} different => ?_⟩
  · by_cases here : other = id
    · rw [here, Function.update_self]
      exact nodup
    · rw [Function.update_of_ne here]
      exact apart.nodup other
  · by_cases firstHere : first = id
    · subst firstHere
      rw [Function.update_self, Function.update_of_ne different.symm]
      exact disjoint second different.symm
    · by_cases secondHere : second = id
      · subst secondHere
        rw [Function.update_self, Function.update_of_ne firstHere]
        exact List.disjoint_symm (disjoint first firstHere)
      · rw [Function.update_of_ne firstHere, Function.update_of_ne secondHere]
        exact apart.disjoint different

/-- An interface among the wires of an identifier belongs to the server that is stored there. -/
theorem mem_wires {id interface : ResourceId} (listed : interface ∈ cloud.wires id) :
    ∃ server, cloud.servers.get? id = some server ∧ interface ∈ server.interfaceIds := by
  unfold wires at listed
  cases stored : cloud.servers.get? id with
  | none => simp [stored] at listed
  | some server => exact ⟨server, rfl, by simpa [stored] using listed⟩

/-- The wires of a stored server are its interfaces. -/
theorem wires_of_stored {id : ResourceId} {server : Server}
    (stored : cloud.servers.get? id = some server) : cloud.wires id = server.interfaceIds := by
  rw [wires, stored]
  rfl

/-- A server that is written has its own interfaces as wires. -/
theorem wires_insert {id : ResourceId} {server : Server} {lists : ResourceId → List ResourceId}
    {servers : Records Server} (written : after.servers = servers.insert id server)
    (former : ∀ other, ((servers.get? other).map Server.interfaceIds).getD [] = lists other) :
    after.wires = Function.update lists id server.interfaceIds := by
  ext1 other
  rw [wires, written, SortedMap.get?_insert, Function.update_apply]
  split
  · rfl
  · exact former other

/-- A server that is removed has no wires any more. -/
theorem wires_erase (id other : ResourceId) :
    (((cloud.servers.erase id).get? other).map Server.interfaceIds).getD [] =
      Function.update cloud.wires id [] other := by
  rw [SortedMap.get?_erase, Function.update_apply]
  split <;> rfl

/-- All interfaces are different exactly when those of the servers are apart. -/
theorem nodup_interfaceIds : cloud.interfaceIds.Nodup ↔ Apart cloud.wires := by
  rw [interfaceIds, List.nodup_flatMap, SortedMap.values, List.pairwise_map]
  constructor
  · rintro ⟨nodup, pairwise⟩
    refine ⟨fun id => ?_, fun {first second} different interface inFirst inSecond => ?_⟩
    · cases stored : cloud.servers.get? id with
      | none =>
          rw [wires, stored]
          exact List.nodup_nil
      | some server =>
          rw [wires_of_stored stored]
          exact nodup server (SortedMap.mem_values.mpr ⟨id, stored⟩)
    · obtain ⟨one, storedOne, listedOne⟩ := mem_wires inFirst
      obtain ⟨other, storedOther, listedOther⟩ := mem_wires inSecond
      have symmetric : Std.Symm fun one other : ResourceId × Server =>
          Function.onFun List.Disjoint Server.interfaceIds one.2 other.2 :=
        ⟨fun _ _ apart => List.disjoint_symm apart⟩
      have apart := pairwise.forall (SortedMap.mem_of_find? storedOne)
        (SortedMap.mem_of_find? storedOther) (fun same => different (congrArg Prod.fst same))
      exact apart listedOne listedOther
  · rintro ⟨nodup, disjoint⟩
    refine ⟨fun server listed => ?_, ?_⟩
    · obtain ⟨id, stored⟩ := SortedMap.mem_values.mp listed
      rw [← wires_of_stored stored]
      exact nodup id
    · refine cloud.servers.ascending.imp_of_mem fun {one other} memberOne memberOther below => ?_
      have storedOne : cloud.servers.get? one.1 = some one.2 :=
        SortedMap.find?_of_mem cloud.servers.ascending memberOne
      have storedOther : cloud.servers.get? other.1 = some other.2 :=
        SortedMap.find?_of_mem cloud.servers.ascending memberOther
      have different : one.1 ≠ other.1 := fun same => KeyOrder.irrefl other.1 (same ▸ below)
      have apart := disjoint different
      rw [wires_of_stored storedOne, wires_of_stored storedOther] at apart
      exact apart

/-- Servers that are rehosted keep their interfaces apart, since new ones bear numbers that the
counter had not reached. -/
theorem Rehosts.apart (rehosts : before.Rehosts after count) (apart : Apart before.wires)
    (reached : ∀ id, ∀ interface ∈ before.wires id, before.Reached interface)
    (room : before.lastId.toNat + count < UInt64.size) : Apart after.wires := by
  cases rehosts with
  | kept same =>
      have kept : after.wires = before.wires := by
        ext1 id
        have interfaces := congrArg (Option.map Prod.snd) (same id)
        rw [Option.map_map, Option.map_map] at interfaces
        exact congrArg (fun shown : Option (List ResourceId) => shown.getD []) interfaces
      exact kept ▸ apart
  | removed id written =>
      have vacated : after.wires = Function.update before.wires id [] := by
        ext1 other
        rw [wires, written]
        exact before.wires_erase id other
      rw [vacated]
      exact apart.update List.nodup_nil fun _ _ => List.disjoint_nil_left _
  | built server numbered written =>
      have fresh : ∀ id ∈ server.interfaceIds, before.lastId.toNat < id.value.toNat := by
        intro id listed
        have drawn : id ∈ (numbersAfter before.lastId count).map ResourceId.mk :=
          numbered ▸ List.mem_cons_of_mem _ listed
        obtain ⟨number, member, rfl⟩ := List.mem_map.mp drawn
        exact ((mem_numbersAfter room).mp member).1
      have distinct : (server.id :: server.interfaceIds).Nodup := by
        rw [numbered]
        refine List.Nodup.map (fun _ _ same => congrArg ResourceId.value same) ?_
        exact (pairwise_numbersAfter room).imp UInt64.ne_of_lt
      rw [wires_insert written fun _ => rfl]
      refine apart.update (List.nodup_cons.mp distinct).2 fun other _ id new former => ?_
      have early := reached other id former
      have late := fresh id new
      rw [Reached] at early
      omega
  | moved former server id single stored named interfaces written =>
      rw [wires_insert written (before.wires_erase id), interfaces, ← wires_of_stored stored]
      have vacated : Apart (Function.update before.wires id []) :=
        apart.update List.nodup_nil fun _ _ => List.disjoint_nil_left _
      refine vacated.update (apart.nodup id) fun other _ => ?_
      rw [Function.update_apply]
      split
      · exact List.disjoint_nil_right _
      next different => exact apart.disjoint (Ne.symm different)

/-- A cloud has integrity when each record is kept under its own identifier, which the counter has
reached, when no two interfaces share an identifier, when no gateway lists a card twice, and when no
registry lists a user twice. -/
structure Integrity (cloud : Cloud) : Prop where
  keyed : cloud.Keyed cloud.Reached
  interfaces : cloud.interfaceIds.Nodup
  cards : Each (fun _ gateway => gateway.simIds.Nodup) cloud.mobileGateways
  users : Each (fun _ registry => registry.userNames.Nodup) cloud.registries

/-- No call lists a user twice in a registry. -/
theorem call_users (request : Request)
    (users : Each (fun _ registry => registry.userNames.Nodup) cloud.registries) :
    Each (fun _ registry => registry.userNames.Nodup) (call request cloud).2.registries := by
  let distinct (_ _ : ResourceId) (names : List String) : Prop := names.Nodup
  have rule : UserRule distinct := by
    constructor
    · intro _ _ names name nodup new
      refine List.nodup_append.mpr ⟨nodup, List.pairwise_singleton _ _, ?_⟩
      rintro other listed _ last rfl
      exact new (List.mem_singleton.mp last ▸ listed)
    · exact fun _ _ names name nodup => nodup.filter _
  obtain ⟨failures, written⟩ := call_footprint request cloud
  cases request with
  | containerRegistry call =>
      let kept (after : Cloud) : Prop :=
        Each (fun _ registry => registry.userNames.Nodup) after.registries
      have logged : kept (cloud.logging (.containerRegistry call) cloud.failures) := users
      have answered : (answerRegistry call).Yields
          (cloud.logging (.containerRegistry call) cloud.failures) (fun _ => kept)
          (fun _ => kept) :=
        (answerRegistry_obeys rule call logged).mono
          (fun _ _ obeys => obeys fun _ _ => List.nodup_nil) fun _ _ obeys => obeys
      exact call_elim (motive := fun _ => kept) (fun _ _ _ => users) fun _ => answered
  | _ =>
      rw [written]
      exact users

/-- A cloud with integrity is tidy. -/
theorem Integrity.tidy (integrity : cloud.Integrity) : cloud.Tidy where
  routers id router stored := (integrity.keyed.vpcRouters id router stored).1
  gateways id gateway stored :=
    ⟨(integrity.keyed.mobileGateways id gateway stored).1, integrity.cards id gateway stored⟩

/-- An event keeps a cloud keyed by what its counter has reached, as long as there is room for its
numbers. -/
theorem Keyed.handle_reached (keyed : cloud.Keyed cloud.Reached) (event : Event)
    (room : cloud.lastId.toNat + (cloud.numbers event).length < UInt64.size) :
    (cloud.handle event).Keyed (cloud.handle event).Reached := by
  have reached : cloud.Keyed (cloud.handle event).Reached := by
    refine keyed.of_inventory fun id listed => ?_
    have early := keyed.of_mem listed
    rw [Reached] at early ⊢
    rw [handle_lastId_toNat room]
    omega
  exact reached.handle event fun number drawn => ((mem_numbers room).mp drawn).2

/-- An event keeps the integrity of a cloud as long as the counter has room for its numbers. -/
theorem Integrity.handle (integrity : cloud.Integrity) (event : Event)
    (room : cloud.lastId.toNat + (cloud.numbers event).length < UInt64.size) :
    (cloud.handle event).Integrity := by
  have keyed := integrity.keyed.handle_reached event room
  cases event with
  | announce endpoint times error =>
      exact ⟨keyed, integrity.interfaces, integrity.cards, integrity.users⟩
  | call request =>
      rw [numbers, length_numbersAfter] at room
      refine ⟨keyed, ?_, ?_, call_users request integrity.users⟩
      · refine nodup_interfaceIds.mpr ((call_rehosts request cloud).apart
          (nodup_interfaceIds.mp integrity.interfaces) (fun id interface listed => ?_) room)
        obtain ⟨server, stored, inside⟩ := mem_wires listed
        exact integrity.keyed.interfaces id server stored interface inside
      · exact fun id gateway stored => ((integrity.tidy.call request).gateways id gateway stored).2

/-- A run keeps the integrity of a cloud as long as the counter has room for its ledger. -/
theorem Integrity.through (integrity : cloud.Integrity) (events : List Event)
    (room : cloud.lastId.toNat + (cloud.ledger events).length < UInt64.size) :
    (cloud.through events).Integrity := by
  induction events generalizing cloud with
  | nil => exact integrity
  | cons event rest inductionHypothesis =>
      rw [ledger, List.length_append] at room
      have roomNow : cloud.lastId.toNat + (cloud.numbers event).length < UInt64.size := by omega
      have next := handle_lastId_toNat roomNow
      exact inductionHypothesis (integrity.handle event roomNow) (by omega)

/-- Every settings hash is there before a run, or it has a number of the ledger. -/
theorem hashes_through (events : List Event) {kind : Guarded} {id : ResourceId} {hash : String}
    (room : cloud.lastId.toNat + (cloud.ledger events).length < UInt64.size)
    (stored : (cloud.through events).settingsHash? kind id = some hash) :
    cloud.settingsHash? kind id = some hash ∨
      ∃ number ∈ cloud.ledger events, hash = hashText number := by
  induction events generalizing cloud with
  | nil => exact .inl stored
  | cons event rest inductionHypothesis =>
      rw [ledger, List.length_append] at room
      have roomNow : cloud.lastId.toNat + (cloud.numbers event).length < UInt64.size := by omega
      have next := handle_lastId_toNat roomNow
      have moves : HashMove cloud.lastId (cloud.handle event).lastId (cloud.settingsHash? kind id)
          ((cloud.handle event).settingsHash? kind id) := by
        cases event with
        | announce endpoint times error => cases kind <;> exact .kept
        | call request =>
            have counted : cloud.lastId ≤ (call request cloud).2.lastId := by
              rw [UInt64.le_iff_toNat_le]
              exact next ▸ Nat.le_add_right _ _
            exact (call_effect counted kind).moves id
      rcases inductionHypothesis (by omega) stored with before | ⟨number, later, text⟩
      · rw [before] at moves
        generalize former : cloud.settingsHash? kind id = shown at moves
        cases moves with
        | kept => exact .inl rfl
        | drawn number above counted =>
            rw [UInt64.lt_iff_toNat_lt] at above
            rw [UInt64.le_iff_toNat_le] at counted
            have member := (mem_numbers roomNow).mpr ⟨above, counted⟩
            exact .inr ⟨number, List.mem_append_left _ member, rfl⟩
      · exact .inr ⟨number, List.mem_append_right _ later, text⟩

/-- The counter of a seeded cloud starts at its first number. -/
theorem seeded_lastId (settleReads : Nat) (seeds : List Seed) :
    (seeded settleReads seeds).lastId = 1000 := by
  refine seeded_elim (motive := fun cloud => cloud.lastId = 1000) settleReads seeds rfl ?_
  intro cloud seed _ counter
  cases seed <;> exact counter

/-- A seeded cloud has integrity when the seeds have. -/
theorem integrity_seeded (settleReads : Nat) (seeds : List Seed)
    (early : ∀ seed ∈ seeds, ∀ id ∈ seed.ids, id.value.toNat ≤ 1000)
    (interfaces : (seeded settleReads seeds).interfaceIds.Nodup)
    (users : ∀ seed ∈ seeds, seed.userNames.Nodup) : (seeded settleReads seeds).Integrity := by
  have reached : ∀ seed ∈ seeds, ∀ id ∈ seed.ids, (seeded settleReads seeds).Reached id := by
    intro seed listed id inside
    rw [Reached, seeded_lastId]
    exact early seed listed id inside
  refine ⟨keyed_seeded settleReads seeds reached, interfaces, ?_, ?_⟩
  · refine seeded_elim
      (motive := fun cloud => Each (fun _ gateway => gateway.simIds.Nodup) cloud.mobileGateways)
      settleReads seeds (each_empty _) ?_
    intro cloud seed _ kept
    cases seed <;> exact kept
  · refine seeded_elim
      (motive := fun cloud => Each (fun _ registry => registry.userNames.Nodup) cloud.registries)
      settleReads seeds (each_empty _) ?_
    intro cloud seed listed kept
    have nodup := users seed listed
    cases seed with
    | registry record => exact kept.insert nodup
    | _ => exact kept

/-- A run goes on from a cloud with integrity. Its ledger has the numbers that the counter passes.
None of them is in the inventory yet, and everything that is new afterwards, be it an identifier or
a settings hash, bears one of them. -/
structure GoesOn (cloud : Cloud) (events : List Event) : Prop where
  integrity : cloud.Integrity
  passed : ∀ number, number ∈ cloud.ledger events ↔
    cloud.lastId < number ∧ number ≤ (cloud.through events).lastId
  unused : ∀ number ∈ cloud.ledger events, ⟨number⟩ ∉ cloud.inventory
  numbered : ∀ id ∈ (cloud.through events).inventory,
    id ∈ cloud.inventory ∨ id.value ∈ cloud.ledger events
  hashed : ∀ kind id hash, (cloud.through events).settingsHash? kind id = some hash →
    cloud.settingsHash? kind id = some hash ∨ ∃ number ∈ cloud.ledger events, hash = hashText number

/-- Every run goes on from a cloud with integrity, as long as its counter does not overflow. -/
theorem Integrity.goesOn (integrity : cloud.Integrity) (events : List Event)
    (room : cloud.lastId.toNat + (cloud.ledger events).length < UInt64.size) :
    cloud.GoesOn events where
  integrity := integrity
  passed number := by
    rw [UInt64.lt_iff_toNat_lt, UInt64.le_iff_toNat_le]
    exact mem_ledger room
  unused number drawn listed := by
    have early := integrity.keyed.of_mem listed
    have late := ((mem_ledger room).mp drawn).1
    exact Nat.not_le.mpr late early
  numbered id listed := integrity.keyed.inventory_through events listed
  hashed kind id hash stored := hashes_through events room stored

/-- Each number that is drawn during a run from a seeded cloud is greater than all numbers before
it, and wherever the run is divided, it goes on with integrity. -/
theorem integrity_lasts (settleReads : Nat) (seeds : List Seed) (events : List Event)
    (early : ∀ seed ∈ seeds, ∀ id ∈ seed.ids, id.value.toNat ≤ 1000)
    (interfaces : (seeded settleReads seeds).interfaceIds.Nodup)
    (users : ∀ seed ∈ seeds, seed.userNames.Nodup)
    (room : ((seeded settleReads seeds).ledger events).length < 2 ^ 63) :
    ((seeded settleReads seeds).ledger events).Pairwise (· < ·) ∧
      ∀ earlier later, events = earlier ++ later →
        ((seeded settleReads seeds).through earlier).GoesOn later := by
  have counter : (seeded settleReads seeds).lastId.toNat = 1000 :=
    congrArg UInt64.toNat (seeded_lastId settleReads seeds)
  have size : 2 ^ 63 + 1000 < UInt64.size := by decide
  refine ⟨pairwise_ledger (by omega), fun earlier later divided => ?_⟩
  rw [divided, ledger_append, List.length_append] at room
  have roomEarlier : (seeded settleReads seeds).lastId.toNat +
      ((seeded settleReads seeds).ledger earlier).length < UInt64.size := by omega
  have middle := through_lastId_toNat roomEarlier
  have integrity := integrity_seeded settleReads seeds early interfaces users
  exact (integrity.through earlier roomEarlier).goesOn later (by omega)

/-- One server is created with an interface, and both servers move to another plan. A refused update
draws a number that nothing bears, and an announced failure draws none. -/
theorem renumbered_servers_haveIntegrity :
    let interface : Interface := { (default : Interface) with id := ⟨900⟩ }
    let seeds : List Seed :=
      [.serverPlan { (default : ServerPlan) with id := ⟨10⟩ },
        .serverPlan { (default : ServerPlan) with id := ⟨11⟩ },
        .server { (default : Server) with
          id := ⟨7⟩
          instanceStatus := .down
          interfaces := [interface] },
        .registry { (default : ContainerRegistry) with id := ⟨8⟩, userNames := ["alice"] }]
    let create : Request := .server ⟨"is1a"⟩ (.create
      { (default : ServerCreateRequest) with planId := ⟨10⟩, connectedSwitches := [.shared] })
    let events : List Event :=
      [.announce create.endpoint 1 (.conflict "busy" "try again"), .call create, .call create,
        .call (.server ⟨"is1a"⟩ (.changePlan ⟨7⟩ ⟨11⟩)),
        .call (.server ⟨"is1a"⟩ (.changePlan ⟨1001⟩ ⟨11⟩)),
        .call (.localRouter (.updateSettings ⟨9⟩ default "hash")),
        .call (.containerRegistry (.addUser ⟨8⟩
          { (default : RegistryUser) with userName := "alice" }))]
    let start := seeded 2 seeds
    start.ledger events = [1001, 1002, 1003, 1004, 1005] ∧
      (start.through events).interfaceIds = [⟨900⟩, ⟨1002⟩] ∧
      (start.ledger events).Pairwise (· < ·) ∧
      ∀ earlier later, events = earlier ++ later → (start.through earlier).GoesOn later := by
  intro interface seeds create events start
  have numbers : start.ledger events = [1001, 1002, 1003, 1004, 1005] := by decide +kernel
  refine ⟨numbers, by decide +kernel, ?_⟩
  exact integrity_lasts 2 seeds events (by decide +kernel) (by decide +kernel) (by decide +kernel)
    (numbers ▸ by decide)

end Provisioning.Cloud
