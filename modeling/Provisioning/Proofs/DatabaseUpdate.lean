import Provisioning.Proofs.CardUpdate
import Provisioning.Proofs.HashEffect

/-!
Updates of databases. The first read shows whether the database is up, and this decides whether the
update boots it in the end. The main statement says what is stored after an update, and which calls
have been made for it.
-/

namespace Provisioning

open Program Cloud

/-- What an attempt yields is the answer of the cloud. -/
theorem Program.yields_answer {context : Context} {world : World Cloud} {request : Request} :
    Yields context Cloud.remote (Build.attempt request) world
      (fun value _ => (Cloud.call request world.store).1 = .ok value)
      (fun error _ => (Cloud.call request world.store).1 = .error error) := by
  rw [yields_attempt, Cloud.remote]
  generalize Cloud.call request world.store = answered
  obtain ⟨answer, after⟩ := answered
  cases answer <;> rfl

def Database.metadata (database : Database) : Metadata where
  name := database.name
  description := database.description
  tags := database.tags
  iconId := database.iconId

namespace Cloud

/-- This is the value that the engine of a database has for a parameter. -/
def parameter? (cloud : Cloud) (id : ResourceId) (key : String) : Option Json :=
  (cloud.databaseParameters.get? id).bind (·.get? key)

/-- No hash that is kept has a number that the counter is yet to draw. -/
def FreshHashes (cloud : Cloud) : Prop :=
  ∀ number, cloud.lastId < number → ∀ kind id, cloud.settingsHash? kind id ≠ some (hashText number)

/-- A call draws the hashes that it writes, so the later ones stay fresh. -/
theorem FreshHashes.call {cloud : Cloud} {request : Request} (fresh : cloud.FreshHashes)
    (counted : cloud.lastId ≤ (call request cloud).2.lastId) :
    (Cloud.call request cloud).2.FreshHashes := by
  intro number above kind id stored
  have move := (call_effect counted kind).moves id
  rw [stored] at move
  generalize former : cloud.settingsHash? kind id = before at move
  generalize text : some (hashText number) = after at move
  cases move with
  | kept =>
      have above := UInt64.lt_of_le_of_lt counted above
      exact fresh number above kind id (former.trans text.symm)
  | gone => nomatch text
  | drawn other _ reached =>
      rw [hashText_injective (Option.some.inj text)] at above
      exact UInt64.lt_irrefl _ (UInt64.lt_of_lt_of_le above reached)

/-- A database is recorded when it is stored with certain parameters and only these mutating calls
have been made since the start. -/
structure Recorded (start : Cloud) (id : ResourceId) (parameters : String → Option Json)
    (made : List Endpoint) (database : Database) (now : Cloud) : Prop where
  silent : now.failures = []
  stored : now.databases.get? id = some database
  parameters : now.parameter? id = parameters
  made : now.mutatingCalls = start.mutatingCalls ++ made

/-- The next mutating call is made after the others. -/
theorem Recorded.made_next {start before after : Cloud} {id : ResourceId}
    {parameters : String → Option Json} {made : List Endpoint} {database : Database}
    {endpoint : Endpoint} (recorded : start.Recorded id parameters made database before)
    (logged : after.calls = before.calls ++ [endpoint]) (mutates : endpoint.isReadOnly = false) :
    after.mutatingCalls = start.mutatingCalls ++ (made ++ [endpoint]) := by
  rw [mutatingCalls_of_logged logged (List.forall_mem_singleton.mpr mutates), recorded.made,
    List.append_assoc]

end Cloud

namespace DatabaseBlueprint

variable {context : Context} {world : World Cloud} {zone : Zone} {start : Cloud} {id : ResourceId}
  {parameters : String → Option Json} {made : List Endpoint} {database : Database}
  {blueprint : DatabaseBlueprint}

/-- A read answers with the record as it is from then on, which may have settled. -/
theorem read_records (recorded : start.Recorded id parameters made database world.store) :
    Yields context Cloud.remote (Build.attempt (.database zone (.read id))) world
      (fun seen after => (seen = database ∨ seen = settledDatabase database) ∧
        after.store.lastId = world.store.lastId ∧
        start.Recorded id parameters made seen after.store)
      (fun _ _ => False) := by
  obtain ⟨silent, stored, same, calls⟩ := recorded
  let logged := world.store.logging (.database zone (.read id)) world.store.failures
  have records (seen : Database) (pending : Records Nat) (databases : Records Database)
      (found : databases.get? id = some seen) : start.Recorded id parameters made seen
        { logged with pending := pending, databases := databases } := by
    have browsed : world.store.Browsed
        { logged with pending := pending, databases := databases } :=
      ⟨[.readDatabase], rfl, List.forall_mem_singleton.mpr rfl⟩
    exact ⟨silent, found, same, browsed.mutatingCalls.trans calls⟩
  have here : (databaseTable.read logged).get? id = some database := stored
  have settled := SortedMap.get?_insert_self world.store.databases id (settledDatabase database)
  apply yields_silent_attempt silent
  rw [answerRequest, answerDatabase, CloudStep.yields_readSettling, here]
  dsimp only
  split
  · apply CloudStep.Yields.change _ _ stored
    exact ⟨.inr rfl, rfl, records _ _ _ settled⟩
  · split
    · apply CloudStep.Yields.find _ _ stored
      exact ⟨.inl rfl, rfl, records _ _ _ stored⟩
    · apply CloudStep.Yields.change _ _ stored
      exact ⟨.inr rfl, rfl, records _ _ _ settled⟩

/-- This is the record of a database that has been updated with a fresh hash. -/
def revised (blueprint : DatabaseBlueprint) (database : Database) (settingsHash : String) :
    Database :=
  { database with
    name := blueprint.name
    description := blueprint.description
    tags := blueprint.tags
    iconId := blueprint.iconId
    settings := blueprint.settings
    settingsHash }

/-- The update draws the next number for the hash of the new settings. -/
theorem update_records {given : String}
    (recorded : start.Recorded id parameters made database world.store) :
    Yields context Cloud.remote (Build.call "update database"
      (.database zone (.update id (blueprint.updateRequest given)))) world
      (fun _ after => start.Recorded id parameters (made ++ [.updateDatabase])
          (blueprint.revised database (hashText (world.store.lastId + 1))) after.store)
      (fun _ _ => True) := by
  apply yields_silent_call recorded.silent
  rw [answerRequest, answerDatabase, updateDatabase, CloudStep.yields_bind,
    CloudStep.yields_freshHash, CloudStep.yields_bind]
  apply CloudStep.Yields.find _ _ recorded.stored
  rw [CloudStep.yields_bind, CloudStep.yields_checkHash]
  split
  · apply CloudStep.Yields.change _ _ recorded.stored
    exact ⟨recorded.silent, SortedMap.get?_insert_self _ _ _, recorded.parameters,
      recorded.made_next rfl rfl⟩
  · trivial

/-- The settings of a recorded database are applied with one call, and the record stays as it is. -/
theorem config_records (recorded : start.Recorded id parameters made database world.store) :
    Yields context Cloud.remote
      (Build.call "apply database settings" (.database zone (.config id))) world
      (fun _ after => start.Recorded id parameters (made ++ [.configDatabase]) database after.store)
      (fun _ _ => True) := by
  apply yields_silent_call recorded.silent
  rw [answerRequest, answerDatabase, CloudStep.yields_bind]
  apply CloudStep.Yields.find _ _ recorded.stored
  exact ⟨recorded.silent, recorded.stored, recorded.parameters, recorded.made_next rfl rfl⟩

/-- Parameters are set with one call, unless there are none. -/
def parameterCalls (blueprint : DatabaseBlueprint) : List Endpoint :=
  if blueprint.parameters.isEmpty then [] else [.setDatabaseParameters]

/-- The declared parameters override those that were set before. -/
theorem applyParameters_records
    (recorded : start.Recorded id parameters made database world.store) :
    Yields context Cloud.remote (blueprint.applyParameters zone id) world
      (fun _ after => start.Recorded id
        (fun key => (blueprint.parameters.get? key).or (parameters key))
        (made ++ blueprint.parameterCalls) database after.store)
      (fun _ _ => True) := by
  rw [applyParameters, parameterCalls]
  split
  next nothing =>
    rw [yields_pure, List.append_nil]
    refine ⟨recorded.silent, recorded.stored, ?_, recorded.made⟩
    funext key
    rw [SortedMap.get?_of_isEmpty nothing, Option.none_or, recorded.parameters]
  next declared =>
    apply yields_silent_call recorded.silent
    rw [answerRequest, answerDatabase, setDatabaseParameters, CloudStep.yields_bind]
    apply CloudStep.Yields.find _ _ recorded.stored
    refine ⟨recorded.silent, recorded.stored, ?_, recorded.made_next rfl rfl⟩
    funext key
    have former : ((world.store.databaseParameters.get? id).getD .empty).get? key =
        parameters key := by
      rw [← recorded.parameters, parameter?]
      cases world.store.databaseParameters.get? id <;> rfl
    rw [parameter?, SortedMap.get?_insert_self, Option.bind_some, SortedMap.get?_override]
    exact congrArg _ former

/-- A database that is up stays up when it settles, with all of its declared data. -/
theorem settledDatabase_up (database : Database) (availability : Availability) :
    ∃ settled, settledDatabase { database with availability, instanceStatus := .up } =
      { database with availability := settled, instanceStatus := .up } := by
  rw [settledDatabase]
  split
  · exact ⟨.available, rfl⟩
  · exact ⟨availability, rfl⟩

/-- One request boots the database, and the first look confirms that it is up. -/
theorem boot_records {timing : Timing} {noWait : Bool}
    (recorded : start.Recorded id parameters made database world.store) :
    Yields context Cloud.remote ((databasePower zone id).switch .boot timing noWait) world
      (fun _ after => ∃ availability, start.Recorded id parameters (made ++ [.bootDatabase])
        { database with availability, instanceStatus := .up } after.store)
      (fun _ _ => True) := by
  let booted (now : Cloud) : Prop :=
    ∃ availability, start.Recorded id parameters (made ++ [.bootDatabase])
      { database with availability, instanceStatus := .up } now
  apply (databasePower zone id).switch_keeps (start.Recorded id parameters made database) booted
    _ _ recorded
  · intro now recorded
    apply yields_silent_attempt recorded.silent
    rw [answerRequest, answerDatabase, CloudStep.yields_bind]
    apply CloudStep.Yields.change _ _ recorded.stored
    exact ⟨database.availability, recorded.silent, SortedMap.get?_insert_self _ _ _,
      recorded.parameters, recorded.made_next rfl rfl⟩
  · rintro now ⟨availability, recorded⟩
    apply Yields.bind ((read_records recorded).mono (fun _ _ seen => seen) fun _ _ => False.elim)
    rintro seen after ⟨rfl | rfl, -, recorded⟩
    · exact ⟨rfl, availability, recorded⟩
    · obtain ⟨settled, same⟩ := settledDatabase_up database availability
      rw [same] at recorded ⊢
      exact ⟨rfl, settled, recorded⟩

/-- These calls change something in an update whose first read has shown a certain status. -/
def updateCalls (blueprint : DatabaseBlueprint) (status : RunStatus) : List Endpoint :=
  [.updateDatabase, .configDatabase] ++ blueprint.parameterCalls ++
    if status = .up then [] else [.bootDatabase]

/-- A database has been updated when its record is as declared, up and guarded by a new hash, when
the declared parameters override those from the start, and when the status that was seen first
explains the calls. -/
structure Updated (blueprint : DatabaseBlueprint) (start : Cloud) (status : RunStatus)
    (database : Database) (now : Cloud) : Prop where
  stored : now.databases.get? blueprint.id = some database
  metadata : database.metadata = blueprint.toMetadata
  settings : database.settings = blueprint.settings
  running : database.instanceStatus = .up
  drawn : database.settingsHash = hashText (start.lastId + 1)
  parameters : ∀ key, now.parameter? blueprint.id key =
    (blueprint.parameters.get? key).or (start.parameter? blueprint.id key)
  calls : now.mutatingCalls = start.mutatingCalls ++ blueprint.updateCalls status

/-- The first read shows the record that the update starts from, and it is a look alone. -/
theorem first_read_records (silent : world.store.failures = []) :
    Yields context Cloud.remote (Build.call "read database" (.database zone (.read id))) world
      (fun current after => after.store.lastId = world.store.lastId ∧
        (Cloud.call (.database zone (.read id)) world.store).1 = .ok current ∧
        world.store.Recorded id (world.store.parameter? id) [] current after.store)
      (fun _ _ => True) := by
  cases stored : world.store.databases.get? id with
  | none =>
      apply yields_silent_call silent
      have missing : (databaseTable.read (world.store.logging (.database zone (.read id))
          world.store.failures)).get? id = none := stored
      rw [answerRequest, answerDatabase, CloudStep.yields_readSettling, missing]
      trivial
  | some database =>
      have recorded : world.store.Recorded id (world.store.parameter? id) [] database world.store :=
        ⟨silent, stored, rfl, (List.append_nil _).symm⟩
      rw [Build.call, yields_during]
      apply ((read_records recorded).and yields_answer).onSuccess
      rintro current seen ⟨⟨-, counted, recorded⟩, answered⟩
      exact ⟨counted, answered, recorded⟩

theorem update_yields (silent : world.store.failures = []) :
    Yields context Cloud.remote (blueprint.update zone) world
      (fun _ after => ∃ current database,
        (Check.requireSet "database" "id" blueprint.id = .ok () ∧
          blueprint.checkFields = .ok ()) ∧
        (Cloud.call (.database zone (.read blueprint.id)) world.store).1 = .ok current ∧
        blueprint.Updated world.store current.instanceStatus database after.store)
      (fun _ _ => True) := by
  rw [update, yields_bind]
  apply Yields.checked _ fun _ _ => trivial
  intro set
  rw [yields_bind]
  apply Yields.checked _ fun _ _ => trivial
  intro accepted
  apply (first_read_records silent).bind
  rintro current seen ⟨counted, answered, recorded⟩
  apply (update_records recorded).bind
  intro _ updated recorded
  rw [counted] at recorded
  apply (config_records recorded).bind
  intro _ configured recorded
  apply (applyParameters_records recorded).bind
  intro _ applied recorded
  split
  next stopped =>
    apply (boot_records recorded).bind
    rintro _ booted ⟨availability, recorded⟩
    refine ⟨current, _, ⟨set, accepted⟩, answered, recorded.stored, rfl, rfl, rfl, rfl,
      congrFun recorded.parameters, ?_⟩
    rw [updateCalls, if_neg (bne_iff_ne.mp stopped)]
    exact recorded.made
  next running =>
    have up : current.instanceStatus = .up := by simpa using running
    refine ⟨current, _, ⟨set, accepted⟩, answered, recorded.stored, rfl, rfl, up, rfl,
      congrFun recorded.parameters, ?_⟩
    rw [updateCalls, if_pos up, List.append_nil]
    exact recorded.made

/-- A run of an update begins with a read of the database, once its checks have passed. -/
theorem update_journal (context : Context) (world : World Cloud) (zone : Zone)
    (set : Check.requireSet "database" "id" blueprint.id = .ok ())
    (accepted : blueprint.checkFields = .ok ()) :
    ((blueprint.update zone).run.journal context Cloud.remote world).head? =
      some ⟨.database zone (.read blueprint.id),
        (Cloud.call (.database zone (.read blueprint.id)) world.store).1, world.timeline,
        world.timeline⟩ := by
  rw [update, set, accepted]
  exact congrArg List.head? (journal_call ..)

/-- An update that succeeds leaves the database as it is declared, up, and with a hash that was
never drawn before. The declared parameters override those from the start. The database is booted if
and only if the first read of the run does not show it as up, and then once, after all other calls
that change something. -/
theorem update_boots_unless_up (blueprint : DatabaseBlueprint) {context : Context}
    {world after : World Cloud} {zone : Zone} {result : BuildResult}
    (silent : world.store.failures = []) (fresh : world.store.FreshHashes)
    (room : world.store.lastId.toNat + 1 < UInt64.size)
    (updated : (blueprint.update zone).run.run context Cloud.remote world = (.ok result, after)) :
    ∃ current database started completed,
      ((blueprint.update zone).run.journal context Cloud.remote world).head? =
        some ⟨.database zone (.read blueprint.id), .ok current, started, completed⟩ ∧
      blueprint.Updated world.store current.instanceStatus database after.store ∧
      (∀ number ≤ world.store.lastId, database.settingsHash ≠ hashText number) ∧
      ∀ kind id, world.store.settingsHash? kind id ≠ some database.settingsHash := by
  obtain ⟨current, database, ⟨set, accepted⟩, answered, effect⟩ :=
    (update_yields silent).succeeded updated
  have begins := update_journal context world zone set accepted
  rw [answered] at begins
  have above : world.store.lastId < world.store.lastId + 1 := by
    rw [UInt64.lt_iff_toNat_lt, next_toNat room]
    exact Nat.lt_succ_self _
  refine ⟨current, database, _, _, begins, effect, ?_, ?_⟩
  · intro number reached same
    rw [← hashText_injective (effect.drawn.symm.trans same)] at reached
    exact UInt64.lt_irrefl _ (UInt64.lt_of_lt_of_le above reached)
  · rw [effect.drawn]
    exact fresh _ above

/-- A database that is still being created is updated. The first read shows it as down, so it is
booted in the end. One of its parameters is overridden. -/
theorem new_database_isBooted :
    let blueprint : DatabaseBlueprint :=
      { (default : DatabaseBlueprint) with
        id := ⟨1001⟩
        name := "db"
        switchId := ⟨500⟩
        ipAddress := some ⟨192, 168, 0, 10⟩
        networkMaskLen := 24
        settings := { (default : DatabaseSettings) with userName := "admin", password := "secret" }
        parameters := .ofList [("max_connections", .int 200)]
        timing := .uniform 1 5 }
    let create : Request := .database ⟨"is1a"⟩ (.create blueprint.createRequest)
    let tune : Request := .database ⟨"is1a"⟩
      (.setParameters ⟨1001⟩ (.ofList [("max_connections", .int 100), ("event_scheduler", .int 1)]))
    let start := (Cloud.call tune (Cloud.call create (Cloud.empty.seedSwitch ⟨500⟩)).2).2
    let update := blueprint.update ⟨"is1a"⟩
    let finished := update.run.run default Cloud.remote ⟨default, start⟩
    finished.1.isOk ∧ finished.2.store.mutatingCalls =
      [.createDatabase, .setDatabaseParameters, .updateDatabase, .configDatabase,
        .setDatabaseParameters, .bootDatabase] ∧
    ∃ current database started completed,
      (update.run.journal default Cloud.remote ⟨default, start⟩).head? =
        some ⟨.database ⟨"is1a"⟩ (.read ⟨1001⟩), .ok current, started, completed⟩ ∧
      blueprint.Updated start current.instanceStatus database finished.2.store ∧
      (∀ number ≤ start.lastId, database.settingsHash ≠ hashText number) ∧
      ∀ kind id, start.settingsHash? kind id ≠ some database.settingsHash := by
  intro blueprint create tune start update finished
  have fresh : (Cloud.empty.seedSwitch ⟨500⟩).FreshHashes := by
    intro number _ kind id stored
    cases kind <;> nomatch stored
  have freshCreated : (Cloud.call create (Cloud.empty.seedSwitch ⟨500⟩)).2.FreshHashes :=
    fresh.call (by decide +kernel)
  have freshStart : start.FreshHashes := freshCreated.call (by decide +kernel)
  have succeeds : finished.1.isOk := by decide +kernel
  refine ⟨succeeds, by decide +kernel, ?_⟩
  cases outcome : finished.1 with
  | error error =>
      rw [outcome] at succeeds
      nomatch succeeds
  | ok result =>
      have updated : finished = (.ok result, finished.2) := Prod.ext outcome rfl
      exact blueprint.update_boots_unless_up rfl freshStart (by decide +kernel) updated

end DatabaseBlueprint

end Provisioning
