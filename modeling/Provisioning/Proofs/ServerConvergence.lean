import Provisioning.Proofs.Browse
import Provisioning.Proofs.Inventory

/-!
Repeated updates of servers. After an update the server and its cloud conform to the blueprint, and
from then on the same update only looks and writes the metadata once more, which changes nothing.
-/

namespace Provisioning

open Program Cloud

namespace SortedMap

variable {κ ν : Type} [LT κ] [DecidableEq κ] [DecidableLT κ] [KeyOrder κ]

/-- Storing the value that is found already changes nothing. -/
theorem put_of_find? {key : κ} {value : ν} {entries : List (κ × ν)} (ascending : Ascending entries)
    (found : find? key entries = some value) : put key value entries = entries := by
  induction entries with
  | nil => nomatch found
  | cons head rest inductionHypothesis =>
      obtain ⟨other, kept⟩ := head
      obtain ⟨above, restAscending⟩ := List.pairwise_cons.mp ascending
      rw [find?] at found
      rw [put]
      split at found
      next same =>
        rw [if_pos same, same, Option.some.inj found]
      next different =>
        have below : other < key := above (key, value) (mem_of_find? found)
        have notAbove : ¬ key < other := fun lower =>
          KeyOrder.irrefl key (KeyOrder.trans lower below)
        rw [if_neg different, if_neg notAbove, inductionHypothesis restAscending found]

/-- A value that is stored already is inserted without effect. -/
theorem insert_of_stored {map : SortedMap κ ν} {key : κ} {value : ν}
    (stored : map.get? key = some value) : map.insert key value = map := by
  obtain ⟨entries, ascending⟩ := map
  exact (mk.injEq ..).mpr (put_of_find? ascending stored)

end SortedMap

namespace Cloud

/-- What calls keep anyway are the plans and the discs, and no call announces a failure. -/
structure Furnished (start cloud : Cloud) : Prop where
  serverPlans : cloud.serverPlans = start.serverPlans
  cdroms : cloud.cdroms = start.cdroms
  silent : cloud.failures = []

/-- A cloud keeps its plans and its discs during a call, and no failure is announced by it. -/
theorem Furnished.call {start cloud : Cloud} (furnished : start.Furnished cloud)
    (request : Request) : start.Furnished (Cloud.call request cloud).2 := by
  have logged : start.Furnished (cloud.logging request []) :=
    ⟨furnished.serverPlans, furnished.cdroms, rfl⟩
  have answered : (answerRequest request).Yields (cloud.logging request cloud.failures)
      (fun _ => start.Furnished) (fun _ => start.Furnished) := by
    rw [furnished.silent]
    have keeps (after : Cloud) (written : request.Footprint (cloud.logging request []) after) :
        start.Furnished after := by
      cases request <;> rw [written] <;> exact ⟨logged.serverPlans, logged.cdroms, rfl⟩
    exact (answerRequest_footprint request).mono (fun _ => keeps) fun _ => keeps
  refine call_elim (motive := fun _ after => start.Furnished after) ?_ fun _ => answered
  intro error failures found
  rw [furnished.silent] at found
  nomatch found

end Cloud

/-- In a cloud without announced failures an attempt yields what its answer yields. -/
theorem Program.yields_silent_attempt {context : Context} {world : World Cloud} {request : Request}
    {succeeds : request.Answer → World Cloud → Prop} {fails : RemoteError → World Cloud → Prop}
    (silent : world.store.failures = [])
    (answered : (answerRequest request).Yields
      (world.store.logging request world.store.failures)
      (fun value after => succeeds value { world with store := after })
      (fun error after => fails error { world with store := after })) :
    Yields context Cloud.remote (Build.attempt request) world succeeds fails := by
  have called := call_elim (motive := fun answer after => match answer with
    | .ok value => succeeds value { world with store := after }
    | .error error => fails error { world with store := after })
    (fun error failures found => by rw [silent] at found; nomatch found) fun _ => answered
  rw [yields_attempt, Cloud.remote]
  generalize Cloud.call request world.store = result at called ⊢
  obtain ⟨answer, after⟩ := result
  cases answer <;> exact called

/-- In a cloud without announced failures a call yields what its answer yields. -/
theorem Program.yields_silent_call {context : Context} {world : World Cloud} {request : Request}
    {label : String} {succeeds : request.Answer → World Cloud → Prop}
    {fails : ProvisionError → World Cloud → Prop} (silent : world.store.failures = [])
    (answered : (answerRequest request).Yields
      (world.store.logging request world.store.failures)
      (fun value after => succeeds value { world with store := after })
      (fun error after => fails (.ofRemote label error) { world with store := after })) :
    Yields context Cloud.remote (Build.call label request) world succeeds fails := by
  rw [Build.call, yields_during]
  exact yields_silent_attempt silent answered

/-- A world is only viewed when nothing has happened since but calls that only look. -/
structure World.Viewed (before after : World Cloud) : Prop where
  browsed : before.store.Browsed after.store
  same : after = { before with store := { before.store with calls := after.store.calls } }

theorem World.Viewed.trans {before middle after : World Cloud} (first : before.Viewed middle)
    (second : middle.Viewed after) : before.Viewed after := by
  refine ⟨first.browsed.trans second.browsed, ?_⟩
  have same := second.same
  rw [first.same] at same
  exact same

/-- A look that is answered without an effect only views the world. -/
theorem Program.yields_silent_look {context : Context} {world : World Cloud} {request : Request}
    {label : String} {answers : request.Answer → Prop} (silent : world.store.failures = [])
    (looks : request.endpoint.isReadOnly)
    (answered : (answerRequest request).Yields
      (world.store.logging request world.store.failures)
      (fun value after => after = world.store.logging request world.store.failures ∧ answers value)
      (fun _ _ => False)) :
    Yields context Cloud.remote (Build.call label request) world
      (fun value last => world.Viewed last ∧ answers value) (fun _ _ => False) := by
  apply yields_silent_call silent
  apply answered.mono
  · rintro value after ⟨rfl, answered⟩
    refine ⟨⟨⟨[request.endpoint], rfl, ?_⟩, rfl⟩, answered⟩
    exact List.forall_mem_singleton.mpr looks
  · exact fun _ _ never => never

namespace ServerBlueprint

variable {context : Context} {world : World Cloud} {zone : Zone} {blueprint : ServerBlueprint}
  {server former : Server} {start : Cloud}

/-- A server fits a blueprint when it has the metadata and the optical disc of the blueprint and
need not be booted. -/
structure Fits (blueprint : ServerBlueprint) (server : Server) : Prop where
  metadata : blueprint.renamed server = server
  cdromId : server.cdromId = blueprint.cdromId
  running : blueprint.boots server false = false

/-- A refitted server has been booted if it had to be. -/
theorem fits_refitted {replans : Bool} (status : server.instanceStatus =
      if replans then former.stopped.instanceStatus else former.instanceStatus) :
    blueprint.Fits (blueprint.refitted (blueprint.boots former replans) server) where
  metadata := rfl
  cdromId := rfl
  running := by
    rw [boots, refitted, status]
    cases replans <;> cases before : former.instanceStatus <;>
      cases boot : blueprint.bootAfterCreate <;> simp [boots, Server.stopped, before, boot]

/-- A cloud conforms to a blueprint with a server when the server is stored and fits, when it has
the plan that matches, and when an update that names it has nothing to object to. -/
structure Conforms (blueprint : ServerBlueprint) (cloud : Cloud) (server : Server) : Prop where
  stored : cloud.servers.get? server.id = some server
  fits : blueprint.Fits server
  planned : choosePlan blueprint.plan cloud.serverPlans = .ok server.planId
  listed : ∀ disc, blueprint.cdromId.set? = some disc → (cloud.cdroms.get? disc).isSome
  set : Check.requireSet "server" "id" server.id = .ok ()
  named : Check.requireNonBlank "server" "name" blueprint.name = .ok ()
  silent : cloud.failures = []

namespace Conforms

/-- A cloud that is only viewed still conforms to the blueprint. -/
theorem viewed {last : World Cloud} (conforms : blueprint.Conforms world.store server)
    (viewed : world.Viewed last) : blueprint.Conforms last.store server := by
  rw [viewed.same]
  exact { conforms with }

/-- The plan of a conforming server is resolved again, and the world is only viewed. -/
theorem resolvePlan_yields (conforms : blueprint.Conforms world.store server) :
    Yields context Cloud.remote (blueprint.resolvePlan zone) world
      (fun planId last => world.Viewed last ∧ planId = server.planId) (fun _ _ => False) := by
  rw [resolvePlan]
  have finds : Yields context Cloud.remote
      (Build.call "find server plans" (.catalogue zone .findServerPlans)) world
      (fun plans last => world.Viewed last ∧ plans = world.store.serverPlans)
      (fun _ _ => False) := yields_silent_look conforms.silent rfl ⟨rfl, rfl⟩
  apply finds.bind
  rintro _ last ⟨viewed, rfl⟩
  rw [yields_liftExcept, conforms.planned]
  exact ⟨viewed, rfl⟩

/-- The optical disc of a conforming server is found again, and the world is only viewed. -/
theorem readCdrom_yields (conforms : blueprint.Conforms world.store server) :
    Yields context Cloud.remote (readCdrom zone blueprint.cdromId) world
      (fun _ last => world.Viewed last) (fun _ _ => False) := by
  have listed := conforms.listed
  rw [readCdrom]
  cases declared : blueprint.cdromId.set? with
  | none => exact ⟨.refl _, rfl⟩
  | some disc =>
      obtain ⟨cdrom, found⟩ := Option.isSome_iff_exists.mp (listed disc declared)
      have reads : Yields context Cloud.remote
          (Build.call "read ISO image" (.catalogue zone (.readCdrom disc))) world
          (fun _ last => world.Viewed last ∧ True) (fun _ _ => False) :=
        yields_silent_look conforms.silent rfl
          (CloudStep.Yields.find cdromTable disc found ⟨rfl, trivial⟩)
      apply reads.bind
      exact fun _ last viewed => viewed.1

/-- The metadata of a server that has them already are written without effect. -/
theorem update_yields (conforms : blueprint.Conforms world.store server) :
    Yields context Cloud.remote
      (Build.call "update server" (.server zone (.update server.id blueprint.updateRequest))) world
      (fun _ last => last =
        { world with
          store := { world.store with calls := world.store.calls ++ [.updateServer] } })
      (fun _ _ => False) := by
  apply yields_silent_call conforms.silent
  let request : Request := .server zone (.update server.id blueprint.updateRequest)
  let logged := world.store.logging request world.store.failures
  have stored : (serverTable.read logged).get? server.id = some server := conforms.stored
  apply CloudStep.Yields.change _ _ stored
  have same : logged.servers.insert server.id (blueprint.renamed server) = logged.servers := by
    rw [conforms.fits.metadata]
    exact SortedMap.insert_of_stored stored
  exact congrArg (fun servers => { world with store := { logged with servers } }) same

end Conforms

/-- A world is only touched when one update of the metadata is the only mutating call that has
happened since, and when it has changed nothing. -/
structure Touched (before after : World Cloud) : Prop where
  mutatingCalls : after.store.mutatingCalls = before.store.mutatingCalls ++ [.updateServer]
  same : after = { before with store := { before.store with calls := after.store.calls } }

/-- An update of a server that conforms touches the world. -/
theorem update_touches (conforms : blueprint.Conforms world.store server)
    (own : blueprint.id = server.id) :
    Yields context Cloud.remote (blueprint.update zone) world
      (fun result last => result = .ofId server.id ∧ Touched world last) (fun _ _ => False) := by
  rw [update_eq, own, yields_bind]
  refine Yields.checked (fun _ => ?_) fun _ rejected => Check.ne_ok_of_error rejected conforms.set
  rw [yields_bind]
  refine Yields.checked (fun _ => ?_) fun _ rejected => Check.ne_ok_of_error rejected conforms.named
  apply conforms.resolvePlan_yields.bind
  rintro _ resolved ⟨first, rfl⟩
  have conforms := conforms.viewed first
  apply conforms.readCdrom_yields.bind
  intro _ checked second
  have conforms := conforms.viewed second
  have reads : Yields context Cloud.remote
      (Build.call "read server" (.server zone (.read server.id))) checked
      (fun current last => checked.Viewed last ∧ current = server) (fun _ _ => False) :=
    yields_silent_look conforms.silent rfl
      (CloudStep.Yields.find serverTable server.id conforms.stored ⟨rfl, rfl⟩)
  apply reads.bind
  intro current begun ⟨third, shown⟩
  have conforms := conforms.viewed third
  rw [shown]
  -- The plan is settled already, so the server is refitted where it is.
  rw [settlePlan, bne_self_eq_false, if_neg Bool.false_ne_true, pure_bind, refit]
  apply conforms.update_yields.bind
  intro _ written same
  rw [exchangeCdrom, if_pos conforms.fits.cdromId, pure_bind, conforms.fits.running,
    if_neg Bool.false_ne_true]
  have viewed := (first.trans second).trans third
  refine ⟨rfl, ?_, ?_⟩
  · rw [same, ← viewed.browsed.mutatingCalls]
    exact List.filter_append ..
  · rw [same, viewed.same]

/-- An update fits a server to a blueprint when the stored record fits and has the plan that was
chosen. The server keeps its identifier, or it takes the next number as its new one. -/
structure FitsServer (blueprint : ServerBlueprint) (start last : Cloud) (server : Server) :
    Prop where
  stored : last.servers.get? server.id = some server
  fits : blueprint.Fits server
  planned : choosePlan blueprint.plan start.serverPlans = .ok server.planId
  numbered : server.id = blueprint.id ∨
    server.id = ⟨start.lastId + 1⟩ ∧ last.lastId = start.lastId + 1

/-- Once the plan is chosen and the server is read, the server is fitted to the blueprint. -/
theorem settle_fits {planId : ResourceId}
    (chosen : choosePlan blueprint.plan start.serverPlans = .ok planId)
    (named : former.id = blueprint.id) (revises : world.store.Revises start former) :
    Yields context Cloud.remote (do
      let id ← blueprint.settlePlan zone former planId
      blueprint.refit zone former (former.planId != planId) id) world
      (fun result last => ∃ server, result = .ofId server.id ∧
        blueprint.FitsServer start last.store server)
      (fun _ _ => True) := by
  apply (blueprint.settle_revises revises).onSuccess
  rintro _ last (⟨rfl, rfl, revises⟩ | ⟨-, assigned, rfl, rfl, revises⟩)
  · let refitted : Server := blueprint.refitted (blueprint.boots former false) former
    exact ⟨refitted, rfl, revises.stored, fits_refitted rfl, chosen, .inl named⟩
  · let settled : Server := former.stopped.moved ⟨start.lastId + 1⟩ assigned
    let refitted : Server := blueprint.refitted (blueprint.boots former true) settled
    exact ⟨refitted, rfl, revises.stored, fits_refitted rfl, chosen, .inr ⟨rfl, revises.lastId⟩⟩

/-- A declared optical disc is listed once it has been read. -/
theorem readCdrom_finds (consulted : start.Consulted world.store) :
    Yields context Cloud.remote (readCdrom zone blueprint.cdromId) world
      (fun _ last => start.Consulted last.store ∧
        ∀ disc, blueprint.cdromId.set? = some disc → (start.cdroms.get? disc).isSome)
      (fun _ _ => True) := by
  rw [readCdrom]
  cases declared : blueprint.cdromId.set? with
  | none =>
      refine ⟨consulted, ?_⟩
      simp
  | some wanted =>
      have cdroms : world.store.cdroms = start.cdroms := by rw [consulted]
      apply Yields.bind (yields_calm_look (.of_noisy not_false) ?_) fun _ _ found => found
      rw [answerRequest, answerCatalogue, CloudStep.yields_find]
      split
      next cdrom found =>
        refine fun _ => ⟨consulted.logging _ _, fun disc same => ?_⟩
        have listed : start.cdroms.get? wanted = some cdrom := cdroms ▸ found
        rw [← Option.some.inj same, listed]
        rfl
      next => trivial

/-- An update that succeeds fits its server, and it has found nothing to object to. -/
theorem update_fits
    (named : ∀ id server, world.store.servers.get? id = some server → server.id = id) :
    Yields context Cloud.remote (blueprint.update zone) world
      (fun result last => ∃ server, result = .ofId server.id ∧
        blueprint.FitsServer world.store last.store server ∧
        (∀ disc, blueprint.cdromId.set? = some disc → (world.store.cdroms.get? disc).isSome) ∧
        Check.requireSet "server" "id" blueprint.id = .ok () ∧
        Check.requireNonBlank "server" "name" blueprint.name = .ok ())
      (fun _ _ => True) := by
  rw [update_eq, yields_bind]
  apply Yields.checked _ fun _ _ => trivial
  intro set
  rw [yields_bind]
  apply Yields.checked _ fun _ _ => trivial
  intro written
  apply blueprint.resolvePlan_consulted.bind
  intro planId resolved ⟨consulted, chosen⟩
  apply (readCdrom_finds consulted).bind
  intro _ checked ⟨consulted, listed⟩
  apply (read_revises (named blueprint.id) consulted).bind
  intro former begun ⟨found, revises⟩
  apply (settle_fits chosen (named _ _ found) revises).onSuccess
  exact fun result last ⟨server, answer, fits⟩ => ⟨server, answer, fits, listed, set, written⟩

/-- An update that succeeds leaves a cloud that conforms, unless the counter overflows. -/
theorem update_conforms (silent : world.store.failures = [])
    (named : ∀ id server, world.store.servers.get? id = some server → server.id = id) :
    Yields context Cloud.remote (blueprint.update zone) world
      (fun result last => world.store.lastId ≤ last.store.lastId →
        ∃ server, result = .ofId server.id ∧ blueprint.Conforms last.store server)
      (fun _ _ => True) := by
  have furnishes : Yields context Cloud.remote (blueprint.update zone) world
      (fun _ last => world.store.Furnished last.store)
      (fun _ last => world.store.Furnished last.store) :=
    blueprint.update_orderly.keeps world.store.Furnished
      (fun request _ _ furnished => furnished.call request) ⟨rfl, rfl, silent⟩
  apply ((update_fits named).and furnishes).onSuccess
  rintro _ last ⟨⟨server, rfl, fits, listed, set, written⟩, furnished⟩ counted
  refine ⟨server, rfl, fits.stored, fits.fits, ?_, ?_, ?_, written, furnished.silent⟩
  · rw [furnished.serverPlans]
    exact fits.planned
  · rw [furnished.cdroms]
    exact listed
  · rcases fits.numbered with same | ⟨new, next⟩
    · rw [same]
      exact set
    · rw [next] at counted
      rw [new]
      refine Check.require_eq_ok.mpr ((Lineage.not_isUnset_iff _).mpr fun unset => ?_)
      have zero : world.store.lastId + 1 = 0 := congrArg ResourceId.value unset
      have least : world.store.lastId = 0 := UInt64.le_antisymm (zero ▸ counted) (UInt64.zero_le)
      rw [least] at zero
      nomatch zero

/-- An update that has succeeded, without an overflow of the counter, is idempotent. The next update
with the resulting identifier, in any context and at any time, gives the same result and only
touches the world, which still has the same record of the server. -/
theorem update_is_idempotent (blueprint : ServerBlueprint) {world after : World Cloud}
    {result : BuildResult} (reachable : world.store.Reachable) (silent : world.store.failures = [])
    (updated : (blueprint.update zone).run.run context Cloud.remote world = (.ok result, after))
    (counted : world.store.lastId ≤ after.store.lastId) (next : Context) (timeline : Timeline) :
    let again := (({ blueprint with id := result.id } : ServerBlueprint).update zone).run.run next
      Cloud.remote { after with timeline }
    again.1 = .ok result ∧ Touched { after with timeline } again.2 ∧
      ∃ server, after.store.servers.get? result.id = some server ∧
        again.2.store.servers.get? result.id = some server := by
  have converges : Yields context Cloud.remote (blueprint.update zone) world _ _ :=
    update_conforms silent fun id server stored => (reachable.keyed.servers id server stored).1
  unfold Yields at converges
  rw [updated] at converges
  obtain ⟨server, rfl, conforms⟩ := converges counted
  let start : World Cloud := { after with timeline }
  let repeated : ServerBlueprint := { blueprint with id := server.id }
  have fits : repeated.Fits server :=
    ⟨conforms.fits.metadata, conforms.fits.cdromId, conforms.fits.running⟩
  have stays : repeated.Conforms start.store server :=
    ⟨conforms.stored, fits, conforms.planned, conforms.listed, conforms.set, conforms.named,
      conforms.silent⟩
  have touches : Yields next Cloud.remote (repeated.update zone) start _ _ :=
    update_touches stays rfl
  unfold Yields at touches
  intro again
  have run : (repeated.update zone).run.run next Cloud.remote start = again := rfl
  rw [run] at touches
  clear_value again
  obtain ⟨outcome, last⟩ := again
  cases outcome with
  | error error => nomatch touches
  | ok result =>
      obtain ⟨rfl, touched⟩ := touches
      refine ⟨rfl, touched, server, conforms.stored, ?_⟩
      dsimp only
      rw [touched.same]
      exact conforms.stored

/-- A server that runs is stopped, moved to another plan, given another optical disc and booted.
Then the same update finds all of this done. -/
theorem moved_server_isSettled :
    let server : Server :=
      { (default : Server) with
        id := ⟨7⟩
        instanceStatus := .up
        planId := ⟨10⟩
        cdromId := ⟨30⟩ }
    let blueprint : ServerBlueprint :=
      { (default : ServerBlueprint) with
        id := ⟨7⟩
        name := "web"
        cdromId := ⟨31⟩
        timing := .uniform 1 1 }
    let cloud := ((Cloud.empty.seed (.serverPlan default)).seed (.cdrom ⟨31⟩)).seed (.server server)
    let finished := (blueprint.update ⟨"is1a"⟩).run.run default Cloud.remote ⟨default, cloud⟩
    ∃ result, finished.1 = .ok result ∧ result.id = ⟨1001⟩ ∧
      finished.2.store.mutatingCalls = [.shutdownServer, .changeServerPlan, .updateServer,
        .ejectCdrom, .insertCdrom, .bootServer] ∧
      let again := (({ blueprint with id := result.id } : ServerBlueprint).update ⟨"is1a"⟩).run.run
        default Cloud.remote finished.2
      again.1 = .ok result ∧ Touched finished.2 again.2 ∧
        ∃ server, finished.2.store.servers.get? result.id = some server ∧
          again.2.store.servers.get? result.id = some server := by
  intro server blueprint cloud finished
  have reachable : cloud.Reachable :=
    .seeded (.seeded (.seeded .empty (.serverPlan default)) (.cdrom ⟨31⟩)) (.server server)
  have succeeds : finished.1.toOption.map BuildResult.id = some ⟨1001⟩ := by decide +kernel
  cases outcome : finished.1 with
  | error error =>
      rw [outcome] at succeeds
      nomatch succeeds
  | ok result =>
      rw [outcome] at succeeds
      have updated : finished = (.ok result, finished.2) := Prod.ext outcome rfl
      refine ⟨result, rfl, Option.some.inj succeeds, by decide +kernel, ?_⟩
      exact blueprint.update_is_idempotent reachable rfl updated (by decide +kernel) default
        finished.2.timeline

end ServerBlueprint

end Provisioning
