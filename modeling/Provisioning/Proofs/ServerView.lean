import Provisioning.Proofs.Journal
import Provisioning.Proofs.OrderlyPlans
import Provisioning.Proofs.ServerBuild

/-!
Views of a server. A view relates the record of a server to a cloud, such as a cloud that hosts the
server, or one that has it in place of an earlier record. What builds and updates do to the record
alone is stated once for all views: the optical disc is changed, and the instance is switched.
-/

namespace Provisioning

namespace ResourceId

/-- An identifier that is not set is the empty one. -/
theorem set?_eq_none {id : ResourceId} (absent : id.set? = none) : id = .unset := by
  rw [set?] at absent
  split at absent
  next unset => exact (Lineage.isUnset_iff id).mp unset
  next => cases absent

/-- An identifier that is set is the one that it is set to. -/
theorem set?_eq_some {id other : ResourceId} (present : id.set? = some other) : id = other := by
  rw [set?] at present
  split at present
  next => cases present
  next => exact Option.some.inj present

end ResourceId

open Program Cloud

/-- A view of a server shows a record that is stored. It does not depend on the log, and it follows
a change of the record that leaves the interfaces and the disks as they are. -/
structure IsServerView (view : Server → Cloud → Prop) : Prop where
  stored : ∀ {server cloud}, view server cloud → cloud.servers.get? server.id = some server
  logging : ∀ {server cloud} request failures, view server cloud →
    view server (cloud.logging request failures)
  write : ∀ {server next cloud} forces, view server cloud → next.id = server.id →
    next.interfaces = server.interfaces → next.diskIds = server.diskIds →
      view next
        { cloud with
          servers := cloud.servers.insert server.id next
          shutdownForces := forces }

namespace IsServerView

variable {context : Context} {world : World Cloud} {zone : Zone} {server next : Server}
  {cloud : Cloud} {view : Server → Cloud → Prop} {timing : Timing}

/-- A change of the record that leaves the interfaces and the disks as they are is viewed. -/
theorem change (isView : IsServerView view) (viewed : view server cloud) {edit : Server → Server}
    {fails : RemoteError → Cloud → Prop} (named : (edit server).id = server.id)
    (interfaces : (edit server).interfaces = server.interfaces)
    (diskIds : (edit server).diskIds = server.diskIds) :
    (serverTable.change server.id edit).Yields cloud (fun _ after => view (edit server) after)
      fails := by
  apply CloudStep.Yields.change _ _ (isView.stored viewed)
  exact isView.write cloud.shutdownForces viewed named interfaces diskIds

/-- What is viewed after every answer to a call is viewed after the call. -/
theorem call (isView : IsServerView view) (viewed : view server world.store) {label : String}
    {request : Request} {changed : request.Answer → Server}
    (answered : ∀ cloud : Cloud, view server cloud → (answerRequest request).Yields cloud
      (fun value after => view (changed value) after) (fun _ _ => True)) :
    Yields context Cloud.remote (Build.call label request) world
      (fun value after => view (changed value) after.store) (fun _ _ => True) := by
  apply yields_calm_look (.of_noisy not_false)
  apply (answered _ (isView.logging request _ viewed)).mono
  · exact fun _ _ changed _ => changed
  · exact fun _ _ _ => trivial

/-- The declared optical disc is inserted, or there is none to insert. -/
theorem insertCdrom (isView : IsServerView view) {cdromId : ResourceId}
    (viewed : view server world.store) (empty : server.cdromId = .unset) :
    Yields context Cloud.remote (ServerBlueprint.insertCdrom zone server.id cdromId) world
      (fun _ last => view { server with cdromId } last.store) (fun _ _ => True) := by
  rw [ServerBlueprint.insertCdrom]
  cases declared : cdromId.set? with
  | none =>
      rw [ResourceId.set?_eq_none declared, ← empty]
      exact viewed
  | some wanted =>
      rw [ResourceId.set?_eq_some declared]
      apply isView.call viewed
      intro cloud viewed
      rw [answerRequest, answerServer, CloudStep.yields_bind, CloudStep.yields_find]
      split
      · rw [CloudStep.yields_bind]
        exact isView.change viewed rfl rfl rfl
      · trivial

/-- The cloud switches the instance when it is asked to. -/
theorem answer (isView : IsServerView view) (operation : PowerOperation)
    (viewed : view server cloud) :
    (answerRequest (Switchable.server.operate zone server.id operation)).Yields cloud
      (fun _ after => view { server with instanceStatus := operation.target } after)
      (fun _ _ => False) := by
  cases operation with
  | boot =>
      apply (CloudStep.yields_bind _ _).mpr
      apply CloudStep.Yields.change _ _ (isView.stored viewed)
      exact isView.write _ viewed rfl rfl rfl
  | shutdown force =>
      apply (CloudStep.yields_bind _ _).mpr
      apply CloudStep.Yields.change _ _ (isView.stored viewed)
      exact isView.write _ viewed rfl rfl rfl

/-- An accepted request to switch the instance leaves it in the wanted status, and any other changes
nothing. -/
theorem request (isView : IsServerView view) (operation : PowerOperation)
    (viewed : view server world.store) :
    Yields context Cloud.remote ((serverPower zone server.id).request operation) world
      (fun _ last => view { server with instanceStatus := operation.target } last.store)
      (fun _ last => view server last.store) := by
  have asks : (serverPower zone server.id).request operation = _ :=
    Switchable.server.handler_request operation
  have logged (failures : List (Endpoint × RemoteError)) :=
    isView.logging (Switchable.server.operate zone server.id operation) failures viewed
  rw [asks, yields_bind]
  apply yields_calm_attempt (.of_noisy not_false)
  · apply (isView.answer operation (logged _)).mono
    · exact fun _ _ switched _ => switched
    · exact fun _ _ => False.elim
  · exact fun _ _ failures => logged failures

/-- A look at the instance shows the status of the viewed record. -/
theorem status (isView : IsServerView view) (viewed : view server world.store) :
    Yields context Cloud.remote (serverPower zone server.id).status world
      (fun status last => status = server.instanceStatus ∧ view server last.store)
      (fun _ _ => True) := by
  have reads : Yields context Cloud.remote (Build.attempt (.server zone (.read server.id))) world
      (fun seen last => server = seen ∧ view server last.store) (fun _ _ => True) := by
    have logged (failures : List (Endpoint × RemoteError)) :=
      isView.logging (.server zone (.read server.id)) failures viewed
    apply yields_calm_attempt (.of_noisy not_false)
    · exact CloudStep.Yields.find _ _ (isView.stored (logged _)) fun _ => ⟨rfl, logged _⟩
    · exact fun _ _ _ => trivial
  apply reads.bind
  rintro seen last ⟨rfl, viewed⟩
  exact ⟨rfl, viewed⟩

/-- A switch of the instance that succeeds leaves it in the wanted status. -/
theorem switch (isView : IsServerView view) (operation : PowerOperation) (noWait : Bool)
    (viewed : view server world.store) :
    Yields context Cloud.remote ((serverPower zone server.id).switch operation timing noWait) world
      (fun _ last => view { server with instanceStatus := operation.target } last.store)
      (fun _ _ => True) := by
  let switched : Server := { server with instanceStatus := operation.target }
  apply (serverPower zone server.id).switch_keeps (view server) (view switched) _ _ viewed
  · intro now viewed
    apply (isView.request operation viewed).mono
    · exact fun _ _ switched => switched
    · exact fun _ _ same _ => same
  · exact fun now viewed => isView.status viewed

end IsServerView

end Provisioning
