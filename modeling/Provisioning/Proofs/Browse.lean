import Provisioning.Proofs.Calm
import Provisioning.Proofs.OrderlyPlans

/-!
Programs that only look. All calls that such a program logs are to operations that only look, in any
context and whatever failures are announced. All orderly programs of looks are of this kind.
-/

namespace Provisioning

/-- A call never removes anything from the log. -/
theorem Request.Footprint.calls {request : Request} {before after : Cloud}
    (written : request.Footprint before after) : after.calls = before.calls := by
  cases request <;> rw [written]

namespace Cloud

/-- A cloud was browsed when everything that was logged since only looks. -/
def Browsed (before after : Cloud) : Prop :=
  ∃ logged, after.calls = before.calls ++ logged ∧ ∀ endpoint ∈ logged, endpoint.isReadOnly

variable {before middle after : Cloud}

theorem Browsed.refl (cloud : Cloud) : cloud.Browsed cloud :=
  ⟨[], (List.append_nil _).symm, nofun⟩

theorem Browsed.trans (first : before.Browsed middle) (second : middle.Browsed after) :
    before.Browsed after := by
  obtain ⟨logged, grown, look⟩ := first
  obtain ⟨more, grownToo, lookToo⟩ := second
  refine ⟨logged ++ more, ?_, ?_⟩
  · rw [grownToo, grown, List.append_assoc]
  · exact fun endpoint member => (List.mem_append.mp member).elim (look endpoint) (lookToo endpoint)

/-- No mutating call is added to the log of a cloud that was only browsed. -/
theorem Browsed.mutatingCalls (browsed : before.Browsed after) :
    after.mutatingCalls = before.mutatingCalls := by
  obtain ⟨logged, grown, look⟩ := browsed
  have none : logged.filter (fun endpoint => !endpoint.isReadOnly) = [] := by
    rw [List.filter_eq_nil_iff]
    exact fun endpoint member => by rw [look endpoint member]; decide
  rw [Cloud.mutatingCalls, grown, List.filter_append, none, List.append_nil, Cloud.mutatingCalls]

/-- A call to an operation that only looks browses the cloud. -/
theorem call_browsed {request : Request} (cloud : Cloud) (looks : request.endpoint.isReadOnly) :
    cloud.Browsed (call request cloud).2 := by
  obtain ⟨failures, written⟩ := call_footprint request cloud
  refine ⟨[request.endpoint], written.calls, ?_⟩
  rintro endpoint (_ | ⟨_, inside⟩)
  · exact looks
  · nomatch inside

end Cloud

/-- The operation of a look is one that only looks. -/
theorem Request.Looks.isReadOnly {request : Request} (looks : request.Looks) :
    request.endpoint.isReadOnly := by
  cases request with
  | disk zone call => cases call <;> first | rfl | nomatch looks
  | catalogue zone call => cases call <;> rfl
  | credential call => cases call <;> first | rfl | nomatch looks
  | sim call => cases call <;> first | rfl | nomatch looks
  | localRouter call => cases call <;> first | rfl | nomatch looks
  | server | database | vpcRouter | mobileGateway | containerRegistry => nomatch looks

namespace Program

variable {ε α : Type}

/-- A program browses a cloud when it only looks, whether it succeeds or fails. -/
def Browses (program : ExceptT ε (Program CloudService) α) : Prop :=
  ∀ context world, Yields context Cloud.remote program world
    (fun _ after => world.store.Browsed after.store)
    (fun _ after => world.store.Browsed after.store)

namespace Browses

/-- A check of plain data browses every cloud, because it calls nothing. -/
theorem lift (check : Except ε α) :
    Browses (liftM check : ExceptT ε (Program CloudService) α) := by
  intro context world
  rw [yields_liftExcept]
  cases check <;> exact .refl world.store

/-- A call to an operation that only looks is a program that browses. -/
theorem call {label : String} {request : Request} (looks : request.endpoint.isReadOnly) :
    Browses (Build.call label request) := by
  intro context world
  have browsed := Cloud.call_browsed world.store looks
  rw [Build.call, yields_during, yields_attempt, Cloud.remote]
  dsimp only
  generalize Cloud.call request world.store = called at browsed
  obtain ⟨answer, after⟩ := called
  cases answer <;> exact browsed

/-- An orderly program of looks browses the cloud. -/
theorem of_orderly {program : Build α} (orderly : Orderly Request.Looks program.run) :
    Browses program := by
  intro context world
  apply orderly.keeps fun store => world.store.Browsed store
  · intro request looks now browsed
    exact browsed.trans (Cloud.call_browsed now.store looks.isReadOnly)
  · exact .refl world.store

end Browses

end Program

end Provisioning
