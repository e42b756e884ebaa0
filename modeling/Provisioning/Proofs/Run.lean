import Provisioning.Proofs.Footprint

/-!
Runs of a cloud. Any number of clients send their calls in any order, and failures may be announced
between two calls. The main statements split a run and keep an invariant along it.
-/

namespace Provisioning

/-- An exchange is a request together with its answer. -/
structure Exchange where
  request : Request
  answer : Except RemoteError request.Answer

namespace Cloud

/-- This is the exchange that a call of a cloud makes. -/
def exchange (cloud : Cloud) (request : Request) : Exchange := ⟨request, (call request cloud).1⟩

/-- A run lists its exchanges. A call that would carry the counter past its last number is an
arithmetic overflow and does not answer. -/
inductive Run : Cloud → List Exchange → Cloud → Prop where
  | done (cloud : Cloud) : Run cloud [] cloud
  | announce {cloud final : Cloud} {history : List Exchange} (endpoint : Endpoint) (times : Nat)
      (error : RemoteError) (rest : Run (cloud.failTimes endpoint times error) history final) :
      Run cloud history final
  | call {cloud final : Cloud} {history : List Exchange} (request : Request)
      (counted : cloud.lastId ≤ (call request cloud).2.lastId)
      (rest : Run (Cloud.call request cloud).2 history final) :
      Run cloud (cloud.exchange request :: history) final

namespace Run

variable {start final : Cloud} {history : List Exchange}

/-- What announcements and calls keep holds after a run when it holds before. -/
theorem keeps {motive : Cloud → Prop} (run : Run start history final)
    (announced : ∀ cloud endpoint times error, motive cloud →
      motive (cloud.failTimes endpoint times error))
    (called : ∀ cloud request, cloud.lastId ≤ (Cloud.call request cloud).2.lastId →
      motive cloud → motive (Cloud.call request cloud).2)
    (holds : motive start) : motive final := by
  induction run with
  | done cloud => exact holds
  | announce endpoint times error rest inductionHypothesis =>
      exact inductionHypothesis (announced _ endpoint times error holds)
  | call request counted rest inductionHypothesis =>
      exact inductionHypothesis (called _ request counted holds)

/-- A run that is continued is a run. -/
theorem append {middle : Cloud} {first second : List Exchange} (before : Run start first middle)
    (after : Run middle second final) : Run start (first ++ second) final := by
  induction before with
  | done cloud => exact after
  | announce endpoint times error rest inductionHypothesis =>
      exact .announce endpoint times error (inductionHypothesis after)
  | call request counted rest inductionHypothesis =>
      exact .call request counted (inductionHypothesis after)

/-- A run passes through a cloud between any two parts of its history. -/
theorem split {first second : List Exchange} (run : Run start (first ++ second) final) :
    ∃ middle, Run start first middle ∧ Run middle second final := by
  generalize whole : first ++ second = history at run
  induction run generalizing first with
  | done cloud =>
      obtain ⟨rfl, rfl⟩ := List.append_eq_nil_iff.mp whole
      exact ⟨cloud, .done cloud, .done cloud⟩
  | announce endpoint times error rest inductionHypothesis =>
      obtain ⟨middle, before, after⟩ := inductionHypothesis whole
      exact ⟨middle, .announce endpoint times error before, after⟩
  | @call cloud final history request counted rest inductionHypothesis =>
      cases first with
      | nil =>
          rw [List.nil_append] at whole
          subst whole
          exact ⟨cloud, .done cloud, .call request counted rest⟩
      | cons head others =>
          obtain ⟨rfl, tail⟩ := List.cons.inj whole
          obtain ⟨middle, before, after⟩ := inductionHypothesis tail
          exact ⟨middle, .call request counted before, after⟩

/-- The first exchange of a run is a call of the cloud that it starts with, up to announcements. -/
theorem uncons {head : Exchange} (run : Run start (head :: history) final) :
    ∃ cloud request, Run start [] cloud ∧ cloud.lastId ≤ (Cloud.call request cloud).2.lastId ∧
      head = cloud.exchange request ∧ Run (Cloud.call request cloud).2 history final := by
  generalize whole : head :: history = exchanges at run
  induction run with
  | done cloud => nomatch whole
  | announce endpoint times error rest inductionHypothesis =>
      obtain ⟨cloud, request, silent, counted, same, after⟩ := inductionHypothesis whole
      exact ⟨cloud, request, .announce endpoint times error silent, counted, same, after⟩
  | @call cloud final exchanges request counted rest inductionHypothesis =>
      obtain ⟨rfl, rfl⟩ := List.cons.inj whole
      exact ⟨cloud, request, .done cloud, counted, rfl, rest⟩

/-- The counter never goes back. -/
theorem lastId_le (run : Run start history final) : start.lastId ≤ final.lastId :=
  run.keeps (motive := fun cloud => start.lastId ≤ cloud.lastId)
    (fun _ _ _ _ below => below) (fun _ _ counted below => UInt64.le_trans below counted)
    (UInt64.le_refl _)

end Run

end Cloud

end Provisioning
