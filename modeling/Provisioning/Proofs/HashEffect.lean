import Provisioning.Proofs.SettingsHash

/-!
What calls do to settings hashes. Every call moves the hashes of every kind, and an answer shows the
hash that the cloud keeps.
-/

namespace Provisioning

/-- What an exchange does to one kind: its hashes move, and the cloud keeps a hash that is shown.
Only a read shows a hash that was not drawn by the same exchange. -/
structure Exchange.Effect (exchange : Exchange) (kind : Guarded) (before after : Cloud) : Prop where
  moves : kind.Moves before after
  shows : ∀ occasion shown id hash, exchange.shows? = some (occasion, shown, id, hash) →
    after.settingsHash? shown id = some hash ∧
      (occasion = .read ∨ ∃ number, hash = Cloud.hashText number ∧ before.lastId < number ∧
        number ≤ after.lastId)

namespace Exchange.Effect

variable {exchange : Exchange} {kind : Guarded} {before after : Cloud} {id : ResourceId}

/-- An exchange that shows no hash has its effect when it moves the hashes. -/
theorem of_silent (silent : exchange.shows? = none) (moves : kind.Moves before after) :
    exchange.Effect kind before after where
  moves := moves
  shows occasion shown id hash shows := by
    rw [silent] at shows
    nomatch shows

/-- An exchange that shows a hash has its effect when the cloud keeps that hash, and when the hash
was read or has just been drawn. -/
theorem of_shown {occasion : Occasion} {hash : String}
    (shown : exchange.shows? = some (occasion, kind, id, hash)) (moves : kind.Moves before after)
    (stored : after.settingsHash? kind id = some hash)
    (fresh : occasion = .read ∨ ∃ number, hash = Cloud.hashText number ∧ before.lastId < number ∧
      number ≤ after.lastId) : exchange.Effect kind before after where
  moves := moves
  shows _ _ _ _ shows := by
    rw [shown] at shows
    cases shows
    exact ⟨stored, fresh⟩

end Exchange.Effect

/-- A record that is written with a number of the counter is shown with a fresh hash. -/
theorem Guarded.Keeper.effect_of_insert {kind : Guarded} {ρ : Type} (keeper : Keeper kind ρ)
    {exchange : Exchange} {occasion : Occasion} {cloud after : Cloud} {id : ResourceId}
    {number : UInt64} {record : ρ}
    (shown : exchange.shows? = some (occasion, kind, id, keeper.hash record))
    (written : keeper.table.read after = (keeper.table.read cloud).insert id record)
    (text : keeper.hash record = Cloud.hashText number) (above : cloud.lastId < number)
    (counted : number ≤ after.lastId) : exchange.Effect kind cloud after := by
  refine .of_shown shown (keeper.moves_insert written ?_) (keeper.shows_insert written)
    (.inr ⟨number, text, above, counted⟩)
  rw [text]
  exact .drawn number above counted

namespace Cloud

open CloudStep Guarded

variable {cloud : Cloud}

theorem answerDatabase_effect (zone : Zone) (call : DatabaseCall) :
    Yields (answerDatabase call) cloud
      (fun value after => cloud.lastId ≤ after.lastId →
        Exchange.Effect ⟨.database zone call, .ok value⟩ .database cloud after)
      (fun error after =>
        Exchange.Effect ⟨.database zone call, .error error⟩ .database cloud after) := by
  cases call with
  | create request =>
      simp only [answerDatabase, createDatabase, yields_bind, yields_find, yields_allocate,
        yields_freshHash, yields_insert, yields_track, yields_pure]
      split
      · intro counted
        exact Keeper.databases.effect_of_insert rfl rfl rfl
          (UInt64.lt_of_le_of_ne counted (by grind)) (UInt64.le_refl _)
      · exact .of_silent rfl (Keeper.databases.moves_same rfl)
  | read id =>
      apply (Keeper.databases.yields_readSettling_moves settledDatabase ?_).mono
      · intro database after shown counted
        exact .of_shown rfl shown.1 shown.2 (.inl rfl)
      · intro error after moves
        exact .of_silent rfl moves
      · intro database
        unfold settledDatabase
        split <;> rfl
  | update id request =>
      apply (Keeper.databases.yields_update ?_).mono
      · intro database after outcome counted
        obtain ⟨-, next, text, written⟩ := outcome
        rw [next] at counted
        exact Keeper.databases.effect_of_insert rfl written text
          (UInt64.lt_of_le_of_ne counted (by grind)) (UInt64.le_of_eq next.symm)
      · intro error after refused
        rw [refused.2]
        exact .of_silent rfl (Keeper.databases.moves_same rfl)
      · intro fresh database
        exact rfl
  | delete id =>
      simp only [answerDatabase, yields_remove]
      split
      · intro counted
        exact .of_silent rfl (Keeper.databases.moves_erase rfl)
      · exact .of_silent rfl (Keeper.databases.moves_same rfl)
  | boot id =>
      simp only [answerDatabase, yields_bind, yields_pure]
      apply (Keeper.databases.yields_change_moves _ ?_).mono
      · intro database after shown counted
        exact .of_silent rfl shown.1
      · intro error after moves
        exact .of_silent rfl moves
      · intro database
        exact rfl
  | shutdown id force =>
      simp only [answerDatabase, yields_bind, yields_recordShutdown]
      apply (Keeper.databases.yields_change_moves _ ?_).mono
      · intro database after shown counted
        exact .of_silent rfl shown.1
      · intro error after moves
        exact .of_silent rfl moves
      · intro database
        exact rfl
  | config id =>
      simp only [answerDatabase, yields_bind, yields_find, yields_pure]
      split
      · intro counted
        exact .of_silent rfl (Keeper.databases.moves_same rfl)
      · exact .of_silent rfl (Keeper.databases.moves_same rfl)
  | setParameters id parameters =>
      simp only [answerDatabase, setDatabaseParameters, yields_bind, yields_find, yields_modify]
      split
      · intro counted
        exact .of_silent rfl (Keeper.databases.moves_same rfl)
      · exact .of_silent rfl (Keeper.databases.moves_same rfl)
  | status id =>
      simp only [answerDatabase, yields_bind, yields_find, yields_pure]
      split
      · intro counted
        exact .of_silent rfl (Keeper.databases.moves_same rfl)
      · exact .of_silent rfl (Keeper.databases.moves_same rfl)

theorem answerVpcRouter_effect (zone : Zone) (call : VpcRouterCall) :
    Yields (answerVpcRouter call) cloud
      (fun value after => cloud.lastId ≤ after.lastId →
        Exchange.Effect ⟨.vpcRouter zone call, .ok value⟩ .vpcRouter cloud after)
      (fun error after =>
        Exchange.Effect ⟨.vpcRouter zone call, .error error⟩ .vpcRouter cloud after) := by
  cases call with
  | create request =>
      intro counted
      exact Keeper.vpcRouters.effect_of_insert rfl rfl rfl
        (UInt64.lt_of_le_of_ne counted (by grind)) (UInt64.le_refl _)
  | read id =>
      apply (Keeper.vpcRouters.yields_readSettling_moves _ ?_).mono
      · intro router after shown counted
        exact .of_shown rfl shown.1 shown.2 (.inl rfl)
      · intro error after moves
        exact .of_silent rfl moves
      · intro router
        exact rfl
  | update id request =>
      apply (Keeper.vpcRouters.yields_update ?_).mono
      · intro router after outcome counted
        obtain ⟨-, next, text, written⟩ := outcome
        rw [next] at counted
        exact Keeper.vpcRouters.effect_of_insert rfl written text
          (UInt64.lt_of_le_of_ne counted (by grind)) (UInt64.le_of_eq next.symm)
      · intro error after refused
        rw [refused.2]
        exact .of_silent rfl (Keeper.vpcRouters.moves_same rfl)
      · intro fresh router
        exact rfl
  | delete id =>
      simp only [answerVpcRouter, yields_remove]
      split
      · intro counted
        exact .of_silent rfl (Keeper.vpcRouters.moves_erase rfl)
      · exact .of_silent rfl (Keeper.vpcRouters.moves_same rfl)
  | boot id =>
      simp only [answerVpcRouter, yields_bind, yields_pure]
      apply (Keeper.vpcRouters.yields_change_moves _ ?_).mono
      · intro router after shown counted
        exact .of_silent rfl shown.1
      · intro error after moves
        exact .of_silent rfl moves
      · intro router
        exact rfl
  | shutdown id force =>
      simp only [answerVpcRouter, yields_bind, yields_recordShutdown]
      apply (Keeper.vpcRouters.yields_change_moves _ ?_).mono
      · intro router after shown counted
        exact .of_silent rfl shown.1
      · intro error after moves
        exact .of_silent rfl moves
      · intro router
        exact rfl
  | connectToSwitch id index switchId =>
      simp only [answerVpcRouter, connectVpcRouter, yields_bind, yields_find, yields_modify]
      repeat' split
      · intro counted
        exact .of_silent rfl (Keeper.vpcRouters.moves_same rfl)
      · exact .of_silent rfl (Keeper.vpcRouters.moves_same rfl)
      · exact .of_silent rfl (Keeper.vpcRouters.moves_same rfl)
  | config id =>
      simp only [answerVpcRouter, yields_bind, yields_find, yields_pure]
      split
      · intro counted
        exact .of_silent rfl (Keeper.vpcRouters.moves_same rfl)
      · exact .of_silent rfl (Keeper.vpcRouters.moves_same rfl)

theorem answerMobileGateway_effect (zone : Zone) (call : MobileGatewayCall) :
    Yields (answerMobileGateway call) cloud
      (fun value after => cloud.lastId ≤ after.lastId →
        Exchange.Effect ⟨.mobileGateway zone call, .ok value⟩ .mobileGateway cloud after)
      (fun error after =>
        Exchange.Effect ⟨.mobileGateway zone call, .error error⟩ .mobileGateway cloud after) := by
  cases call with
  | create request =>
      intro counted
      exact Keeper.mobileGateways.effect_of_insert rfl rfl rfl
        (UInt64.lt_of_le_of_ne counted (by grind)) (UInt64.le_refl _)
  | read id =>
      apply (Keeper.mobileGateways.yields_readSettling_moves _ ?_).mono
      · intro gateway after shown counted
        exact .of_shown rfl shown.1 shown.2 (.inl rfl)
      · intro error after moves
        exact .of_silent rfl moves
      · intro gateway
        exact rfl
  | update id request =>
      apply (Keeper.mobileGateways.yields_update ?_).mono
      · intro gateway after outcome counted
        obtain ⟨-, next, text, written⟩ := outcome
        rw [next] at counted
        exact Keeper.mobileGateways.effect_of_insert rfl written text
          (UInt64.lt_of_le_of_ne counted (by grind)) (UInt64.le_of_eq next.symm)
      · intro error after refused
        rw [refused.2]
        exact .of_silent rfl (Keeper.mobileGateways.moves_same rfl)
      · intro fresh gateway
        exact rfl
  | delete id =>
      simp only [answerMobileGateway, yields_remove]
      split
      · intro counted
        exact .of_silent rfl (Keeper.mobileGateways.moves_erase rfl)
      · exact .of_silent rfl (Keeper.mobileGateways.moves_same rfl)
  | boot id =>
      simp only [answerMobileGateway, yields_bind, yields_pure]
      apply (Keeper.mobileGateways.yields_change_moves _ ?_).mono
      · intro gateway after shown counted
        exact .of_silent rfl shown.1
      · intro error after moves
        exact .of_silent rfl moves
      · intro gateway
        exact rfl
  | shutdown id force =>
      simp only [answerMobileGateway, yields_bind, yields_recordShutdown]
      apply (Keeper.mobileGateways.yields_change_moves _ ?_).mono
      · intro gateway after shown counted
        exact .of_silent rfl shown.1
      · intro error after moves
        exact .of_silent rfl moves
      · intro gateway
        exact rfl
  | connectToSwitch id switchId =>
      simp only [answerMobileGateway, yields_bind, yields_find, yields_modify]
      repeat' split
      · intro counted
        exact .of_silent rfl (Keeper.mobileGateways.moves_same rfl)
      · exact .of_silent rfl (Keeper.mobileGateways.moves_same rfl)
      · exact .of_silent rfl (Keeper.mobileGateways.moves_same rfl)
  | config id =>
      simp only [answerMobileGateway, yields_bind, yields_find, yields_pure]
      split
      · intro counted
        exact .of_silent rfl (Keeper.mobileGateways.moves_same rfl)
      · exact .of_silent rfl (Keeper.mobileGateways.moves_same rfl)
  | setDns id dns | setTrafficConfig id traffic =>
      simp only [answerMobileGateway, yields_bind, yields_find, yields_modify]
      split
      · intro counted
        exact .of_silent rfl (Keeper.mobileGateways.moves_same rfl)
      · exact .of_silent rfl (Keeper.mobileGateways.moves_same rfl)
  | addSim id simId =>
      simp only [answerMobileGateway, addSim, yields_bind, yields_find, yields_ite, yields_throw,
        yields_pure]
      repeat' split
      · exact .of_silent rfl (Keeper.mobileGateways.moves_same rfl)
      · apply (Keeper.mobileGateways.yields_change_moves _ ?_).mono
        · intro gateway after shown counted
          exact .of_silent rfl shown.1
        · intro error after moves
          exact .of_silent rfl moves
        · intro gateway
          exact rfl
      · exact .of_silent rfl (Keeper.mobileGateways.moves_same rfl)
      · exact .of_silent rfl (Keeper.mobileGateways.moves_same rfl)

theorem answerLocalRouter_effect (call : LocalRouterCall) :
    Yields (answerLocalRouter call) cloud
      (fun value after => cloud.lastId ≤ after.lastId →
        Exchange.Effect ⟨.localRouter call, .ok value⟩ .localRouter cloud after)
      (fun error after =>
        Exchange.Effect ⟨.localRouter call, .error error⟩ .localRouter cloud after) := by
  cases call with
  | create request =>
      intro counted
      exact Keeper.localRouters.effect_of_insert rfl rfl rfl
        (UInt64.lt_of_le_of_ne counted (by grind)) (UInt64.le_refl _)
  | read id =>
      apply (Keeper.localRouters.yields_readSettling_moves _ ?_).mono
      · intro router after shown counted
        exact .of_shown rfl shown.1 shown.2 (.inl rfl)
      · intro error after moves
        exact .of_silent rfl moves
      · intro router
        exact rfl
  | updateSettings id settings settingsHash =>
      apply (Keeper.localRouters.yields_update ?_).mono
      · intro router after outcome counted
        obtain ⟨-, next, text, written⟩ := outcome
        rw [next] at counted
        exact Keeper.localRouters.effect_of_insert rfl written text
          (UInt64.lt_of_le_of_ne counted (by grind)) (UInt64.le_of_eq next.symm)
      · intro error after refused
        rw [refused.2]
        exact .of_silent rfl (Keeper.localRouters.moves_same rfl)
      · intro fresh router
        exact rfl
  | delete id =>
      simp only [answerLocalRouter, yields_remove]
      split
      · intro counted
        exact .of_silent rfl (Keeper.localRouters.moves_erase rfl)
      · exact .of_silent rfl (Keeper.localRouters.moves_same rfl)

/-- A call of a guarded family has the effect of its exchange on its own kind. -/
theorem answerRequest_effect {request : Request} {kind : Guarded}
    (family : request.guarded? = some kind) :
    Yields (answerRequest request) cloud
      (fun value after => cloud.lastId ≤ after.lastId →
        Exchange.Effect ⟨request, .ok value⟩ kind cloud after)
      (fun error after => Exchange.Effect ⟨request, .error error⟩ kind cloud after) := by
  unfold Request.guarded? at family
  split at family
  next zone call =>
    cases family
    exact answerDatabase_effect zone call
  next zone call =>
    cases family
    exact answerVpcRouter_effect zone call
  next zone call =>
    cases family
    exact answerMobileGateway_effect zone call
  next call =>
    cases family
    exact answerLocalRouter_effect call
  next => nomatch family

end Cloud

/-- Only an answered call of a guarded family shows a hash. -/
theorem Exchange.shows?_some {exchange : Exchange}
    {shown : Occasion × Guarded × ResourceId × String} (shows : exchange.shows? = some shown) :
    exchange.answer.isOk ∧ exchange.request.guarded? = some shown.2.1 := by
  unfold Exchange.shows? at shows
  split at shows
  all_goals cases shows
  all_goals exact ⟨rfl, rfl⟩

/-- An exchange that fails shows no hash. -/
theorem Exchange.shows?_error (request : Request) (error : RemoteError) :
    Exchange.shows? ⟨request, .error error⟩ = none :=
  Option.eq_none_iff_forall_ne_some.mpr fun _ shows =>
    Bool.false_ne_true (shows?_some shows).1

/-- An exchange of a family without settings hashes shows no hash. -/
theorem Exchange.shows?_unguarded {exchange : Exchange}
    (family : exchange.request.guarded? = none) : exchange.shows? = none :=
  Option.eq_none_iff_forall_ne_some.mpr fun _ shows =>
    nomatch family.symm.trans (shows?_some shows).2

/-- A call moves no hash of another family. -/
theorem Request.Footprint.settingsHash? {request : Request} {before after : Cloud} {kind : Guarded}
    (written : request.Footprint before after) (other : request.guarded? ≠ some kind)
    (id : ResourceId) : after.settingsHash? kind id = before.settingsHash? kind id := by
  cases request <;> rw [written] <;> cases kind <;> first | rfl | exact absurd rfl other

namespace Cloud

open CloudStep Guarded

/-- A call of a guarded family that does not overflow the counter has its effect on its own kind. -/
theorem call_guarded_effect {request : Request} {kind : Guarded} {cloud : Cloud}
    (family : request.guarded? = some kind)
    (counted : cloud.lastId ≤ (call request cloud).2.lastId) :
    (cloud.exchange request).Effect kind cloud (call request cloud).2 := by
  have effect := call_elim
    (motive := fun answer after => cloud.lastId ≤ after.lastId →
      Exchange.Effect ⟨request, answer⟩ kind cloud after)
    (fun error failures found _ => .of_silent (Exchange.shows?_error request error)
      (kind.moves_of_logging (fun _ => .kept)))
    (fun quiet => (answerRequest_effect family).mono
      (fun _ _ effect counted => ⟨kind.moves_of_logging (effect counted).moves,
        (effect counted).shows⟩)
      (fun _ _ effect _ => ⟨kind.moves_of_logging effect.moves, effect.shows⟩))
  exact effect counted

/-- Every call moves the hashes of every kind, and shows what it has stored. -/
theorem call_effect {request : Request} {cloud : Cloud}
    (counted : cloud.lastId ≤ (call request cloud).2.lastId) (kind : Guarded) :
    (cloud.exchange request).Effect kind cloud (call request cloud).2 := by
  obtain ⟨failures, written⟩ := call_footprint request cloud
  have others : request.guarded? ≠ some kind → kind.Moves cloud (call request cloud).2 := by
    intro other
    apply kind.moves_of_logging
    intro id
    rw [written.settingsHash? other id]
    exact .kept
  cases family : request.guarded? with
  | none =>
      exact .of_silent (Exchange.shows?_unguarded family) (others (by rw [family]; nofun))
  | some own =>
      have effect := call_guarded_effect family counted
      by_cases same : own = kind
      · exact same ▸ effect
      · refine ⟨others ?_, effect.shows⟩
        rw [family]
        exact fun equal => same (Option.some.inj equal)

/-- An update succeeds with the stored hash and is refused otherwise. -/
theorem answerRequest_update {request : Request} {kind : Guarded} {id : ResourceId}
    {given : String} (names : request.update? = some (kind, id, given)) (cloud : Cloud) :
    Yields (answerRequest request) cloud
      (fun _ _ => cloud.settingsHash? kind id = some given)
      (fun _ after => cloud.settingsHash? kind id ≠ some given ∧
        after = { cloud with lastId := cloud.lastId + 1 }) := by
  unfold Request.update? at names
  split at names
  next zone id request =>
    cases names
    exact (Keeper.databases.yields_update fun _ _ => rfl).mono (fun _ _ done => done.1)
      (fun _ _ refused => refused)
  next zone id request =>
    cases names
    exact (Keeper.vpcRouters.yields_update fun _ _ => rfl).mono (fun _ _ done => done.1)
      (fun _ _ refused => refused)
  next zone id request =>
    cases names
    exact (Keeper.mobileGateways.yields_update fun _ _ => rfl).mono (fun _ _ done => done.1)
      (fun _ _ refused => refused)
  next id settings settingsHash =>
    cases names
    exact (Keeper.localRouters.yields_update fun _ _ => rfl).mono (fun _ _ done => done.1)
      (fun _ _ refused => refused)
  next => nomatch names

end Cloud

end Provisioning
