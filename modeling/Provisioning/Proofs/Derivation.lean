import Mathlib.Logic.Relation
import Mathlib.Order.Bounds.Basic
import Mathlib.Order.Nat
import Provisioning.Context

/-!
Derivations of contexts. Contexts come from each other in any order: as clones, around the token of
another context, or with a deadline. A chronicle has nothing but how each context was born and which
contexts were cancelled, and it decides what every context reports. Cancellation follows the tokens,
which are shared by clones and nested by derivations. Deadlines follow the births and end at a new
token or at a context that is put around an old one.
-/

namespace Provisioning

/-- A deed makes a context, cancels one or lets time pass. Contexts are counted in the order of
their births, and a deed does nothing if there is no context with its number. -/
inductive Deed where
  | new
  | clone (source : Nat)
  | aroundToken (source : Nat)
  | withTimeout (source timeout : Nat)
  | withDeadline (source deadline : Nat)
  | cancel (target : Nat)
  | pass (span : Nat)
  deriving DecidableEq, Repr

/-- A family has a timeline and all the contexts that were made on it. -/
structure Family where
  timeline : Timeline
  contexts : List Context
  deriving DecidableEq, Repr

namespace Family

/-- A family is founded without contexts at any time. -/
def founded (now issued : Nat) : Family := ⟨⟨now, issued, [], none⟩, []⟩

def add (family : Family) (made : Context × Timeline) : Family :=
  ⟨made.2, family.contexts ++ [made.1]⟩

def derive (family : Family) (source : Nat)
    (make : Context → Timeline → Context × Timeline) : Family :=
  match family.contexts[source]? with
  | none => family
  | some context => family.add (make context family.timeline)

def perform (family : Family) : Deed → Family
  | .new => family.add (Context.new family.timeline)
  | .clone source => family.derive source fun context timeline => (context, timeline)
  | .aroundToken source => family.derive source fun context timeline =>
      (.ofToken context.token, timeline)
  | .withTimeout source timeout => family.derive source fun context timeline =>
      context.withTimeout timeout timeline
  | .withDeadline source deadline => family.derive source fun context timeline =>
      context.withDeadline deadline timeline
  | .cancel target =>
      match family.contexts[target]? with
      | none => family
      | some context => { family with timeline := context.cancel family.timeline }
  | .pass span => { family with timeline := family.timeline.elapse span }

end Family

/-- A birth tells what a context was made from, and the deadline that was imposed on it then. -/
inductive Birth where
  | new
  | clone (source : Nat)
  | aroundToken (source : Nat)
  | derived (source deadline : Nat)
  deriving DecidableEq, Repr

/-- A chronicle has the time, the birth of each context and the contexts that were cancelled. -/
structure Chronicle where
  now : Nat
  births : List Birth
  cancelled : List Nat
  deriving DecidableEq, Repr

namespace Chronicle

def bear (chronicle : Chronicle) (source : Nat) (birth : Birth) : Chronicle :=
  if source < chronicle.births.length then
    { chronicle with births := chronicle.births ++ [birth] }
  else chronicle

/-- The chronicle is kept from the deeds alone. -/
def record (chronicle : Chronicle) : Deed → Chronicle
  | .new => { chronicle with births := chronicle.births ++ [.new] }
  | .clone source => chronicle.bear source (.clone source)
  | .aroundToken source => chronicle.bear source (.aroundToken source)
  | .withTimeout source timeout =>
      chronicle.bear source (.derived source (chronicle.now + timeout))
  | .withDeadline source deadline => chronicle.bear source (.derived source deadline)
  | .cancel target =>
      if target < chronicle.births.length then
        { chronicle with cancelled := target :: chronicle.cancelled }
      else chronicle
  | .pass span => { chronicle with now := chronicle.now + span }

end Chronicle

/-- A clone and a context around the token of another one take over its token. -/
def TakesToken (births : List Birth) (name source : Nat) : Prop :=
  births[name]? = some (.clone source) ∨ births[name]? = some (.aroundToken source)

/-- Contexts share a token when it was taken over from one to the other. -/
def SharesToken (births : List Birth) : Nat → Nat → Prop :=
  Relation.EqvGen (TakesToken births)

/-- A context is below another one when they share a token, or when the other one shares an ancestor
of its token. A derived context has a token whose parent is the token of its source. -/
inductive Below (births : List Birth) : Nat → Nat → Prop where
  | shares {name other : Nat} (shared : SharesToken births name other) : Below births name other
  | derived {name heir source deadline other : Nat} (shared : SharesToken births name heir)
      (born : births[heir]? = some (.derived source deadline)) (below : Below births source other) :
      Below births name other

/-- A deadline that is imposed on a context is handed on to its clones and to the contexts that are
derived from it. -/
inductive Imposed (births : List Birth) : Nat → Nat → Prop where
  | here {name source deadline : Nat} (born : births[name]? = some (.derived source deadline)) :
      Imposed births name deadline
  | derived {name source own deadline : Nat} (born : births[name]? = some (.derived source own))
      (imposed : Imposed births source deadline) : Imposed births name deadline
  | clone {name source deadline : Nat} (born : births[name]? = some (.clone source))
      (imposed : Imposed births source deadline) : Imposed births name deadline

/-- The last of a list is found behind all the others. -/
theorem getElem?_concat_eq_some {α : Type} {items : List α} {last item : α} {place : Nat} :
    (items ++ [last])[place]? = some item ↔
      items[place]? = some item ∨ place = items.length ∧ last = item := by
  rcases Nat.lt_trichotomy place items.length with before | rfl | behind
  · rw [List.getElem?_append_left before]
    exact ⟨.inl, fun found => found.resolve_right fun here => absurd here.1 (Nat.ne_of_lt before)⟩
  · rw [List.getElem?_concat_length, List.getElem?_eq_none (Nat.le_refl _), Option.some_inj]
    exact ⟨fun same => .inr ⟨rfl, same⟩, fun found => (found.resolve_left nofun).2⟩
  · rw [List.getElem?_eq_none (by rw [List.length_append]; exact behind),
      List.getElem?_eq_none (Nat.le_of_lt behind)]
    exact ⟨nofun, fun found => absurd (found.resolve_left nofun).1 (Nat.ne_of_gt behind)⟩

section Growth

variable {births : List Birth} {birth : Birth} {name other : Nat}

/-- What was born stays in the list of births. -/
theorem born_append {known : Birth} (born : births[name]? = some known) :
    (births ++ [birth])[name]? = some known :=
  getElem?_concat_eq_some.mpr (.inl born)

/-- Tokens that are shared are still shared after one more birth. -/
theorem SharesToken.append (shared : SharesToken births name other) :
    SharesToken (births ++ [birth]) name other :=
  Relation.EqvGen.mono (fun _ _ (taken : TakesToken births _ _) =>
    taken.imp born_append born_append) _ _ shared

/-- A context that is below another one is still below it after one more birth. -/
theorem Below.append (below : Below births name other) : Below (births ++ [birth]) name other := by
  induction below with
  | shares shared => exact .shares shared.append
  | derived shared born _ inductionHypothesis =>
      exact .derived shared.append (born_append born) inductionHypothesis

/-- A context that shares its token is below whatever the other one is below. -/
theorem Below.of_shared {last : Nat} (shared : SharesToken births name other)
    (below : Below births other last) : Below births name last := by
  cases below with
  | shares further => exact .shares (shared.trans _ _ _ further)
  | derived further born below => exact .derived (shared.trans _ _ _ further) born below

/-- A context that is below another one is below every context that shares a token with that one. -/
theorem Below.to_shared {last : Nat} (below : Below births name other)
    (shared : SharesToken births other last) : Below births name last := by
  induction below with
  | shares further => exact .shares (further.trans _ _ _ shared)
  | derived further born _ inductionHypothesis =>
      exact .derived further born (inductionHypothesis shared)

end Growth

/-- The deadlines that are imposed on a context are known from its birth. -/
theorem imposed_of_born {births : List Birth} {name : Nat} {birth : Birth}
    (born : births[name]? = some birth) :
    {deadline | Imposed births name deadline} =
      match birth with
      | .new | .aroundToken _ => ∅
      | .clone source => {deadline | Imposed births source deadline}
      | .derived source own => insert own {deadline | Imposed births source deadline} := by
  ext deadline
  constructor
  · intro imposed
    cases imposed with
    | here known =>
        obtain rfl := Option.some.inj (born.symm.trans known)
        exact Set.mem_insert _ _
    | derived known imposed =>
        obtain rfl := Option.some.inj (born.symm.trans known)
        exact Set.mem_insert_of_mem _ imposed
    | clone known imposed =>
        obtain rfl := Option.some.inj (born.symm.trans known)
        exact imposed
  · cases birth with
    | new => exact nofun
    | clone source => exact Imposed.clone born
    | aroundToken source => exact nofun
    | derived source own =>
        rintro (rfl | imposed)
        · exact .here born
        · exact .derived born imposed

/-- A deadline is the earliest one of a set, and there is none if the set is empty. -/
def EarliestOf (imposed : Set Nat) : Option Nat → Prop
  | some deadline => IsLeast imposed deadline
  | none => imposed = ∅

/-- The earliest deadline of a set with one more is the earlier one of the two. -/
theorem EarliestOf.insert {imposed : Set Nat} {deadline : Option Nat}
    (earliest : EarliestOf imposed deadline) (own : Nat) :
    EarliestOf (insert own imposed) (some (Context.earliest own deadline)) := by
  cases deadline with
  | none =>
      rw [show imposed = ∅ from earliest, insert_empty_eq]
      exact isLeast_singleton
  | some deadline =>
      rw [Context.earliest, Nat.min_comm]
      exact IsLeast.insert own earliest

/-- There is a deadline exactly when the set has a least one, and then it is that one. -/
theorem EarliestOf.eq_some_iff {imposed : Set Nat} {deadline : Option Nat}
    (earliest : EarliestOf imposed deadline) (least : Nat) :
    deadline = some least ↔ IsLeast imposed least := by
  cases deadline with
  | none =>
      refine ⟨nofun, fun isLeast => ?_⟩
      rw [show imposed = ∅ from earliest] at isLeast
      exact absurd isLeast.1 (Set.notMem_empty least)
  | some deadline =>
      rw [Option.some_inj]
      constructor
      · rintro rfl
        exact earliest
      · exact fun isLeast => earliest.unique isLeast

/-- The birth of a context determines it up to the number that a new token gets. -/
def Birth.Makes (contexts : List Context) (name : Nat) (context : Context) : Birth → Prop
  | .new => context.deadline = none
  | .clone source => source < name ∧ contexts[source]? = some context
  | .aroundToken source =>
      ∃ original, source < name ∧ contexts[source]? = some original ∧
        context = .ofToken original.token
  | .derived source deadline =>
      ∃ original number, source < name ∧ contexts[source]? = some original ∧
        context = ⟨⟨number :: original.token.path⟩,
          some (Context.earliest deadline original.deadline)⟩

/-- The token has a number, and its numbers were issued before. -/
def Token.Issued (token : Token) (issued : Nat) : Prop :=
  token.path ≠ [] ∧ ∀ number ∈ token.path, number < issued

/-- What a birth makes does not depend on the contexts that are made later. -/
theorem Birth.Makes.append {contexts : List Context} {name : Nat} {context last : Context}
    {birth : Birth} (makes : birth.Makes contexts name context) :
    birth.Makes (contexts ++ [last]) name context := by
  cases birth with
  | new => exact makes
  | clone source => exact ⟨makes.1, getElem?_concat_eq_some.mpr (.inl makes.2)⟩
  | aroundToken source =>
      obtain ⟨original, earlier, found, rfl⟩ := makes
      exact ⟨original, earlier, getElem?_concat_eq_some.mpr (.inl found), rfl⟩
  | derived source deadline =>
      obtain ⟨original, number, earlier, found, rfl⟩ := makes
      exact ⟨original, number, earlier, getElem?_concat_eq_some.mpr (.inl found), rfl⟩

/-- A chronicle agrees with a family that went through the same deeds. -/
structure Agrees (family : Family) (chronicle : Chronicle) : Prop where
  time : family.timeline.now = chronicle.now
  quiet : family.timeline.alarm = none
  count : family.contexts.length = chronicle.births.length
  issued : ∀ context ∈ family.contexts, context.token.Issued family.timeline.issued
  makes : ∀ name context (birth : Birth), family.contexts[name]? = some context →
    chronicle.births[name]? = some birth → birth.Makes family.contexts name context
  shares : ∀ name other context another, family.contexts[name]? = some context →
    family.contexts[other]? = some another → context.token = another.token →
      SharesToken chronicle.births name other
  below : ∀ name other context another, family.contexts[name]? = some context →
    family.contexts[other]? = some another → context.token.isBelow another.token →
      Below chronicle.births name other
  named : ∀ target ∈ chronicle.cancelled, target < chronicle.births.length
  cancelled : ∀ token, token ∈ family.timeline.cancelled ↔
    ∃ target ∈ chronicle.cancelled, ∃ context, family.contexts[target]? = some context ∧
      context.token = token

/-- A founded family agrees with a chronicle without births. -/
theorem Family.founded_agrees (now issued : Nat) : Agrees (.founded now issued) ⟨now, [], []⟩ where
  time := rfl
  quiet := rfl
  count := rfl
  issued := nofun
  makes := nofun
  shares := nofun
  below := nofun
  named := nofun
  cancelled _ := by simp [founded]

/-- Only time passes when no alarm is set. -/
theorem Timeline.elapse_of_quiet {timeline : Timeline} (quiet : timeline.alarm = none)
    (span : Nat) : timeline.elapse span = { timeline with now := timeline.now + span } := by
  obtain ⟨now, issued, cancelled, alarm⟩ := timeline
  cases quiet
  rw [elapse]
  split
  next still => rw [still, Nat.add_zero]
  next => rw [advanceTo, Nat.max_eq_right (Nat.le_add_right _ _)]

namespace Agrees

variable {family : Family} {chronicle : Chronicle} {birth : Birth} {made : Context}
  {timeline : Timeline}

/-- One more context keeps the agreement if it is related as it should be to those before it. -/
theorem extend (agrees : Agrees family chronicle)
    (same : timeline.now = family.timeline.now ∧ timeline.alarm = family.timeline.alarm ∧
      timeline.cancelled = family.timeline.cancelled)
    (more : family.timeline.issued ≤ timeline.issued) (issued : made.token.Issued timeline.issued)
    (makes : birth.Makes family.contexts family.contexts.length made)
    (shares : ∀ other another, family.contexts[other]? = some another →
      made.token = another.token →
        SharesToken (chronicle.births ++ [birth]) family.contexts.length other)
    (below : ∀ other another, family.contexts[other]? = some another →
      made.token.isBelow another.token →
        Below (chronicle.births ++ [birth]) family.contexts.length other)
    (above : ∀ other another, family.contexts[other]? = some another →
      another.token.isBelow made.token →
        Below (chronicle.births ++ [birth]) other family.contexts.length) :
    Agrees (family.add (made, timeline))
      { chronicle with births := chronicle.births ++ [birth] } where
  time := same.1.trans agrees.time
  quiet := same.2.1.trans agrees.quiet
  count := by simp only [Family.add, List.length_append, agrees.count, List.length_singleton]
  issued := by
    intro context member
    rcases List.mem_append.mp member with old | new
    · obtain ⟨numbered, before⟩ := agrees.issued context old
      exact ⟨numbered, fun number path => Nat.lt_of_lt_of_le (before number path) more⟩
    · obtain rfl := List.mem_singleton.mp new
      exact issued
  makes := by
    intro name context birth found born
    rw [Family.add, getElem?_concat_eq_some] at found
    rw [getElem?_concat_eq_some] at born
    rcases found with old | ⟨rfl, rfl⟩ <;> rcases born with known | ⟨here, rfl⟩
    · exact (agrees.makes name context birth old known).append
    · have before := (List.getElem?_eq_some_iff.mp old).1
      exact absurd (agrees.count.trans here.symm) (Nat.ne_of_gt before)
    · have before := (List.getElem?_eq_some_iff.mp known).1
      exact absurd agrees.count (Nat.ne_of_lt before)
    · exact makes.append
  shares := by
    intro name other context another found foundOther same
    rw [Family.add, getElem?_concat_eq_some] at found foundOther
    rcases found with old | ⟨rfl, rfl⟩ <;> rcases foundOther with oldOther | ⟨rfl, rfl⟩
    · exact (agrees.shares name other context another old oldOther same).append
    · exact (shares name context old same.symm).symm
    · exact shares other another oldOther same
    · exact .refl _
  below := by
    intro name other context another found foundOther isBelow
    rw [Family.add, getElem?_concat_eq_some] at found foundOther
    rcases found with old | ⟨rfl, rfl⟩ <;> rcases foundOther with oldOther | ⟨rfl, rfl⟩
    · exact (agrees.below name other context another old oldOther isBelow).append
    · exact above name context old isBelow
    · exact below other another oldOther isBelow
    · exact .shares (.refl _)
  named := by
    intro target member
    rw [List.length_append]
    exact Nat.lt_add_right _ (agrees.named target member)
  cancelled := by
    intro token
    rw [Family.add, same.2.2, agrees.cancelled token]
    refine exists_congr fun target => and_congr_right fun member => exists_congr fun context =>
      and_congr_left fun _ => ?_
    rw [getElem?_concat_eq_some]
    refine ⟨.inl, fun found => found.resolve_right fun last => ?_⟩
    exact absurd (last.1.trans agrees.count) (Nat.ne_of_lt (agrees.named target member))

/-- A context that takes over a token is related to the others as its source is. -/
theorem takeOver (agrees : Agrees family chronicle) {source : Nat} {original : Context}
    (found : family.contexts[source]? = some original) (same : made.token = original.token)
    (takes : birth = .clone source ∨ birth = .aroundToken source)
    (makes : birth.Makes family.contexts family.contexts.length made) :
    Agrees (family.add (made, family.timeline))
      { chronicle with births := chronicle.births ++ [birth] } := by
  have taken : SharesToken (chronicle.births ++ [birth]) family.contexts.length source := by
    refine .rel _ _ (takes.imp ?_ ?_) <;> rintro rfl <;>
      exact getElem?_concat_eq_some.mpr (.inr ⟨agrees.count, rfl⟩)
  refine agrees.extend ⟨rfl, rfl, rfl⟩ (Nat.le_refl _) ?_ makes ?_ ?_ ?_
  · rw [same]
    exact agrees.issued original (List.mem_of_getElem? found)
  · intro other another foundOther equal
    have shared := agrees.shares source other original another found foundOther (same ▸ equal)
    exact taken.trans _ _ _ shared.append
  · intro other another foundOther isBelow
    have below := agrees.below source other original another found foundOther (same ▸ isBelow)
    exact below.append.of_shared taken
  · intro other another foundOther isBelow
    have below := agrees.below other source another original foundOther found (same ▸ isBelow)
    exact below.append.to_shared taken.symm

/-- A new token is below nothing but itself and what its parent is below, and nothing else is below
a new token. -/
theorem issue (agrees : Agrees family chronicle) {parent : List Nat}
    (path : made.token.path = family.timeline.issued :: parent)
    (before : ∀ number ∈ parent, number < family.timeline.issued)
    (makes : birth.Makes family.contexts family.contexts.length made)
    (below : ∀ other another, family.contexts[other]? = some another →
      another.token.path <:+ parent →
        Below (chronicle.births ++ [birth]) family.contexts.length other) :
    Agrees (family.add (made, { family.timeline with issued := family.timeline.issued + 1 }))
      { chronicle with births := chronicle.births ++ [birth] } := by
  have unknown : ∀ (other : Nat) (another : Context), family.contexts[other]? = some another →
      family.timeline.issued ∉ another.token.path := by
    intro other another found member
    exact Nat.lt_irrefl _ ((agrees.issued another (List.mem_of_getElem? found)).2 _ member)
  have own : family.timeline.issued ∈ made.token.path := path ▸ List.mem_cons_self
  refine agrees.extend ⟨rfl, rfl, rfl⟩ (Nat.le_succ _) ⟨?_, ?_⟩ makes ?_ ?_ ?_
  · rw [path]
    exact List.cons_ne_nil _ _
  · rw [path]
    exact List.forall_mem_cons.mpr
      ⟨Nat.lt_succ_self _, fun number member => Nat.lt_succ_of_lt (before number member)⟩
  · intro other another found equal
    exact absurd (equal ▸ own) (unknown other another found)
  · intro other another found isBelow
    rw [Token.isBelow, List.isSuffixOf_iff_suffix, path, List.suffix_cons_iff] at isBelow
    rcases isBelow with equal | higher
    · exact absurd (equal ▸ List.mem_cons_self) (unknown other another found)
    · exact below other another found higher
  · intro other another found isBelow
    rw [Token.isBelow, List.isSuffixOf_iff_suffix] at isBelow
    exact absurd (isBelow.subset own) (unknown other another found)

/-- A derived context is below its source, and its deadline is not later. -/
theorem derived (agrees : Agrees family chronicle) {source : Nat} {original : Context}
    (found : family.contexts[source]? = some original) (deadline : Nat) :
    Agrees (family.add (original.withDeadline deadline family.timeline))
      { chronicle with births := chronicle.births ++ [.derived source deadline] } := by
  have earlier := (List.getElem?_eq_some_iff.mp found).1
  apply agrees.issue rfl
  · exact (agrees.issued original (List.mem_of_getElem? found)).2
  · exact ⟨original, family.timeline.issued, earlier, found, rfl⟩
  · intro other another foundOther higher
    have below := agrees.below source other original another found foundOther
      (List.isSuffixOf_iff_suffix.mpr higher)
    have born : (chronicle.births ++ [.derived source deadline])[family.contexts.length]? =
        some (.derived source deadline) :=
      getElem?_concat_eq_some.mpr (.inr ⟨agrees.count, rfl⟩)
    exact .derived (.refl _) born below.append

/-- A deed with a source is done, and recorded, when there is such a context. -/
theorem derive (agrees : Agrees family chronicle) {source : Nat}
    {make : Context → Timeline → Context × Timeline}
    (makes : ∀ original, family.contexts[source]? = some original →
      Agrees (family.add (make original family.timeline))
        { chronicle with births := chronicle.births ++ [birth] }) :
    Agrees (family.derive source make) (chronicle.bear source birth) := by
  rw [Family.derive, Chronicle.bear, ← agrees.count]
  split
  next missing =>
    rw [if_neg (Nat.not_lt.mpr (List.getElem?_eq_none_iff.mp missing))]
    exact agrees
  next original found =>
    rw [if_pos (List.getElem?_eq_some_iff.mp found).1]
    exact makes original found

/-- A family and its chronicle still agree after one more deed. -/
theorem perform (agrees : Agrees family chronicle) (deed : Deed) :
    Agrees (family.perform deed) (chronicle.record deed) := by
  cases deed with
  | new =>
      refine @issue family chronicle .new (Context.new family.timeline).1 agrees [] rfl nofun rfl ?_
      intro other another found nothing
      have numbered := (agrees.issued another (List.mem_of_getElem? found)).1
      exact absurd (List.suffix_nil.mp nothing) numbered
  | clone source =>
      refine agrees.derive fun original found => agrees.takeOver found rfl (.inl rfl) ?_
      exact ⟨(List.getElem?_eq_some_iff.mp found).1, found⟩
  | aroundToken source =>
      refine agrees.derive fun original found => agrees.takeOver found rfl (.inr rfl) ?_
      exact ⟨original, (List.getElem?_eq_some_iff.mp found).1, found, rfl⟩
  | withTimeout source timeout =>
      rw [Chronicle.record, ← agrees.time]
      exact agrees.derive fun original found => agrees.derived found _
  | withDeadline source deadline =>
      exact agrees.derive fun original found => agrees.derived found deadline
  | cancel target =>
      rw [Family.perform, Chronicle.record, ← agrees.count]
      split
      next missing =>
        rw [if_neg (Nat.not_lt.mpr (List.getElem?_eq_none_iff.mp missing))]
        exact agrees
      next context found =>
        have earlier := (List.getElem?_eq_some_iff.mp found).1
        rw [if_pos earlier]
        refine { agrees with named := ?_, cancelled := ?_ }
        · exact List.forall_mem_cons.mpr ⟨agrees.count ▸ earlier, agrees.named⟩
        · intro token
          rw [Context.cancel, Timeline.cancel, List.mem_cons, agrees.cancelled token]
          constructor
          · rintro (rfl | ⟨other, member, another⟩)
            · exact ⟨target, List.mem_cons_self, context, found, rfl⟩
            · exact ⟨other, List.mem_cons_of_mem _ member, another⟩
          · rintro ⟨other, member, another, foundOther, rfl⟩
            rcases List.mem_cons.mp member with rfl | member
            · rw [found] at foundOther
              exact .inl (Option.some.inj foundOther ▸ rfl)
            · exact .inr ⟨other, member, another, foundOther, rfl⟩
  | pass span =>
      rw [Family.perform, Chronicle.record, Timeline.elapse_of_quiet agrees.quiet, ← agrees.time]
      exact { agrees with time := rfl }

/-- A family and its chronicle agree after any deeds. -/
theorem performAll (agrees : Agrees family chronicle) (deeds : List Deed) :
    Agrees (deeds.foldl Family.perform family) (deeds.foldl Chronicle.record chronicle) := by
  induction deeds generalizing family chronicle with
  | nil => exact agrees
  | cons deed rest inductionHypothesis => exact inductionHypothesis (agrees.perform deed)

/-- Every context has a birth, and each birth is that of a context. -/
theorem born (agrees : Agrees family chronicle) {name : Nat} {context : Context}
    (found : family.contexts[name]? = some context) :
    ∃ birth, chronicle.births[name]? = some birth ∧ birth.Makes family.contexts name context := by
  have earlier := (List.getElem?_eq_some_iff.mp found).1
  have known := List.getElem?_eq_getElem (agrees.count ▸ earlier)
  exact ⟨_, known, agrees.makes name context _ found known⟩

/-- Every context of an agreeing family is what its birth makes. -/
theorem found (agrees : Agrees family chronicle) {name : Nat} {birth : Birth}
    (born : chronicle.births[name]? = some birth) :
    ∃ context, family.contexts[name]? = some context ∧
      birth.Makes family.contexts name context := by
  have earlier := (List.getElem?_eq_some_iff.mp born).1
  have known := List.getElem?_eq_getElem (agrees.count.symm ▸ earlier)
  exact ⟨_, known, agrees.makes name _ birth known born⟩

/-- The token of a number is the token of the context that has the number. -/
theorem token_eq_of_shares (agrees : Agrees family chronicle) {name other : Nat}
    (shared : SharesToken chronicle.births name other) :
    (family.contexts[name]?).map Context.token = (family.contexts[other]?).map Context.token := by
  induction shared with
  | rel name source taken =>
      rcases taken with clone | around
      · obtain ⟨context, found, earlier, same⟩ := agrees.found clone
        rw [found, same]
      · obtain ⟨context, found, original, earlier, same, rfl⟩ := agrees.found around
        rw [found, same]
        rfl
  | refl name => rfl
  | symm name other _ inductionHypothesis => exact inductionHypothesis.symm
  | trans name middle other _ _ first second => exact first.trans second

/-- Tokens are nested as the contexts are. -/
theorem isBelow_of_below (agrees : Agrees family chronicle) {name other : Nat}
    (below : Below chronicle.births name other) {context another : Context}
    (found : family.contexts[name]? = some context)
    (foundOther : family.contexts[other]? = some another) :
    context.token.isBelow another.token := by
  rw [Token.isBelow, List.isSuffixOf_iff_suffix]
  induction below generalizing context another with
  | shares shared =>
      have same := agrees.token_eq_of_shares shared
      rw [found, foundOther] at same
      exact Option.some.inj same ▸ List.suffix_rfl
  | derived shared born _ inductionHypothesis =>
      obtain ⟨heir, foundHeir, original, number, earlier, foundSource, rfl⟩ := agrees.found born
      have same := agrees.token_eq_of_shares shared
      rw [found, foundHeir] at same
      rw [Option.some.inj same]
      exact (inductionHypothesis foundSource foundOther).trans (List.suffix_cons _ _)

/-- A context is cancelled exactly when a context was cancelled that it is below. -/
theorem isCancelled_iff (agrees : Agrees family chronicle) {name : Nat} {context : Context}
    (found : family.contexts[name]? = some context) :
    context.isCancelled family.timeline ↔
      ∃ target ∈ chronicle.cancelled, Below chronicle.births name target := by
  rw [Context.isCancelled, Timeline.isCancelled, List.any_eq_true]
  constructor
  · rintro ⟨token, member, isBelow⟩
    obtain ⟨target, cancelled, another, foundOther, rfl⟩ := (agrees.cancelled token).mp member
    exact ⟨target, cancelled, agrees.below name target context another found foundOther isBelow⟩
  · rintro ⟨target, cancelled, below⟩
    have known := List.getElem?_eq_getElem (agrees.count.symm ▸ agrees.named target cancelled)
    exact ⟨_, (agrees.cancelled _).mpr ⟨target, cancelled, _, known, rfl⟩,
      agrees.isBelow_of_below below found known⟩

/-- The deadline of a context is the least one that was imposed on it. -/
theorem deadline_earliest (agrees : Agrees family chronicle) {name : Nat} {context : Context}
    (found : family.contexts[name]? = some context) :
    EarliestOf {deadline | Imposed chronicle.births name deadline} context.deadline := by
  -- The source of a context was made before the context.
  induction name using Nat.strongRecOn generalizing context with
  | ind name inductionHypothesis =>
      obtain ⟨birth, born, makes⟩ := agrees.born found
      rw [imposed_of_born born]
      cases birth with
      | new =>
          rw [show context.deadline = none from makes]
          rfl
      | clone source => exact inductionHypothesis source makes.1 makes.2
      | aroundToken source =>
          obtain ⟨original, earlier, foundSource, rfl⟩ := makes
          rfl
      | derived source own =>
          obtain ⟨original, number, earlier, foundSource, rfl⟩ := makes
          exact (inductionHypothesis source earlier foundSource).insert own

end Agrees

/-- A timeline leads to another one when no time is taken back and no cancellation. -/
structure Timeline.LeadsTo (earlier later : Timeline) : Prop where
  time : earlier.now ≤ later.now
  cancelled : earlier.cancelled ⊆ later.cancelled

namespace Timeline.LeadsTo

variable {first second third : Timeline}

theorem refl (timeline : Timeline) : timeline.LeadsTo timeline := ⟨Nat.le_refl _, fun _ => id⟩

/-- Timelines that lead on from each other lead on together. -/
theorem trans (leads : first.LeadsTo second) (further : second.LeadsTo third) :
    first.LeadsTo third :=
  ⟨Nat.le_trans leads.time further.time, fun _ member => further.cancelled (leads.cancelled member)⟩

/-- A cancellation leads a timeline on. -/
theorem cancel (timeline : Timeline) (token : Token) :
    timeline.LeadsTo (timeline.cancel token) :=
  ⟨Nat.le_refl _, fun _ => List.mem_cons_of_mem _⟩

/-- The passage of time leads a timeline on. -/
theorem elapse (timeline : Timeline) (span : Nat) : timeline.LeadsTo (timeline.elapse span) := by
  rw [Timeline.elapse]
  split
  · exact .refl _
  · constructor
    · rw [Timeline.now_advanceTo]
      exact Nat.le_max_left _ _
    · rw [Timeline.advanceTo]
      split
      · split
        · exact fun _ => List.mem_cons_of_mem _
        · exact fun _ => id
      · exact fun _ => id

end Timeline.LeadsTo

namespace Context

variable {context : Context} {timeline later : Timeline}

/-- A check reports a cancellation exactly when the context is cancelled. -/
theorem check_eq_cancelled_iff :
    context.check timeline = some .cancelled ↔ context.isCancelled timeline := by
  rw [check]
  split
  next cancelled => exact ⟨fun _ => cancelled, fun _ => rfl⟩
  next running =>
    refine ⟨fun reported => ?_, fun cancelled => absurd cancelled running⟩
    split at reported <;> cases reported

/-- A context is expired exactly when it has a deadline that has been reached. -/
theorem isExpired_iff :
    context.isExpired timeline ↔ ∃ deadline, context.deadline = some deadline ∧
      deadline ≤ timeline.now := by
  rw [isExpired]
  cases context.deadline with
  | none => exact ⟨nofun, nofun⟩
  | some deadline => simp only [decide_eq_true_eq, Option.some.injEq, exists_eq_left']

/-- A check reports an expired deadline exactly when the context is not cancelled and its deadline
has been reached. -/
theorem check_eq_deadlineExceeded_iff :
    context.check timeline = some .deadlineExceeded ↔
      ¬ context.isCancelled timeline ∧
        ∃ deadline, context.deadline = some deadline ∧ deadline ≤ timeline.now := by
  rw [← isExpired_iff, check]
  split
  next cancelled => exact iff_of_false (by rintro ⟨⟩) fun reported => reported.1 cancelled
  next running =>
    split
    next expired => exact ⟨fun _ => ⟨running, expired⟩, fun _ => rfl⟩
    next early => exact iff_of_false (by rintro ⟨⟩) fun reported => early reported.2

/-- A check reports nothing exactly when the context is neither cancelled nor expired. -/
theorem check_eq_none_iff :
    context.check timeline = none ↔
      ¬ context.isCancelled timeline ∧ ¬ context.isExpired timeline := by
  rw [check]
  split
  next cancelled =>
    exact iff_of_false (Option.some_ne_none _) fun passed => passed.1 cancelled
  next running =>
    split
    next expired => exact iff_of_false (Option.some_ne_none _) fun passed => passed.2 expired
    next early => exact ⟨fun _ => ⟨running, early⟩, fun _ => rfl⟩

/-- A check that has failed fails for ever. -/
theorem check_fails_later (leads : timeline.LeadsTo later)
    (failed : context.check timeline ≠ none) : context.check later ≠ none := by
  rw [ne_eq, check_eq_none_iff, isExpired_iff] at failed ⊢
  rintro ⟨running, early⟩
  refine failed ⟨fun cancelled => running ?_, fun ⟨deadline, own, passed⟩ => ?_⟩
  · obtain ⟨token, member, isBelow⟩ := List.any_eq_true.mp cancelled
    exact List.any_eq_true.mpr ⟨token, leads.cancelled member, isBelow⟩
  · exact early ⟨deadline, own, Nat.le_trans passed leads.time⟩

end Context

namespace Family

variable {family : Family}

/-- A derivation leads the timeline of a family on when the making of its context does. -/
theorem derive_leadsTo {source : Nat} {make : Context → Timeline → Context × Timeline}
    (leads : ∀ context, family.timeline.LeadsTo (make context family.timeline).2) :
    family.timeline.LeadsTo (family.derive source make).timeline := by
  rw [derive]
  split
  next => exact .refl _
  next context _ => exact leads context

/-- A deed leads the timeline of a family on. -/
theorem perform_leadsTo (deed : Deed) :
    family.timeline.LeadsTo (family.perform deed).timeline := by
  cases deed with
  | new => exact ⟨Nat.le_refl _, fun _ => id⟩
  | clone source => exact derive_leadsTo fun _ => .refl _
  | aroundToken source => exact derive_leadsTo fun _ => .refl _
  | withTimeout source timeout => exact derive_leadsTo fun _ => ⟨Nat.le_refl _, fun _ => id⟩
  | withDeadline source deadline => exact derive_leadsTo fun _ => ⟨Nat.le_refl _, fun _ => id⟩
  | cancel target =>
      rw [perform]
      split
      next => exact .refl _
      next => exact .cancel _ _
  | pass span => exact .elapse _ _

/-- Any deeds lead the timeline of a family on. -/
theorem performAll_leadsTo (deeds : List Deed) :
    family.timeline.LeadsTo (deeds.foldl perform family).timeline := by
  induction deeds generalizing family with
  | nil => exact .refl _
  | cons deed rest inductionHypothesis => exact (perform_leadsTo deed).trans inductionHypothesis

end Family

/-- A context reports what its derivation and the cancellations tell. -/
structure Faithful (family : Family) (chronicle : Chronicle) (name : Nat) (context : Context) :
    Prop where
  cancelled : context.isCancelled family.timeline ↔
    ∃ target ∈ chronicle.cancelled, Below chronicle.births name target
  deadline : ∀ deadline, context.deadline = some deadline ↔
    IsLeast {imposed | Imposed chronicle.births name imposed} deadline
  limited : ∀ source own, chronicle.births[name]? = some (.clone source) ∨
    chronicle.births[name]? = some (.derived source own) → ∃ original,
      family.contexts[source]? = some original ∧ ∀ limit, original.deadline = some limit →
        ∃ deadline ≤ limit, context.deadline = some deadline
  unlimited : ∀ source, chronicle.births[name]? = some (.aroundToken source) →
    context.deadline = none
  checkCancelled : context.check family.timeline = some .cancelled ↔
    context.isCancelled family.timeline
  checkExpired : context.check family.timeline = some .deadlineExceeded ↔
    ¬ context.isCancelled family.timeline ∧
      ∃ deadline, context.deadline = some deadline ∧ deadline ≤ chronicle.now
  forever : context.check family.timeline ≠ none → ∀ deeds : List Deed,
    context.check (deeds.foldl Family.perform family).timeline ≠ none

/-- A context is never given more time than its source has, unless it is put around a token. -/
theorem Agrees.limited {family : Family} {chronicle : Chronicle} (agrees : Agrees family chronicle)
    {name source own : Nat} {context : Context} (found : family.contexts[name]? = some context)
    (born : chronicle.births[name]? = some (.clone source) ∨
      chronicle.births[name]? = some (.derived source own)) :
    ∃ original, family.contexts[source]? = some original ∧
      ∀ limit, original.deadline = some limit →
        ∃ deadline ≤ limit, context.deadline = some deadline := by
  rcases born with clone | derived
  · obtain ⟨earlier, same⟩ := agrees.makes name context _ found clone
    exact ⟨context, same, fun limit own => ⟨limit, Nat.le_refl _, own⟩⟩
  · obtain ⟨original, number, earlier, foundSource, rfl⟩ :=
      agrees.makes name context _ found derived
    refine ⟨original, foundSource, fun limit has => ⟨_, ?_, rfl⟩⟩
    rw [has]
    exact Nat.min_le_left _ _

/-- Every context of a family reports faithfully. Take any deeds in any order, with contexts that
come from each other in a tree of any shape. A context is cancelled exactly when a context was that
shares its token or an ancestor of its token. Its deadline is the least one that was imposed along
its derivation. A check reports a cancellation first and then a deadline that has been reached, and
it fails for ever once it has failed. -/
theorem Family.contexts_faithful (now issued : Nat) (deeds : List Deed) :
    let family := deeds.foldl perform (founded now issued)
    let chronicle := deeds.foldl Chronicle.record ⟨now, [], []⟩
    family.contexts.length = chronicle.births.length ∧
    ∀ name context, family.contexts[name]? = some context →
      Faithful family chronicle name context := by
  intro family chronicle
  have agrees : Agrees family chronicle := (founded_agrees now issued).performAll deeds
  refine ⟨agrees.count, fun name context found => ?_⟩
  exact {
    cancelled := agrees.isCancelled_iff found
    deadline := (agrees.deadline_earliest found).eq_some_iff
    limited := fun source own born => agrees.limited found born
    unlimited := fun source born => by
      obtain ⟨original, earlier, same, rfl⟩ := agrees.makes name context _ found born
      rfl
    checkCancelled := Context.check_eq_cancelled_iff
    checkExpired := agrees.time ▸ Context.check_eq_deadlineExceeded_iff
    forever := fun failed later => Context.check_fails_later (performAll_leadsTo later) failed }

/-- The cancellation of a clone of a limited context reaches a context around the same token, which
has no deadline, and leaves the first context alone. -/
theorem Family.cancelled_clone_faithful :
    let deeds : List Deed :=
      [.new, .withTimeout 0 10, .aroundToken 1, .clone 1, .cancel 3, .pass 10]
    let family := deeds.foldl perform (founded 5 0)
    let chronicle := deeds.foldl Chronicle.record ⟨5, [], []⟩
    let first : Context := ⟨⟨[0]⟩, none⟩
    let around : Context := ⟨⟨[1, 0]⟩, none⟩
    (family.contexts[0]? = some first ∧ first.check family.timeline = none ∧
      Faithful family chronicle 0 first) ∧
    family.contexts[2]? = some around ∧ around.check family.timeline = some .cancelled ∧
      Faithful family chronicle 2 around := by
  intro deeds family chronicle first around
  have foundFirst : family.contexts[0]? = some first := by decide
  have foundAround : family.contexts[2]? = some around := by decide
  refine ⟨⟨foundFirst, by decide, ?_⟩, foundAround, by decide, ?_⟩
  · exact (contexts_faithful 5 0 deeds).2 0 first foundFirst
  · exact (contexts_faithful 5 0 deeds).2 2 around foundAround

end Provisioning
