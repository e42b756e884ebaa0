import Provisioning.Lineage

/-!
The rule of lineages. A library is a fixed store of disks and archives. The rule says where a walk
along sources goes from a record and where it ends. The main statement says that all walks from one
record end in the same way.
-/

namespace Provisioning

/-- A record names itself when one of its sources is its own identifier. -/
def Disk.NamesItself (disk : Disk) : Prop :=
  disk.id = disk.sourceDiskId ∨ disk.id = disk.sourceArchiveId

/-- The lineage of a disk is its identifier together with its sources. -/
def Disk.lineage (disk : Disk) : ResourceId × ResourceId × ResourceId :=
  (disk.id, disk.sourceDiskId, disk.sourceArchiveId)

namespace Archive

def NamesItself (archive : Archive) : Prop :=
  archive.id = archive.sourceDiskId ∨ archive.id = archive.sourceArchiveId

/-- A text contains a word in any case of its letters. -/
def ContainsAnyCase (text word : String) : Prop :=
  ∃ before fragment after, text.toList = before ++ (fragment ++ after) ∧
    fragment.map Char.toLower = word.toList

/-- An exclusion marker is a class of the bundle or a tag. -/
def Marked (archive : Archive) : Prop :=
  (∃ bundle, archive.bundleInfo = some bundle ∧
    (bundle.hostClass = "ms_windows" ∨ ContainsAnyCase bundle.serviceClass "sophosutm")) ∨
  ∃ tag ∈ archive.tags,
    tag.label ∈ ["pkg-sophosutm", "distro-opnsense", "pkg-netwiserve"]

/-- A Unix system is tagged by its family. -/
def TaggedUnix (archive : Archive) : Prop :=
  ∃ tag ∈ archive.tags, tag.label ∈ ["os-unix", "os-linux"]

/-- The source disk is followed when it is set and not discontinued. -/
def OffersDisk (archive : Archive) : Prop :=
  archive.sourceDiskId ≠ .unset ∧ archive.sourceDiskAvailability ≠ .discontinued

/-- The source archive is followed when it is set and not discontinued. -/
def OffersArchive (archive : Archive) : Prop :=
  archive.sourceArchiveId ≠ .unset ∧ archive.sourceArchiveAvailability ≠ .discontinued

end Archive

namespace Lineage

/-- A library is a fixed store of disks and archives. -/
structure Library where
  disk? : ResourceId → Option Disk
  archive? : ResourceId → Option Archive

/-- A walk ends with a decision, with an invalid state, or at an archive that is absent. -/
inductive Ending where
  | editable (supported : Bool)
  | invalid (error : ProvisionError)
  | absent

namespace Library

variable (library : Library)

/-- This relation says from which record a walk goes on to which one. -/
inductive Follows : Node → Node → Prop where
  | absentDisk {id : ResourceId} (absent : library.disk? id = none) :
      Follows (.disk id) (.archive id)
  | diskOfDisk {id : ResourceId} {disk : Disk} (stored : library.disk? id = some disk)
      (proper : ¬ disk.NamesItself) (set : disk.sourceDiskId ≠ .unset) :
      Follows (.disk id) (.disk disk.sourceDiskId)
  | archiveOfDisk {id : ResourceId} {disk : Disk} (stored : library.disk? id = some disk)
      (proper : ¬ disk.NamesItself) (unset : disk.sourceDiskId = .unset)
      (set : disk.sourceArchiveId ≠ .unset) : Follows (.disk id) (.archive disk.sourceArchiveId)
  | diskOfArchive {id : ResourceId} {archive : Archive}
      (stored : library.archive? id = some archive) (proper : ¬ archive.NamesItself)
      (unmarked : ¬ archive.Marked) (untagged : ¬ archive.TaggedUnix)
      (offered : archive.OffersDisk) : Follows (.archive id) (.disk archive.sourceDiskId)
  | archiveOfArchive {id : ResourceId} {archive : Archive}
      (stored : library.archive? id = some archive) (proper : ¬ archive.NamesItself)
      (unmarked : ¬ archive.Marked) (untagged : ¬ archive.TaggedUnix)
      (refused : ¬ archive.OffersDisk) (offered : archive.OffersArchive) :
      Follows (.archive id) (.archive archive.sourceArchiveId)

/-- This relation says where a walk ends, given the records that it has visited before. -/
inductive Ends (start : ResourceId) (visited : List Node) : Node → Ending → Prop where
  | loop {node : Node} (seen : node ∈ visited) : Ends start visited node
      (.invalid (loopError start node))
  | selfNamingDisk {id : ResourceId} {disk : Disk} (fresh : .disk id ∉ visited)
      (stored : library.disk? id = some disk) (itself : disk.NamesItself) :
      Ends start visited (.disk id) (.invalid (selfSourced "disk" disk.id))
  | selfNamingArchive {id : ResourceId} {archive : Archive} (fresh : .archive id ∉ visited)
      (stored : library.archive? id = some archive) (itself : archive.NamesItself) :
      Ends start visited (.archive id) (.invalid (selfSourced "archive" archive.id))
  | bareDisk {id : ResourceId} {disk : Disk} (fresh : .disk id ∉ visited)
      (stored : library.disk? id = some disk) (proper : ¬ disk.NamesItself)
      (noDisk : disk.sourceDiskId = .unset) (noArchive : disk.sourceArchiveId = .unset) :
      Ends start visited (.disk id) (.editable false)
  | marked {id : ResourceId} {archive : Archive} (fresh : .archive id ∉ visited)
      (stored : library.archive? id = some archive) (proper : ¬ archive.NamesItself)
      (marked : archive.Marked) : Ends start visited (.archive id) (.editable false)
  | tagged {id : ResourceId} {archive : Archive} (fresh : .archive id ∉ visited)
      (stored : library.archive? id = some archive) (proper : ¬ archive.NamesItself)
      (unmarked : ¬ archive.Marked) (tagged : archive.TaggedUnix) :
      Ends start visited (.archive id) (.editable true)
  | exhausted {id : ResourceId} {archive : Archive} (fresh : .archive id ∉ visited)
      (stored : library.archive? id = some archive) (proper : ¬ archive.NamesItself)
      (unmarked : ¬ archive.Marked) (untagged : ¬ archive.TaggedUnix)
      (noDisk : ¬ archive.OffersDisk) (noArchive : ¬ archive.OffersArchive) :
      Ends start visited (.archive id) (.editable false)
  | absent {id : ResourceId} (fresh : .archive id ∉ visited)
      (absent : library.archive? id = none) : Ends start visited (.archive id) .absent

/-- A walk comes from one record to another and remembers the records that it leaves. It leaves no
record twice. -/
inductive Walks : List Node → Node → List Node → Node → Prop where
  | here {visited : List Node} {node : Node} : Walks visited node visited node
  | step {visited left : List Node} {node next last : Node} (fresh : node ∉ visited)
      (follows : library.Follows node next) (rest : Walks (node :: visited) next left last) :
      Walks visited node left last

end Library

/-- A lower-case text has a fragment exactly when the text contains the word in any case of its
letters. -/
theorem hasFragment_toLower_iff (text word : String) :
    Text.hasFragment (text.map Char.toLower) word = true ↔ Archive.ContainsAnyCase text word := by
  rw [Text.hasFragment, Text.occursIn_iff, String.toList_map]
  constructor
  · rintro ⟨before, after, split⟩
    obtain ⟨first, others, parts, -, lower⟩ := List.map_eq_append_iff.mp split
    obtain ⟨fragment, last, rfl, same, -⟩ := List.map_eq_append_iff.mp lower
    exact ⟨first, fragment, last, parts, same⟩
  · rintro ⟨before, fragment, after, parts, same⟩
    refine ⟨before.map Char.toLower, after.map Char.toLower, ?_⟩
    rw [parts, List.map_append, List.map_append, same]

/-- Some label is among the tags exactly when some tag is among the labels. -/
theorem any_hasTag_iff (labels : List String) (tags : List Tag) :
    labels.any (hasTag tags) = true ↔ ∃ tag ∈ tags, tag.label ∈ labels := by
  simp only [List.any_eq_true, hasTag, beq_iff_eq]
  constructor
  · rintro ⟨label, listed, tag, carried, same⟩
    exact ⟨tag, carried, same ▸ listed⟩
  · rintro ⟨tag, carried, listed⟩
    exact ⟨tag.label, listed, tag, carried, rfl⟩

/-- The program excludes exactly the archives that are marked. -/
theorem isExcluded_iff (archive : Archive) : isExcluded archive = true ↔ archive.Marked := by
  rw [isExcluded, Bool.or_eq_true, any_hasTag_iff, Option.any_eq_true]
  simp only [isExcludedBundle, Bool.or_eq_true, beq_iff_eq, hasFragment_toLower_iff]
  exact Iff.rfl

/-- The program finds an editable system in exactly the archives that are tagged as Unix. -/
theorem hasEditableSystem_iff (archive : Archive) :
    hasEditableSystem archive = true ↔ archive.TaggedUnix :=
  any_hasTag_iff _ _

theorem isUnset_iff (id : ResourceId) : id.isUnset = true ↔ id = .unset := by
  rw [ResourceId.isUnset, beq_iff_eq]
  constructor
  · intro zero
    cases id
    exact congrArg ResourceId.mk zero
  · intro unset
    rw [unset]
    rfl

theorem not_isUnset_iff (id : ResourceId) : (!id.isUnset) = true ↔ id ≠ .unset := by
  rw [Bool.not_eq_true', ← Bool.not_eq_true, isUnset_iff]

instance (disk : Disk) : Decidable disk.NamesItself := inferInstanceAs (Decidable (_ ∨ _))

instance (archive : Archive) : Decidable archive.NamesItself :=
  inferInstanceAs (Decidable (_ ∨ _))

instance (archive : Archive) : Decidable archive.Marked :=
  decidable_of_iff (isExcluded archive = true) (isExcluded_iff archive)

instance (archive : Archive) : Decidable archive.TaggedUnix :=
  decidable_of_iff (hasEditableSystem archive = true) (hasEditableSystem_iff archive)

instance (archive : Archive) : Decidable archive.OffersDisk :=
  inferInstanceAs (Decidable (_ ∧ _))

instance (archive : Archive) : Decidable archive.OffersArchive :=
  inferInstanceAs (Decidable (_ ∧ _))

/-- The program follows the source disk of an archive exactly when the archive offers it. -/
theorem offersDisk_iff (archive : Archive) :
    (!archive.sourceDiskId.isUnset && archive.sourceDiskAvailability != .discontinued) = true ↔
      archive.OffersDisk := by
  rw [Bool.and_eq_true, not_isUnset_iff, bne_iff_ne]
  exact Iff.rfl

/-- The program follows the source archive of an archive exactly when the archive offers it. -/
theorem offersArchive_iff (archive : Archive) :
    (!archive.sourceArchiveId.isUnset &&
      archive.sourceArchiveAvailability != .discontinued) = true ↔ archive.OffersArchive := by
  rw [Bool.and_eq_true, not_isUnset_iff, bne_iff_ne]
  exact Iff.rfl

/-- The judgement of a disk in the terms of the rule. -/
theorem judgeDisk_eq (disk : Disk) :
    judgeDisk disk =
      if disk.NamesItself then .error (selfSourced "disk" disk.id)
      else if disk.sourceDiskId ≠ .unset then .ok (.follow (.disk disk.sourceDiskId))
      else if disk.sourceArchiveId ≠ .unset then .ok (.follow (.archive disk.sourceArchiveId))
      else .ok (.editable false) := by
  simp only [judgeDisk, not_isUnset_iff]
  rfl

/-- The judgement of an archive in the terms of the rule. -/
theorem judgeArchive_eq (archive : Archive) :
    judgeArchive archive =
      if archive.NamesItself then .error (selfSourced "archive" archive.id)
      else if archive.Marked then .ok (.editable false)
      else if archive.TaggedUnix then .ok (.editable true)
      else if archive.OffersDisk then .ok (.follow (.disk archive.sourceDiskId))
      else if archive.OffersArchive then .ok (.follow (.archive archive.sourceArchiveId))
      else .ok (.editable false) := by
  simp only [judgeArchive, isExcluded_iff, hasEditableSystem_iff, offersDisk_iff,
    offersArchive_iff]
  rfl

/-- The judgement of a disk does not depend on more than its lineage. -/
theorem judgeDisk_congr {first second : Disk} (same : first.lineage = second.lineage) :
    judgeDisk first = judgeDisk second := by
  obtain ⟨sameId, sameDisk, sameArchive⟩ : first.id = second.id ∧
      first.sourceDiskId = second.sourceDiskId ∧
      first.sourceArchiveId = second.sourceArchiveId := by
    simpa only [Disk.lineage, Prod.mk.injEq] using same
  rw [judgeDisk, sameId, sameDisk, sameArchive, judgeDisk]

namespace Library

/-- The program judges one record of the library, unless the record is an absent archive. -/
def judge? (library : Library) : Node → Option (Except ProvisionError Verdict)
  | .disk id =>
      match library.disk? id with
      | some disk => some (judgeDisk disk)
      | none => some (.ok (.follow (.archive id)))
  | .archive id => (library.archive? id).map judgeArchive

variable {library : Library} {start : ResourceId} {visited : List Node} {node next : Node}
  {ending : Ending}

/-- The program follows a source where the rule does. -/
theorem Follows.judge? (follows : library.Follows node next) :
    library.judge? node = some (.ok (.follow next)) := by
  cases follows with
  | absentDisk absent => rw [Library.judge?, absent]
  | diskOfDisk stored proper set =>
      rw [Library.judge?, stored]
      dsimp only
      rw [judgeDisk_eq, if_neg proper, if_pos set]
  | archiveOfDisk stored proper unset set =>
      rw [Library.judge?, stored]
      dsimp only
      rw [judgeDisk_eq, if_neg proper, if_neg (not_not_intro unset), if_pos set]
  | diskOfArchive stored proper unmarked untagged offered =>
      rw [Library.judge?, stored, Option.map_some, judgeArchive_eq, if_neg proper,
        if_neg unmarked, if_neg untagged, if_pos offered]
  | archiveOfArchive stored proper unmarked untagged refused offered =>
      rw [Library.judge?, stored, Option.map_some, judgeArchive_eq, if_neg proper,
        if_neg unmarked, if_neg untagged, if_neg refused, if_pos offered]

/-- A walk ends at a record that it has visited before, or it ends as the record is judged. -/
theorem Ends.judge? (ends : library.Ends start visited node ending) :
    (node ∈ visited ∧ ending = .invalid (loopError start node)) ∨
      node ∉ visited ∧
        match ending with
        | .editable supported => library.judge? node = some (.ok (.editable supported))
        | .invalid error => library.judge? node = some (.error error)
        | .absent => library.judge? node = none := by
  cases ends with
  | loop seen => exact .inl ⟨seen, rfl⟩
  | selfNamingDisk fresh stored itself =>
      refine .inr ⟨fresh, ?_⟩
      dsimp only
      rw [Library.judge?, stored]
      dsimp only
      rw [judgeDisk_eq, if_pos itself]
  | selfNamingArchive fresh stored itself =>
      refine .inr ⟨fresh, ?_⟩
      dsimp only
      rw [Library.judge?, stored, Option.map_some, judgeArchive_eq, if_pos itself]
  | bareDisk fresh stored proper noDisk noArchive =>
      refine .inr ⟨fresh, ?_⟩
      dsimp only
      rw [Library.judge?, stored]
      dsimp only
      rw [judgeDisk_eq, if_neg proper, if_neg (not_not_intro noDisk),
        if_neg (not_not_intro noArchive)]
  | marked fresh stored proper marked =>
      refine .inr ⟨fresh, ?_⟩
      dsimp only
      rw [Library.judge?, stored, Option.map_some, judgeArchive_eq, if_neg proper, if_pos marked]
  | tagged fresh stored proper unmarked tagged =>
      refine .inr ⟨fresh, ?_⟩
      dsimp only
      rw [Library.judge?, stored, Option.map_some, judgeArchive_eq, if_neg proper,
        if_neg unmarked, if_pos tagged]
  | exhausted fresh stored proper unmarked untagged noDisk noArchive =>
      refine .inr ⟨fresh, ?_⟩
      dsimp only
      rw [Library.judge?, stored, Option.map_some, judgeArchive_eq, if_neg proper,
        if_neg unmarked, if_neg untagged, if_neg noDisk, if_neg noArchive]
  | absent fresh absent =>
      refine .inr ⟨fresh, ?_⟩
      dsimp only
      rw [Library.judge?, absent]
      rfl

/-- The judgement of a record that was not visited before is a step of the walk or its end. -/
theorem judge?_sound (library : Library) (start : ResourceId) (fresh : node ∉ visited) :
    match library.judge? node with
    | some (.ok (.follow next)) => library.Follows node next
    | some (.ok (.editable supported)) => library.Ends start visited node (.editable supported)
    | some (.error error) => library.Ends start visited node (.invalid error)
    | none => library.Ends start visited node .absent := by
  cases node with
  | disk id =>
      rw [Library.judge?]
      cases stored : library.disk? id with
      | none => exact .absentDisk stored
      | some disk =>
          dsimp only
          rw [judgeDisk_eq]
          by_cases itself : disk.NamesItself
          · rw [if_pos itself]
            exact .selfNamingDisk fresh stored itself
          rw [if_neg itself]
          by_cases noDisk : disk.sourceDiskId = .unset
          · rw [if_neg (not_not_intro noDisk)]
            by_cases noArchive : disk.sourceArchiveId = .unset
            · rw [if_neg (not_not_intro noArchive)]
              exact .bareDisk fresh stored itself noDisk noArchive
            · rw [if_pos noArchive]
              exact .archiveOfDisk stored itself noDisk noArchive
          · rw [if_pos noDisk]
            exact .diskOfDisk stored itself noDisk
  | archive id =>
      rw [Library.judge?]
      cases stored : library.archive? id with
      | none => exact .absent fresh stored
      | some archive =>
          rw [Option.map_some, judgeArchive_eq]
          by_cases itself : archive.NamesItself
          · rw [if_pos itself]
            exact .selfNamingArchive fresh stored itself
          rw [if_neg itself]
          by_cases marked : archive.Marked
          · rw [if_pos marked]
            exact .marked fresh stored itself marked
          rw [if_neg marked]
          by_cases tagged : archive.TaggedUnix
          · rw [if_pos tagged]
            exact .tagged fresh stored itself marked tagged
          rw [if_neg tagged]
          by_cases offersDisk : archive.OffersDisk
          · rw [if_pos offersDisk]
            exact .diskOfArchive stored itself marked tagged offersDisk
          rw [if_neg offersDisk]
          by_cases offersArchive : archive.OffersArchive
          · rw [if_pos offersArchive]
            exact .archiveOfArchive stored itself marked tagged offersDisk offersArchive
          · rw [if_neg offersArchive]
            exact .exhausted fresh stored itself marked tagged offersDisk offersArchive

/-- Only an invalid state makes a walk end with an error of its own. -/
theorem Ends.invalidState {error : ProvisionError}
    (ends : library.Ends start visited node (.invalid error)) :
    ∃ resource name message, error = .invalidState resource name message := by
  cases ends with
  | loop | selfNamingDisk | selfNamingArchive => exact ⟨_, _, _, rfl⟩

/-- A walk ends in one way only. -/
theorem Ends.unique {other : Ending} (first : library.Ends start visited node ending)
    (second : library.Ends start visited node other) : ending = other := by
  rcases first.judge? with ⟨seen, rfl⟩ | ⟨fresh, judged⟩
  · rcases second.judge? with ⟨-, rfl⟩ | ⟨fresh, -⟩
    · rfl
    · exact absurd seen fresh
  · rcases second.judge? with ⟨seen, -⟩ | ⟨-, judgedToo⟩
    · exact absurd seen fresh
    · cases ending <;> cases other <;> simp_all

/-- A walk does not go on from a record where it ends, unless it has visited the record before. -/
theorem Ends.not_follows (ends : library.Ends start visited node ending) (fresh : node ∉ visited) :
    ¬ library.Follows node next := by
  intro follows
  have goes := follows.judge?
  rcases ends.judge? with ⟨seen, -⟩ | ⟨-, judged⟩
  · exact fresh seen
  · cases ending <;> simp_all

/-- A walk goes on to one record only. -/
theorem Follows.unique {other : Node} (first : library.Follows node next)
    (second : library.Follows node other) : next = other := by
  have same := first.judge?.symm.trans second.judge?
  cases same
  rfl

/-- All walks from one record end in the same way. -/
theorem Walks.unique {left leftToo : List Node} {last lastToo : Node} {other : Ending}
    (walks : library.Walks visited node left last) (ends : library.Ends start left last ending)
    (walksToo : library.Walks visited node leftToo lastToo)
    (endsToo : library.Ends start leftToo lastToo other) : ending = other := by
  induction walks with
  | here =>
      cases walksToo with
      | here => exact ends.unique endsToo
      | step fresh follows rest => exact absurd follows (ends.not_follows fresh)
  | step fresh follows rest inductionHypothesis =>
      cases walksToo with
      | here => exact absurd follows (endsToo.not_follows fresh)
      | step freshToo followsToo restToo =>
          cases follows.unique followsToo
          exact inductionHypothesis ends restToo

end Library

end Lineage

end Provisioning
