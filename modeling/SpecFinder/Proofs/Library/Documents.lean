import SpecFinder.Proofs.Library.Listing

/-!
# Documents that are specs

A document is a spec when it may be read and is a text, its head is a mapping or nothing, and each
value of the head that the spec shows can be written.  Everything else is told apart by what is
reported of it: a document that may not be read or is no text and a head that is no mapping are,
but an impossible value of a head is not.
-/

namespace SpecFinder.Spec

/-- Whether a head that was read is a mapping with some entries, or nothing. -/
inductive HasEntries (head : Yaml.Document) : List (Yaml.Value × Yaml.Value) → Prop
  | nothing (isNothing : head.root = .null) : HasEntries head []
  | mapping {number : Nat} {entries : List (Yaml.Value × Yaml.Value)}
      (isCollection : head.root = .collection number)
      (isMapping : head.collection number = .mapping entries) : HasEntries head entries

/-- The values that tags are made of: the items of a list, or the value itself. -/
def tagValues (head : Yaml.Document) (value : Yaml.Value) : List Yaml.Value :=
  match value with
  | .collection number =>
      match head.collection number with
      | .list items => items
      | _ => [value]
  | _ => [value]

/-- The value of an entry, nothing without one. -/
def entryValue (entries : List (Yaml.Value × Yaml.Value)) (key : String) : Yaml.Value :=
  (Yaml.Value.get? key entries).getD .null

/-- The value of a date, which has two names. -/
def dateValue (head : Yaml.Document) (entries : List (Yaml.Value × Yaml.Value))
    (key other : String) : Yaml.Value :=
  if head.isFalsy (entryValue entries key) then entryValue entries other
  else entryValue entries key

/-- The values of a head that a spec shows. -/
def shown (head : Yaml.Document) (entries : List (Yaml.Value × Yaml.Value)) : List Yaml.Value :=
  [entryValue entries "title", entryValue entries "status", entryValue entries "priority"] ++
    tagValues head (entryValue entries "tags") ++
    [entryValue entries "description", dateValue head entries "created" "created_at",
      dateValue head entries "updated" "updated_at", entryValue entries "assignee"]

/-- Whether every value that a spec shows can be written. -/
def IsWritable (head : Yaml.Document) (entries : List (Yaml.Value × Yaml.Value)) : Prop :=
  ∀ value ∈ shown head entries, (head.text? value).isSome = true

variable {room : Nat} {head : Yaml.Document} {entries : List (Yaml.Value × Yaml.Value)}

/-! ## The head -/

theorem readHead_of_eq_error {text : Option Text} {fault : Yaml.Fault}
    (failed : Yaml.Document.ofText room (text.getD []) = .error fault) :
    readHead room text = .error (.head fault) := by
  rw [readHead, failed]
  rfl

theorem readHead_of_hasEntries {text : Option Text}
    (isRead : Yaml.Document.ofText room (text.getD []) = .ok head)
    (hasEntries : HasEntries head entries) : readHead room text = .ok (head, entries) := by
  rw [readHead, isRead]
  cases hasEntries with
  | nothing isNothing =>
      simp only [pure_bind, isNothing]
      rfl
  | mapping isCollection isMapping =>
      simp only [pure_bind, isCollection, isMapping]
      rfl

theorem readHead_of_not_hasEntries {text : Option Text}
    (isRead : Yaml.Document.ofText room (text.getD []) = .ok head)
    (noEntries : ∀ entries, ¬ HasEntries head entries) :
    readHead room text = .error .headNotMapping := by
  rw [readHead, isRead]
  cases root : head.root with
  | null => exact absurd (.nothing root) (noEntries [])
  | collection number =>
      simp only [pure_bind, root]
      cases collection : head.collection number with
      | mapping entries => exact absurd (.mapping root collection) (noEntries entries)
      | _ => rfl
  | _ =>
      simp only [pure_bind, root]
      rfl

/-! ## The fields -/

/-- Whether something is made of some values if these can be written, and else fails by the one
fault of values. -/
def WritesAs {α : Type} (head : Yaml.Document) (values : List Yaml.Value)
    (result : Except DocumentError α) (meets : α → Prop) : Prop :=
  ((∀ value ∈ values, (head.text? value).isSome = true) ∧
    ∃ made, result = .ok made ∧ meets made) ∨
  (¬ (∀ value ∈ values, (head.text? value).isSome = true) ∧ result = .error .longInteger)

section Fields

variable {α β : Type} {values others : List Yaml.Value}

theorem writesAs_ok {made : α} {meets : α → Prop} (met : meets made) :
    WritesAs head [] (.ok made) meets := .inl ⟨by simp, made, rfl, met⟩

/-- One thing is made after the other. -/
theorem WritesAs.bind {first : Except DocumentError α} {next : α → Except DocumentError β}
    {meets : α → Prop} {meetsAll : β → Prop} (firstMade : WritesAs head values first meets)
    (nextMade : ∀ made, WritesAs head others (next made) meetsAll) :
    WritesAs head (values ++ others) (first >>= next) meetsAll := by
  rcases firstMade with ⟨canWrite, made, rfl, _⟩ | ⟨cannotWrite, rfl⟩
  · rcases nextMade made with ⟨canWriteNext, made', isMade, met⟩ | ⟨cannotWriteNext, isLong⟩
    · have canWriteAll : ∀ value ∈ values ++ others, (head.text? value).isSome = true := by
        intro value member
        rcases List.mem_append.mp member with isFirst | isNext
        · exact canWrite value isFirst
        · exact canWriteNext value isNext
      exact .inl ⟨canWriteAll, made', isMade, met⟩
    · exact .inr ⟨fun all => cannotWriteNext fun value member => all value (by simp [member]),
        isLong⟩
  · exact .inr ⟨fun all => cannotWrite fun value member => all value (by simp [member]), rfl⟩

/-- What is made last takes no further value. -/
theorem WritesAs.bind_ok {first : Except DocumentError α} {last : α → β} {meets : α → Prop}
    {meetsAll : β → Prop} (firstMade : WritesAs head values first meets)
    (met : ∀ made, meetsAll (last made)) :
    WritesAs head values (first >>= fun made => .ok (last made)) meetsAll := by
  have made := firstMade.bind fun made => writesAs_ok (met made)
  rwa [List.append_nil] at made

theorem writesAs_of_isSome {value : Yaml.Value} (canWrite : (head.text? value).isSome = true)
    (made : α) : WritesAs head [value] (.ok made) fun _ => True :=
  .inl ⟨by simp [canWrite], made, rfl, trivial⟩

theorem writesAs_written (head : Yaml.Document) (value : Yaml.Value) :
    WritesAs head [value] (written head value) fun _ => True := by
  rw [written]
  cases canWrite : head.text? value with
  | some text => exact writesAs_of_isSome (by simp [canWrite]) text
  | none => exact .inr ⟨by simp [canWrite], rfl⟩

theorem writesAs_textOf (head : Yaml.Document) (value : Yaml.Value) :
    WritesAs head [value] (textOf head value) fun _ => True := by
  have others (same : textOf head value = written head value >>= fun text => pure (some text)) :
      WritesAs head [value] (textOf head value) fun _ => True := by
    rw [same]
    exact (writesAs_written head value).bind_ok fun _ => trivial
  cases value with
  | null => exact writesAs_of_isSome rfl none
  | moment time => exact writesAs_of_isSome rfl _
  | _ => exact others (by rw [textOf, bind_pure_comp] <;> nofun)

theorem writesAs_mapM_written (head : Yaml.Document) (values : List Yaml.Value) :
    WritesAs head values (values.mapM (written head)) fun _ => True := by
  induction values with
  | nil => exact writesAs_ok trivial
  | cons value values ih =>
      rw [List.mapM_cons]
      exact (writesAs_written head value).bind fun text => ih.bind_ok fun texts => trivial

theorem writesAs_tagsOf (head : Yaml.Document) (value : Yaml.Value) :
    WritesAs head (tagValues head value) (tagsOf head value) fun _ => True := by
  have single (alone : tagValues head value = [value])
      (same : tagsOf head value = (do return [← written head value])) :
      WritesAs head (tagValues head value) (tagsOf head value) fun _ => True := by
    rw [alone, same]
    exact (writesAs_written head value).bind_ok fun _ => trivial
  cases value with
  | null => exact writesAs_of_isSome rfl []
  | string text => exact writesAs_of_isSome rfl _
  | collection number =>
      cases collection : head.collection number with
      | list items =>
          have isList : tagValues head (.collection number) = items := by
            simp [tagValues, collection]
          have same : tagsOf head (.collection number) = items.mapM (written head) := by
            simp [tagsOf, collection]
          rw [isList, same]
          exact writesAs_mapM_written head items
      | _ => exact single (by simp [tagValues, collection]) (by simp [tagsOf, collection])
  | _ => exact single (by rw [tagValues]; nofun) (by rw [tagsOf] <;> nofun)

/-- A document whose head was read makes a spec of its path and name out of what is shown. -/
theorem writesAs_ofDocument {path name document : Text}
    (isRead : readHead room (FrontMatter.split document).1 = .ok (head, entries)) :
    WritesAs head (shown head entries) (ofDocument path name document room) fun spec =>
      spec.path = path ∧ spec.name = name := by
  rw [ofDocument]
  simp only [isRead]
  exact (writesAs_textOf _ _).bind fun _ => (writesAs_textOf _ _).bind fun _ =>
    (writesAs_textOf _ _).bind fun _ => (writesAs_tagsOf _ _).bind fun _ =>
    (writesAs_textOf _ _).bind fun _ => (writesAs_textOf _ _).bind fun _ =>
    (writesAs_textOf _ _).bind fun _ => (writesAs_textOf _ _).bind_ok fun _ => ⟨rfl, rfl⟩

end Fields

end SpecFinder.Spec

namespace SpecFinder.Library

variable {Refusal : Type}

/-- Whether the outcome of loading is told by three conditions, each of which decides it and one
of which always holds: something is loaded, an error is told, or the loading breaks off. -/
structure Told {α : Type} (say : Refusal → Text) (result : Except (LoadFailure Refusal) α)
    (accepts : Prop) (rejects breaksOff : LoadFailure Refusal → Prop) : Prop where
  accepted : accepts → ∃ made, result = .ok made
  rejected : ∀ error, rejects error → result = .error error ∧ (error.message? say).isSome = true
  brokenOff : ∀ error, breaksOff error → result = .error error ∧ error.message? say = none
  outcome : accepts ∨ (∃ error, rejects error) ∨ ∃ error, breaksOff error

namespace Told

variable {α : Type} {say : Refusal → Text} {result : Except (LoadFailure Refusal) α}
  {accepts : Prop} {rejects breaksOff : LoadFailure Refusal → Prop}
  (told : Told say result accepts rejects breaksOff)

include told

theorem ok_iff : (∃ made, result = .ok made) ↔ accepts := by
  refine ⟨?_, told.accepted⟩
  rintro ⟨made, isMade⟩
  rcases told.outcome with isAccepted | ⟨error, isRejected⟩ | ⟨error, isBroken⟩
  · exact isAccepted
  · cases (told.rejected error isRejected).1.symm.trans isMade
  · cases (told.brokenOff error isBroken).1.symm.trans isMade

theorem isSome_iff (error : LoadFailure Refusal) :
    result = .error error ∧ (error.message? say).isSome = true ↔ rejects error := by
  refine ⟨?_, told.rejected error⟩
  rintro ⟨failed, isTold⟩
  rcases told.outcome with isAccepted | ⟨other, isRejected⟩ | ⟨other, isBroken⟩
  · rcases told.accepted isAccepted with ⟨made, isMade⟩
    cases isMade.symm.trans failed
  · cases (told.rejected other isRejected).1.symm.trans failed
    exact isRejected
  · rcases told.brokenOff other isBroken with ⟨alsoFailed, notTold⟩
    cases alsoFailed.symm.trans failed
    simp [notTold] at isTold

theorem eq_none_iff (error : LoadFailure Refusal) :
    result = .error error ∧ error.message? say = none ↔ breaksOff error := by
  refine ⟨?_, told.brokenOff error⟩
  rintro ⟨failed, notTold⟩
  rcases told.outcome with isAccepted | ⟨other, isRejected⟩ | ⟨other, isBroken⟩
  · rcases told.accepted isAccepted with ⟨made, isMade⟩
    cases isMade.symm.trans failed
  · rcases told.rejected other isRejected with ⟨alsoFailed, isTold⟩
    cases alsoFailed.symm.trans failed
    simp [notTold] at isTold
  · cases (told.brokenOff other isBroken).1.symm.trans failed
    exact isBroken

end Told

namespace Document

/-- Whether a document may be read and holds a text, with line feeds for all line breaks. -/
def IsText (document : Document Refusal) (text : Text) : Prop :=
  ∃ bytes raw, document.content = .ok bytes ∧ Utf8.decode bytes = .ok raw ∧
    text = Text.unifyBreaks raw

/-- What is read as the head of a text. -/
def headText (text : Text) : Text := (FrontMatter.split text).1.getD []

/-- Whether a document has some head. -/
def HasHead (room : Nat) (document : Document Refusal) (head : Yaml.Document) : Prop :=
  ∃ text, document.IsText text ∧ Yaml.Document.ofText room (headText text) = .ok head

/-- Whether a document is right: a text whose head has entries, and what they show can be
written. -/
def IsRight (room : Nat) (document : Document Refusal) : Prop :=
  ∃ head entries, document.HasHead room head ∧ Spec.HasEntries head entries ∧
    Spec.IsWritable head entries

/-- Which errors are told of a document. -/
inductive Rejects (room : Nat) (document : Document Refusal) : LoadFailure Refusal → Prop
  | unread {refusal : Refusal} (isRefused : document.content = .error refusal) :
      Rejects room document (.unread document.path refusal)
  | notText {bytes : Bytes} {fault : Utf8.Fault} (isRead : document.content = .ok bytes)
      (noText : Utf8.decode bytes = .error fault) :
      Rejects room document (.notText document.path fault)
  | malformed {text : Text} (isText : document.IsText text)
      (isMalformed : Yaml.Document.ofText room (headText text) = .error .malformed) :
      Rejects room document (.noSpec document.path (.head .malformed))
  | notMapping {head : Yaml.Document} (hasHead : document.HasHead room head)
      (noEntries : ∀ entries, ¬ Spec.HasEntries head entries) :
      Rejects room document (.noSpec document.path .headNotMapping)

/-- Which faults of a document are told as no error of it. -/
inductive BreaksOff (room : Nat) (document : Document Refusal) : LoadFailure Refusal → Prop
  | impossible {text : Text} {fault : Yaml.Fault} (isText : document.IsText text)
      (isImpossible : Yaml.Document.ofText room (headText text) = .error fault)
      (wellFormed : fault ≠ .malformed) :
      BreaksOff room document (.noSpec document.path (.head fault))
  | longInteger {head : Yaml.Document} {entries : List (Yaml.Value × Yaml.Value)}
      (hasHead : document.HasHead room head) (hasEntries : Spec.HasEntries head entries)
      (unwritable : ¬ Spec.IsWritable head entries) :
      BreaksOff room document (.noSpec document.path .longInteger)

variable {room : Nat} {document : Document Refusal} {error : LoadFailure Refusal}

/-! ## Each relation decides -/

theorem spec_of_isText {text : Text} (isText : document.IsText text) (room : Nat) :
    document.spec room =
      (Spec.ofDocument document.path.text document.name text room).mapError
        (.noSpec document.path) := by
  rcases isText with ⟨bytes, raw, isRead, decoded, rfl⟩
  rw [spec, isRead]
  dsimp only
  rw [decoded]
  dsimp only
  cases Spec.ofDocument document.path.text document.name (Text.unifyBreaks raw) room <;> rfl

theorem spec_of_readHead_eq_error {text : Text} {fault : Spec.DocumentError}
    (isText : document.IsText text)
    (failed : Spec.readHead room (FrontMatter.split text).1 = .error fault) :
    document.spec room = .error (.noSpec document.path fault) := by
  rw [spec_of_isText isText, Spec.ofDocument]
  simp only [failed]
  rfl

/-- A document with entries is a spec of its path and its name if they can be written. -/
theorem spec_of_hasEntries {head : Yaml.Document} {entries : List (Yaml.Value × Yaml.Value)}
    (hasHead : document.HasHead room head) (hasEntries : Spec.HasEntries head entries) :
    (Spec.IsWritable head entries ∧ ∃ made, document.spec room = .ok made ∧
      made.path = document.path.text ∧ made.name = document.name) ∨
    (¬ Spec.IsWritable head entries ∧
      document.spec room = .error (.noSpec document.path .longInteger)) := by
  rcases hasHead with ⟨text, isText, isRead⟩
  rw [spec_of_isText isText]
  rcases Spec.writesAs_ofDocument (Spec.readHead_of_hasEntries isRead hasEntries) with
    ⟨canWrite, made, isMade, named⟩ | ⟨cannotWrite, isLong⟩
  · exact .inl ⟨canWrite, made, by rw [isMade]; rfl, named⟩
  · exact .inr ⟨cannotWrite, by rw [isLong]; rfl⟩

theorem spec_of_isRight (right : document.IsRight room) :
    ∃ made, document.spec room = .ok made ∧ made.path = document.path.text ∧
      made.name = document.name := by
  rcases right with ⟨head, entries, hasHead, hasEntries, canWrite⟩
  rcases spec_of_hasEntries hasHead hasEntries with ⟨_, isMade⟩ | ⟨cannotWrite, _⟩
  · exact isMade
  · exact absurd canWrite cannotWrite

theorem spec_of_rejects (rejects : document.Rejects room error) :
    document.spec room = .error error := by
  cases rejects with
  | unread isRefused => rw [spec, isRefused]
  | notText isRead noText =>
      rw [spec, isRead]
      dsimp only
      rw [noText]
  | malformed isText isMalformed =>
      exact spec_of_readHead_eq_error isText (Spec.readHead_of_eq_error isMalformed)
  | notMapping hasHead noEntries =>
      rcases hasHead with ⟨text, isText, isRead⟩
      exact spec_of_readHead_eq_error isText (Spec.readHead_of_not_hasEntries isRead noEntries)

theorem spec_of_breaksOff (breaksOff : document.BreaksOff room error) :
    document.spec room = .error error := by
  cases breaksOff with
  | impossible isText isImpossible _ =>
      exact spec_of_readHead_eq_error isText (Spec.readHead_of_eq_error isImpossible)
  | longInteger hasHead hasEntries unwritable =>
      rcases spec_of_hasEntries hasHead hasEntries with ⟨canWrite, _⟩ | ⟨_, isLong⟩
      · exact absurd canWrite unwritable
      · exact isLong

/-- A text is right, or something is told of it, or it breaks the loading off. -/
theorem outcome_of_isText {text : Text} (isText : document.IsText text) :
    document.IsRight room ∨ (∃ error, document.Rejects room error) ∨
      ∃ error, document.BreaksOff room error := by
  cases isRead : Yaml.Document.ofText room (headText text) with
  | error fault =>
      by_cases isMalformed : fault = .malformed
      · subst isMalformed
        exact .inr (.inl ⟨_, .malformed isText isRead⟩)
      · exact .inr (.inr ⟨_, .impossible isText isRead isMalformed⟩)
  | ok head =>
      have hasHead : document.HasHead room head := ⟨_, isText, isRead⟩
      by_cases noEntries : ∀ entries, ¬ Spec.HasEntries head entries
      · exact .inr (.inl ⟨_, .notMapping hasHead noEntries⟩)
      · rcases not_forall_not.mp noEntries with ⟨entries, hasEntries⟩
        by_cases canWrite : Spec.IsWritable head entries
        · exact .inl ⟨head, entries, hasHead, hasEntries, canWrite⟩
        · exact .inr (.inr ⟨_, .longInteger hasHead hasEntries canWrite⟩)

/-- A document is right, or something is told of it, or it breaks the loading off. -/
theorem outcome (room : Nat) (document : Document Refusal) :
    document.IsRight room ∨ (∃ error, document.Rejects room error) ∨
      ∃ error, document.BreaksOff room error := by
  cases isRead : document.content with
  | error refusal => exact .inr (.inl ⟨_, .unread isRead⟩)
  | ok bytes =>
      cases decoded : Utf8.decode bytes with
      | error fault => exact .inr (.inl ⟨_, .notText isRead decoded⟩)
      | ok raw => exact outcome_of_isText ⟨bytes, raw, isRead, decoded, rfl⟩

/-! ## What is told -/

theorem Rejects.isSome_message? (rejects : document.Rejects room error) (say : Refusal → Text) :
    (error.message? say).isSome = true := by
  cases rejects <;> rfl

theorem BreaksOff.message?_eq_none (breaksOff : document.BreaksOff room error)
    (say : Refusal → Text) : error.message? say = none := by
  cases breaksOff with
  | @impossible text fault isText isImpossible wellFormed =>
      cases fault with
      | malformed => exact absurd rfl wellFormed
      | _ => rfl
  | longInteger => rfl

theorem told (room : Nat) (document : Document Refusal) (say : Refusal → Text) :
    Told say (document.spec room) (document.IsRight room) (document.Rejects room)
      (document.BreaksOff room) where
  accepted right :=
    let ⟨made, isMade, _⟩ := spec_of_isRight right
    ⟨made, isMade⟩
  rejected _ rejects := ⟨spec_of_rejects rejects, rejects.isSome_message? say⟩
  brokenOff _ breaksOff := ⟨spec_of_breaksOff breaksOff, breaksOff.message?_eq_none say⟩
  outcome := document.outcome room

theorem isSpec_iff : document.IsSpec room ↔ document.IsRight room :=
  (document.told room fun _ => []).ok_iff

/-- What fails to make a spec is rejected or breaks off. -/
theorem rejects_or_breaksOff (failed : document.spec room = .error error) :
    document.Rejects room error ∨ document.BreaksOff room error := by
  have told := document.told room fun _ => []
  cases isTold : error.message? fun _ => [] with
  | some message => exact .inl ((told.isSome_iff error).mp ⟨failed, by simp [isTold]⟩)
  | none => exact .inr ((told.eq_none_iff error).mp ⟨failed, isTold⟩)

end Document

end SpecFinder.Library
