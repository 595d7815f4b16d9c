import SpecFinder.Machine
import SpecFinder.Proofs.Text.Pieces

/-!
# Resolved paths

A path that starts at the top of the file system and goes down by names alone is read back
from its written form, and stands for itself wherever it is seen from.
-/

namespace SpecFinder

/-- A name that leads from a directory to one of its entries, and that a written path can
hold. -/
structure IsEntryName (name : Text) : Prop where
  notEmpty : name ≠ []
  notHere : name ≠ ['.']
  notBack : name ≠ ['.', '.']
  noSlash : '/' ∉ name
  noNul : '\x00' ∉ name

namespace Path

/-- A path that goes down from the top of the file system. -/
structure IsResolved (path : Path) : Prop where
  anchor : path.anchor = .root
  names : ∀ name ∈ path.parts, IsEntryName name

variable {path : Path}

/-! ## Written forms -/

theorem splitWhere_slash (front back : Text) :
    Text.splitWhere (· == '/') (front ++ '/' :: back) =
      Text.splitWhere (· == '/') front ++ Text.splitWhere (· == '/') back :=
  Text.splitWhere_append_cons rfl front back

theorem splitWhere_join {parts : List Text} (nonempty : parts ≠ [])
    (noSlash : ∀ part ∈ parts, '/' ∉ part) :
    Text.splitWhere (· == '/') (Text.join ['/'] parts) = parts := by
  have uncut {part : Text} (absent : '/' ∉ part) : ∀ char ∈ part, (char == '/') = false := by
    intro char member
    rw [beq_eq_false_iff_ne]
    rintro rfl
    exact absent member
  induction parts with
  | nil => exact absurd rfl nonempty
  | cons part parts ih =>
      have first := Text.splitWhere_of_none (uncut (noSlash part (by simp)))
      cases parts with
      | nil => exact first
      | cons other parts =>
          have behind := ih (by simp) fun part member => noSlash part (by simp [member])
          have cut := splitWhere_slash part (Text.join ['/'] (other :: parts))
          simpa [Text.join, first, behind] using cut

/-- A resolved path is read back from its written form. -/
theorem IsResolved.ofText_text (resolved : path.IsResolved) : ofText path.text = path := by
  rcases path with ⟨anchor, parts⟩
  rcases resolved with ⟨anchor_eq, names⟩
  simp only at anchor_eq names
  subst anchor_eq
  have written : text ⟨.root, parts⟩ = '/' :: Text.join ['/'] parts := rfl
  rw [written]
  cases parts with
  | nil => rfl
  | cons part parts =>
      have pieces : Text.splitWhere (· == '/') ('/' :: Text.join ['/'] (part :: parts)) =
          [] :: part :: parts := by
        have cut := splitWhere_slash [] (Text.join ['/'] (part :: parts))
        rw [splitWhere_join (by simp) fun name member => (names name member).noSlash] at cut
        exact cut
      have kept : (part :: parts).filter (fun part => !part.isEmpty && part != ['.']) =
          part :: parts := by
        rw [List.filter_eq_self]
        intro name member
        simp [(names name member).notEmpty, (names name member).notHere]
      have begins :
          ∃ first more, Text.join ['/'] (part :: parts) = first :: more ∧ first ≠ '/' := by
        have isName := names part (by simp)
        cases part with
        | nil => exact absurd rfl isName.notEmpty
        | cons first name =>
            have notSlash : first ≠ '/' := by
              rintro rfl
              exact isName.noSlash (by simp)
            cases parts with
            | nil => exact ⟨first, name, rfl, notSlash⟩
            | cons other parts => exact ⟨first, _, rfl, notSlash⟩
      rcases begins with ⟨first, more, joined, notSlash⟩
      rw [joined] at pieces ⊢
      simp [ofText, pieces, kept, notSlash]

/-! ## Places -/

/-- Names that all lead down are left as they are. -/
theorem normalize_of_notBack {parts : List Text} (down : ∀ part ∈ parts, part ≠ ['.', '.']) :
    normalize parts = parts := by
  have step : ∀ done : List Text,
      parts.foldl (fun done part => if part = ['.', '.'] then done.tail else part :: done) done =
        parts.reverse ++ done := by
    induction parts with
    | nil => simp
    | cons part parts ih =>
        intro done
        simp [down part (by simp), ih fun part member => down part (by simp [member])]
  simp [normalize, step]

/-- No name of a normalized path leads back. -/
theorem notBack_of_mem_normalize {parts : List Text} {name : Text}
    (member : name ∈ normalize parts) : name ≠ ['.', '.'] := by
  have step : ∀ done : List Text, (∀ part ∈ done, part ≠ ['.', '.']) →
      ∀ part ∈ parts.foldl
        (fun done part => if part = ['.', '.'] then done.tail else part :: done) done,
        part ≠ ['.', '.'] := by
    clear member
    induction parts with
    | nil => exact fun done down => down
    | cons part parts ih =>
        intro done down
        rw [List.foldl_cons]
        apply ih
        split
        next => exact fun part member => down part (List.mem_of_mem_tail member)
        next isDown =>
          intro other member
          rcases List.mem_cons.mp member with rfl | before
          · exact isDown
          · exact down other before
  exact step [] (by simp) name (List.mem_reverse.mp member)

/-- Whether a path is one that a text can be read as: no name in it is empty or a single dot,
and none holds a slash. -/
def IsRead (path : Path) : Prop := ∀ name ∈ path.parts, name ≠ [] ∧ name ≠ ['.'] ∧ '/' ∉ name

theorem isRead_ofText (text : Text) : (ofText text).IsRead := by
  intro name member
  rcases List.mem_filter.mp member with ⟨isPiece, kept⟩
  simp only [Bool.and_eq_true, Bool.not_eq_true', List.isEmpty_eq_false_iff, bne_iff_ne, ne_eq]
    at kept
  refine ⟨kept.1, kept.2, fun isIn => ?_⟩
  have uncut := Text.uncut_of_mem_splitWhere isPiece '/' isIn
  simp at uncut

theorem IsRead.entry {name : Text} (isRead : path.IsRead) (isName : IsEntryName name) :
    (path.entry name).IsRead := by
  intro part member
  rcases List.mem_append.mp member with isPart | isLast
  · exact isRead part isPart
  · rw [List.mem_singleton.mp isLast]
    exact ⟨isName.notEmpty, isName.notHere, isName.noSlash⟩

theorem IsResolved.entry {name : Text} (resolved : path.IsResolved) (isName : IsEntryName name) :
    (path.entry name).IsResolved := by
  refine ⟨resolved.anchor, fun part member => ?_⟩
  rcases List.mem_append.mp member with isPart | isLast
  · exact resolved.names part isPart
  · rw [List.mem_singleton.mp isLast]
    exact isName

/-- Normalizing a path takes no other names than are there. -/
theorem mem_of_mem_normalize {parts : List Text} {name : Text}
    (member : name ∈ normalize parts) : name ∈ parts := by
  have step : ∀ done : List Text, name ∈ parts.foldl
      (fun done part => if part = ['.', '.'] then done.tail else part :: done) done →
      name ∈ parts ∨ name ∈ done := by
    clear member
    induction parts with
    | nil => exact fun done isDone => .inr isDone
    | cons part parts ih =>
        intro done isIn
        rw [List.foldl_cons] at isIn
        rcases ih _ isIn with isLater | isDone
        · exact .inl (List.mem_cons_of_mem part isLater)
        · split at isDone
          next => exact .inr (List.mem_of_mem_tail isDone)
          next =>
            rcases List.mem_cons.mp isDone with rfl | isEarlier
            · exact .inl List.mem_cons_self
            · exact .inr isEarlier
  rcases step [] (List.mem_reverse.mp member) with isIn | isNone
  · exact isIn
  · cases isNone

/-- A path from the top of the file system stands for itself below any other one. -/
theorem append_of_isAbsolute (base : Path) (absolute : path.isAbsolute = true) :
    base.append path = path := if_pos absolute

theorem IsResolved.isAbsolute (resolved : path.IsResolved) : path.isAbsolute = true := by
  simp [Path.isAbsolute, resolved.anchor]

/-- Only a path from the current directory can name a home directory. -/
theorem expandHome_of_isAbsolute (homes : Homes) (absolute : path.isAbsolute = true) :
    path.expandHome homes = some path := by
  rcases path with ⟨anchor, parts⟩
  cases anchor with
  | relative => simp [Path.isAbsolute] at absolute
  | root => rfl
  | doubleRoot => rfl

theorem IsResolved.resolve_eq (resolved : path.IsResolved) (current : Path) :
    resolve current path = path := by
  rw [resolve, append_of_isAbsolute current resolved.isAbsolute,
    normalize_of_notBack fun name member => (resolved.names name member).notBack, ← resolved.anchor]

end Path

namespace Workspace

variable {workspace : Workspace}

/-- A resolved path is found where it says. -/
theorem locate_of_isResolved {path : Path} (resolved : path.IsResolved) :
    workspace.locate path = .ok path := by
  have possible : path.parts.all Path.isPossible = true := by
    rw [List.all_eq_true]
    intro name member
    simp [Path.isPossible, (resolved.names name member).noNul]
  simp [locate, Path.expandHome_of_isAbsolute _ resolved.isAbsolute, possible, resolved.resolve_eq]

/-- What a path is located at starts at the top of the file system and leads down. -/
theorem of_locate_eq_ok {path place : Path} (located : workspace.locate path = .ok place) :
    place.anchor = .root ∧ ∀ name ∈ place.parts, name ≠ ['.', '.'] := by
  rw [locate] at located
  split at located
  next => cases located
  next expanded =>
    split at located
    next =>
      cases located
      exact ⟨rfl, fun _ => Path.notBack_of_mem_normalize⟩
    next => cases located

/-- Whether the directories that a workspace knows of are as the system names them. -/
structure IsSound (workspace : Workspace) : Prop where
  current : workspace.current.IsResolved
  own : workspace.homes.own.IsRead
  others : ∀ home ∈ workspace.homes.others, home.2.IsRead

/-- Putting in a home directory leaves a path that was read. -/
theorem IsSound.isRead_of_expandHome {path expanded : Path} (sound : workspace.IsSound)
    (isRead : path.IsRead) (isExpanded : path.expandHome workspace.homes = some expanded) :
    expanded.IsRead := by
  rw [Path.expandHome] at isExpanded
  split at isExpanded
  next name rest anchor parts =>
    rcases Option.map_eq_some_iff.mp isExpanded with ⟨home, isHome, rfl⟩
    have homeRead : home.IsRead := by
      split at isHome
      next =>
        cases isHome
        exact sound.own
      next =>
        rcases List.lookup_eq_some_iff.mp isHome with ⟨front, back, split, _⟩
        exact sound.others (name, home) (by simp [split])
    intro part member
    rcases List.mem_append.mp member with isHomePart | isRest
    · exact homeRead part isHomePart
    · exact isRead part (by simp [parts, isRest])
  next =>
    cases isExpanded
    exact isRead

/-- A path that was read is located at a resolved one. -/
theorem IsSound.isResolved_of_locate {path place : Path} (sound : workspace.IsSound)
    (isRead : path.IsRead) (located : workspace.locate path = .ok place) : place.IsResolved := by
  have down := of_locate_eq_ok located
  rw [locate] at located
  split at located
  next => cases located
  next expanded isExpanded =>
    split at located
    next possible =>
      cases located
      have expandedRead := sound.isRead_of_expandHome isRead isExpanded
      refine ⟨rfl, fun name member => ?_⟩
      have notBack := down.2 name member
      have isIn : name ∈ workspace.current.parts ∨ name ∈ expanded.parts := by
        have appended := Path.mem_of_mem_normalize member
        rw [Path.append] at appended
        split at appended
        next => exact .inr appended
        next => exact List.mem_append.mp appended
      rcases isIn with isCurrent | isExpanded
      · exact sound.current.names name isCurrent
      · rcases expandedRead name isExpanded with ⟨notEmpty, notHere, noSlash⟩
        refine ⟨notEmpty, notHere, notBack, noSlash, ?_⟩
        have isPossible := List.all_eq_true.mp possible name isExpanded
        simpa [Path.isPossible] using isPossible
    next => cases located

end Workspace

end SpecFinder
