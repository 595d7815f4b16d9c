import SpecFinder.Proofs.Query.Machine

/-!
# Reading turn by turn

The machine that reads a query never stands still before it has come to its end, because the
readers do not.  What bounds its calls is one invariant of its turns (`IsNested`): as many
groups are open as calls wait for one, and beyond the limit a single operand is read, which
begins with no parenthesis.
-/

namespace SpecFinder.Query

namespace Control

/-- Whether a machine may be reading an operand flat: it is at the beginning of an operand, or
returns one. -/
def readsFlat : Control → Bool
  | .operand | .returning _ => true
  | _ => false

end Control

namespace Machine

variable {tokens : List Token} {row : Option Token} {machine later : Machine}

/-- What a turn can do with the calls that wait and with the count of open groups. -/
inductive Shift (row : Option Token) (machine later : Machine) : Prop where
  | stays (frames : later.frames = machine.frames) (depth : later.depth = machine.depth)
      (elsewhere : machine.control.readsFlat = false)
  | reads (tree : Option Expr) (returned : later.control = .returning tree)
      (frames : later.frames = machine.frames) (depth : later.depth = machine.depth)
  | opens (token : Token) (isRow : row = some token) (opens : token.lexeme = .opening)
      (frames : later.frames = machine.frames) (depth : later.depth = machine.depth)
      (operand : machine.control = .operand)
  | calls (frame : Frame) (plain : frame.isGroupCall = false)
      (frames : later.frames = frame :: machine.frames) (depth : later.depth = machine.depth)
      (elsewhere : machine.control.readsFlat = false)
  | enters (position : Nat) (room : machine.depth < nestingLimit)
      (frames : later.frames = .group position :: machine.frames)
      (depth : later.depth = machine.depth + 1) (elsewhere : machine.control.readsFlat = false)
  | passes (stops : ∀ token, row = some token → token.lexeme ≠ .opening)
      (frames : later.frames = .passage :: machine.frames) (depth : later.depth = machine.depth)
      (place : later.place = machine.place) (flat : later.control.readsFlat = true)
      (elsewhere : machine.control.readsFlat = false)
  | returns (frame : Frame) (frames : machine.frames = frame :: later.frames)
      (depth : later.depth = machine.depth - if frame.isGroup then 1 else 0)

/-- A turn stays at its row or moves past a token. -/
def StaysOrMoves (row : Option Token) (machine later : Machine) : Prop :=
  later.place = machine.place ∨ row ≠ none ∧ later.place = machine.place + 1

/-- A call that goes on leaves the others as they are. -/
theorem of_resume {frame : Frame} {tree : Option Expr}
    (resumes : machine.resume row tree frame = some later) :
    later.frames = machine.frames ∧
      later.depth = machine.depth - (if frame.isGroup then 1 else 0) ∧
      StaysOrMoves row machine later := by
  cases frame with
  | parts before place =>
      cases tree with
      | some tree => cases resumes; exact ⟨rfl, rfl, .inl rfl⟩
      | none =>
          simp only [resume] at resumes
          split at resumes
          next =>
            cases row with
            | none => cases resumes
            | some token => cases resumes; exact ⟨rfl, rfl, .inr ⟨by simp, rfl⟩⟩
          next => cases resumes; exact ⟨rfl, rfl, .inl rfl⟩
  | disjunction | disjoining | conjunction | conjoining =>
      cases tree <;> cases resumes <;> exact ⟨rfl, rfl, .inl rfl⟩
  | negation negations =>
      simp only [resume] at resumes
      split at resumes <;> cases resumes <;> exact ⟨rfl, rfl, .inl rfl⟩
  | group position =>
      simp only [resume] at resumes
      split at resumes
      next closes =>
        cases resumes
        exact ⟨rfl, rfl, .inr ⟨by rintro rfl; simp at closes, rfl⟩⟩
      next => cases resumes; exact ⟨rfl, rfl, .inl rfl⟩
  | passage => cases resumes; exact ⟨rfl, rfl, .inl rfl⟩

theorem shift_readOperandAt (token : Token) (operand : machine.control = .operand) :
    Shift (some token) machine (machine.readOperandAt token) ∧
      StaysOrMoves (some token) machine (machine.readOperandAt token) := by
  simp only [readOperandAt]
  split
  next => exact ⟨.reads _ rfl rfl rfl, .inr ⟨by simp, rfl⟩⟩
  next =>
    split
    next opens => exact ⟨.opens token rfl opens rfl rfl operand, .inl rfl⟩
    next =>
      split
      next => exact ⟨.reads _ rfl rfl rfl, .inr ⟨by simp, rfl⟩⟩
      next => exact ⟨.reads _ rfl rfl rfl, .inl rfl⟩

/-- Nothing else happens in a turn. -/
theorem shift_of_turn (taken : machine.turn row = some later) :
    Shift row machine later ∧ StaysOrMoves row machine later := by
  have isToken {accepts : Token → Bool} {token : Token} (found : row.filter accepts = some token) :
      row ≠ none := by
    rintro rfl
    cases found
  cases control : machine.control with
  | parts tree =>
      cases row <;> simp only [turn, control, Option.some.injEq] at taken <;> subst taken
      · exact ⟨.stays rfl rfl (congrArg Control.readsFlat control), .inl rfl⟩
      · exact ⟨.calls _ rfl rfl rfl (congrArg Control.readsFlat control), .inl rfl⟩
  | disjunction | conjunction =>
      simp only [turn, control, Option.some.injEq] at taken
      subst taken
      exact ⟨.calls _ rfl rfl rfl (congrArg Control.readsFlat control), .inl rfl⟩
  | disjoining left =>
      simp only [turn, control] at taken
      split at taken <;> cases taken
      next found =>
        exact ⟨.calls _ rfl rfl rfl (congrArg Control.readsFlat control), .inr ⟨isToken found, rfl⟩⟩
      next => exact ⟨.stays rfl rfl (congrArg Control.readsFlat control), .inl rfl⟩
  | conjoining left =>
      simp only [turn, control] at taken
      split at taken <;> cases taken
      next token found =>
        by_cases isAnd : token.lexeme = .and
        · simp only [isAnd, if_true]
          exact ⟨.calls _ rfl rfl rfl (congrArg Control.readsFlat control),
            .inr ⟨isToken found, rfl⟩⟩
        · simp only [isAnd, if_false]
          exact ⟨.calls _ rfl rfl rfl (congrArg Control.readsFlat control), .inl rfl⟩
      next => exact ⟨.stays rfl rfl (congrArg Control.readsFlat control), .inl rfl⟩
  | negation negations =>
      simp only [turn, control] at taken
      split at taken <;> cases taken
      next found =>
        exact ⟨.stays rfl rfl (congrArg Control.readsFlat control), .inr ⟨isToken found, rfl⟩⟩
      next => exact ⟨.calls _ rfl rfl rfl (congrArg Control.readsFlat control), .inl rfl⟩
  | operand =>
      cases row <;> simp only [turn, control, Option.some.injEq] at taken <;> subst taken
      · exact ⟨.reads _ rfl rfl rfl, .inl rfl⟩
      · exact shift_readOperandAt _ control
  | group =>
      cases row with
      | none => simp [turn, control] at taken
      | some token =>
          simp only [turn, control, Option.map_some, Option.some.injEq, openGroup] at taken
          split at taken <;> subst taken
          next room =>
            exact ⟨.enters token.position room rfl rfl (congrArg Control.readsFlat control),
              .inr ⟨by simp, rfl⟩⟩
          next => exact ⟨.stays rfl rfl (congrArg Control.readsFlat control), .inr ⟨by simp, rfl⟩⟩
  | passing =>
      simp only [turn, control] at taken
      split at taken <;> cases taken
      next found =>
        exact ⟨.stays rfl rfl (congrArg Control.readsFlat control), .inr ⟨isToken found, rfl⟩⟩
      next absent =>
        refine ⟨.passes ?_ rfl rfl rfl rfl (congrArg Control.readsFlat control), .inl rfl⟩
        rintro token rfl opens
        simp [Option.filter, Token.opensGroup, opens] at absent
  | returning tree =>
      simp only [turn, control] at taken
      split at taken
      next frame frames waiting =>
        rcases of_resume taken with ⟨sameFrames, depth, place⟩
        exact ⟨.returns frame (by rw [waiting, sameFrames]) depth, place⟩
      next => cases taken
  | ended tree => simp [turn, control] at taken

/-- What bounds the calls of a machine: as many groups are open as calls wait for one, no more
than the limit; and a call beyond the limit can only be the last one, and reads an operand that
is no group. -/
structure IsNested (tokens : List Token) (machine : Machine) : Prop where
  place : machine.place ≤ tokens.length
  depth : machine.depth = machine.frames.countP (·.isGroup)
  limit : machine.depth ≤ nestingLimit
  passage : .passage ∉ machine.frames ∨
    (∃ frames, machine.frames = .passage :: frames ∧ .passage ∉ frames) ∧
      machine.control.readsFlat = true ∧
      (machine.control = .operand →
        ∀ token, tokens[machine.place]? = some token → token.lexeme ≠ .opening)

theorem isNested_start (tokens : List Token) : IsNested tokens start :=
  ⟨Nat.zero_le _, rfl, Nat.zero_le _, .inl List.not_mem_nil⟩

theorem row_eq_some {place : Nat} {token : Token} :
    (rows tokens)[place]? = some (some token) ↔ tokens[place]? = some token := by
  rw [rows, List.getElem?_append]
  split
  next => simp
  next beyond =>
    rw [List.length_map, Nat.not_lt] at beyond
    rw [List.getElem?_eq_none beyond, List.getElem?_singleton]
    split <;> simp

/-- Every turn keeps the bounds, and moves on by one token at most. -/
theorem IsNested.turn (nested : IsNested tokens machine) (taken : Turn tokens machine later) :
    IsNested tokens later ∧ machine.place ≤ later.place ∧ later.place ≤ machine.place + 1 := by
  rcases Option.bind_eq_some_iff.mp taken with ⟨row, at_row, taken⟩
  rcases shift_of_turn taken with ⟨shift, moves⟩
  have isAt (token : Token) (isRow : row = some token) : tokens[machine.place]? = some token := by
    rw [isRow] at at_row
    exact row_eq_some.mp at_row
  have inside : later.place ≤ tokens.length := by
    rcases moves with stays | ⟨isToken, moves⟩
    · rw [stays]
      exact nested.place
    · rcases Option.ne_none_iff_exists'.mp isToken with ⟨token, isRow⟩
      rcases List.getElem?_eq_some_iff.mp (isAt token isRow) with ⟨before, _⟩
      omega
  have near : machine.place ≤ later.place ∧ later.place ≤ machine.place + 1 := by
    rcases moves with stays | ⟨_, moves⟩ <;> omega
  refine ⟨?_, near⟩
  have depth := nested.depth
  have limit := nested.limit
  cases shift with
  | stays frames sameDepth elsewhere =>
      refine ⟨inside, by rw [sameDepth, frames, depth], by omega, ?_⟩
      rcases nested.passage with none | ⟨_, flat, _⟩
      · exact .inl (by rwa [frames])
      · rw [elsewhere] at flat
        cases flat
  | reads tree returned frames sameDepth =>
      refine ⟨inside, by rw [sameDepth, frames, depth], by omega, ?_⟩
      rcases nested.passage with none | ⟨last, _⟩
      · exact .inl (by rwa [frames])
      · refine .inr ⟨by rwa [frames], by rw [returned]; rfl, ?_⟩
        intro operand
        cases returned.symm.trans operand
  | opens token isRow opens frames sameDepth operand =>
      refine ⟨inside, by rw [sameDepth, frames, depth], by omega, ?_⟩
      rcases nested.passage with none | ⟨_, _, stops⟩
      · exact .inl (by rwa [frames])
      · exact absurd opens (stops operand token (isAt token isRow))
  | calls frame plain frames sameDepth elsewhere =>
      have notGroup : frame.isGroup = false := by cases frame <;> first | rfl | cases plain
      refine ⟨inside, by simp [sameDepth, frames, depth, notGroup], by omega, ?_⟩
      rcases nested.passage with none | ⟨_, flat, _⟩
      · have notPassage : .passage ≠ frame := by
          rintro rfl
          cases plain
        exact .inl (by simpa [frames, notPassage] using none)
      · rw [elsewhere] at flat
        cases flat
  | enters position room frames deeper elsewhere =>
      refine ⟨inside, by simp [deeper, frames, depth, Frame.isGroup], by omega, ?_⟩
      rcases nested.passage with none | ⟨_, flat, _⟩
      · exact .inl (by simpa [frames] using none)
      · rw [elsewhere] at flat
        cases flat
  | passes stops frames sameDepth place flat elsewhere =>
      refine ⟨inside, by simp [sameDepth, frames, depth, Frame.isGroup], by omega, ?_⟩
      rcases nested.passage with none | ⟨_, flat, _⟩
      · refine .inr ⟨⟨machine.frames, frames, none⟩, flat, fun _ token found => ?_⟩
        rw [place, ← row_eq_some, at_row, Option.some.injEq] at found
        exact stops token found
      · rw [elsewhere] at flat
        cases flat
  | returns frame frames lower =>
      rw [frames, List.countP_cons] at depth
      refine ⟨inside, by omega, by omega, .inl ?_⟩
      rcases nested.passage with none | ⟨⟨others, isLast, none⟩, _⟩
      · rw [frames, List.mem_cons, not_or] at none
        exact none.2
      · rw [frames, List.cons.injEq] at isLast
        rw [isLast.2]
        exact none

/-- A machine within its bounds has one call at an opening parenthesis at most that opens no
group. -/
theorem IsNested.groupCalls_le (nested : IsNested tokens machine) :
    machine.groupCalls ≤ nestingLimit + 1 := by
  have same {frames : List Frame} (none : .passage ∉ frames) :
      frames.countP (·.isGroupCall) = frames.countP (·.isGroup) := by
    apply List.countP_congr
    intro frame member
    cases frame with
    | passage => exact absurd member none
    | _ => simp [Frame.isGroupCall, Frame.isGroup]
  have depth := nested.depth
  have limit := nested.limit
  rw [groupCalls]
  rcases nested.passage with none | ⟨⟨frames, isLast, none⟩, flat, _⟩
  · rw [same none]
    split <;> omega
  · have notGroup : machine.control.isGroupCall = false := by
      cases control : machine.control with
      | group | passing =>
          rw [control] at flat
          cases flat
      | _ => rfl
    rw [isLast, List.countP_cons] at depth ⊢
    rw [same none]
    simp [notGroup, Frame.isGroup, Frame.isGroupCall] at depth ⊢
    omega

/-! ## Whole runs -/

/-- A machine after some turns, if it has not stood still before. -/
def afterTurns (tokens : List Token) : Nat → Machine → Option Machine
  | 0, machine => some machine
  | count + 1, machine => (machine.next tokens).bind (afterTurns tokens count)

theorem afterTurns_succ (tokens : List Token) (count : Nat) (machine : Machine) :
    afterTurns tokens (count + 1) machine =
      (afterTurns tokens count machine).bind (next tokens) := by
  induction count generalizing machine with
  | zero => simp [afterTurns]
  | succ count ih =>
      rw [afterTurns]
      cases taken : machine.next tokens with
      | none => simp [afterTurns, taken]
      | some later => simp [afterTurns, taken, ← ih]

theorem exists_afterTurns (leads : Leads tokens machine later) :
    ∃ count, afterTurns tokens count machine = some later := by
  induction leads with
  | refl => exact ⟨0, rfl⟩
  | tail _ taken ih =>
      rcases ih with ⟨count, arrived⟩
      exact ⟨count + 1, by rw [afterTurns_succ, arrived]; exact taken⟩

/-- A machine that has made some turns was there after any smaller number of them. -/
theorem afterTurns_of_le {total count : Nat} (fewer : count ≤ total)
    (arrived : afterTurns tokens total machine = some later) :
    ∃ middle, afterTurns tokens count machine = some middle := by
  induction total generalizing later with
  | zero =>
      rw [Nat.le_zero.mp fewer]
      exact ⟨_, arrived⟩
  | succ total ih =>
      rcases Nat.le_succ_iff.mp fewer with before | rfl
      · rw [afterTurns_succ] at arrived
        rcases Option.bind_eq_some_iff.mp arrived with ⟨middle, earlier, _⟩
        exact ih before earlier
      · exact ⟨_, arrived⟩

theorem isNested_afterTurns {count : Nat} (nested : IsNested tokens machine)
    (arrived : afterTurns tokens count machine = some later) : IsNested tokens later := by
  induction count generalizing machine with
  | zero =>
      cases arrived
      exact nested
  | succ count ih =>
      rcases Option.bind_eq_some_iff.mp arrived with ⟨middle, taken, arrived⟩
      exact ih (nested.turn taken).1 arrived

/-- Where steps go up by one at most, each number below the last one is left exactly once. -/
theorem existsUnique_leaving (places : Nat → Nat) {total : Nat} (starts : places 0 = 0)
    (steps : ∀ count < total,
      places count ≤ places (count + 1) ∧ places (count + 1) ≤ places count + 1)
    {place : Nat} (before : place < places total) :
    ∃! count, count < total ∧ places count = place ∧ places (count + 1) = place + 1 := by
  have ascending : ∀ {first last}, first ≤ last → last ≤ total → places first ≤ places last := by
    intro first last ordered
    induction ordered with
    | refl => exact fun _ => Nat.le_refl _
    | @step last _ ih => exact fun inside => Nat.le_trans (ih (by omega)) (steps last inside).1
  have passed : ∀ count ≤ total, place < places count →
      ∃ earlier < count, places earlier = place ∧ places (earlier + 1) = place + 1 := by
    intro count
    induction count with
    | zero => exact fun _ isBefore => by omega
    | succ count ih =>
        intro inside isBefore
        have step := steps count (by omega)
        by_cases passed : place < places count
        · rcases ih (by omega) passed with ⟨earlier, smaller, left⟩
          exact ⟨earlier, by omega, left⟩
        · exact ⟨count, by omega, by omega, by omega⟩
  rcases passed total (Nat.le_refl total) before with ⟨count, inside, left, next⟩
  refine ⟨count, ⟨inside, left, next⟩, ?_⟩
  rintro other ⟨otherInside, otherLeft, otherNext⟩
  by_contra differs
  rcases Nat.lt_or_gt_of_ne differs with earlier | later
  · have order : places (other + 1) ≤ places count := ascending earlier (by omega)
    omega
  · have order : places (count + 1) ≤ places other := ascending later (by omega)
    omega

/-- A machine that has read all tokens: it stands at the mark behind the last one, no group is
open, and no call waits. -/
def ending (tokens : List Token) : Machine where
  control := .ended (readTokens tokens).tree
  place := tokens.length
  criteria := (readTokens tokens).criteria
  faults := (readTokens tokens).faults

/-- A reading ends, and its end is what the readers return. -/
theorem leads_ending (tokens : List Token) : Leads tokens start (ending tokens) := by
  rcases readsParts_readTokens tokens with ⟨reads, atEnd⟩
  refine reads.leads.tail (turn_at (List.nil_suffix : [] <:+ tokens)
    (by simp [after, atEnd]) ?_)
  simp [turn, after, goTo, ending, atEnd, placeOf, start]

/-- Reading ends, and comes to what the readers return, at the mark behind the last token with
no group open.  On the way there it never stands still; it looks only at rows that are there,
never goes back, and leaves each token exactly once.  As many groups are open as calls wait for
one, no more than the limit, and one call more at most is made at an opening parenthesis. -/
theorem readTokens_turns (tokens : List Token) :
    ∃ total, afterTurns tokens total start = some (ending tokens) ∧
      afterTurns tokens (total + 1) start = none ∧
      (∀ count ≤ total, ∃ machine, afterTurns tokens count start = some machine ∧
        machine.place < (rows tokens).length ∧
        machine.depth = machine.frames.countP (·.isGroup) ∧
        machine.depth ≤ nestingLimit ∧
        machine.groupCalls ≤ nestingLimit + 1 ∧
        ∀ later, afterTurns tokens (count + 1) start = some later →
          machine.place ≤ later.place ∧ later.place ≤ machine.place + 1) ∧
      ∀ place < tokens.length, ∃! count, count < total ∧ ∃ machine later,
        afterTurns tokens count start = some machine ∧
        afterTurns tokens (count + 1) start = some later ∧
        machine.place = place ∧ later.place = place + 1 := by
  rcases exists_afterTurns (leads_ending tokens) with ⟨total, arrived⟩
  have onTheWay : ∀ count ≤ total, ∃ machine, afterTurns tokens count start = some machine ∧
      IsNested tokens machine := by
    intro count fewer
    rcases afterTurns_of_le fewer arrived with ⟨machine, isThere⟩
    exact ⟨machine, isThere, isNested_afterTurns (isNested_start tokens) isThere⟩
  have moves : ∀ {count machine later}, afterTurns tokens count start = some machine →
      IsNested tokens machine → afterTurns tokens (count + 1) start = some later →
      machine.place ≤ later.place ∧ later.place ≤ machine.place + 1 := by
    intro count machine later isThere nested further
    rw [afterTurns_succ, isThere] at further
    exact (nested.turn further).2
  refine ⟨total, arrived, ?_, ?_, ?_⟩
  · rw [afterTurns_succ, arrived]
    simp [next, turn, ending]
  · intro count fewer
    rcases onTheWay count fewer with ⟨machine, isThere, nested⟩
    have inside := nested.place
    exact ⟨machine, isThere, by simp [rows]; omega, nested.depth, nested.limit,
      nested.groupCalls_le, fun later further => moves isThere nested further⟩
  · intro place before
    let places (count : Nat) : Nat := ((afterTurns tokens count start).map (·.place)).getD 0
    have steps : ∀ count < total,
        places count ≤ places (count + 1) ∧ places (count + 1) ≤ places count + 1 := by
      intro count fewer
      rcases onTheWay count (by omega) with ⟨machine, isThere, nested⟩
      rcases onTheWay (count + 1) (by omega) with ⟨later, further, _⟩
      simpa [places, isThere, further] using moves isThere nested further
    have last : places total = tokens.length := by simp [places, arrived, ending]
    have once := existsUnique_leaving places rfl steps (last ▸ before)
    refine (existsUnique_congr fun count => ?_).mp once
    apply and_congr_right
    intro fewer
    rcases onTheWay count (by omega) with ⟨machine, isThere, _⟩
    rcases onTheWay (count + 1) (by omega) with ⟨later, further, _⟩
    simp [places, isThere, further]

end Machine

end SpecFinder.Query
