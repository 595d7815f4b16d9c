import Mathlib.Data.List.Basic
import Mathlib.Logic.Relation
import SpecFinder.Proofs.Query.Reading

/-!
# A machine that reads

A reading has a place in its tokens, calls that wait for others to return, and a count of the
groups that are open.  A machine keeps all of these and changes them in turns, each of which
looks at one row: a token, or the mark behind the last one.  A machine that looks anywhere else
stands still.

Wherever the machine is called, it comes to what the readers return (`Reads.follows`): there is
one lemma for each thing that a reader can do, stated for any calls that wait around it.
-/

namespace SpecFinder.Query

/-- A call that waits for another one to return a tree. -/
inductive Frame where
  /-- The loop over the parts of a query, and the place where the part began. -/
  | parts (tree : Option Expr) (place : Nat)
  | disjunction
  | disjoining (left : Expr) (joint : Token)
  | conjunction
  | conjoining (left : Expr) (joint : Token)
  | negation (negations : List Token)
  /-- A group that was opened at some position of the query. -/
  | group (position : Nat)
  /-- A group beyond the limit, whose operand is read flat. -/
  | passage
  deriving DecidableEq, Repr

namespace Frame

/-- Whether a call waits for what stands in an open group. -/
def isGroup : Frame → Bool
  | .group _ => true
  | _ => false

/-- Whether a call was made at an opening parenthesis. -/
def isGroupCall : Frame → Bool
  | .group _ | .passage => true
  | _ => false

end Frame

/-- Where a machine is in its code: in a loop, at the beginning of a call, or at its return. -/
inductive Control where
  | parts (tree : Option Expr)
  | disjunction
  | disjoining (left : Expr)
  | conjunction
  | conjoining (left : Expr)
  | negation (negations : List Token)
  | operand
  | group
  /-- Beyond the limit, opening parentheses are passed over. -/
  | passing
  | returning (tree : Option Expr)
  | ended (tree : Option Expr)
  deriving DecidableEq, Repr

namespace Control

/-- Whether a machine is in a call that was made at an opening parenthesis, before another
call is made from there. -/
def isGroupCall : Control → Bool
  | .group | .passing => true
  | _ => false

end Control

/-- A reading between two turns: the calls that wait, the last one in front, the place in the
tokens, the number of open groups, and what has been collected. -/
structure Machine where
  control : Control
  frames : List Frame := []
  place : Nat := 0
  depth : Nat := 0
  criteria : Criteria := {}
  faults : List Fault := []
  deriving DecidableEq, Repr

/-- The rows of a token list: its tokens, and the mark behind the last one. -/
def rows (tokens : List Token) : List (Option Token) := tokens.map some ++ [none]

namespace Machine

/-- A machine before its first turn. -/
def start : Machine := { control := .parts none }

/-- Go on elsewhere. -/
def goTo (machine : Machine) (control : Control) : Machine := { machine with control }

/-- Make a call, and wait for it in a frame. -/
def call (machine : Machine) (frame : Frame) (control : Control) : Machine :=
  { machine with control, frames := frame :: machine.frames }

/-- Move past a token. -/
def advance (machine : Machine) : Machine := { machine with place := machine.place + 1 }

/-- Count one more open group. -/
def enter (machine : Machine) : Machine := { machine with depth := machine.depth + 1 }

/-- Count one open group less. -/
def leave (machine : Machine) : Machine := { machine with depth := machine.depth - 1 }

/-- Report faults. -/
def report (machine : Machine) (faults : List Fault) : Machine :=
  { machine with faults := machine.faults ++ faults }

/-- Move past the token of an operand, and return it. -/
def consume (machine : Machine) (leaf : Operand) : Machine :=
  { machine with
    control := .returning (some (.operand leaf))
    place := machine.place + 1
    criteria := machine.criteria ++ .ofOperand leaf }

/-- The number of calls inside each other that were made at opening parentheses. -/
def groupCalls (machine : Machine) : Nat :=
  machine.frames.countP (·.isGroupCall) + if machine.control.isGroupCall then 1 else 0

/-- Look for an operand. -/
def readOperandAt (machine : Machine) (token : Token) : Machine :=
  match token.lexeme.operand? with
  | some leaf => machine.consume leaf
  | none =>
      if token.lexeme = .opening then
        machine.goTo .group
      else if token.lexeme.isBlankPhrase then
        (machine.advance.report [.emptyPhrase token.position]).goTo (.returning none)
      else
        machine.goTo (.returning none)

/-- Open a group, or pass over its parenthesis where it lies too deep. -/
def openGroup (machine : Machine) (token : Token) : Machine :=
  if machine.depth < nestingLimit then
    machine.advance.enter.call (.group token.position) .disjunction
  else
    (machine.advance.report [.tooDeep token.position]).goTo .passing

/-- Go on in the call that has waited for a tree. A query is not read beyond its end. -/
def resume (machine : Machine) (row : Option Token) (tree : Option Expr) :
    Frame → Option Machine
  | .parts before place =>
      match tree with
      | some _ => some (machine.goTo (.parts (joinParts before tree)))
      | none =>
          if machine.place = place then
            row.map fun token =>
              (machine.advance.report [.unexpected token]).goTo (.parts before)
          else
            some (machine.goTo (.parts before))
  | .disjunction =>
      match tree with
      | some left => some (machine.goTo (.disjoining left))
      | none => some (machine.goTo (.returning none))
  | .disjoining left joint =>
      match tree with
      | some right => some (machine.goTo (.disjoining (.or left right)))
      | none =>
          some ((machine.report [.missingAfterOr joint.position]).goTo (.returning (some left)))
  | .conjunction =>
      match tree with
      | some left => some (machine.goTo (.conjoining left))
      | none => some (machine.goTo (.returning none))
  | .conjoining left joint =>
      match tree with
      | some right => some (machine.goTo (.conjoining (.and left right)))
      | none => some ((machine.report (missingAfter joint)).goTo (.returning (some left)))
  | .negation negations =>
      match tree, negations.getLast? with
      | some tree, _ =>
          some (machine.goTo (.returning (some (negations.foldl (fun tree _ => .not tree) tree))))
      | none, some last =>
          some ((machine.report [.missingAfterNot last.position]).goTo (.returning none))
      | none, none => some (machine.goTo (.returning none))
  | .group position =>
      if row.any (·.lexeme == .closing) then some (machine.leave.advance.goTo (.returning tree))
      else some ((machine.leave.report [.unclosedGroup position]).goTo (.returning tree))
  | .passage => some (machine.goTo (.returning tree))

/-- One turn, at a row. -/
def turn (machine : Machine) (row : Option Token) : Option Machine :=
  match machine.control with
  | .parts tree =>
      match row with
      | some _ => some (machine.call (.parts tree machine.place) .disjunction)
      | none => some (machine.goTo (.ended tree))
  | .disjunction => some (machine.call .disjunction .conjunction)
  | .disjoining left =>
      match row.filter (·.lexeme == .or) with
      | some token => some (machine.advance.call (.disjoining left token) .conjunction)
      | none => some (machine.goTo (.returning (some left)))
  | .conjunction => some (machine.call .conjunction (.negation []))
  | .conjoining left =>
      match row.filter fun token => token.lexeme == .and || token.lexeme.startsOperand with
      | some token =>
          let behind := if token.lexeme = .and then machine.advance else machine
          some (behind.call (.conjoining left token) (.negation []))
      | none => some (machine.goTo (.returning (some left)))
  | .negation negations =>
      match row.filter (·.lexeme == .not) with
      | some token => some (machine.advance.goTo (.negation (negations ++ [token])))
      | none => some (machine.call (.negation negations) .operand)
  | .operand =>
      match row with
      | some token => some (machine.readOperandAt token)
      | none => some (machine.goTo (.returning none))
  | .group => row.map machine.openGroup
  | .passing =>
      match row.filter (·.opensGroup) with
      | some _ => some machine.advance
      | none => some (machine.call .passage .operand)
  | .returning tree =>
      match machine.frames with
      | frame :: frames => { machine with frames }.resume row tree frame
      | [] => none
  | .ended _ => none

/-- What a machine turns into, if it does not stand still. -/
def next (tokens : List Token) (machine : Machine) : Option Machine :=
  (rows tokens)[machine.place]?.bind machine.turn

/-- One turn of a machine over some tokens. -/
def Turn (tokens : List Token) (machine later : Machine) : Prop :=
  machine.next tokens = some later

/-- What a machine comes to in any number of turns. -/
abbrev Leads (tokens : List Token) : Machine → Machine → Prop :=
  Relation.ReflTransGen (Turn tokens)

/-! ## What the readers return -/

section Simulation

variable {tokens : List Token}

/-- The place in some tokens at which others are what is left of them. -/
def placeOf (tokens rest : List Token) : Nat := tokens.length - rest.length

/-- At its place, a machine looks at the first of the tokens that are left. -/
theorem row_placeOf {rest : List Token} (inside : rest <:+ tokens) :
    (rows tokens)[placeOf tokens rest]? = some rest.head? := by
  rcases inside with ⟨front, rfl⟩
  cases rest <;> simp [placeOf, rows]

theorem placeOf_cons {token : Token} {rest : List Token} (inside : token :: rest <:+ tokens) :
    placeOf tokens (token :: rest) + 1 = placeOf tokens rest := by
  have shorter := inside.length_le
  simp only [placeOf, List.length_cons] at shorter ⊢
  omega

/-- A turn in front of the tokens that are left. -/
theorem turn_at {machine later : Machine} {rest : List Token} (inside : rest <:+ tokens)
    (at_ : machine.place = placeOf tokens rest) (taken : machine.turn rest.head? = some later) :
    Turn tokens machine later := by
  simp [Turn, next, at_, row_placeOf inside, taken]

/-- A machine that has come to the end of a reading. -/
def after (machine : Machine) (tokens : List Token) (control : Control) (reading : Reading) :
    Machine :=
  { machine with
    control
    place := placeOf tokens reading.rest
    criteria := machine.criteria ++ reading.criteria
    faults := machine.faults ++ reading.faults }

/-- Two readings one after the other. -/
theorem after_after (machine : Machine) (control last : Control) (reading next : Reading) :
    (machine.after tokens control reading).after tokens last next =
      machine.after tokens last (reading.after next) := by
  simp [after, Criteria.append_assoc]

/-- A machine passes over negations, and keeps their tokens. -/
theorem leads_negations {negations rest : List Token}
    (negate : ∀ token ∈ negations, token.lexeme = .not) (inside : negations ++ rest <:+ tokens)
    (machine : Machine) {read : List Token} (isLoop : machine.control = .negation read)
    (at_ : machine.place = placeOf tokens (negations ++ rest)) :
    Leads tokens machine
      { machine with control := .negation (read ++ negations), place := placeOf tokens rest } := by
  induction negations generalizing machine read with
  | nil =>
      simp only [List.nil_append] at at_
      simp only [List.append_nil, ← at_, ← isLoop]
      exact .refl
  | cons token negations ih =>
      have isNot := negate token (by simp)
      have taken : Turn tokens machine (machine.advance.goTo (.negation (read ++ [token]))) :=
        turn_at inside at_ (by simp [turn, isLoop, Option.filter, isNot])
      have further := ih (fun token member => negate token (by simp [member]))
        ((List.suffix_cons token _).trans inside)
        (machine.advance.goTo (.negation (read ++ [token]))) rfl
        (by simp only [goTo, advance, at_]; exact placeOf_cons inside)
      simp only [List.append_assoc, List.singleton_append] at further
      exact .head taken further

/-- A machine passes over opening parentheses that lie too deep. -/
theorem leads_passing {rest : List Token} (inside : rest <:+ tokens) (machine : Machine)
    (isLoop : machine.control = .passing) (at_ : machine.place = placeOf tokens rest) :
    Leads tokens machine
      { machine with place := placeOf tokens (rest.dropWhile (·.opensGroup)) } := by
  induction rest generalizing machine with
  | nil =>
      simp only [List.dropWhile_nil, ← at_]
      exact .refl
  | cons token rest ih =>
      by_cases opens : token.opensGroup = true
      · have taken : Turn tokens machine machine.advance :=
          turn_at inside at_ (by simp [turn, isLoop, Option.filter, opens])
        have further := ih ((List.suffix_cons token rest).trans inside) machine.advance isLoop
          (by simp only [advance, at_]; exact placeOf_cons inside)
        rw [List.dropWhile_cons_of_pos opens]
        exact .head taken further
      · rw [List.dropWhile_cons_of_neg opens, ← at_]

/-- The call that reads a stage from its beginning. -/
def callOf : Stage → Control
  | .operand => .operand
  | .negation => .negation []
  | .conjoining | .conjunction => .conjunction
  | .disjoining | .disjunction => .disjunction

/-- Where a machine is when it has come to a tree: a loop goes on with it, a call returns it. -/
def outcomeOf : Stage → Option Expr → Control
  | .conjoining, some left => .conjoining left
  | .disjoining, some left => .disjoining left
  | _, tree => .returning tree

/-- Whether a machine comes to a reading wherever it is called for it, as long as there is room
for as many groups more as are not open. -/
def Follows (tokens : List Token) (room : Nat) (stage : Stage) (rest : List Token)
    (reading : Reading) : Prop :=
  rest <:+ tokens → ∀ machine : Machine, machine.control = callOf stage →
    machine.place = placeOf tokens rest → machine.depth + room = nestingLimit →
    Leads tokens machine (machine.after tokens (outcomeOf stage reading.tree) reading)

variable {room : Nat} {stage : Stage} {token : Token} {rest behind : List Token}
  {reading inner : Reading}

/-- A call that is followed to its return goes on where it was waited for. -/
theorem Follows.leads_call (follows : Follows tokens room stage rest reading)
    (machine : Machine) (frame : Frame) (later : Machine)
    (returns : ∀ tree, outcomeOf stage tree = .returning tree)
    (suffix : reading.rest <:+ rest) (inside : rest <:+ tokens)
    (at_ : machine.place = placeOf tokens rest) (depth : machine.depth + room = nestingLimit)
    (resumes : (machine.after tokens (.returning reading.tree) reading).resume
      reading.rest.head? reading.tree frame = some later) :
    Leads tokens (machine.call frame (callOf stage)) later := by
  have called := follows inside (machine.call frame (callOf stage)) rfl at_ depth
  rw [returns] at called
  refine called.tail (turn_at (suffix.trans inside) rfl ?_)
  simpa [turn, after, call] using resumes

/-! ### Operands -/

theorem follows_absent (head : ∀ token ∈ rest.head?, token.lexeme.isConnective = true) :
    Follows tokens room .operand rest (.absent [] rest) := by
  intro inside machine isCall at_ _
  refine .single (turn_at inside at_ ?_)
  cases rest with
  | nil => simp [turn, isCall, callOf, outcomeOf, after, goTo, Reading.absent, ← at_]
  | cons token rest =>
      have connective := head token (by simp)
      have noOperand := Lexeme.operand?_of_isConnective connective
      have notOpening : token.lexeme ≠ .opening := by
        intro opens
        simp [opens, Lexeme.isConnective] at connective
      have notBlank : token.lexeme.isBlankPhrase = false := by
        cases lexeme : token.lexeme with
        | phrase => simp [lexeme, Lexeme.isConnective] at connective
        | _ => rfl
      simp [turn, isCall, callOf, outcomeOf, after, goTo, Reading.absent, readOperandAt,
        noOperand, notOpening, notBlank, ← at_]

theorem follows_leaf {leaf : Operand} (writes : token.lexeme.operand? = some leaf) :
    Follows tokens room .operand (token :: rest) (.ofOperand leaf rest) := by
  intro inside machine isCall at_ _
  refine .single (turn_at inside at_ ?_)
  simp [turn, isCall, callOf, outcomeOf, after, Reading.ofOperand, readOperandAt, writes,
    consume, at_, placeOf_cons inside]

theorem follows_blank (isBlank : token.lexeme.isBlankPhrase = true) :
    Follows tokens room .operand (token :: rest)
      (.absent [.emptyPhrase token.position] rest) := by
  intro inside machine isCall at_ _
  refine .single (turn_at inside at_ ?_)
  have noOperand := Lexeme.operand?_of_isBlankPhrase isBlank
  have notOpening : token.lexeme ≠ .opening := by
    intro opens
    simp [opens, Lexeme.isBlankPhrase] at isBlank
  simp [turn, isCall, callOf, outcomeOf, after, Reading.absent, readOperandAt, noOperand,
    notOpening, isBlank, goTo, report, advance, at_, placeOf_cons inside]

theorem turn_opening (opens : token.lexeme = .opening) (inside : token :: rest <:+ tokens)
    {machine : Machine} (isCall : machine.control = .operand)
    (at_ : machine.place = placeOf tokens (token :: rest)) :
    Turn tokens machine (machine.goTo .group) :=
  turn_at inside at_ (by simp [turn, isCall, readOperandAt, opens])

/-- A group is closed by its parenthesis, or reported at the end of what it holds. -/
theorem resume_group (machine : Machine) (position : Nat) (inside : inner.rest <:+ tokens) :
    (machine.enter.after tokens (.returning inner.tree) inner).resume
        inner.rest.head? inner.tree (.group position) =
      some (machine.after tokens (.returning inner.tree) (closeGroup position inner)) := by
  rcases closeGroup_cases position inner with
    ⟨last, further, closes, found, closed⟩ | ⟨stays, isOpen⟩
  · rw [found] at inside
    simp [resume, after, found, closes, closed, advance, enter, leave, goTo, placeOf_cons inside]
  · have notClosing : inner.rest.head?.any (·.lexeme == .closing) = false := by
      cases found : inner.rest with
      | nil => rfl
      | cons last further => simpa [found] using stays
    simp [resume, after, notClosing, isOpen, enter, leave, goTo, report]

theorem follows_group (opens : token.lexeme = .opening)
    (reads : Reads room .disjunction rest inner)
    (follows : Follows tokens room .disjunction rest inner) :
    Follows tokens (room + 1) .operand (token :: rest) (closeGroup token.position inner) := by
  intro inside machine isCall at_ depth
  have behind := (List.suffix_cons token rest).trans inside
  have enters : Turn tokens (machine.goTo .group)
      (machine.advance.enter.call (.group token.position) .disjunction) := by
    have notDeep : machine.depth < nestingLimit := by omega
    exact turn_at inside at_ (by simp [turn, goTo, openGroup, notDeep, advance, enter, call])
  have within := follows.leads_call machine.advance.enter (.group token.position)
    (machine.after tokens (.returning inner.tree) (closeGroup token.position inner))
    (fun _ => rfl) reads.rest_suffix behind
    (by simp only [advance, enter, at_]; exact placeOf_cons inside)
    (by simp only [advance, enter]; omega)
    (resume_group machine.advance token.position (reads.rest_suffix.trans behind))
  rw [tree_closeGroup]
  exact .head (turn_opening opens inside isCall at_) (.head enters within)

theorem follows_tooDeep (opens : token.lexeme = .opening)
    (reads : Reads 0 .operand (rest.dropWhile (·.opensGroup)) inner)
    (follows : Follows tokens 0 .operand (rest.dropWhile (·.opensGroup)) inner) :
    Follows tokens 0 .operand (token :: rest)
      (.after (.absent [.tooDeep token.position] rest) inner) := by
  intro inside machine isCall at_ depth
  have behind := (List.suffix_cons token rest).trans inside
  have beyond := (List.dropWhile_suffix (l := rest) (·.opensGroup)).trans behind
  let passing := (machine.advance.report [.tooDeep token.position]).goTo .passing
  have enters : Turn tokens (machine.goTo .group) passing := by
    have isDeep : ¬ machine.depth < nestingLimit := by omega
    exact turn_at inside at_ (by simp [turn, goTo, openGroup, isDeep, passing, advance, report])
  have passes := leads_passing behind passing rfl
    (by simp only [passing, goTo, report, advance, at_]; exact placeOf_cons inside)
  have ends : Turn tokens
      { passing with place := placeOf tokens (rest.dropWhile (·.opensGroup)) }
      ({ passing with place := placeOf tokens (rest.dropWhile (·.opensGroup)) }.call
        .passage .operand) := by
    refine turn_at beyond rfl ?_
    have stops := head_dropWhile_opensGroup rest
    cases found : (rest.dropWhile (·.opensGroup)).head? with
    | none => simp [turn, passing, goTo]
    | some last =>
        have notOpening := stops last (by simp [found])
        simp [turn, passing, goTo, Option.filter, Token.opensGroup, notOpening]
  have within := follows.leads_call
    { passing with place := placeOf tokens (rest.dropWhile (·.opensGroup)) } .passage
    (machine.after tokens (.returning inner.tree)
      (.after (.absent [.tooDeep token.position] rest) inner))
    (fun _ => rfl) reads.rest_suffix beyond rfl
    (by simpa [passing, goTo, report, advance] using depth)
    (by simp [resume, passing, goTo, report, advance, after, Reading.absent])
  exact .head (turn_opening opens inside isCall at_)
    (.head enters (passes.trans (.head ends within)))

/-! ### Negations, conjunctions, disjunctions -/

theorem follows_negated {negations : List Token}
    (negate : ∀ token ∈ negations, token.lexeme = .not)
    (stops : ∀ token ∈ rest.head?, token.lexeme ≠ .not)
    (reads : Reads room .operand rest inner) (follows : Follows tokens room .operand rest inner) :
    Follows tokens room .negation (negations ++ rest) (inner.negated negations) := by
  intro inside machine isCall at_ depth
  have behind := (List.suffix_append negations rest).trans inside
  have passes := leads_negations negate inside machine isCall at_
  rw [List.nil_append] at passes
  let waiting := { machine with control := .negation negations, place := placeOf tokens rest }
  have ends : Turn tokens waiting (waiting.call (.negation negations) .operand) := by
    refine turn_at behind rfl ?_
    cases found : rest.head? with
    | none => simp [turn, waiting]
    | some last =>
        have notNegates := stops last (by simp [found])
        simp [turn, waiting, Option.filter, notNegates]
  have within := follows.leads_call waiting (.negation negations)
    (machine.after tokens (.returning (inner.negated negations).tree) (inner.negated negations))
    (fun _ => rfl) reads.rest_suffix behind rfl depth ?_
  · exact passes.trans (.head ends within)
  · rw [Reading.tree_negated]
    cases found : inner.tree with
    | some tree => simp [resume, after, goTo, waiting, Reading.negated, found]
    | none =>
        cases last : negations.getLast? with
        | some token => simp [resume, after, goTo, waiting, report, Reading.negated, found, last]
        | none => simp [resume, after, goTo, waiting, Reading.negated, found, last]

/-- The place where the operand of a conjunction is read. -/
theorem place_skipAnd (inside : token :: behind <:+ tokens) {machine : Machine}
    (at_ : machine.place = placeOf tokens (token :: behind)) :
    (if token.lexeme = .and then machine.advance else machine).place =
      placeOf tokens (skipAnd token behind) := by
  rw [skipAnd]
  split
  next => simp only [advance, at_]; exact placeOf_cons inside
  next => exact at_

/-- A call that first calls for the stage below it and then goes on, or returns at once. -/
theorem follows_first {outer : Stage} (below : Stage) (frame : Frame)
    (calls : ∀ (machine : Machine) row, machine.control = callOf outer →
      machine.turn row = some (machine.call frame (callOf below)))
    (returns : ∀ tree, outcomeOf below tree = .returning tree)
    (resumes : ∀ (machine : Machine) row,
      (machine.after tokens (.returning reading.tree) reading).resume row reading.tree frame =
        some (machine.after tokens (outcomeOf outer reading.tree) reading))
    (suffix : reading.rest <:+ rest) (follows : Follows tokens room below rest reading) :
    Follows tokens room outer rest reading := by
  intro inside machine isCall at_ depth
  have within := follows.leads_call machine frame _ returns suffix inside at_ depth
    (resumes machine _)
  exact .head (turn_at inside at_ (calls machine _ isCall)) within

/-- A machine that has read some operands of a conjunction reads one more. -/
theorem leads_joinAnd {next : Reading} {left : Expr} (held : reading.tree = some left)
    (at_rest : reading.rest = token :: behind)
    (joins : token.lexeme = .and ∨ token.lexeme.startsOperand = true)
    (suffix : reading.rest <:+ rest) (before : Follows tokens room .conjoining rest reading)
    (reads : Reads room .negation (skipAnd token behind) next)
    (follows : Follows tokens room .negation (skipAnd token behind) next)
    (inside : rest <:+ tokens) {machine later : Machine} (isCall : machine.control = .conjunction)
    (at_ : machine.place = placeOf tokens rest) (depth : machine.depth + room = nestingLimit)
    (resumes : (machine.after tokens (.returning next.tree) (reading.after next)).resume
      next.rest.head? next.tree (.conjoining left token) = some later) :
    Leads tokens machine later := by
  have arrives := before inside machine isCall at_ depth
  rw [held] at arrives
  rw [at_rest] at suffix
  have beyond := suffix.trans inside
  let middle := machine.after tokens (.conjoining left) reading
  have at_middle : middle.place = placeOf tokens (token :: behind) := by
    simp only [middle, after, at_rest]
  have calls : Turn tokens middle
      ((if token.lexeme = .and then middle.advance else middle).call
        (.conjoining left token) (.negation [])) := by
    have goesOn : (token.lexeme == .and || token.lexeme.startsOperand) = true := by
      simpa using joins
    exact turn_at beyond at_middle (by simp [turn, middle, after, Option.filter, goesOn])
  have within := follows.leads_call (if token.lexeme = .and then middle.advance else middle)
    (.conjoining left token) later (fun _ => rfl) reads.rest_suffix
    ((skipAnd_suffix token behind).trans beyond) (place_skipAnd beyond at_middle) ?_ ?_
  · exact arrives.trans (.head calls within)
  · split <;> exact depth
  · rw [← resumes, ← after_after machine (.conjoining left)]
    split <;> rfl

/-- A machine that has read some conjunctions of a disjunction reads one more. -/
theorem leads_joinOr {next : Reading} {left : Expr} (held : reading.tree = some left)
    (at_rest : reading.rest = token :: behind) (joins : token.lexeme = .or)
    (suffix : reading.rest <:+ rest) (before : Follows tokens room .disjoining rest reading)
    (reads : Reads room .conjunction behind next)
    (follows : Follows tokens room .conjunction behind next)
    (inside : rest <:+ tokens) {machine later : Machine} (isCall : machine.control = .disjunction)
    (at_ : machine.place = placeOf tokens rest) (depth : machine.depth + room = nestingLimit)
    (resumes : (machine.after tokens (.returning next.tree) (reading.after next)).resume
      next.rest.head? next.tree (.disjoining left token) = some later) :
    Leads tokens machine later := by
  have arrives := before inside machine isCall at_ depth
  rw [held] at arrives
  rw [at_rest] at suffix
  have beyond := suffix.trans inside
  let middle := machine.after tokens (.disjoining left) reading
  have at_middle : middle.place = placeOf tokens (token :: behind) := by
    simp only [middle, after, at_rest]
  have calls : Turn tokens middle
      (middle.advance.call (.disjoining left token) .conjunction) :=
    turn_at beyond at_middle (by simp [turn, middle, after, Option.filter, joins])
  have within := follows.leads_call middle.advance (.disjoining left token) later
    (fun _ => rfl) reads.rest_suffix ((List.suffix_cons token behind).trans beyond)
    (by simp only [advance, at_middle]; exact placeOf_cons beyond) depth ?_
  · exact arrives.trans (.head calls within)
  · rw [← resumes, ← after_after machine (.disjoining left)]
    rfl

/-- A loop that has read something has a tree. -/
theorem exists_tree_of_conjoining (reads : Reads room .conjoining rest reading) :
    ∃ left, reading.tree = some left := by
  cases reads with
  | firstAnd _ found => exact ⟨_, found⟩
  | nextAnd => exact ⟨_, rfl⟩

theorem exists_tree_of_disjoining (reads : Reads room .disjoining rest reading) :
    ∃ left, reading.tree = some left := by
  cases reads with
  | firstOr _ found => exact ⟨_, found⟩
  | nextOr => exact ⟨_, rfl⟩

theorem follows_endAnd (reads : Reads room .conjoining rest reading)
    (stops : ∀ token ∈ reading.rest.head?,
      token.lexeme ≠ .and ∧ token.lexeme.startsOperand = false)
    (before : Follows tokens room .conjoining rest reading) :
    Follows tokens room .conjunction rest reading := by
  intro inside machine isCall at_ depth
  rcases exists_tree_of_conjoining reads with ⟨left, held⟩
  have arrives := before inside machine isCall at_ depth
  rw [held] at arrives ⊢
  refine arrives.tail (turn_at (reads.rest_suffix.trans inside) rfl ?_)
  cases found : reading.rest.head? with
  | none => simp [turn, after, outcomeOf, goTo]
  | some last =>
      have ends := stops last (by simp [found])
      simp [turn, after, outcomeOf, goTo, Option.filter, ends]

theorem follows_endOr (reads : Reads room .disjoining rest reading)
    (stops : ∀ token ∈ reading.rest.head?, token.lexeme ≠ .or)
    (before : Follows tokens room .disjoining rest reading) :
    Follows tokens room .disjunction rest reading := by
  intro inside machine isCall at_ depth
  rcases exists_tree_of_disjoining reads with ⟨left, held⟩
  have arrives := before inside machine isCall at_ depth
  rw [held] at arrives ⊢
  refine arrives.tail (turn_at (reads.rest_suffix.trans inside) rfl ?_)
  cases found : reading.rest.head? with
  | none => simp [turn, after, outcomeOf, goTo]
  | some last =>
      have ends := stops last (by simp [found])
      simp [turn, after, outcomeOf, goTo, Option.filter, ends]

end Simulation

end Machine

/-! ### Whole readings -/

open Query.Machine in
/-- A machine comes to what is read, as long as there is room for as many groups more as are
not open. -/
theorem Reads.follows {room : Nat} {stage : Stage} {rest : List Token} {reading : Reading}
    (reads : Reads room stage rest reading) (tokens : List Token) :
    Follows tokens room stage rest reading := by
  induction reads with
  | absent head => exact follows_absent head
  | leaf writes => exact follows_leaf writes
  | blank isBlank => exact follows_blank isBlank
  | group opens reads ih => exact follows_group opens reads ih
  | tooDeep opens reads ih => exact follows_tooDeep opens reads ih
  | negated negate stops reads ih => exact follows_negated negate stops reads ih
  | firstAnd reads found ih =>
      exact follows_first .negation .conjunction
        (by simp +contextual [turn, callOf]) (fun _ => rfl)
        (by simp [resume, found, after, goTo, outcomeOf]) reads.rest_suffix ih
  | noAnd reads found ih =>
      exact follows_first .negation .conjunction
        (by simp +contextual [turn, callOf]) (fun _ => rfl)
        (by simp [resume, found, after, goTo, outcomeOf]) reads.rest_suffix ih
  | firstOr reads found ih =>
      exact follows_first .conjunction .disjunction
        (by simp +contextual [turn, callOf]) (fun _ => rfl)
        (by simp [resume, found, after, goTo, outcomeOf]) reads.rest_suffix ih
  | noOr reads found ih =>
      exact follows_first .conjunction .disjunction
        (by simp +contextual [turn, callOf]) (fun _ => rfl)
        (by simp [resume, found, after, goTo, outcomeOf]) reads.rest_suffix ih
  | nextAnd before held at_rest joins reads found beforeIH ih =>
      intro inside machine isCall at_ depth
      exact leads_joinAnd held at_rest joins before.rest_suffix beforeIH reads ih inside isCall
        at_ depth (by simp [resume, found, after, goTo, outcomeOf])
  | breakAnd before held at_rest joins reads found beforeIH ih =>
      intro inside machine isCall at_ depth
      exact leads_joinAnd held at_rest joins before.rest_suffix beforeIH reads ih inside isCall
        at_ depth (by simp [resume, found, after, goTo, report, outcomeOf])
  | nextOr before held at_rest joins reads found beforeIH ih =>
      intro inside machine isCall at_ depth
      exact leads_joinOr held at_rest joins before.rest_suffix beforeIH reads ih inside isCall
        at_ depth (by simp [resume, found, after, goTo, outcomeOf])
  | breakOr before held at_rest joins reads found beforeIH ih =>
      intro inside machine isCall at_ depth
      exact leads_joinOr held at_rest joins before.rest_suffix beforeIH reads ih inside isCall
        at_ depth (by simp [resume, found, after, goTo, report, outcomeOf])
  | endAnd before stops ih => exact follows_endAnd before stops ih
  | endOr before stops ih => exact follows_endOr before stops ih

open Query.Machine in
/-- A machine comes to what is read of a whole query, part by part. -/
theorem ReadsParts.leads {tokens : List Token} {reading : Reading}
    (reads : ReadsParts tokens reading) :
    Leads tokens Machine.start (Machine.start.after tokens (.parts reading.tree) reading) := by
  induction reads with
  | start =>
      have unmoved : Machine.start.after tokens (.parts none) { tree := none, rest := tokens } =
          Machine.start := by
        simp [Machine.start, after, placeOf]
      rw [unmoved]
  | @join reading next before reads consumed ih =>
      have inside := before.rest_suffix
      let middle := Machine.start.after tokens (.parts reading.tree) reading
      have calls : Turn tokens middle
          (middle.call (.parts reading.tree (placeOf tokens reading.rest)) .disjunction) := by
        refine turn_at inside rfl ?_
        cases found : reading.rest with
        | nil => simp [found] at consumed
        | cons token behind => simp [turn, middle, after, found]
      have within := (reads.follows tokens).leads_call middle
        (.parts reading.tree (placeOf tokens reading.rest))
        (Machine.start.after tokens (.parts (joinParts reading.tree next.tree))
          (.after reading { next with tree := joinParts reading.tree next.tree }))
        (fun _ => rfl) reads.rest_suffix inside rfl rfl ?_
      · exact ih.trans (.head calls within)
      · have shorter := inside.length_le
        have moved : placeOf tokens next.rest ≠ placeOf tokens reading.rest := by
          simp only [placeOf]
          omega
        cases found : next.tree with
        | some tree => simp [resume, middle, after, goTo, Criteria.append_assoc]
        | none =>
            simp [resume, middle, after, goTo, moved, joinParts_none, Criteria.append_assoc]
  | @skip reading next token behind before at_rest reads stuck ih =>
      have inside := before.rest_suffix
      have same : next.rest = reading.rest := reads.rest_suffix.eq_of_length_le stuck
      have absent : next.tree = none := by
        by_contra found
        exact Nat.not_lt_of_le stuck (reads.rest_length_lt found)
      let middle := Machine.start.after tokens (.parts reading.tree) reading
      have calls : Turn tokens middle
          (middle.call (.parts reading.tree (placeOf tokens reading.rest)) .disjunction) :=
        turn_at inside rfl (by simp [turn, middle, after, at_rest])
      have within := (reads.follows tokens).leads_call middle
        (.parts reading.tree (placeOf tokens reading.rest))
        (Machine.start.after tokens (.parts reading.tree) (.after reading
          { next.report [.unexpected token] with tree := reading.tree, rest := behind }))
        (fun _ => rfl) reads.rest_suffix inside rfl rfl ?_
      · exact ih.trans (.head calls within)
      · rw [at_rest] at inside
        simp [resume, middle, after, goTo, report, advance, absent, same, at_rest,
          placeOf_cons inside, Criteria.append_assoc]

end SpecFinder.Query
