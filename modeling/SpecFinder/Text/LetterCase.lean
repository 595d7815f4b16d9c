import SpecFinder.Text.Basic
import SpecFinder.Text.CaseTable

/-!
# Lower case

The lower-case form of a text.  Every character has a form of its own except the
capital sigma, whose form depends on its place: it is final at the end of a word.
-/

namespace SpecFinder.Text

/-- The distance from a capital to its small letter within a run. -/
def CapitalRun.smallOf? (run : CapitalRun) (codePoint : Nat) : Option Nat :=
  if run.first ≤ codePoint && codePoint ≤ run.last
      && (codePoint - run.first) % run.step == 0 then
    some (codePoint + run.up - run.down)
  else
    none

/-- The small letter of a character, itself when it has none.  The capital I
with a dot above becomes a plain small i. -/
def smallLetter (char : Char) : Char :=
  let codePoint := char.toNat
  if codePoint < 0x80 then
    char.toLower
  else if char == 'İ' then
    'i'
  else
    match capitalRuns.findSome? (·.smallOf? codePoint) with
    | some small => Char.ofNat small
    | none => char

def isCaseIgnorable (char : Char) : Bool :=
  inRanges caseIgnorableRanges char.toNat

def isCased (char : Char) : Bool :=
  inRanges casedRanges char.toNat

/-- Whether the nearest character that is not passed over has a case. -/
def meetsCased (text : Text) : Bool :=
  match text.dropWhile isCaseIgnorable with
  | [] => false
  | char :: _ => isCased char

/-- The lower-case form of a character between the characters `before` it,
nearest first, and those `after` it. -/
def lowerAt (before : Text) (char : Char) (after : Text) : Text :=
  if char == 'Σ' then
    [if meetsCased before && !meetsCased after then 'ς' else 'σ']
  else if char == 'İ' then
    ['i', '\u0307']
  else
    [smallLetter char]

/-- The lower-case form of a text that follows `before`, nearest first. -/
def lowerFrom (before : Text) : Text → Text
  | [] => []
  | char :: rest => lowerAt before char rest ++ lowerFrom (char :: before) rest

def lower (text : Text) : Text := lowerFrom [] text

end SpecFinder.Text
