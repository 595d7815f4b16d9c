import SpecFinder.Query.Token

/-!
# Faults of a query

What a reader of queries reports.  A fault never stops the reading.
-/

namespace SpecFinder.Query

def nestingLimit : Nat := 32

/-- A fault of a query and the place of the token that it is about. -/
inductive Fault where
  | unexpected (token : Token)
  | missingAfterAnd (position : Nat)
  | missingAfterOr (position : Nat)
  | missingAfterNot (position : Nat)
  | emptyPhrase (position : Nat)
  | tooDeep (position : Nat)
  | unclosedGroup (position : Nat)
  | unclosedQuote (position : Nat)
  deriving DecidableEq, Repr

def Fault.message (fault : Fault) : Text :=
  let told (text : String) (position : Nat) : Text :=
    text.toList ++ " at position ".toList ++ Text.ofNat position
  match fault with
  | .unexpected token =>
      "Unexpected '".toList ++ token.lexeme.value ++ told "'" token.position
  | .missingAfterAnd position => told "Expected term after AND" position
  | .missingAfterOr position => told "Expected term after OR" position
  | .missingAfterNot position => told "Expected term after NOT" position
  | .emptyPhrase position => told "Empty phrase" position
  | .tooDeep position =>
      "Nesting deeper than ".toList ++ Text.ofNat nestingLimit ++ told "" position
  | .unclosedGroup position =>
      told "Expected closing parenthesis for '('" position
  | .unclosedQuote position => told "Unterminated quote" position

end SpecFinder.Query
