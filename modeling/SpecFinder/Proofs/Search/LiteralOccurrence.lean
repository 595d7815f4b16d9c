import SpecFinder.Proofs.Query.Evaluation
import SpecFinder.Proofs.Text.FinalSigma
import SpecFinder.Search

/-!
# What stands in a spec as it is written

A term or a phrase is looked for in lower case.  One that stands literally in a text of a
spec is found there when its sigmas have the same small letters in that place as they have
alone.  The values that are found wherever they stand are thus exactly those whose sigmas
are settled by the value itself; every value without a capital sigma is one of them.
-/

namespace SpecFinder

open Text Query

/-- A term or a phrase is true of a spec when its lower-case form occurs in that of a
text. -/
theorem satisfies_iff_infix_lower (value : Text) (spec : Spec) :
    (spec.satisfies (.term value) = true ↔ ∃ text ∈ spec.texts, lower value <:+: lower text) ∧
      (spec.satisfies (.phrase value) = true ↔
        ∃ text ∈ spec.texts, lower value <:+: lower text) := by
  simp [Spec.satisfies, occursIn_iff_isInfix]

/-- A spec with nothing but a name. -/
def Spec.named (name : Text) : Spec := { path := [], name }

theorem mem_texts_named {name text : Text} :
    text ∈ (Spec.named name).texts ↔ text = [] ∨ text = name := by
  simp only [Spec.texts, Spec.named, Option.getD_none, List.append_nil, List.cons_append,
    List.nil_append, List.mem_cons, List.not_mem_nil, or_false]
  tauto

/-- A value that stands literally in a text of a spec is true of the spec, as a term and as
a phrase, where its sigmas keep their forms.  It is true of every spec that holds it
exactly when each of its sigmas is settled by the value alone. -/
theorem satisfies_of_infix (value : Text) :
    (∀ (spec : Spec) (front back : Text), front ++ value ++ back ∈ spec.texts →
      KeepsSigmas front.reverse value back →
        (Expr.operand (.term value)).evaluate spec.satisfies = true ∧
          (Expr.operand (.phrase value)).evaluate spec.satisfies = true) ∧
    ((∀ spec : Spec, (∃ text ∈ spec.texts, value <:+: text) →
        (Expr.operand (.term value)).evaluate spec.satisfies = true ∧
          (Expr.operand (.phrase value)).evaluate spec.satisfies = true) ↔
      ∀ before after, value = before ++ 'Σ' :: after →
        settlesSigma before.reverse after = true) := by
  simp only [Expr.evaluate_eq_meaning, Expr.meaning, (satisfies_iff_infix_lower value _).1,
    (satisfies_iff_infix_lower value _).2, and_self]
  refine ⟨?_, ?_, ?_⟩
  · intro spec front back isText keeps
    exact ⟨_, isText, infix_lower_of_keepsSigmas keeps⟩
  · intro everywhere
    rw [← infix_lower_everywhere_iff]
    intro front back
    have listed : front ++ value ++ back ∈ (Spec.named (front ++ value ++ back)).texts :=
      mem_texts_named.mpr (.inr rfl)
    rcases everywhere _ ⟨_, listed, List.infix_append front value back⟩ with ⟨text, isText, occurs⟩
    rcases mem_texts_named.mp isText with rfl | rfl
    · have nothing : value = [] := lower_eq_nil_iff.mp (List.infix_nil.mp occurs)
      simp [nothing]
    · exact occurs
  · rintro settled spec ⟨text, isText, front, back, rfl⟩
    exact ⟨_, isText, (infix_lower_everywhere_iff value).mpr settled front back⟩

/-- A word that ends in a sigma is found in front of another word, where the sigma is a final one
as it is alone. -/
theorem satisfies_finalSigma :
    KeepsSigmas [] "ΟΔΟΣ".toList " ΑΒ".toList ∧
      "ΟΔΟΣ ΑΒ".toList ∈ (Spec.named "ΟΔΟΣ ΑΒ".toList).texts ∧
      (Expr.operand (.term "ΟΔΟΣ".toList)).evaluate (Spec.named "ΟΔΟΣ ΑΒ".toList).satisfies =
        true := by
  have keeps : KeepsSigmas [] "ΟΔΟΣ".toList " ΑΒ".toList := by
    intro front back isValue
    have last : front = "ΟΔΟ".toList ∧ back = [] := by
      match front, isValue with
      | [_, _, _], isValue => simpa [eq_comm, and_assoc] using isValue
      | [], isValue | [_], isValue | [_, _], isValue => simp at isValue
      | _ :: _ :: _ :: _ :: _, isValue => simp at isValue
    rw [last.1, last.2]
    decide +kernel
  have listed : "ΟΔΟΣ ΑΒ".toList ∈ (Spec.named "ΟΔΟΣ ΑΒ".toList).texts :=
    mem_texts_named.mpr (.inr rfl)
  have found := satisfies_of_infix "ΟΔΟΣ".toList
  exact ⟨keeps, listed, (found.1 _ [] " ΑΒ".toList listed keeps).1⟩

/-- The word in front of its last letter is not found: its sigma is a final one alone. -/
example : (Spec.named "ΟΔΟΣΑ".toList).satisfies (.term "ΟΔΟΣ".toList) = false := by
  decide +kernel

end SpecFinder
