import SpecFinder.Proofs.Match.Separation

/-!
# Matches up to a limit

Selected matches are shown by field, and the content is the last of the known fields.  So what
lies outside the content is a front part of them, the content follows from the best match on, and
to cut them to a limit is to take a front part that is at least as long as the first one.
-/

namespace SpecFinder.Match

/-! ## Known fields -/

theorem fieldRank_contentField : fieldRank contentField = 4 := by decide

/-- A field is known when its place is not behind that of the content. -/
theorem mem_fieldOrder_iff {field : Text} : field ∈ fieldOrder ↔ fieldRank field ≤ 4 := by
  rw [← List.idxOf_lt_length_iff]
  exact Nat.lt_succ_iff

/-- Known fields have places of their own. -/
theorem fieldRank_injective {left right : Text} (known : left ∈ fieldOrder)
    (same : fieldRank left = fieldRank right) : left = right :=
  (List.idxOf_inj known).mp same

section

variable {σ : Type} {each : Match σ}

theorem isContent_iff : each.isContent = true ↔ each.field = contentField := by
  rw [isContent, beq_iff_eq]

/-- The known fields other than the content come in front of it. -/
theorem fieldRank_lt_of_not_isContent (known : each.field ∈ fieldOrder)
    (outside : each.isContent = false) : fieldRank each.field < 4 := by
  apply Nat.lt_of_le_of_ne (mem_fieldOrder_iff.mp known)
  rw [← fieldRank_contentField]
  intro same
  have isContent := isContent_iff.mpr (fieldRank_injective known same)
  rw [outside] at isContent
  cases isContent

end

/-! ## Matches in the order in which they are shown -/

/-- Items without a property, all in front of those with it, and then those with it. -/
theorem filter_append_filter {α : Type} {keep : α → Bool} {items : List α}
    (inFront : items.Pairwise fun left right => keep left = true → keep right = true) :
    items.filter (fun item => !keep item) ++ items.filter keep = items := by
  induction items with
  | nil => rfl
  | cons first rest ih =>
      rcases List.pairwise_cons.mp inFront with ⟨before, inFront⟩
      cases kept : keep first with
      | false => simpa [kept] using ih inFront
      | true =>
          have allKept : ∀ item ∈ first :: rest, keep item = true :=
            List.forall_mem_cons.mpr ⟨kept, fun item listed => before item listed kept⟩
          rw [List.filter_eq_self.mpr allKept, List.filter_eq_nil_iff.mpr (by simpa using allKept)]
          rfl

variable {σ : Type} [LT σ] [∀ left right : σ, Decidable (left < right)]

/-- Whether matches stand in the order in which they are shown: known fields in their order, and
no higher score right behind another one within a field.  This is less than an order of all
scores, since there may be scores that do not compare with any other. -/
structure AreShown (shown : List (Match σ)) : Prop where
  known : ∀ each ∈ shown, each.field ∈ fieldOrder
  isRun : IsRun shownBefore shown

/-- The matches outside the content. -/
def outside (found : List (Match σ)) : List (Match σ) := found.filter fun each => !each.isContent

/-- The matches in the content. -/
def inside (found : List (Match σ)) : List (Match σ) := found.filter (·.isContent)

namespace AreShown

variable {shown : List (Match σ)} (areShown : AreShown shown)

include areShown

/-- The fields are in order from each match to all behind it. -/
theorem ranked : shown.Pairwise fun left right => fieldRank left.field ≤ fieldRank right.field := by
  have steps : (shown.map fun each => fieldRank each.field).IsChain (· ≤ ·) := by
    rw [List.isChain_map]
    refine areShown.isRun.imp ?_
    intro left right before
    rcases shownBefore_iff.mp before with earlier | ⟨same, _⟩
    · exact Nat.le_of_lt earlier
    · exact Nat.le_of_eq same
  exact List.pairwise_map.mp steps.pairwise

/-- The content is shown last. -/
theorem outside_append_inside : outside shown ++ inside shown = shown := by
  apply filter_append_filter
  refine areShown.ranked.imp_of_mem ?_
  intro left right leftListed rightListed before leftContent
  rw [isContent_iff.mp leftContent, fieldRank_contentField] at before
  by_contra rightOutside
  rw [Bool.not_eq_true] at rightOutside
  have inFront := fieldRank_lt_of_not_isContent (areShown.known right rightListed) rightOutside
  omega

/-- In the content, no higher score stands right behind another one. -/
theorem isRun_inside :
    IsRun (fun left right => !decide (left.score < right.score)) (inside shown) := by
  have run := areShown.isRun
  rw [← areShown.outside_append_inside] at run
  refine (List.isChain_append.mp run).2.1.imp_of_mem_imp ?_
  intro left right leftListed rightListed before
  have leftContent := isContent_iff.mp (List.mem_filter.mp leftListed).2
  have rightContent := isContent_iff.mp (List.mem_filter.mp rightListed).2
  rw [shownBefore_iff, leftContent, rightContent] at before
  rcases before with earlier | ⟨_, atLeast⟩
  · exact (Nat.lt_irrefl _ earlier).elim
  · simpa using atLeast

variable {sort : Sorter (Match σ)} (keepsRuns : sort.KeepsRuns)

include keepsRuns

/-- A limit leaves all that lies outside the content, and as much of the content as there is room
for. -/
theorem limitTo_eq_append (limit : Int) :
    limitTo shown limit sort =
      outside shown ++ (inside shown).take (limit - (outside shown).length).toNat := by
  have whole := areShown.outside_append_inside
  have count := congrArg List.length whole
  rw [List.length_append] at count
  rw [limitTo]
  split
  next allFit =>
    rw [List.take_of_length_le (by omega), whole]
  next tooMany =>
    have othersSorted : sort (fun left right => fieldRank left.field ≤ fieldRank right.field)
        (outside shown) = outside shown := by
      apply keepsRuns.eq_self
      exact ((areShown.ranked.filter _).imp fun before => decide_eq_true before).isChain
    have parts : shown.partition (·.isContent) = (inside shown, outside shown) :=
      List.partition_eq_filter_filter
    rw [parts]
    simp only [othersSorted, keepsRuns.eq_self areShown.isRun_inside]

/-- Cutting such matches to a limit takes a front part, with all that lies outside the
content. -/
theorem limitTo_eq_take (limit : Int) :
    limitTo shown limit sort = shown.take (max limit (outside shown).length).toNat := by
  have fits : (outside shown).take (max limit (outside shown).length).toNat = outside shown :=
    List.take_of_length_le (by omega)
  have room : (max limit (outside shown).length).toNat - (outside shown).length =
      (limit - (outside shown).length).toNat := by omega
  calc limitTo shown limit sort
      = (outside shown ++ inside shown).take (max limit (outside shown).length).toNat := by
        rw [areShown.limitTo_eq_append keepsRuns, List.take_append, fits, room]
    _ = shown.take (max limit (outside shown).length).toNat := by
        rw [areShown.outside_append_inside]

/-- A higher limit leaves more matches behind the same ones. -/
theorem limitTo_isPrefix {limit higher : Int} (raised : limit ≤ higher) :
    limitTo shown limit sort <+: limitTo shown higher sort := by
  rw [areShown.limitTo_eq_take keepsRuns, areShown.limitTo_eq_take keepsRuns]
  apply List.take_prefix_take_left
  omega

end AreShown

variable [BEq σ] {sort : Sorter (Match σ)} (keepsRuns : sort.KeepsRuns)

include keepsRuns

/-- Selecting and cutting never adds a match. -/
theorem length_limitTo_deduplicate_le (found : List (Match σ)) (distance limit : Int) :
    (limitTo (deduplicate found distance sort) limit sort).length ≤ found.length := by
  have cut (shown : List (Match σ)) : (limitTo shown limit sort).length ≤ shown.length := by
    have parts := (List.filter_append_perm (·.isContent) shown).length_eq
    rw [limitTo]
    split
    · exact Nat.le_refl _
    · rw [List.partition_eq_filter_filter]
      simp only [List.length_append, (keepsRuns.perm _ _).length_eq, List.length_take] at parts ⊢
      simp only [Function.comp_def]
      omega
  have selected : (deduplicate found distance sort).length ≤ found.length := by
    rw [deduplicate, (keepsRuns.perm _ _).length_eq]
    calc (keepApart distance [] (sort selectedBefore found)).length
        ≤ (sort selectedBefore found).length := (keepApart_sublist _ _ _).length_le
      _ = found.length := (keepsRuns.perm _ _).length_eq
  exact Nat.le_trans (cut _) selected

/-- Selected matches of known fields stand in the order in which they are shown, also those whose
scores do not compare. -/
theorem areShown_deduplicate {found : List (Match σ)}
    (asymm : ∀ left ∈ found, ∀ right ∈ found, left.score < right.score →
      ¬ right.score < left.score)
    (known : ∀ each ∈ found, each.field ∈ fieldOrder) (distance : Int) :
    AreShown (deduplicate found distance sort) where
  known := fun each kept => known each (deduplicate_subset keepsRuns found distance kept)
  isRun := by
    have within := selected_subset keepsRuns found distance
    apply keepsRuns.isRun
    intro left leftKept right rightKept
    exact shownBefore_total (asymm left (within leftKept) right (within rightKept))

end SpecFinder.Match
