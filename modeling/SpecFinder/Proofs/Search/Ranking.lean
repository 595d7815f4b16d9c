import Mathlib.Data.List.Sigma
import SpecFinder.Proofs.Search.ResultSet

/-!
# How results are ranked

Each spec is searched on its own, and the results are then sorted by their scores.  The
sort keeps the order of results with the same score, so the place of a result is decided
by its score and by the position of its spec.  `ranking` is the list of results with these
positions: since no two entries of it can change places, what is left of it for a part of
the specs is the ranking of that part.
-/

namespace SpecFinder.Search

variable {σ : Type}

/-- Whether an entry, a result with the position of its spec, stands before another: higher
scores come first, and equal scores in the order of the specs. -/
def RanksBefore (left right : Result σ × Nat) : Prop :=
  right.1.score < left.1.score ∨ left.1.score = right.1.score ∧ left.2 < right.2

theorem RanksBefore.asymm {left right : Result σ × Nat} (before : RanksBefore left right) :
    ¬ RanksBefore right left := by
  simp only [RanksBefore] at *
  omega

/-- There is only one way to rank entries. -/
theorem eq_of_ranksBefore {first second : List (Result σ × Nat)}
    (firstRanked : first.Pairwise RanksBefore) (secondRanked : second.Pairwise RanksBefore)
    (same : first.Perm second) : first = second :=
  same.eq_of_pairwise (fun _ _ _ _ before after => (before.asymm after).elim) firstRanked
    secondRanked

/-- Whether the score of an entry is at least that of another. -/
def scoresAtLeast (left right : Result σ × Nat) : Bool := right.1.score ≤ left.1.score

theorem scoresAtLeast_trans (first second third : Result σ × Nat)
    (before : scoresAtLeast first second = true) (after : scoresAtLeast second third = true) :
    scoresAtLeast first third = true := by
  simp only [scoresAtLeast, decide_eq_true_eq] at *
  exact Nat.le_trans after before

theorem scoresAtLeast_total (left right : Result σ × Nat) :
    (scoresAtLeast left right || scoresAtLeast right left) = true := by
  simp only [scoresAtLeast, Bool.or_eq_true, decide_eq_true_eq]
  exact Nat.le_total right.1.score left.1.score

/-- Sorting entries that stand in the order of their positions by their scores ranks them. -/
theorem pairwise_mergeSort_scoresAtLeast {entries : List (Result σ × Nat)}
    (ascending : entries.Pairwise fun left right => left.2 < right.2) :
    (entries.mergeSort scoresAtLeast).Pairwise RanksBefore := by
  -- The sort is one by scores and then by the places of the entries in the list.
  rw [← List.mergeSort_zipIdx, List.pairwise_map]
  have sorted := List.pairwise_mergeSort (List.zipIdxLE_trans scoresAtLeast_trans)
    (List.zipIdxLE_total scoresAtLeast_total) entries.zipIdx
  have distinct : (entries.zipIdx.mergeSort (List.zipIdxLE scoresAtLeast)).Nodup :=
    (List.mergeSort_perm _ _).nodup_iff.mpr (.of_map _ (List.nodup_zipIdx_map_snd entries))
  refine (sorted.and distinct).imp_of_mem ?_
  rintro ⟨left, place⟩ ⟨right, other⟩ leftListed rightListed ⟨before, differs⟩
  rw [List.mem_mergeSort, List.mk_mem_zipIdx_iff_getElem?, List.getElem?_eq_some_iff]
    at leftListed rightListed
  rcases leftListed with ⟨leftBound, rfl⟩
  rcases rightListed with ⟨rightBound, rfl⟩
  have byPlace : place < other → entries[place].2 < entries[other].2 :=
    List.pairwise_iff_getElem.mp ascending place other leftBound rightBound
  have notSame : place ≠ other := by
    rintro rfl
    exact differs rfl
  by_cases higher : entries[other].1.score < entries[place].1.score
  · exact .inl higher
  · have atMost := Nat.le_of_not_lt higher
    have inOrder : entries[other].1.score ≤ entries[place].1.score ∧ place ≤ other := by
      simpa [List.zipIdxLE, scoresAtLeast, atMost] using before
    have earlier : place < other := Nat.lt_of_le_of_ne inOrder.2 notSame
    exact .inr ⟨Nat.le_antisymm atMost inOrder.1, byPlace earlier⟩

section

variable [Scoring σ] (text : Text) (options : SearchOptions)

/-- The result of a spec for a query as it is written, if the spec is found. -/
def result? (spec : Spec) : Option (Result σ) :=
  if (Query.read text).isAdvanced then treeResult? (Query.read text) options spec
  else plainResult? (Text.words (Text.lower text)) options spec

/-- Whether a query as it is written finds a spec: the query's tree is true in it, or it
contains the words of the query and has a match to show. -/
def survives (σ : Type) [Scoring σ] (text : Text) (options : SearchOptions) (spec : Spec) :
    Bool :=
  if (Query.read text).isAdvanced then passes (Query.read text) spec
  else
    spec.containsAll (Text.words (Text.lower text)) &&
      !(rank (Text.words (Text.lower text)) options spec : Result σ).shown.isEmpty

/-- The results of the specs that are found, in the order of the specs and with their
positions, which are counted from `start`. -/
def entriesFrom (start : Nat) (specs : List Spec) : List (Result σ × Nat) :=
  (specs.zipIdx start).filterMap fun (spec, position) =>
    (result? text options spec).map fun result => (result, position)

/-- The entries of all specs, ranked. -/
def ranking (start : Nat) (specs : List Spec) : List (Result σ × Nat) :=
  (entriesFrom text options start specs).mergeSort scoresAtLeast

theorem advanced_eq (specs : List Spec) : (advanced text specs options : Response σ) =
    respond text specs (specs.filterMap (result? text options)) := by
  rw [advanced, withQuery]
  cases isAdvanced : (Query.read text).isAdvanced with
  | true =>
      have same : (result? text options : Spec → Option (Result σ)) =
          treeResult? (Query.read text) options := by
        funext spec
        simp [result?, isAdvanced]
      rw [same]
      rfl
  | false =>
      have same : (result? text options : Spec → Option (Result σ)) =
          plainResult? (Text.words (Text.lower text)) options := by
        funext spec
        simp [result?, isAdvanced]
      rw [same]
      rfl

theorem map_entriesFrom (start : Nat) (specs : List Spec) :
    (entriesFrom text options start specs).map (·.1) =
      (specs.filterMap (result? text options) : List (Result σ)) := by
  have untagged : (fun placed : Spec × Nat =>
      ((result? text options placed.1).map fun result : Result σ => (result, placed.2)).map
        (·.1)) = result? text options ∘ Prod.fst := by
    funext placed
    simp [Function.comp_def]
  rw [entriesFrom, List.map_filterMap, untagged, ← List.filterMap_map, List.zipIdx_map_fst]

/-- The results are ranked, wherever the positions are counted from. -/
theorem results_advanced (start : Nat) (specs : List Spec) :
    (advanced text specs options : Response σ).results =
      (ranking text options start specs).map (·.1) := by
  rw [advanced_eq, respond, ← map_entriesFrom text options start, ranking]
  symm
  apply List.map_mergeSort
  intro left _ right _
  rfl

theorem ascending_entriesFrom (start : Nat) (specs : List Spec) :
    (entriesFrom text options start specs : List (Result σ × Nat)).Pairwise
      fun left right => left.2 < right.2 := by
  have increasing : (specs.zipIdx start).Pairwise fun left right => left.2 < right.2 := by
    rw [← List.pairwise_map, List.zipIdx_map_snd]
    exact List.pairwise_lt_range'
  rw [entriesFrom, List.pairwise_filterMap]
  refine increasing.imp ?_
  intro left right before leftEntry isLeft rightEntry isRight
  rcases Option.map_eq_some_iff.mp isLeft with ⟨_, _, rfl⟩
  rcases Option.map_eq_some_iff.mp isRight with ⟨_, _, rfl⟩
  exact before

theorem ranking_perm (start : Nat) (specs : List Spec) :
    (ranking text options start specs).Perm
      (entriesFrom text options start specs : List (Result σ × Nat)) :=
  List.mergeSort_perm _ _

theorem pairwise_ranking (start : Nat) (specs : List Spec) :
    (ranking text options start specs : List (Result σ × Nat)).Pairwise RanksBefore :=
  pairwise_mergeSort_scoresAtLeast (ascending_entriesFrom text options start specs)

theorem mem_entriesFrom {start : Nat} {specs : List Spec} {entry : Result σ × Nat} :
    entry ∈ entriesFrom text options start specs ↔
      start ≤ entry.2 ∧ ∃ spec, specs[entry.2 - start]? = some spec ∧
        result? text options spec = some entry.1 := by
  rcases entry with ⟨result, position⟩
  simp only [entriesFrom, List.mem_filterMap, Prod.exists, Option.map_eq_some_iff,
    List.mk_mem_zipIdx_iff_le_and_getElem?_sub]
  constructor
  · rintro ⟨spec, place, ⟨fromStart, atPlace⟩, _, found, same⟩
    cases same
    exact ⟨fromStart, spec, atPlace, found⟩
  · rintro ⟨fromStart, spec, atPlace, found⟩
    exact ⟨spec, position, ⟨fromStart, atPlace⟩, result, found, rfl⟩

theorem entriesFrom_append (start : Nat) (front back : List Spec) :
    (entriesFrom text options start (front ++ back) : List (Result σ × Nat)) =
      entriesFrom text options start front ++
        entriesFrom text options (start + front.length) back := by
  rw [entriesFrom, List.zipIdx_append, List.filterMap_append]
  rfl

/-- What is left of a ranking is the ranking of the specs whose entries are left. -/
theorem filter_ranking {start next : Nat} {specs part : List Spec} {keep : Result σ × Nat → Bool}
    (left : (entriesFrom text options start specs).filter keep =
      entriesFrom text options next part) :
    (ranking text options start specs).filter keep = ranking text options next part := by
  have kept := (ranking_perm text options start specs).filter keep
  rw [left] at kept
  exact eq_of_ranksBefore ((pairwise_ranking text options start specs).filter keep)
    (pairwise_ranking text options next part)
    (kept.trans (ranking_perm text options next part).symm)

theorem lt_of_mem_entriesFrom {specs : List Spec} {entry : Result σ × Nat}
    (listed : entry ∈ entriesFrom text options 0 specs) : entry.2 < specs.length := by
  rcases (mem_entriesFrom text options).mp listed with ⟨_, spec, place, _⟩
  exact (List.getElem?_eq_some_iff.mp place).1

/-- The entries of the first specs are ranked as if there were no others. -/
theorem filter_ranking_front (front back : List Spec) :
    (ranking text options 0 (front ++ back) : List (Result σ × Nat)).filter
      (fun entry => entry.2 < front.length) = ranking text options 0 front := by
  apply filter_ranking
  have keepsFront : (entriesFrom text options 0 front : List (Result σ × Nat)).filter
      (fun entry => entry.2 < front.length) = entriesFrom text options 0 front := by
    rw [List.filter_eq_self]
    intro entry listed
    exact decide_eq_true (lt_of_mem_entriesFrom text options listed)
  have dropsBack : (entriesFrom text options front.length back : List (Result σ × Nat)).filter
      (fun entry => entry.2 < front.length) = [] := by
    rw [List.filter_eq_nil_iff]
    intro entry listed
    simpa using ((mem_entriesFrom text options).mp listed).1
  rw [entriesFrom_append, List.filter_append, Nat.zero_add, keepsFront, dropsBack,
    List.append_nil]

/-- The entries of the last specs are ranked as if there were no others. -/
theorem filter_ranking_back (front back : List Spec) :
    (ranking text options 0 (front ++ back) : List (Result σ × Nat)).filter
      (fun entry => front.length ≤ entry.2) = ranking text options front.length back := by
  apply filter_ranking
  have dropsFront : (entriesFrom text options 0 front : List (Result σ × Nat)).filter
      (fun entry => front.length ≤ entry.2) = [] := by
    rw [List.filter_eq_nil_iff]
    intro entry listed
    simpa using lt_of_mem_entriesFrom text options listed
  have keepsBack : (entriesFrom text options front.length back : List (Result σ × Nat)).filter
      (fun entry => front.length ≤ entry.2) = entriesFrom text options front.length back := by
    rw [List.filter_eq_self]
    intro entry listed
    exact decide_eq_true ((mem_entriesFrom text options).mp listed).1
  rw [entriesFrom_append, List.filter_append, Nat.zero_add, dropsFront, keepsBack,
    List.nil_append]

/-! ## One result for each spec that is found -/

/-- A spec that survives has a result of its own, and other specs have none. -/
theorem spec_result? (spec : Spec) : (result? text options spec : Option (Result σ)).map (·.spec) =
    if survives σ text options spec then some spec else none := by
  rw [result?, survives]
  split
  · exact spec_treeResult? (Query.read text) options spec
  · simp only [plainResult?]
    by_cases contains : spec.containsAll (Text.words (Text.lower text)) = true
    · by_cases nothing : (rank (Text.words (Text.lower text)) options spec :
          Result σ).shown.isEmpty = true
      · simp [contains, nothing]
      · rw [if_pos contains, if_neg nothing, if_pos (by simp [contains, nothing])]
        rfl
    · simp [contains]

theorem spec_of_result? {spec : Spec} {result : Result σ}
    (found : result? text options spec = some result) : result.spec = spec := by
  have own : (result? text options spec : Option (Result σ)).map (·.spec) = _ :=
    spec_result? text options spec
  rw [found, Option.map_some] at own
  split at own
  · exact Option.some.inj own
  · cases own

theorem isSome_result? (spec : Spec) :
    (result? text options spec : Option (Result σ)).isSome = survives σ text options spec := by
  have own : ((result? text options spec : Option (Result σ)).map (·.spec)).isSome = _ :=
    congrArg Option.isSome (spec_result? text options spec)
  rw [Option.isSome_map] at own
  rw [own]
  cases survives σ text options spec <;> rfl

theorem map_snd_entriesFrom (start : Nat) (specs : List Spec) :
    (entriesFrom text options start specs : List (Result σ × Nat)).map (·.2) =
      ((specs.zipIdx start).filter fun placed => survives σ text options placed.1).map
        (·.2) := by
  rw [entriesFrom, List.map_filterMap, ← List.filterMap_eq_filter, List.map_filterMap]
  congr 1
  funext placed
  have decided : (result? text options placed.1 : Option (Result σ)).isSome = _ :=
    isSome_result? text options placed.1
  cases found : (result? text options placed.1 : Option (Result σ)) with
  | none =>
      rw [found] at decided
      simp [Option.guard, found, ← decided]
  | some result =>
      rw [found] at decided
      simp [Option.guard, found, ← decided]

end

/-- The results are one for each position at which a spec survives, ranked by score and then
by position, and each is what its own spec gives. For the specs of two lists together, the
results whose specs come from one of the lists are, in order, those for this list alone. -/
theorem results_ranked [Scoring σ] (text : Text) (options : SearchOptions) :
    (∀ specs : List Spec,
      (advanced text specs options : Response σ).results =
        (ranking text options 0 specs).map (·.1) ∧
      (ranking text options 0 specs : List (Result σ × Nat)).Pairwise RanksBefore ∧
      ((ranking text options 0 specs : List (Result σ × Nat)).map (·.2)).Perm
        ((specs.zipIdx.filter fun placed => survives σ text options placed.1).map (·.2)) ∧
      (∀ entry ∈ (ranking text options 0 specs : List (Result σ × Nat)),
        specs[entry.2]? = some entry.1.spec ∧
          result? text options entry.1.spec = some entry.1) ∧
      (advanced text specs options : Response σ).results.length =
        specs.countP (survives σ text options) ∧
      (advanced text specs options : Response σ).searched = specs.length) ∧
    ∀ front back : List Spec,
      ((ranking text options 0 (front ++ back)).filter (·.2 < front.length)).map (·.1) =
        (advanced text front options : Response σ).results ∧
      ((ranking text options 0 (front ++ back)).filter (front.length ≤ ·.2)).map (·.1) =
        (advanced text back options : Response σ).results := by
  constructor
  · intro specs
    refine ⟨results_advanced text options 0 specs, pairwise_ranking text options 0 specs, ?_,
      ?_, ?_, ?_⟩
    · rw [← map_snd_entriesFrom]
      exact (ranking_perm text options 0 specs).map _
    · intro entry listed
      rcases (mem_entriesFrom text options).mp ((ranking_perm text options 0 specs).mem_iff.mp
        listed) with ⟨_, spec, place, found⟩
      rw [spec_of_result? text options found]
      exact ⟨place, found⟩
    · rw [advanced_eq, respond, List.length_mergeSort, List.length_filterMap_eq_countP]
      simp only [isSome_result?]
    · rw [advanced_eq]
      rfl
  · intro front back
    rw [filter_ranking_front, filter_ranking_back]
    constructor
    · exact (results_advanced text options 0 front).symm
    · exact (results_advanced text options front.length back).symm

end SpecFinder.Search
