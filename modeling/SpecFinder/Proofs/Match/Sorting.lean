import Mathlib.Data.List.Chain
import SpecFinder.Match.Selection

/-!
# Sorting some items

Scores are numbers of which not all can be compared, so an order of matches may be an order of
those at hand only.  For these a sort gives an ordered list, and it is stable: items that are
tied keep the order in which they came.  An ordered list is determined by what it holds of each
group of tied items, and so a list that is ordered and whose ties are ordered by a second order
is the same after it has been sorted by the second order and then by the first.

Of items that are not in an order, a sort still makes a run: a list without a wrong step from
one item to the next.
-/

namespace SpecFinder

variable {α : Type}

/-- Whether any two of some items stand in an order, one way or the other, and the order goes
on from one item to the next. -/
structure Orders (precedes : α → α → Bool) (items : List α) : Prop where
  total : ∀ left ∈ items, ∀ right ∈ items,
    precedes left right = true ∨ precedes right left = true
  trans : ∀ first ∈ items, ∀ second ∈ items, ∀ third ∈ items, precedes first second = true →
    precedes second third = true → precedes first third = true

/-- Whether two items stand in an order both ways. -/
def isTied (precedes : α → α → Bool) (left right : α) : Bool :=
  precedes left right && precedes right left

theorem isTied_iff {precedes : α → α → Bool} {left right : α} :
    isTied precedes left right = true ↔
      precedes left right = true ∧ precedes right left = true := by
  rw [isTied, Bool.and_eq_true]

namespace Orders

variable {precedes ranks : α → α → Bool} {items others : List α}

theorem of_subset (orders : Orders precedes items) (subset : others ⊆ items) :
    Orders precedes others where
  total := fun left listed right alsoListed =>
    orders.total left (subset listed) right (subset alsoListed)
  trans := fun first listed second alsoListed third thirdListed =>
    orders.trans first (subset listed) second (subset alsoListed) third (subset thirdListed)

theorem refl (orders : Orders precedes items) {item : α} (listed : item ∈ items) :
    precedes item item = true :=
  (orders.total item listed item listed).elim id id

/-- The order of the items with the proof that they are among the items. -/
def onMembers (precedes : α → α → Bool) (items : List α) (left right : { item // item ∈ items }) :
    Bool := precedes left right

theorem map_mergeSort_attach (precedes : α → α → Bool) (items : List α) :
    (items.attach.mergeSort (onMembers precedes items)).map Subtype.val =
      items.mergeSort precedes :=
  calc (items.attach.mergeSort (onMembers precedes items)).map Subtype.val
      = (items.attach.map Subtype.val).mergeSort precedes :=
        List.map_mergeSort fun _ _ _ _ => rfl
    _ = items.mergeSort precedes := by rw [List.attach_map_subtype_val]

theorem onMembers_trans (orders : Orders precedes items)
    (first second third : { item // item ∈ items }) :
    onMembers precedes items first second = true → onMembers precedes items second third = true →
      onMembers precedes items first third = true :=
  orders.trans first first.2 second second.2 third third.2

theorem onMembers_total (orders : Orders precedes items) (left right : { item // item ∈ items }) :
    (onMembers precedes items left right || onMembers precedes items right left) = true := by
  rw [Bool.or_eq_true]
  exact orders.total left left.2 right right.2

theorem pairwise_mergeSort (orders : Orders precedes items) :
    (items.mergeSort precedes).Pairwise fun left right => precedes left right = true := by
  rw [← map_mergeSort_attach, List.pairwise_map]
  exact List.pairwise_mergeSort orders.onMembers_trans orders.onMembers_total _

/-- Items that are in order already keep their order. -/
theorem sublist_mergeSort (orders : Orders precedes items)
    (ordered : others.Pairwise fun left right => precedes left right = true)
    (within : others.Sublist items) : others.Sublist (items.mergeSort precedes) := by
  rw [← items.attach_map_subtype_val, List.sublist_map_iff] at within
  rcases within with ⟨members, within, rfl⟩
  rw [List.pairwise_map] at ordered
  rw [← map_mergeSort_attach]
  exact (List.sublist_mergeSort orders.onMembers_trans orders.onMembers_total ordered within).map _

/-- A selection of the items that is in order already is the same after sorting. -/
theorem filter_mergeSort (orders : Orders precedes items) {keep : α → Bool}
    (ordered : (items.filter keep).Pairwise fun left right => precedes left right = true) :
    (items.mergeSort precedes).filter keep = items.filter keep := by
  have within := (orders.sublist_mergeSort ordered List.filter_sublist).filter keep
  rw [List.filter_filter] at within
  simp only [Bool.and_self] at within
  have sameLength := ((List.mergeSort_perm items precedes).filter keep).length_eq
  exact (within.eq_of_length sameLength.symm).symm

/-- Items that are tied to one item are in order. -/
theorem pairwise_tied (orders : Orders precedes items) {item : α} (listed : item ∈ items) :
    (items.filter (isTied precedes item)).Pairwise
      fun left right => precedes left right = true := by
  apply List.pairwise_of_forall_mem_list
  intro left leftTied right rightTied
  rw [List.mem_filter, isTied_iff] at leftTied rightTied
  exact orders.trans left leftTied.1 item listed right rightTied.1 leftTied.2.2 rightTied.2.1

theorem filter_isTied_mergeSort (orders : Orders precedes items) {item : α}
    (listed : item ∈ items) :
    (items.mergeSort precedes).filter (isTied precedes item) =
      items.filter (isTied precedes item) :=
  orders.filter_mergeSort (orders.pairwise_tied listed)

/-- Sorting keeps the order of tied items. -/
theorem ties_mergeSort (orders : Orders precedes items)
    (ranked : items.Pairwise fun left right => ranks left right = true) :
    (items.mergeSort precedes).Pairwise fun left right =>
      precedes right left = true → ranks left right = true := by
  rw [List.pairwise_iff_forall_sublist]
  intro left right within back
  have forth := List.pairwise_iff_forall_sublist.mp orders.pairwise_mergeSort within
  have listed : left ∈ items := List.mem_mergeSort.mp (within.mem (by simp))
  have inTie := within.filter (isTied precedes left)
  rw [orders.filter_isTied_mergeSort listed] at inTie
  simp only [isTied, orders.refl listed, forth, back, List.filter_cons, Bool.and_self, if_true,
    List.filter_nil] at inTie
  exact List.pairwise_iff_forall_sublist.mp ranked (inTie.trans List.filter_sublist)

/-- Ordered lists with the same items are the same when they hold each group of tied items in
the same order. -/
theorem eq_of_filter_isTied (orders : Orders precedes items) (perm : items.Perm others)
    (ordered : items.Pairwise fun left right => precedes left right = true)
    (otherOrdered : others.Pairwise fun left right => precedes left right = true)
    (same : ∀ item ∈ items,
      items.filter (isTied precedes item) = others.filter (isTied precedes item)) :
    items = others := by
  induction items generalizing others with
  | nil => exact perm.nil_eq
  | cons first items ih =>
      cases others with
      | nil => exact perm.eq_nil
      | cons second others =>
          have listed : second ∈ first :: items := perm.mem_iff.mpr List.mem_cons_self
          have otherListed : first ∈ second :: others := perm.mem_iff.mp List.mem_cons_self
          have forth : precedes first second = true := by
            rcases List.mem_cons.mp listed with rfl | later
            · exact orders.refl listed
            · exact (List.pairwise_cons.mp ordered).1 second later
          have back : precedes second first = true := by
            rcases List.mem_cons.mp otherListed with rfl | later
            · exact orders.refl listed
            · exact (List.pairwise_cons.mp otherOrdered).1 first later
          -- Both are the first of their group, which is one group.
          obtain rfl : first = second := by
            have group := same first List.mem_cons_self
            simp only [List.filter_cons, isTied, forth, back,
              orders.refl List.mem_cons_self, Bool.and_self, if_true] at group
            exact (List.cons.inj group).1
          congr 1
          apply ih (orders.of_subset (List.subset_cons_self _ _)) perm.cons_inv
            (List.pairwise_cons.mp ordered).2 (List.pairwise_cons.mp otherOrdered).2
          intro item member
          have group := same item (List.mem_cons_of_mem first member)
          rw [List.filter_cons, List.filter_cons] at group
          split at group
          · exact (List.cons.inj group).2
          · exact group

/-- A list in order whose ties are ranked comes back when it is sorted by rank and then into
order. -/
theorem mergeSort_mergeSort_eq (orders : Orders precedes items) (ranking : Orders ranks items)
    (ordered : items.Pairwise fun left right => precedes left right = true)
    (ties : items.Pairwise fun left right =>
      precedes right left = true → ranks left right = true) :
    (items.mergeSort ranks).mergeSort precedes = items := by
  have perm := List.mergeSort_perm items ranks
  have ranked : Orders precedes (items.mergeSort ranks) := orders.of_subset perm.subset
  symm
  apply orders.eq_of_filter_isTied (perm.symm.trans (List.mergeSort_perm _ _).symm) ordered
    ranked.pairwise_mergeSort
  intro item listed
  rw [ranked.filter_isTied_mergeSort (perm.mem_iff.mpr listed)]
  symm
  apply ranking.filter_mergeSort
  refine (ties.filter _).imp_of_mem ?_
  intro left right leftTied rightTied tied
  rw [List.mem_filter, isTied_iff] at leftTied rightTied
  exact tied (orders.trans right rightTied.1 item listed left leftTied.1 rightTied.2.2
    leftTied.2.1)

end Orders

/-! ## Runs -/

/-- Whether each item may stand right in front of the next one. -/
def IsRun (precedes : α → α → Bool) (items : List α) : Prop :=
  items.IsChain fun left right => precedes left right = true

/-- What is relied on about a sort, also where items are not in an order: it loses and adds no
item, makes a run when of two items at least one may stand in front of the other, and leaves a
run as it is. -/
structure Sorter.KeepsRuns (sort : Sorter α) : Prop where
  perm (precedes : α → α → Bool) (items : List α) : (sort precedes items).Perm items
  isRun {precedes : α → α → Bool} {items : List α} :
    (∀ left ∈ items, ∀ right ∈ items, precedes left right = true ∨ precedes right left = true) →
      IsRun precedes (sort precedes items)
  eq_self {precedes : α → α → Bool} {items : List α} :
    IsRun precedes items → sort precedes items = items

section

variable {precedes : α → α → Bool} {items lefts rights : List α}

theorem isRun_iff : isRun precedes items = true ↔ IsRun precedes items := by
  unfold IsRun
  fun_induction isRun precedes items with
  | case1 first second rest ih => rw [Bool.and_eq_true, ih, List.isChain_cons_cons]
  | case2 items short =>
      simp only [true_iff]
      match items, short with
      | [], _ => exact .nil
      | [item], _ => exact .singleton item
      | first :: second :: rest, short => exact (short first second rest rfl).elim

/-- An ordered list is a run, and in an order a run is ordered. -/
theorem Orders.isRun_iff_pairwise (orders : Orders precedes items) :
    IsRun precedes items ↔ items.Pairwise fun left right => precedes left right = true := by
  refine ⟨fun run => ?_, List.Pairwise.isChain⟩
  induction items with
  | nil => exact .nil
  | cons first rest ih =>
      have pairwise :=
        ih (orders.of_subset (List.subset_cons_self _ _)) (List.isChain_cons.mp run).2
      refine .cons (fun later listed => ?_) pairwise
      cases rest with
      | nil => cases listed
      | cons second rest =>
          have step : precedes first second = true := (List.isChain_cons_cons.mp run).1
          rcases List.mem_cons.mp listed with rfl | behind
          · exact step
          · exact orders.trans first (by simp) second (by simp) later (by simp [behind]) step
              ((List.pairwise_cons.mp pairwise).1 later behind)

/-- Where items are in an order, leaving runs as they are makes no difference. -/
theorem Orders.sortRuns_eq_mergeSort (orders : Orders precedes items) :
    sortRuns precedes items = items.mergeSort precedes := by
  rw [sortRuns]
  split
  next run =>
    exact (List.mergeSort_of_pairwise (orders.isRun_iff_pairwise.mp (isRun_iff.mp run))).symm
  next => rfl

/-- A merged list begins as one of the two does. -/
theorem mem_head?_merge {first : α} (begins : first ∈ (lefts.merge rights precedes).head?) :
    first ∈ lefts.head? ∨ first ∈ rights.head? := by
  match lefts, rights with
  | [], rights => exact .inr (by rwa [List.nil_merge] at begins)
  | left :: lefts, [] => exact .inl (by rwa [List.merge_right] at begins)
  | left :: lefts, right :: rights =>
      rw [List.cons_merge_cons] at begins
      split at begins
      · exact .inl begins
      · exact .inr begins

theorem isRun_merge
    (total : ∀ left ∈ lefts, ∀ right ∈ rights,
      precedes left right = true ∨ precedes right left = true)
    (leftRun : IsRun precedes lefts) (rightRun : IsRun precedes rights) :
    IsRun precedes (lefts.merge rights precedes) := by
  induction lefts generalizing rights with
  | nil => rwa [List.nil_merge]
  | cons left lefts leftIH =>
      induction rights with
      | nil => rwa [List.merge_right]
      | cons right rights rightIH =>
          rcases List.isChain_cons.mp leftRun with ⟨fromLeft, leftRest⟩
          rcases List.isChain_cons.mp rightRun with ⟨fromRight, rightRest⟩
          rw [List.cons_merge_cons]
          split
          next before =>
            refine List.isChain_cons.mpr ⟨fun first begins => ?_, leftIH ?_ leftRest rightRun⟩
            · rcases mem_head?_merge begins with inLefts | inRights
              · exact fromLeft first inLefts
              · cases inRights
                exact before
            · exact fun each listed => total each (List.mem_cons_of_mem left listed)
          next notBefore =>
            refine List.isChain_cons.mpr ⟨fun first begins => ?_, rightIH ?_ rightRest⟩
            · rcases mem_head?_merge begins with inLefts | inRights
              · cases inLefts
                exact (total left List.mem_cons_self right List.mem_cons_self).resolve_left
                  notBefore
              · exact fromRight first inRights
            · exact fun each listed other also =>
                total each listed other (List.mem_cons_of_mem right also)

/-- Sorting by merging makes a run, although it may not leave one as it is. -/
theorem isRun_mergeSort
    (total : ∀ left ∈ items, ∀ right ∈ items,
      precedes left right = true ∨ precedes right left = true) :
    IsRun precedes (items.mergeSort precedes) := by
  induction size : items.length using Nat.strongRecOn generalizing items with
  | _ count ih =>
  match items with
  | [] => rw [List.mergeSort_nil]; exact .nil
  | [item] => rw [List.mergeSort_singleton]; exact .singleton item
  | first :: second :: rest =>
      have half {part : List α} (within : part ⊆ first :: second :: rest)
          (shorter : part.length < count) : IsRun precedes (part.mergeSort precedes) :=
        ih part.length shorter
          (fun left listed right also => total left (within listed) right (within also)) rfl
      rw [List.mergeSort]
      simp only [List.MergeSort.Internal.splitInTwo_fst, List.MergeSort.Internal.splitInTwo_snd]
      apply isRun_merge
      · intro left listed right also
        exact total left (List.mem_of_mem_take (List.mem_mergeSort.mp listed)) right
          (List.mem_of_mem_drop (List.mem_mergeSort.mp also))
      · apply half (List.take_subset _ _)
        simp only [List.length_cons, List.length_take] at size ⊢
        omega
      · apply half (List.drop_subset _ _)
        simp only [List.length_cons, List.length_drop] at size ⊢
        omega

end

theorem sortRuns_keepsRuns : Sorter.KeepsRuns (sortRuns : Sorter α) where
  perm precedes items := by
    rw [sortRuns]
    split
    · exact .refl items
    · exact List.mergeSort_perm items precedes
  isRun total := by
    rw [sortRuns]
    split
    next run => exact isRun_iff.mp run
    next => exact isRun_mergeSort total
  eq_self run := by rw [sortRuns, if_pos (isRun_iff.mpr run)]

end SpecFinder
