import Mathlib.Data.List.Nodup
import Mathlib.Data.List.Pairwise
import SwapWatch.Scan

/-!
# Merged blocks

Merging puts scanned blocks in the order of their ranks and changes nothing else: every event is
kept, and blocks of one rank keep their order. There is only one such order. So it does not show in
which order blocks of different ranks were scanned, nor in which groups they were merged, as long as
no group belongs in front of an earlier one.
-/

set_option autoImplicit false

namespace SwapWatch

def Sighting.rank (sighting : Sighting) : Int :=
  sighting.1.getD (-1)

namespace BlockEvents

/-! ## The order of blocks -/

/-- The blocks in the order in which their events are merged. -/
def ordered (parts : List BlockEvents) : List BlockEvents :=
  parts.mergeSort fun left right => left.rank ≤ right.rank

def Rising (parts : List BlockEvents) : Prop :=
  parts.Pairwise fun left right => left.rank ≤ right.rank

theorem ordered_perm (parts : List BlockEvents) : (ordered parts).Perm parts :=
  List.mergeSort_perm _ _

private theorem rank_trans (left middle right : BlockEvents)
    (below : decide (left.rank ≤ middle.rank) = true)
    (above : decide (middle.rank ≤ right.rank) = true) : decide (left.rank ≤ right.rank) = true :=
  decide_eq_true (Int.le_trans (of_decide_eq_true below) (of_decide_eq_true above))

private theorem rank_total (left right : BlockEvents) :
    (decide (left.rank ≤ right.rank) || decide (right.rank ≤ left.rank)) = true := by
  simpa using Int.le_total left.rank right.rank

theorem ordered_rising (parts : List BlockEvents) : Rising (ordered parts) :=
  (List.pairwise_mergeSort rank_trans rank_total parts).imp of_decide_eq_true

theorem ordered_of_rising {parts : List BlockEvents} (rising : Rising parts) :
    ordered parts = parts :=
  List.mergeSort_of_pairwise (rising.imp decide_eq_true)

theorem filter_ordered (parts : List BlockEvents) (rank : Int) :
    (ordered parts).filter (·.rank = rank) = parts.filter (·.rank = rank) := by
  have level : (parts.filter (·.rank = rank)).Pairwise
      fun left right => decide (left.rank ≤ right.rank) = true := by
    apply List.pairwise_of_forall_mem_list
    intro left member right member'
    have same : left.rank = rank := of_decide_eq_true (List.mem_filter.mp member).2
    have same' : right.rank = rank := of_decide_eq_true (List.mem_filter.mp member').2
    exact decide_eq_true (Int.le_of_eq (same.trans same'.symm))
  have kept : (parts.filter (·.rank = rank)).Sublist (ordered parts) :=
    List.sublist_mergeSort rank_trans rank_total level List.filter_sublist
  have within := kept.filter (·.rank = rank)
  rw [List.filter_filter] at within
  simp only [Bool.and_self] at within
  exact (within.eq_of_length ((ordered_perm parts).filter _).length_eq.symm).symm

theorem mem_iff_of_filter_eq {left right : List BlockEvents}
    (same : ∀ rank, left.filter (·.rank = rank) = right.filter (·.rank = rank))
    (part : BlockEvents) : part ∈ left ↔ part ∈ right := by
  have found := congrArg (part ∈ ·) (same part.rank)
  simpa using found

theorem Rising.head_le {part other : BlockEvents} {parts : List BlockEvents}
    (rising : Rising (part :: parts)) (member : other ∈ part :: parts) :
    part.rank ≤ other.rank := by
  cases member with
  | head => exact Int.le_refl _
  | tail _ member => exact (List.pairwise_cons.mp rising).1 other member

/-- There is only one order of the ranks in which the blocks of each rank stand in a given order. -/
theorem eq_of_rising {left right : List BlockEvents} (rising : Rising left)
    (rising' : Rising right)
    (same : ∀ rank, left.filter (·.rank = rank) = right.filter (·.rank = rank)) :
    left = right := by
  induction left generalizing right with
  | nil =>
    have none : right = [] := by
      apply List.eq_nil_iff_forall_not_mem.mpr
      intro part member
      cases (mem_iff_of_filter_eq same part).mpr member
    exact none.symm
  | cons part parts ih =>
    cases right with
    | nil => cases (mem_iff_of_filter_eq same part).mp (.head _)
    | cons part' parts' =>
      have below : part.rank ≤ part'.rank :=
        rising.head_le ((mem_iff_of_filter_eq same part').mpr (.head _))
      have above : part'.rank ≤ part.rank :=
        rising'.head_le ((mem_iff_of_filter_eq same part).mp (.head _))
      have level := same part.rank
      rw [List.filter_cons_of_pos (by simp),
        List.filter_cons_of_pos (by simpa using Int.le_antisymm above below)] at level
      obtain ⟨rfl, others⟩ := List.cons_eq_cons.mp level
      have tails : ∀ rank, parts.filter (·.rank = rank) = parts'.filter (·.rank = rank) := by
        intro rank
        by_cases first : part.rank = rank
        · rw [← first]
          exact others
        · have later := same rank
          rwa [List.filter_cons_of_neg (by simpa using first),
            List.filter_cons_of_neg (by simpa using first)] at later
      rw [ih rising.of_cons rising'.of_cons tails]

theorem ordered_eq_of_perm {parts parts' : List BlockEvents} (same : parts'.Perm parts)
    (distinct : (parts.map rank).Nodup) : ordered parts' = ordered parts := by
  have perm : (ordered parts').Perm (ordered parts) :=
    (ordered_perm parts').trans (same.trans (ordered_perm parts).symm)
  apply perm.eq_of_pairwise _ (ordered_rising parts') (ordered_rising parts)
  intro left right member member' below above
  have among : left ∈ parts := (ordered_perm parts).subset (perm.subset member)
  have among' : right ∈ parts := (ordered_perm parts).subset member'
  exact List.inj_on_of_nodup_map distinct among among' (Int.le_antisymm below above)

theorem flatMap_ordered {groups : List (List BlockEvents)}
    (apart : groups.Pairwise fun earlier later =>
      ∀ left ∈ earlier, ∀ right ∈ later, left.rank ≤ right.rank) :
    groups.flatMap ordered = ordered groups.flatten := by
  apply eq_of_rising _ (ordered_rising _)
  · intro rank
    rw [filter_ordered, List.filter_flatMap, List.filter_flatten, List.flatMap_def]
    simp only [filter_ordered]
  · apply List.pairwise_flatMap.mpr
    refine ⟨fun group _ => ordered_rising group, apart.imp ?_⟩
    intro earlier later below left member right member'
    exact below left ((ordered_perm earlier).subset member) right
      ((ordered_perm later).subset member')

/-! ## The order of events -/

theorem rank_of_mem_sightings {part : BlockEvents} {sighting : Sighting}
    (member : sighting ∈ part.sightings) : sighting.rank = part.rank := by
  obtain ⟨event, -, rfl⟩ := List.mem_map.mp member
  rfl

theorem filter_sightings (part : BlockEvents) (rank : Int) :
    part.sightings.filter (·.rank = rank) = if part.rank = rank then part.sightings else [] := by
  by_cases level : part.rank = rank
  · rw [if_pos level, List.filter_eq_self]
    intro sighting member
    exact decide_eq_true ((rank_of_mem_sightings member).trans level)
  · rw [if_neg level, List.filter_eq_nil_iff]
    intro sighting member
    rw [rank_of_mem_sightings member]
    simpa using level

theorem filter_flatMap_sightings (parts : List BlockEvents) (rank : Int) :
    (parts.flatMap sightings).filter (·.rank = rank) =
      (parts.filter (·.rank = rank)).flatMap sightings := by
  rw [List.filter_flatMap]
  induction parts with
  | nil => rfl
  | cons part parts ih =>
    rw [List.flatMap_cons, ih, filter_sightings]
    by_cases level : part.rank = rank
    · rw [if_pos level, List.filter_cons_of_pos (by simpa using level), List.flatMap_cons]
    · rw [if_neg level, List.filter_cons_of_neg (by simpa using level), List.nil_append]

theorem merge_eq_flatMap_ordered (parts : List BlockEvents) :
    merge parts = (ordered parts).flatMap sightings :=
  rfl

theorem merge_of_rising {parts : List BlockEvents} (rising : Rising parts) :
    merge parts = parts.flatMap sightings := by
  rw [merge_eq_flatMap_ordered, ordered_of_rising rising]

theorem merge_perm (parts : List BlockEvents) :
    (merge parts).Perm (parts.flatMap sightings) :=
  (ordered_perm parts).flatMap_right _

theorem merge_rising (parts : List BlockEvents) :
    (merge parts).Pairwise fun left right => left.rank ≤ right.rank := by
  apply List.pairwise_flatMap.mpr
  constructor
  · intro part _
    apply List.pairwise_of_forall_mem_list
    intro left member right member'
    exact Int.le_of_eq
      ((rank_of_mem_sightings member).trans (rank_of_mem_sightings member').symm)
  · apply (ordered_rising parts).imp
    intro part part' below left member right member'
    rwa [rank_of_mem_sightings member, rank_of_mem_sightings member']

/-- What a merge keeps of the blocks and how it orders them. -/
structure MergesStably (parts : List BlockEvents) : Prop where
  /-- Each event stands under the height of its block as often as the blocks hold it. -/
  lossless : (merge parts).Perm
    (parts.flatMap fun part => part.events.map fun event => (part.height, event))
  rising : (merge parts).Pairwise fun left right => left.rank ≤ right.rank
  /-- The events of one rank are those of the blocks of this rank, block after block, and of each
  block the deposits, then the receipts, then the refunds. -/
  stable : ∀ rank, (merge parts).filter (·.rank = rank) =
    (parts.filter (·.rank = rank)).flatMap fun part =>
      part.deposits.map (fun deposit => (part.height, Event.deposit deposit)) ++
        part.receipts.map (fun receipt => (part.height, Event.receipt receipt)) ++
        part.refunds.map (fun refund => (part.height, Event.refund refund))
  /-- In another order, blocks of different ranks give the same. -/
  unordered : ∀ parts' : List BlockEvents, parts'.Perm parts → (parts.map rank).Nodup →
    merge parts' = merge parts
  /-- In consecutive groups whose ranks do not overlap, the blocks give the same. -/
  grouped : ∀ groups : List (List BlockEvents), groups.flatten = parts →
    (groups.Pairwise fun earlier later =>
      ∀ left ∈ earlier, ∀ right ∈ later, left.rank ≤ right.rank) →
    groups.flatMap merge = merge parts

/-- Merging orders scanned blocks by rank, loses nothing and keeps what is in order already. -/
theorem merge_mergesStably (parts : List BlockEvents) : MergesStably parts where
  lossless := merge_perm parts
  rising := merge_rising parts
  stable rank := by
    rw [merge_eq_flatMap_ordered, filter_flatMap_sightings, filter_ordered]
    congr 1
    funext part
    simp [sightings, events, Function.comp_def]
  unordered parts' same distinct := by
    rw [merge_eq_flatMap_ordered, merge_eq_flatMap_ordered, ordered_eq_of_perm same distinct]
  grouped groups joined apart := by
    rw [← joined, merge_eq_flatMap_ordered, ← flatMap_ordered apart, List.flatMap_assoc]
    rfl

end BlockEvents

end SwapWatch
