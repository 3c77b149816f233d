import Ggid.Identity.Groups
import Mathlib.Tactic.SplitIfs

/-!
# Identity service — pages of groups

A client that reads the groups page by page advances `startIndex` by `count`. It sees every group
once if a page has the `count` groups from `startIndex` on.

* `positions_append`   — such pages follow one another;
* `page_eq_positions`  — a page has one group more;
* `listGroups_eq_iff`  — when that does not show.
-/

namespace Ggid.Identity.Groups

open Ggid.Go Ggid.Lib

variable {std : Stdlib} {collate : String → String → Bool} {groups : List SCIMGroup}
  {startIndex count : Int}

/-- The groups at the positions from `startIndex` to `startIndex + count - 1`, counted from one, as
far as there are any. -/
def positions (groups : List SCIMGroup) (startIndex count : Int) : List SCIMGroup :=
  (groups.drop (startIndex - 1).toNat).take count.toNat

-- ---------------------------------------------------------------------------
-- Positions
-- ---------------------------------------------------------------------------

/-- Consecutive pages lose no group and repeat none. -/
theorem positions_append (hs : 1 ≤ startIndex) (hc : 0 ≤ count) {more : Int} (hm : 0 ≤ more) :
    positions groups startIndex count ++ positions groups (startIndex + count) more =
      positions groups startIndex (count + more) := by
  unfold positions
  have hnext : (startIndex + count - 1).toNat = (startIndex - 1).toNat + count.toNat := by omega
  rw [hnext, ← List.drop_drop, Int.toNat_add hc hm, List.take_add]

theorem positions_eq_nil (h : groups.length < startIndex) :
    positions groups startIndex count = [] := by
  unfold positions
  rw [List.drop_eq_nil_of_le (by omega), List.take_nil]

/-- Pages from the same position are the same if they have as many groups. -/
theorem positions_eq_iff {count' : Int} :
    positions groups startIndex count = positions groups startIndex count' ↔
      min count.toNat (groups.length - (startIndex - 1).toNat) =
        min count'.toNat (groups.length - (startIndex - 1).toNat) := by
  unfold positions
  rw [List.take_eq_take_iff, List.length_drop]

-- ---------------------------------------------------------------------------
-- Pages
-- ---------------------------------------------------------------------------

theorem page_past (h : groups.length < startIndex) : page groups startIndex count = some [] :=
  if_pos h

/-- **A page has one group more** than was asked for. -/
theorem page_eq_positions (hs : 1 ≤ startIndex) (hc : 0 ≤ count)
    (hlast : startIndex ≤ groups.length) (hfits : startIndex + count < 2 ^ 63) :
    page groups startIndex count = some (positions groups startIndex (count + 1)) := by
  have hsum : (startIndex + count).bmod (2 ^ 64) = startIndex + count :=
    Int.bmod_eq_of_le (by omega) (by omega)
  unfold page positions
  simp only [hsum]
  rw [if_neg (by omega), if_neg (by omega), List.drop_take]
  rw [Option.some.injEq, List.take_eq_take_iff, List.length_drop]
  omega

/-- A sum that is too large is negative, and the slice ends before it starts. -/
theorem page_overflow (hs : 1 ≤ startIndex) (hlast : startIndex ≤ groups.length)
    (hstart : startIndex < 2 ^ 63) (hcount : count < 2 ^ 63)
    (hover : 2 ^ 63 ≤ startIndex + count) : page groups startIndex count = none := by
  have hsum : (startIndex + count).bmod (2 ^ 64) = startIndex + count - 2 ^ 64 := by
    rw [← Int.sub_bmod_right]
    exact Int.bmod_eq_of_le (by omega) (by omega)
  unfold page
  simp only [hsum]
  rw [if_neg (by omega), if_pos (by omega)]

-- ---------------------------------------------------------------------------
-- Answers
-- ---------------------------------------------------------------------------

/-- The answer with the page that was asked for. -/
def pageAnswer (groups : List SCIMGroup) (startIndex count : Int) : GroupResponse :=
  .list groups.length startIndex (positions groups startIndex count).length
    (positions groups startIndex count)

/-- A number that is not positive is taken for none. -/
theorem filter_getD {param : Option Int} {default : Int} (h : 0 ≤ param.getD default) :
    (param.filter fun v => 0 < v).getD default =
      if param.getD default = 0 then default else param.getD default := by
  cases param with
  | none => split_ifs <;> rfl
  | some v =>
    rw [Option.getD_some] at h ⊢
    rw [Option.filter_some]
    by_cases hv : v = 0
    · simp [hv]
    · have hpos : 0 < v := by omega
      simp [hv, hpos]

/-- **A list request** is answered with the page that was asked for exactly if the list ends on it
or before it. A page without groups is not asked for: a `count` of zero stands for the default. -/
theorem listGroups_eq_iff (std : Stdlib) (collate : String → String → Bool) (t : GroupTable)
    (roles : Option (List (String × Option String))) (tenantID : UUID) (q : ListQuery)
    (fails : Faults) {startIndex count : Int} (hstart : q.startIndex.getD 1 = startIndex)
    (hcount : q.count.getD 100 = count) (hs : 1 ≤ startIndex) (hs' : startIndex < 2 ^ 63)
    (hc : 0 ≤ count) (hc' : count < 2 ^ 63) :
    listGroups std collate t roles (some tenantID) q fails =
        pageAnswer (mergedGroups std collate t roles tenantID (filterName q.filter) fails)
          startIndex count ↔
      (mergedGroups std collate t roles tenantID (filterName q.filter) fails).length < startIndex ∨
        0 < count ∧ startIndex + count < 2 ^ 63 ∧
          (mergedGroups std collate t roles tenantID (filterName q.filter) fails).length <
            startIndex + count := by
  subst hstart hcount
  have hsUsed : (q.startIndex.filter fun v => 0 < v).getD 1 = q.startIndex.getD 1 := by
    rw [filter_getD (by omega), if_neg (by omega)]
  unfold listGroups pageAnswer
  simp only [filter_getD hc, hsUsed]
  generalize mergedGroups std collate t roles tenantID (filterName q.filter) fails = groups
  generalize q.startIndex.getD 1 = startIndex at *
  generalize q.count.getD 100 = count at *
  by_cases hpast : groups.length < startIndex
  · rw [page_past hpast, positions_eq_nil hpast]
    exact iff_of_true rfl (.inl hpast)
  have hlast : startIndex ≤ groups.length := by omega
  have hused : 0 < (if count = 0 then 100 else count) := by
    split_ifs <;> omega
  by_cases hfits : startIndex + (if count = 0 then 100 else count) < 2 ^ 63
  · rw [page_eq_positions hs hused.le hlast hfits]
    have hpages : GroupResponse.list groups.length startIndex
          (positions groups startIndex ((if count = 0 then 100 else count) + 1)).length
          (positions groups startIndex ((if count = 0 then 100 else count) + 1)) =
        .list groups.length startIndex (positions groups startIndex count).length
          (positions groups startIndex count) ↔
        positions groups startIndex ((if count = 0 then 100 else count) + 1) =
          positions groups startIndex count :=
      ⟨fun h => (GroupResponse.list.inj h).2.2.2, fun h => by rw [h]⟩
    refine hpages.trans ?_
    rw [positions_eq_iff]
    split_ifs at hfits ⊢ <;> omega
  · rw [page_overflow hs hlast hs' (by split_ifs <;> omega) (by omega)]
    refine iff_of_false (fun h => by cases h) ?_
    split_ifs at hfits <;> omega

-- ---------------------------------------------------------------------------
-- One group of two
-- ---------------------------------------------------------------------------

/-- A page of one group has both. -/
theorem listGroups_two_of_one :
    listGroups Identity.Sample.stdlib (fun _ _ => true) Table.empty none (some 1)
        ⟨some 1, some 1, ""⟩ (fun _ => false) ≠
      pageAnswer (mergedGroups Identity.Sample.stdlib (fun _ _ => true) Table.empty none 1
        (filterName "") fun _ => false) 1 1 := by
  intro h
  have hitems := congrArg (fun | .list _ _ itemsPerPage _ => itemsPerPage | _ => 0) h
  exact absurd hitems (by decide +kernel)

theorem listGroups_eq_iff_two :
    listGroups Identity.Sample.stdlib (fun _ _ => true) Table.empty none (some 1)
        ⟨some 1, some 1, ""⟩ (fun _ => false) =
      pageAnswer (mergedGroups Identity.Sample.stdlib (fun _ _ => true) Table.empty none 1
        (filterName "") fun _ => false) 1 1 ↔
      (mergedGroups Identity.Sample.stdlib (fun _ _ => true) Table.empty none 1
          (filterName "") fun _ => false).length < (1 : Int) ∨
        (0 : Int) < 1 ∧ (1 : Int) + 1 < 2 ^ 63 ∧
          (mergedGroups Identity.Sample.stdlib (fun _ _ => true) Table.empty none 1
            (filterName "") fun _ => false).length < (1 : Int) + 1 :=
  listGroups_eq_iff Identity.Sample.stdlib (fun _ _ => true) Table.empty none 1
    ⟨some 1, some 1, ""⟩ (fun _ => false) rfl rfl (by decide) (by decide) (by decide) (by decide)

end Ggid.Identity.Groups
