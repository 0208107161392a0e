/-
A log that grows at its head and takes an entry only if it is not the same as
one of the newest few, and the window onto those few that a program can keep
instead.
-/
import Mathlib.Data.List.Basic
import Mathlib.Data.List.Pairwise

namespace RecentWindow

universe u

variable {α : Type u}

/-- Put an entry on the log unless one of the `size` newest is the same. -/
def record (size : Nat) (same : α → α → Bool) (log : List α) (entry : α) :
    List α :=
  if (log.take size).any (fun old => same old entry) then log else entry :: log

/-- Put an entry in the window unless it holds the same one, and let the oldest
go where there are too many. -/
def push (size : Nat) (same : α → α → Bool) (window : List α) (entry : α) :
    List α :=
  if window.any (fun old => same old entry) then window
  else (entry :: window).take size

/-- Entries that are the same lie at least `size` apart. -/
def Spaced (size : Nat) (same : α → α → Bool) (log : List α) : Prop :=
  ∀ i j newer older, i < j → log[i]? = some newer → log[j]? = some older →
    same older newer = true → i + size ≤ j

variable {size : Nat} {same : α → α → Bool} {log : List α} {entry : α}

/-- What the log has forgotten the window does not miss. -/
theorem push_take :
    push size same (log.take size) entry =
      (record size same log entry).take size := by
  rw [push, record]
  by_cases hold : (log.take size).any fun old => same old entry
  · rw [if_pos hold, if_pos hold]
  · rw [if_neg hold, if_neg hold]
    cases size with
    | zero => rfl
    | succ size =>
        rw [List.take_succ_cons, List.take_succ_cons, List.take_take,
          Nat.min_eq_left (Nat.le_succ size)]

theorem mem_record_iff {member : α} :
    member ∈ record size same log entry ↔
      member ∈ log ∨
        member = entry ∧ ∀ old ∈ log.take size, same old entry = false := by
  rw [record]
  by_cases hold : (log.take size).any fun old => same old entry
  · rw [if_pos hold]
    obtain ⟨old, hmem, hsame⟩ := List.any_eq_true.mp hold
    refine ⟨Or.inl, fun hmember => hmember.elim id fun ⟨_, hfresh⟩ => ?_⟩
    exact absurd hsame (by simp [hfresh old hmem])
  · rw [if_neg hold, List.mem_cons, or_comm]
    have hfresh : ∀ old ∈ log.take size, same old entry = false := by
      simpa using hold
    exact or_congr_right (iff_self_and.mpr fun _ => hfresh)

theorem Spaced.nil : Spaced size same [] := by
  intro i j newer older _ hnewer
  simp at hnewer

/-- A new entry lies `size` before the nearest that is the same. -/
theorem Spaced.record (hspaced : Spaced size same log) :
    Spaced size same (record size same log entry) := by
  rw [RecentWindow.record]
  by_cases hold : (log.take size).any fun old => same old entry
  · rwa [if_pos hold]
  rw [if_neg hold]
  intro i j newer older hlt hnewer holder hsame
  obtain ⟨j, rfl⟩ : ∃ before, j = before + 1 := ⟨j - 1, by omega⟩
  rw [List.getElem?_cons_succ] at holder
  cases i with
  | zero =>
      rw [List.getElem?_cons_zero, Option.some.injEq] at hnewer
      subst hnewer
      by_contra hnear
      have hmem : older ∈ log.take size := by
        refine List.mem_iff_getElem?.mpr ⟨j, ?_⟩
        rw [List.getElem?_take_of_lt (by omega), holder]
      exact hold (List.any_eq_true.mpr ⟨older, hmem, hsame⟩)
  | succ i =>
      rw [List.getElem?_cons_succ] at hnewer
      have hfar := hspaced i j newer older (by omega) hnewer holder hsame
      omega

/-- Changes that do not touch what makes entries the same keep them apart. -/
theorem Spaced.map {change : α → α} (hspaced : Spaced size same log)
    (hsame : ∀ older newer,
      same (change older) (change newer) = same older newer) :
    Spaced size same (log.map change) := by
  intro i j newer older hlt hnewer holder htwins
  rw [List.getElem?_map, Option.map_eq_some_iff] at hnewer holder
  obtain ⟨newer, hnewer, rfl⟩ := hnewer
  obtain ⟨older, holder, rfl⟩ := holder
  exact hspaced i j newer older hlt hnewer holder (hsame older newer ▸ htwins)

/-- No two entries of the window are the same. -/
theorem Spaced.window (hspaced : Spaced size same log) :
    (log.take size).Pairwise fun newer older => same older newer = false := by
  rw [List.pairwise_iff_getElem]
  intro i j hi hj hlt
  rw [List.length_take] at hi hj
  rw [List.getElem_take, List.getElem_take]
  by_contra hsame
  rw [Bool.not_eq_false] at hsame
  have hfar := hspaced i j _ _ hlt (List.getElem?_eq_getElem _)
    (List.getElem?_eq_getElem _) hsame
  omega

end RecentWindow
