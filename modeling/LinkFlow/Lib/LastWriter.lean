/-
Last-writer-wins registers over a linear order of stamps.  A write replaces the
value unless the register already carries a strictly later stamp, so the stamp
is a maximum whatever the order of the writes; the value is not, as soon as two
of the latest writes differ.
-/
import Mathlib.Order.WithBot
import Mathlib.Order.Bounds.Basic
import Mathlib.Data.List.Induction

namespace LastWriter

universe u v

variable {V : Type u} {T : Type v}

/-- A value with the stamp of the write it came from; `⊥` before any write. -/
structure Register (V : Type u) (T : Type v) where
  value : V
  stamp : WithBot T

structure Write (V : Type u) (T : Type v) where
  value : V
  stamp : T

def Write.register (write : Write V T) : Register V T :=
  ⟨write.value, write.stamp⟩

variable [LinearOrder T]

/-- Writes at the register's own stamp are let through. -/
def Register.apply (register : Register V T) (write : Write V T) :
    Register V T :=
  if register.stamp ≤ write.stamp then write.register else register

def Register.applyAll (register : Register V T) (writes : List (Write V T)) :
    Register V T :=
  writes.foldl Register.apply register

/-- The write is as late as the register and as every other write. -/
def Latest (register : Register V T) (writes : List (Write V T))
    (write : Write V T) : Prop :=
  register.stamp ≤ write.stamp ∧ ∀ other ∈ writes, other.stamp ≤ write.stamp

theorem Register.stamp_apply (register : Register V T) (write : Write V T) :
    (register.apply write).stamp = max register.stamp write.stamp := by
  rw [Register.apply]
  split
  next hle => exact (max_eq_right hle).symm
  next hlt => exact (max_eq_left (le_of_not_ge hlt)).symm

theorem Register.stamp_le_apply (register : Register V T) (write : Write V T) :
    register.stamp ≤ (register.apply write).stamp := by
  rw [register.stamp_apply]
  exact le_max_left _ _

@[simp] theorem Register.applyAll_nil (register : Register V T) :
    register.applyAll [] = register :=
  rfl

@[simp] theorem Register.applyAll_concat (register : Register V T)
    (writes : List (Write V T)) (write : Write V T) :
    register.applyAll (writes ++ [write]) =
      (register.applyAll writes).apply write := by
  simp [Register.applyAll]

theorem Register.stamp_le_applyAll (register : Register V T)
    (writes : List (Write V T)) :
    register.stamp ≤ (register.applyAll writes).stamp := by
  induction writes using List.reverseRecOn with
  | nil => exact le_refl _
  | append_singleton writes write ih =>
      rw [Register.applyAll_concat]
      exact ih.trans (Register.stamp_le_apply _ write)

theorem Register.write_stamp_le_applyAll (register : Register V T)
    {writes : List (Write V T)} {write : Write V T} (hmem : write ∈ writes) :
    (write.stamp : WithBot T) ≤ (register.applyAll writes).stamp := by
  induction writes using List.reverseRecOn with
  | nil => cases hmem
  | append_singleton writes last ih =>
      rw [Register.applyAll_concat, Register.stamp_apply]
      rcases List.mem_append.mp hmem with hold | hlast
      · exact (ih hold).trans (le_max_left _ _)
      · rw [List.mem_singleton.mp hlast]
        exact le_max_right _ _

/-- Either every write was stale and the register is untouched, or it holds
one of the latest writes. -/
theorem Register.applyAll_settles (register : Register V T)
    (writes : List (Write V T)) :
    (register.applyAll writes = register ∧
        ∀ write ∈ writes, ¬ register.stamp ≤ (write.stamp : WithBot T)) ∨
      ∃ write ∈ writes, Latest register writes write ∧
        register.applyAll writes = write.register := by
  induction writes using List.reverseRecOn with
  | nil =>
      left
      simp
  | append_singleton writes last ih =>
      rw [Register.applyAll_concat]
      rw [Register.apply]
      split
      next hle =>
        right
        refine ⟨last, by simp, ⟨?_, fun other hother => ?_⟩, rfl⟩
        · exact (register.stamp_le_applyAll writes).trans hle
        · rcases List.mem_append.mp hother with hold | hlast
          · exact WithBot.coe_le_coe.mp
              ((register.write_stamp_le_applyAll hold).trans hle)
          · rw [List.mem_singleton.mp hlast]
      next hnle =>
        rcases ih with ⟨hsame, hstale⟩ | ⟨write, hmem, hlatest, hvalue⟩
        · left
          refine ⟨hsame, fun write hmem => ?_⟩
          rcases List.mem_append.mp hmem with hold | hlast
          · exact hstale write hold
          · rw [List.mem_singleton.mp hlast, ← hsame]
            exact hnle
        · right
          refine ⟨write, by simp [hmem], ⟨hlatest.1, fun other hother => ?_⟩,
            hvalue⟩
          rcases List.mem_append.mp hother with hold | hlast
          · exact hlatest.2 other hold
          · rw [List.mem_singleton.mp hlast]
            rw [hvalue] at hnle
            exact WithBot.coe_le_coe.mp (le_of_not_ge hnle)

/-- Two lists with the same members, up to order and repetition. -/
def SameMembers {ι : Type*} (first second : List ι) : Prop :=
  ∀ item, item ∈ first ↔ item ∈ second

theorem SameMembers.symm {ι : Type*} {first second : List ι}
    (hsame : SameMembers first second) : SameMembers second first :=
  fun item => (hsame item).symm

theorem SameMembers.trans {ι : Type*} {first second third : List ι}
    (hfirst : SameMembers first second) (hsecond : SameMembers second third) :
    SameMembers first third :=
  fun item => (hfirst item).trans (hsecond item)

theorem SameMembers.map {ι κ : Type*} (f : ι → κ) {first second : List ι}
    (hsame : SameMembers first second) :
    SameMembers (first.map f) (second.map f) := by
  intro value
  simp only [List.mem_map, hsame _]

theorem SameMembers.latest {register : Register V T}
    {first second : List (Write V T)} (hsame : SameMembers first second)
    {write : Write V T} (hlatest : Latest register first write) :
    Latest register second write :=
  ⟨hlatest.1, fun other hother => hlatest.2 other ((hsame other).mpr hother)⟩

/-- The final stamp does not depend on order or repetition. -/
theorem Register.stamp_applyAll_congr (register : Register V T)
    {first second : List (Write V T)} (hsame : SameMembers first second) :
    (register.applyAll first).stamp = (register.applyAll second).stamp := by
  have hle : ∀ {left right : List (Write V T)}, SameMembers left right →
      (register.applyAll left).stamp ≤ (register.applyAll right).stamp := by
    intro left right hwrites
    rcases register.applyAll_settles left with
      ⟨hvalue, _⟩ | ⟨write, hmem, _, hvalue⟩
    · rw [hvalue]
      exact register.stamp_le_applyAll right
    · rw [hvalue]
      exact register.write_stamp_le_applyAll ((hwrites write).mp hmem)
  exact le_antisymm (hle hsame) (hle hsame.symm)

/-- One more round of a latest write leaves the register at that write. -/
theorem Register.applyAll_concat_latest {register : Register V T}
    {writes : List (Write V T)} {write : Write V T}
    (hlatest : Latest register writes write) :
    register.applyAll (writes ++ [write]) = write.register := by
  rw [Register.applyAll_concat, Register.apply, if_pos]
  rcases register.applyAll_settles writes with
    ⟨hvalue, _⟩ | ⟨other, hother, _, hvalue⟩
  · rw [hvalue]
    exact hlatest.1
  · rw [hvalue]
    exact WithBot.coe_le_coe.mpr (hlatest.2 other hother)

/-- The final register is independent of order and repetition exactly when the
latest writes all carry one value. -/
theorem Register.applyAll_agree_iff {ι : Type*} (register : Register V T)
    (write : ι → Write V T) (items : List ι) :
    (∀ first second, SameMembers first items → SameMembers second items →
        register.applyAll (first.map write) =
          register.applyAll (second.map write)) ↔
      ∀ left ∈ items, ∀ right ∈ items,
        Latest register (items.map write) (write left) →
        Latest register (items.map write) (write right) →
          (write left).value = (write right).value := by
  constructor
  · intro hagree left hleft right hright hlatestLeft hlatestRight
    have hround : ∀ item ∈ items, SameMembers (items ++ [item]) items :=
      fun item hitem other => by simp +contextual [hitem]
    have hequal := hagree _ _ (hround left hleft) (hround right hright)
    simp only [List.map_append, List.map_singleton] at hequal
    rw [Register.applyAll_concat_latest hlatestLeft,
      Register.applyAll_concat_latest hlatestRight] at hequal
    exact congrArg Register.value hequal
  · intro hone first second hfirst hsecond
    have hstamp := register.stamp_applyAll_congr
      ((hfirst.map write).trans (hsecond.map write).symm)
    rcases register.applyAll_settles (first.map write) with
      ⟨hfirstValue, hstale⟩ | ⟨left, hleft, hlatestLeft, hfirstValue⟩
    · rcases register.applyAll_settles (second.map write) with
        ⟨hsecondValue, _⟩ | ⟨right, hright, hlatestRight, _⟩
      · rw [hfirstValue, hsecondValue]
      · have hmem := ((hfirst.trans hsecond.symm).map write right).mpr hright
        exact absurd hlatestRight.1 (hstale right hmem)
    · rcases register.applyAll_settles (second.map write) with
        ⟨_, hstale⟩ | ⟨right, hright, hlatestRight, hsecondValue⟩
      · have hmem := ((hfirst.trans hsecond.symm).map write left).mp hleft
        exact absurd hlatestLeft.1 (hstale left hmem)
      · have hleftLatest := (hfirst.map write).latest hlatestLeft
        have hrightLatest := (hsecond.map write).latest hlatestRight
        obtain ⟨leftItem, hleftItem, rfl⟩ := List.mem_map.mp hleft
        obtain ⟨rightItem, hrightItem, rfl⟩ := List.mem_map.mp hright
        have hvalue := hone leftItem ((hfirst leftItem).mp hleftItem) rightItem
          ((hsecond rightItem).mp hrightItem) hleftLatest hrightLatest
        rw [hfirstValue, hsecondValue] at hstamp ⊢
        change ((write leftItem).stamp : WithBot T) = (write rightItem).stamp
          at hstamp
        simp only [Write.register, hvalue, hstamp]

end LastWriter
