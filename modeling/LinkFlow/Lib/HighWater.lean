/-
High-water marks over a discrete linear order.  A mark stands for "everything
below is done"; it is truthful when every position handed out below it really
is done, and raising it past one finished position keeps it truthful exactly
when that position was the first one outstanding.
-/
import Mathlib.Order.SuccPred.Basic
import Mathlib.Data.Set.Insert

namespace HighWater

universe u

variable {α : Type u} [LinearOrder α]

/-- Every position handed out below the mark is done. -/
def Truthful (mark : α) (issued done : Set α) : Prop :=
  ∀ position ∈ issued, position < mark → position ∈ done

theorem Truthful.mono_done {mark : α} {issued first second : Set α}
    (htrue : Truthful mark issued first) (hsub : first ⊆ second) :
    Truthful mark issued second :=
  fun position hissued hbelow => hsub (htrue position hissued hbelow)

/-- Handing out a position at or above the mark changes nothing below it. -/
theorem Truthful.issue {mark position : α} {issued done : Set α}
    (htrue : Truthful mark issued done) (habove : mark ≤ position) :
    Truthful mark (insert position issued) done := by
  intro other hother hbelow
  rcases Set.mem_insert_iff.mp hother with rfl | hold
  · exact absurd hbelow (not_lt.mpr habove)
  · exact htrue other hold hbelow

/-- What is issued and not done lies at or above a truthful mark, so resuming
at the mark hands it out again. -/
theorem Truthful.le_of_not_done {mark position : α} {issued done : Set α}
    (htrue : Truthful mark issued done) (hissued : position ∈ issued)
    (hopen : position ∉ done) : mark ≤ position :=
  not_lt.mp fun hbelow => hopen (htrue position hissued hbelow)

/-- Finishing one position and raising the mark past it is truthful exactly
when every earlier issued position is done already. -/
theorem truthful_raise_iff [SuccOrder α] [NoMaxOrder α] {mark position : α}
    {issued done : Set α} (htrue : Truthful mark issued done) :
    Truthful (max mark (Order.succ position)) issued (insert position done) ↔
      ∀ earlier ∈ issued, earlier < position → earlier ∈ done := by
  constructor
  · intro hraised earlier hissued hearlier
    have hbelow : earlier < max mark (Order.succ position) :=
      lt_max_of_lt_right (hearlier.trans (Order.lt_succ position))
    rcases Set.mem_insert_iff.mp (hraised earlier hissued hbelow) with heq |
      hdone
    · exact absurd heq hearlier.ne
    · exact hdone
  · intro hearlier other hissued hbelow
    rcases lt_max_iff.mp hbelow with hmark | hsucc
    · exact Set.mem_insert_of_mem _ (htrue other hissued hmark)
    · rcases (Order.lt_succ_iff.mp hsucc).lt_or_eq with hlt | rfl
      · exact Set.mem_insert_of_mem _ (hearlier other hissued hlt)
      · exact Set.mem_insert other done

end HighWater
