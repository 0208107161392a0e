/-
Graphs of links from a node to its parent.  A graph without cycles stays one
when a link is added whose parent does not lead back to its child, and a finite
one can be taken apart leaf by leaf.
-/
import Mathlib.Logic.Relation
import Mathlib.Data.Fintype.Card
import Mathlib.Data.Set.Finite.List

namespace LinkGraph

open Relation

universe u

variable {α : Type u} {link next : α → α → Prop}

/-- No node leads to itself along one or more links. -/
def Acyclic (link : α → α → Prop) : Prop :=
  ∀ node, ¬ TransGen link node node

theorem Acyclic.mono (hacyclic : Acyclic link)
    (hsub : ∀ child parent, next child parent → link child parent) :
    Acyclic next :=
  fun node hcycle => hacyclic node (hcycle.lift id hsub)

theorem Acyclic.irrefl (hacyclic : Acyclic link) (node : α) :
    ¬ link node node :=
  fun hself => hacyclic node (.single hself)

/-- A path through one more link either avoids it or is cut in two by it. -/
theorem transGen_link {child parent first last : α}
    (hsub : ∀ node target, next node target →
      link node target ∨ node = child ∧ target = parent)
    (hpath : TransGen next first last) :
    TransGen link first last ∨
      ReflTransGen link first child ∧ ReflTransGen link parent last := by
  induction hpath with
  | single hstep =>
      rcases hsub _ _ hstep with hold | ⟨rfl, rfl⟩
      · exact Or.inl (.single hold)
      · exact Or.inr ⟨.refl, .refl⟩
  | tail _ hstep ih =>
      rcases hsub _ _ hstep with hold | ⟨rfl, rfl⟩
      · rcases ih with havoids | ⟨hfront, hback⟩
        · exact Or.inl (havoids.tail hold)
        · exact Or.inr ⟨hfront, hback.tail hold⟩
      · rcases ih with havoids | ⟨hfront, -⟩
        · exact Or.inr ⟨havoids.to_reflTransGen, .refl⟩
        · exact Or.inr ⟨hfront, .refl⟩

/-- One more link closes no cycle unless its parent leads to its child. -/
theorem Acyclic.add (hacyclic : Acyclic link) {child parent : α}
    (hsub : ∀ node target, next node target →
      link node target ∨ node = child ∧ target = parent)
    (hapart : ¬ ReflTransGen link parent child) : Acyclic next := by
  intro node hcycle
  rcases transGen_link hsub hcycle with hold | ⟨hfront, hback⟩
  · exact hacyclic node hold
  · exact hapart (hback.trans hfront)

section Finite

variable {nodes : List α}

/-- Among finitely many nodes one is no parent of any. -/
theorem Acyclic.exists_leaf (hacyclic : Acyclic link) (hne : nodes ≠ []) :
    ∃ leaf ∈ nodes, ∀ node ∈ nodes, ¬ link node leaf := by
  have hfinite : Finite { node // node ∈ nodes } :=
    nodes.finite_toSet.to_subtype
  let below : { node // node ∈ nodes } → { node // node ∈ nodes } → Prop :=
    TransGen fun node target => link node.1 target.1
  have htrans : IsTrans _ below := ⟨fun _ _ _ => TransGen.trans⟩
  have hirrefl : Std.Irrefl below := ⟨fun node hcycle =>
    hacyclic node.1 (hcycle.lift Subtype.val fun _ _ hlink => hlink)⟩
  obtain ⟨first, hfirst⟩ := List.exists_mem_of_ne_nil nodes hne
  obtain ⟨leaf, -, hleaf⟩ :=
    (Finite.wellFounded_of_trans_of_irrefl below).has_min
    Set.univ ⟨⟨first, hfirst⟩, trivial⟩
  exact ⟨leaf.1, leaf.2, fun node hnode hlink =>
    hleaf ⟨node, hnode⟩ trivial (.single hlink)⟩

/-- The nodes can be listed so that each is no parent of a later one. -/
theorem Acyclic.exists_order (hacyclic : Acyclic link) (nodes : List α) :
    ∃ order : List α, order.Perm nodes ∧
      order.Pairwise fun node later => ¬ link later node := by
  induction hlength : nodes.length generalizing nodes with
  | zero =>
      cases List.length_eq_zero_iff.mp hlength
      exact ⟨[], .nil, .nil⟩
  | succ size ih =>
      have hne : nodes ≠ [] := by
        rintro rfl
        cases hlength
      obtain ⟨leaf, hleaf, hfree⟩ := hacyclic.exists_leaf hne
      obtain ⟨front, back, rfl⟩ := List.append_of_mem hleaf
      obtain ⟨order, hperm, hpairwise⟩ := ih (front ++ back) (by
        simp only [List.length_append, List.length_cons] at hlength ⊢
        omega)
      refine ⟨leaf :: order, (hperm.cons leaf).trans List.perm_middle.symm,
        hpairwise.cons fun later hlater => hfree later ?_⟩
      have hmem := hperm.mem_iff.mp hlater
      simp only [List.mem_append, List.mem_cons] at hmem ⊢
      rcases hmem with hfront | hback
      · exact Or.inl hfront
      · exact Or.inr (Or.inr hback)

end Finite

end LinkGraph
