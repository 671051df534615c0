import LiveScene.Proofs.Placement
import LiveScene.Proofs.Relinking

/-! # How far the check for cycles can be trusted

Before a node is attached, parents are followed upward from its new parent, but only so far: a chain
that goes on is refused whatever is on it. That makes the check safe on every table of parents, also
on one that loops. The price is that a long chain is refused for nothing.
-/

namespace LiveScene.Graph

/-! ## Chains and their places -/

/-- The places of a chain that ends are its entries in order. -/
theorem Lineage.ancestor?_succ {g : Graph} {id : NodeId} {ancestors : List NodeId}
    (h : g.Lineage id ancestors) (n : Nat) : g.ancestor? (n + 1) id = ancestors[n]? := by
  induction h generalizing n with
  | root hparent => simp [ancestor?, hparent]
  | under hparent _ ih =>
      rw [ancestor?, hparent, Option.bind_some]
      cases n with
      | zero => rfl
      | succ n => exact ih n

/-- The check for an ancestor, read off the places of the chain. -/
theorem isAncestor_iff (g : Graph) (above id : NodeId) :
    g.isAncestor above id = true ↔
      (∃ n < chainLimit, g.ancestor? (n + 1) id = some above) ∨
        (g.ancestor? (chainLimit + 1) id).isSome :=
  g.chainReaches_iff above chainLimit (g.parent? id)

/-- The answer is no exactly for a chain that ends within the limit and does not have the id. -/
theorem isAncestor_eq_false_iff (g : Graph) (above id : NodeId) :
    g.isAncestor above id = false ↔
      ∃ ancestors, g.Lineage id ancestors ∧ ancestors.length ≤ chainLimit ∧
        above ∉ ancestors := by
  rw [← Bool.not_eq_true, isAncestor_iff, not_or, Option.not_isSome_iff_eq_none]
  constructor
  · rintro ⟨hnot, hend⟩
    obtain ⟨ancestors, hlineage⟩ := exists_lineage hend
    have hlength : ancestors.length ≤ chainLimit := by
      rw [hlineage.ancestor?_succ] at hend
      exact List.getElem?_eq_none_iff.mp hend
    refine ⟨ancestors, hlineage, hlength, fun hmem => ?_⟩
    obtain ⟨n, hn⟩ := List.mem_iff_getElem?.mp hmem
    have hlt := (List.getElem?_eq_some_iff.mp hn).1
    exact hnot ⟨n, by omega, (hlineage.ancestor?_succ n).trans hn⟩
  · rintro ⟨ancestors, hlineage, hlength, hnot⟩
    refine ⟨?_, (hlineage.ancestor?_succ _).trans (List.getElem?_eq_none_iff.mpr hlength)⟩
    rintro ⟨n, -, hn⟩
    rw [hlineage.ancestor?_succ] at hn
    exact hnot (List.mem_of_getElem? hn)

/-! ## Links that pass the check -/

/-- Detaching changes the recorded parent of the child at most. -/
theorem parents_detach (g : Graph) (parent child : NodeId) :
    (g.detach parent child).1.parents = g.parents ∨
      (g.detach parent child).1.parents = (g.setParent child none).parents := by
  unfold detach
  split
  next => exact Or.inl rfl
  next =>
    split
    next => exact Or.inl rfl
    next =>
      split
      next => exact Or.inl rfl
      next =>
        dsimp only
        split <;> split <;> first | exact Or.inr rfl | (split <;> exact Or.inl rfl)

theorem parent?_unlink_of_ne (g : Graph) {child id : NodeId} (hne : id ≠ child) :
    (g.unlink child).parent? id = g.parent? id := by
  have hforget : ∀ g : Graph, (g.setParent child none).parent? id = g.parent? id := by
    intro g
    rw [parent?_setParent, if_neg fun heq => hne heq.1.symm]
  have hdetach : ∀ parent, (g.detach parent child).1.parent? id = g.parent? id := by
    intro parent
    rcases g.parents_detach parent child with hparents | hparents
    · rw [parent?, hparents, ← parent?]
    · rw [parent?, hparents, ← parent?, hforget]
  unfold unlink
  split
  next => rfl
  next parent _ =>
    split
    next heq => rw [← hdetach parent, heq]
    next heq => rw [hforget, ← hdetach parent, heq]

/-- What an attachment that passes the check records, whatever the tables hold. -/
theorem attachToNode_records {g g' : Graph} {parent child : NodeId} {kind : Kind}
    (hattach : g.attachToNode parent child kind = (g', .ok ())) :
    g.isAncestor child parent = false ∧
      (∀ id, id ≠ child → g'.parent? id = g.parent? id) ∧
      ∀ above, g'.parent? child = some above → above = parent := by
  unfold attachToNode at hattach
  split at hattach
  next => cases hattach
  next =>
    split at hattach
    next => cases hattach
    next hancestor =>
      -- Only the recorded parents matter, so the changes to lists and scenes drop out.
      obtain ⟨before, hparents, rfl⟩ : ∃ before : Graph,
          before.parents = (g.unlink child).parents ∧
            g' = before.setParent child (some parent) := by
        refine ⟨_, ?_, (Prod.mk.inj hattach).1.symm⟩
        split <;> split <;> rfl
      refine ⟨Bool.eq_false_iff.mpr hancestor, fun id hne => ?_, fun above habove => ?_⟩
      · rw [parent?_setParent, if_neg fun heq => hne heq.1.symm, parent?, hparents, ← parent?,
          g.parent?_unlink_of_ne hne]
      · rw [parent?_setParent] at habove
        split at habove
        next => exact (Option.some.inj habove).symm
        next hunknown =>
          have hnone : before.parents[child]? = none := by
            simpa using hunknown
          rw [parent?, hnone] at habove
          cases habove

theorem attachToNode_of_attach {g : Graph} {parent child : NodeId}
    (hgeneric : g.category child = .generic) (hok : (g.attach parent child).2 = .ok ()) :
    parent ≠ child ∧ ∃ kind, g.attach parent child = g.attachToNode parent child kind := by
  unfold attach at hok ⊢
  cases hupper : g.kind? parent with
  | none => simp [hupper] at hok
  | some upper =>
      cases hlower : g.kind? child with
      | none => simp [hupper, hlower] at hok
      | some lower =>
          rw [category_eq hlower] at hgeneric
          simp only [hupper, hlower] at hok ⊢
          split at hok
          next => cases hok
          next hne =>
            rw [if_neg hne, if_pos hgeneric]
            exact ⟨hne, lower, rfl⟩

/-- A node that is attached is on no cycle then, and all cycles that there are were there before. -/
theorem cycles_of_attach {g : Graph} {parent child : NodeId}
    (hgeneric : g.category child = .generic) (hok : (g.attach parent child).2 = .ok ()) :
    ¬(g.attach parent child).1.StandsAbove child child ∧
      ∀ id, (g.attach parent child).1.StandsAbove id id → g.StandsAbove id id := by
  obtain ⟨hne, kind, heq⟩ := attachToNode_of_attach hgeneric hok
  rw [heq] at hok ⊢
  obtain ⟨hancestor, hsame, hnew⟩ := attachToNode_records (Prod.ext rfl hok)
  have havoid : ∀ n, g.ancestor? n parent ≠ some child := by
    refine ancestor?_ne_of_not_standsAbove hne ?_
    rintro ⟨n, habove⟩
    exact ancestor?_ne_of_isAncestor_eq_false hancestor n habove
  constructor
  · rintro ⟨n, hloop⟩
    exact ancestor?_ne_of_new_parent hnew hsame havoid n hloop
  · rintro id ⟨n, hloop⟩
    exact ⟨n, ancestor?_loop_of_new_parent hnew hsame havoid hloop⟩

/-- The check for an ancestor on any table of parents. It says yes exactly when the id is among the
first 4096 places of the chain or there is one more place, and no exactly when the chain ends within
4096 entries that do not have the id. Where no id is above itself, a yes is wrong exactly for chains
of more than 4096 ancestors without the id. And whatever the table, an attachment that the check
lets through closes no cycle. -/
theorem ancestor_check_exact (g : Graph) (above id : NodeId) :
    (g.isAncestor above id = true ↔
        (∃ n, 1 ≤ n ∧ n ≤ 4096 ∧ g.ancestor? n id = some above) ∨
          (g.ancestor? 4097 id).isSome) ∧
      (g.isAncestor above id = false ↔
        ∃ ancestors, g.Lineage id ancestors ∧ ancestors.length ≤ 4096 ∧ above ∉ ancestors) ∧
      (g.Acyclic →
        (g.isAncestor above id = true ∧ ¬g.StandsAbove above id ↔
          4096 < {other | g.StandsAbove other id}.encard ∧ ¬g.StandsAbove above id)) ∧
      ∀ parent child, g.category child = .generic → (g.attach parent child).2 = .ok () →
        ¬(g.attach parent child).1.StandsAbove child child ∧
          ∀ other, (g.attach parent child).1.StandsAbove other other →
            g.StandsAbove other other := by
  refine ⟨?_, g.isAncestor_eq_false_iff above id, fun hg => ?_,
    fun parent child => cycles_of_attach⟩
  · rw [isAncestor_iff]
    refine or_congr_left ⟨?_, ?_⟩
    · rintro ⟨n, hn, hplace⟩
      exact ⟨n + 1, Nat.succ_pos n, hn, hplace⟩
    · rintro ⟨n, hpos, hn, hplace⟩
      obtain ⟨m, rfl⟩ := Nat.exists_eq_add_of_le' hpos
      exact ⟨m, hn, hplace⟩
  · rw [← Bool.not_eq_false, hg.isAncestor_eq_false_iff]
    constructor
    · rintro ⟨hyes, hnot⟩
      exact ⟨lt_of_not_ge fun hle => hyes ⟨hnot, hle⟩, hnot⟩
    · rintro ⟨hmany, hnot⟩
      exact ⟨fun hno => not_le_of_gt hmany hno.2, hnot⟩

/-- Two groups that are recorded as each other's parents. Everything counts as above them, so
nothing can be attached there; once one of them is attached elsewhere, nothing loops any more. -/
theorem ancestor_check_exact_loop :
    let commands : List Command :=
      [.apply (.create ⟨1⟩ .group []), .apply (.create ⟨2⟩ .group []),
        .apply (.create ⟨3⟩ .group [])]
    let g := ((run commands).setParent ⟨1⟩ (some ⟨2⟩)).setParent ⟨2⟩ (some ⟨1⟩)
    g.StandsAbove ⟨1⟩ ⟨1⟩ ∧ g.isAncestor ⟨3⟩ ⟨1⟩ = true ∧ g.isAncestor ⟨1⟩ ⟨3⟩ = false ∧
      (g.attach ⟨1⟩ ⟨3⟩).2 ≠ .ok () ∧ (g.attach ⟨3⟩ ⟨1⟩).2 = .ok () ∧
      ¬(g.attach ⟨3⟩ ⟨1⟩).1.StandsAbove ⟨1⟩ ⟨1⟩ := by
  intro commands g
  have hround : g.ancestor? 2 ⟨1⟩ = some ⟨1⟩ := by decide +kernel
  have hroot : g.parent? ⟨3⟩ = none := by decide +kernel
  have hok : (g.attach ⟨3⟩ ⟨1⟩).2 = .ok () := by decide +kernel
  have hlong : (g.ancestor? (2048 * 2 + 1) ⟨1⟩).isSome := by
    rw [ancestor?_add, ancestor?_mul hround 2048]
    decide +kernel
  have hyes : g.isAncestor ⟨3⟩ ⟨1⟩ = true := (ancestor_check_exact g ⟨3⟩ ⟨1⟩).1.mpr (Or.inr hlong)
  obtain ⟨-, hno, -, hcycles⟩ := ancestor_check_exact g ⟨1⟩ ⟨3⟩
  refine ⟨⟨1, hround⟩, hyes, hno.mpr ⟨[], .root hroot, Nat.zero_le _, by simp⟩, fun hattach => ?_,
    hok, (hcycles ⟨3⟩ ⟨1⟩ (by decide +kernel) hok).1⟩
  obtain ⟨-, kind, heq⟩ := attachToNode_of_attach (by decide +kernel) hattach
  rw [heq] at hattach
  rw [(attachToNode_records (Prod.ext rfl hattach)).1] at hyes
  cases hyes

end LiveScene.Graph
