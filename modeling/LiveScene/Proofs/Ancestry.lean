import LiveScene.Graph.Ancestry
import LiveScene.Proofs.Tables
import Mathlib.Combinatorics.Pigeonhole

/-! # Chains of recorded parents

The chain above an id is read off the table of parents one step at a time. Taking links away cannot
close a cycle, and neither can a link that leads to an id whose own chain avoids the new child. In a
graph without cycles whose parents are all live, every chain ends before it has met each live id
twice.
-/

namespace LiveScene.Graph

/-- The id reached after following recorded parents for a number of steps. -/
def ancestor? (g : Graph) : Nat → NodeId → Option NodeId
  | 0, id => some id
  | n + 1, id => (g.parent? id).bind (g.ancestor? n)

/-- No id comes up again on the chain above it. -/
def Acyclic (g : Graph) : Prop :=
  ∀ id n, g.ancestor? (n + 1) id ≠ some id

theorem ancestor?_add (g : Graph) (m n : Nat) (id : NodeId) :
    g.ancestor? (m + n) id = (g.ancestor? m id).bind (g.ancestor? n) := by
  induction m generalizing id with
  | zero => rw [Nat.zero_add]; rfl
  | succ m ih =>
      rw [Nat.succ_add]
      simp only [ancestor?]
      cases g.parent? id with
      | none => rfl
      | some parent => exact ih parent

/-- A chain that has ended has also ended after more steps. -/
theorem ancestor?_eq_none_of_le (g : Graph) {m n : Nat} {id : NodeId} (hle : m ≤ n)
    (hend : g.ancestor? m id = none) : g.ancestor? n id = none := by
  obtain ⟨k, rfl⟩ := Nat.exists_eq_add_of_le hle
  rw [ancestor?_add, hend]
  rfl

/-- A chain that comes back to where it started does so again and again. -/
theorem ancestor?_mul {g : Graph} {n : Nat} {id : NodeId} (hloop : g.ancestor? n id = some id)
    (k : Nat) : g.ancestor? (k * n) id = some id := by
  induction k with
  | zero => rw [Nat.zero_mul]; rfl
  | succ k ih => rw [Nat.succ_mul, ancestor?_add, ih, Option.bind_some, hloop]

/-- Chains are read off the table of parents only. -/
theorem ancestor?_of_parents_eq {g g' : Graph} (hparents : g'.parents = g.parents) (n : Nat)
    (id : NodeId) : g'.ancestor? n id = g.ancestor? n id := by
  induction n generalizing id with
  | zero => rfl
  | succ n ih =>
      simp only [ancestor?, parent?, hparents]
      congr 1
      funext above
      exact ih above

/-- Links that are all links of another graph lead to nothing new. -/
theorem ancestor?_of_parent?_imp {g g' : Graph}
    (himp : ∀ child parent, g'.parent? child = some parent → g.parent? child = some parent)
    {n : Nat} {id above : NodeId} (habove : g'.ancestor? n id = some above) :
    g.ancestor? n id = some above := by
  induction n generalizing id with
  | zero => exact habove
  | succ n ih =>
      simp only [ancestor?, Option.bind_eq_some_iff] at habove ⊢
      obtain ⟨parent, hparent, hrest⟩ := habove
      exact ⟨parent, himp _ _ hparent, ih hrest⟩

theorem Acyclic.of_parent?_imp {g g' : Graph} (hg : g.Acyclic)
    (himp : ∀ child parent, g'.parent? child = some parent → g.parent? child = some parent) :
    g'.Acyclic :=
  fun id n hloop => hg id n (ancestor?_of_parent?_imp himp hloop)

/-- Two graphs that differ only in the parent of one id have the same chains, as far as these
avoid that id. -/
theorem ancestor?_congr_of_avoids {g g' : Graph} {child : NodeId}
    (hsame : ∀ id, id ≠ child → g'.parent? id = g.parent? id) {id : NodeId}
    (havoid : ∀ n, g.ancestor? n id ≠ some child) (n : Nat) :
    g'.ancestor? n id = g.ancestor? n id := by
  induction n generalizing id with
  | zero => rfl
  | succ n ih =>
      have hne : id ≠ child := fun heq => havoid 0 (by rw [heq]; rfl)
      simp only [ancestor?, hsame id hne]
      cases hparent : g.parent? id with
      | none => rfl
      | some parent =>
          refine ih fun m hm => havoid (m + 1) ?_
          rw [ancestor?, hparent]
          exact hm

section

variable {g g' : Graph} {child parent : NodeId}
  (hnew : ∀ above, g'.parent? child = some above → above = parent)
  (hsame : ∀ id, id ≠ child → g'.parent? id = g.parent? id)
  (havoid : ∀ n, g.ancestor? n parent ≠ some child)

include hnew hsame havoid

/-- A child is not met again above a new parent whose chain avoids it. -/
theorem ancestor?_ne_of_new_parent (n : Nat) : g'.ancestor? (n + 1) child ≠ some child := by
  intro hloop
  simp only [ancestor?, Option.bind_eq_some_iff] at hloop
  obtain ⟨above, habove, hrest⟩ := hloop
  rw [hnew above habove, ancestor?_congr_of_avoids hsame havoid] at hrest
  exact havoid n hrest

/-- A new link closes no cycle when the chain above the new parent avoids the child: every cycle was
there before. -/
theorem ancestor?_loop_of_new_parent {id : NodeId} {n : Nat}
    (hloop : g'.ancestor? (n + 1) id = some id) : g.ancestor? (n + 1) id = some id := by
  have hchild := ancestor?_ne_of_new_parent hnew hsame havoid n
  have havoids : ∀ m, g'.ancestor? m id ≠ some child := by
    intro m hm
    -- A loop that runs through the child could be started there.
    have hround : g'.ancestor? (m + (n + 1)) id = some child := by
      rw [Nat.add_comm, ancestor?_add, hloop]
      exact hm
    rw [ancestor?_add, hm] at hround
    exact hchild hround
  rw [ancestor?_congr_of_avoids (fun other hne => (hsame other hne).symm) havoids]
  exact hloop

theorem Acyclic.of_new_parent (hg : g.Acyclic) : g'.Acyclic :=
  fun id n hloop => hg id n (ancestor?_loop_of_new_parent hnew hsame havoid hloop)

end

/-- Parents are looked at one by one: a chain that goes on beyond the limit counts as reaching
everything. -/
theorem chainReaches_iff (g : Graph) (ancestor : NodeId) (depth : Nat) (start : Option NodeId) :
    g.chainReaches ancestor depth start = true ↔
      (∃ n < depth, start.bind (g.ancestor? n) = some ancestor) ∨
        (start.bind (g.ancestor? depth)).isSome := by
  induction depth generalizing start with
  | zero => cases start <;> simp [chainReaches, ancestor?]
  | succ depth ih =>
      cases start with
      | none => simp [chainReaches]
      | some node =>
          simp only [chainReaches, Bool.or_eq_true, beq_iff_eq, ih, Option.bind_some]
          constructor
          · rintro (rfl | ⟨n, hn, hreach⟩ | hlong)
            · exact Or.inl ⟨0, Nat.succ_pos _, rfl⟩
            · exact Or.inl ⟨n + 1, Nat.succ_lt_succ hn, hreach⟩
            · exact Or.inr hlong
          · rintro (⟨n, hn, hreach⟩ | hlong)
            · cases n with
              | zero => exact Or.inl (Option.some.inj hreach)
              | succ n => exact Or.inr (Or.inl ⟨n, Nat.lt_of_succ_lt_succ hn, hreach⟩)
            · exact Or.inr (Or.inr hlong)

/-- An id that is not counted as an ancestor is nowhere on the chain, however long. -/
theorem ancestor?_ne_of_isAncestor_eq_false {g : Graph} {ancestor id : NodeId}
    (hfalse : g.isAncestor ancestor id = false) (n : Nat) :
    g.ancestor? (n + 1) id ≠ some ancestor := by
  intro hreach
  have hno := mt (g.chainReaches_iff ancestor chainLimit (g.parent? id)).mpr
    (by rw [← isAncestor, hfalse]; exact Bool.false_ne_true)
  rw [not_or] at hno
  by_cases hlt : n < chainLimit
  · exact hno.1 ⟨n, hlt, hreach⟩
  · have hend : g.ancestor? (chainLimit + 1) id = none :=
      Option.not_isSome_iff_eq_none.mp hno.2
    rw [g.ancestor?_eq_none_of_le (by omega) hend] at hreach
    exact Option.some_ne_none ancestor hreach.symm

/-- Without cycles two places of a chain hold different ids. -/
theorem Acyclic.ancestor?_inj {g : Graph} (hg : g.Acyclic) {m n : Nat} {id above : NodeId}
    (hm : g.ancestor? m id = some above) (hn : g.ancestor? n id = some above) : m = n := by
  wlog hle : m ≤ n generalizing m n
  · exact (this hn hm (by omega)).symm
  obtain ⟨k, rfl⟩ := Nat.exists_eq_add_of_le hle
  rw [ancestor?_add, hm] at hn
  cases k with
  | zero => rfl
  | succ k => exact absurd hn (hg above k)

/-- Without cycles, and with live parents only, the chain above a live id ends within as many steps
as there are live ids. -/
theorem Acyclic.ancestor?_size_eq_none {g : Graph} (hg : g.Acyclic)
    (hlive : ∀ child parent, g.parent? child = some parent → parent ∈ g.ids)
    {id : NodeId} (hid : id ∈ g.ids) : g.ancestor? g.size id = none := by
  by_contra hlong
  have hdefined : ∀ n ≤ g.size, (g.ancestor? n id).isSome := by
    intro n hn
    rw [Option.isSome_iff_ne_none]
    exact fun hend => hlong (g.ancestor?_eq_none_of_le hn hend)
  have hids : ∀ n above, g.ancestor? n id = some above → above ∈ g.ids := by
    intro n above habove
    cases n with
    | zero => exact Option.some.inj habove ▸ hid
    | succ n =>
        rw [ancestor?_add, Option.bind_eq_some_iff] at habove
        obtain ⟨below, -, hstep⟩ := habove
        simp only [ancestor?, Option.bind_fun_some] at hstep
        exact hlive below above hstep
  -- More places on the chain than live ids, so one id stands at two of them.
  have hcard : g.ids.toFinset.card < (Finset.range (g.size + 1)).card := by
    rw [Finset.card_range, Nat.lt_succ_iff]
    exact (List.toFinset_card_le _).trans (le_of_eq Std.ExtTreeMap.length_keys)
  obtain ⟨m, hm, n, hn, hne, heq⟩ := Finset.exists_ne_map_eq_of_card_lt_of_maps_to hcard
    (f := fun n => (g.ancestor? n id).getD id) (fun n hn => by
      have hsome := hdefined n (Nat.lt_succ_iff.mp (Finset.mem_range.mp hn))
      obtain ⟨above, habove⟩ := Option.isSome_iff_exists.mp hsome
      simpa [habove] using hids n above habove)
  have hsome := hdefined m (Nat.lt_succ_iff.mp (Finset.mem_range.mp hm))
  obtain ⟨above, habove⟩ := Option.isSome_iff_exists.mp hsome
  have hother := hdefined n (Nat.lt_succ_iff.mp (Finset.mem_range.mp hn))
  obtain ⟨above', habove'⟩ := Option.isSome_iff_exists.mp hother
  simp only [habove, habove', Option.getD_some] at heq
  exact hne (hg.ancestor?_inj habove (heq ▸ habove'))

end LiveScene.Graph
