import LiveScene.Proofs.Runs

/-! # Accounts of handles

All that an edit can do to handles is to take the handle of an id away and to draw a new one for an
id without. A handle that is taken away is given up. It follows that the handles that are owned, the
handles that wait to be taken and the handles that were taken divide the handles drawn so far among
themselves.
-/

namespace LiveScene

/-- Who owns which handle, what was given up, and how many handles were drawn. -/
structure Account where
  owned : NodeId → Option Handle
  released : List Handle
  drawn : Nat

namespace Account

/-- The account after an id gave up its handle, if it had one. -/
def drop (account : Account) (id : NodeId) : Account :=
  { account with
    owned := fun other => if id = other then none else account.owned other
    released := account.released ++ (account.owned id).toList }

/-- The account after an id got the next handle. -/
def draw (account : Account) (id : NodeId) : Account :=
  { account with
    owned := fun other => if id = other then some (account.drawn + 1) else account.owned other
    drawn := account.drawn + 1 }

theorem owned_drop_iff {account : Account} {id other : NodeId} {handle : Handle} :
    (account.drop id).owned other = some handle ↔
      account.owned other = some handle ∧ id ≠ other := by
  simp only [drop]
  split
  next heq => simp [heq]
  next hne => simp [hne]

theorem owned_draw_iff {account : Account} {id other : NodeId} {handle : Handle}
    (hfree : account.owned id = none) :
    (account.draw id).owned other = some handle ↔
      account.owned other = some handle ∨ id = other ∧ handle = account.drawn + 1 := by
  simp only [draw]
  split
  next heq => simp [← heq, hfree, eq_comm]
  next hne => simp [hne]

theorem owned_without {account : Account} {id : NodeId} (hnone : account.owned id = none) :
    (fun other => if id = other then none else account.owned other) = account.owned := by
  funext other
  split
  next heq => rw [← heq, hnone]
  next => rfl

theorem drop_of_owned_eq_none {account : Account} {id : NodeId} (hnone : account.owned id = none) :
    account.drop id = account := by
  simp [drop, owned_without hnone, hnone]

/-- One account comes from another by giving up handles and drawing new ones. -/
inductive Leads (start : Account) : Account → Prop
  | refl : Leads start start
  | drop {account : Account} (hleads : Leads start account) (id : NodeId) :
      Leads start (account.drop id)
  | draw {account : Account} (hleads : Leads start account) (id : NodeId)
      (hfree : account.owned id = none) : Leads start (account.draw id)

theorem Leads.trans {a b c : Account} (hab : Leads a b) (hbc : Leads b c) : Leads a c := by
  induction hbc with
  | refl => exact hab
  | drop _ id ih => exact ih.drop id
  | draw _ id hfree ih => exact ih.draw id hfree

/-- The number of handles drawn only grows. -/
theorem Leads.drawn_le {a b : Account} (hleads : Leads a b) : a.drawn ≤ b.drawn := by
  induction hleads with
  | refl => exact Nat.le_refl _
  | drop _ _ ih => exact ih
  | draw _ _ _ ih => exact Nat.le_succ_of_le ih

/-- Each handle drawn so far is either owned by one id or was given up once. -/
structure Balanced (account : Account) (taken : List Handle) : Prop where
  owned_once : ∀ id id' handle, account.owned id = some handle →
    account.owned id' = some handle → id = id'
  nodup : (taken ++ account.released).Nodup
  disjoint : ∀ id handle, account.owned id = some handle → handle ∉ taken ++ account.released
  exhaustive : ∀ handle : Nat, (∃ id, account.owned id = some handle) ∨
    handle ∈ taken ++ account.released ↔ 1 ≤ handle ∧ handle ≤ account.drawn

namespace Balanced

variable {account : Account} {taken : List Handle} (h : account.Balanced taken)

include h

theorem drop (id : NodeId) : (account.drop id).Balanced taken := by
  have hreleased : ∀ handle, handle ∈ taken ++ (account.drop id).released ↔
      handle ∈ taken ++ account.released ∨ account.owned id = some handle := by
    intro handle
    simp only [Account.drop, List.mem_append, Option.mem_toList, or_assoc]
  refine ⟨?_, ?_, ?_, ?_⟩
  · intro first second handle hfirst hsecond
    exact h.owned_once first second handle (owned_drop_iff.mp hfirst).1
      (owned_drop_iff.mp hsecond).1
  · rw [Account.drop, ← List.append_assoc, List.nodup_append]
    refine ⟨h.nodup, by cases account.owned id <;> simp, ?_⟩
    intro handle hold other hnew heq
    exact h.disjoint id other (Option.mem_toList.mp hnew) (heq ▸ hold)
  · intro other handle hother hmem
    obtain ⟨hother, hne⟩ := owned_drop_iff.mp hother
    rcases (hreleased handle).mp hmem with hold | hnew
    · exact h.disjoint other handle hother hold
    · exact hne (h.owned_once id other handle hnew hother)
  · intro handle
    refine Iff.trans ?_ (h.exhaustive handle)
    simp only [owned_drop_iff, hreleased]
    constructor
    · rintro (⟨other, hother, -⟩ | hold | hnew)
      · exact Or.inl ⟨other, hother⟩
      · exact Or.inr hold
      · exact Or.inl ⟨id, hnew⟩
    · rintro (⟨other, hother⟩ | hold)
      · by_cases heq : id = other
        · exact Or.inr (Or.inr (heq ▸ hother))
        · exact Or.inl ⟨other, hother, heq⟩
      · exact Or.inr (Or.inl hold)

theorem draw {id : NodeId} (hfree : account.owned id = none) :
    (account.draw id).Balanced taken := by
  -- The next handle is larger than all that were ever drawn.
  have hfresh : ∀ other, account.owned other ≠ some (account.drawn + 1) := fun other hother =>
    Nat.not_succ_le_self _ ((h.exhaustive _).mp (Or.inl ⟨other, hother⟩)).2
  refine ⟨?_, h.nodup, ?_, ?_⟩
  · intro first second handle hfirst hsecond
    rcases (owned_draw_iff hfree).mp hfirst with hold | ⟨heq, hnew⟩ <;>
      rcases (owned_draw_iff hfree).mp hsecond with hold' | ⟨heq', hnew'⟩
    · exact h.owned_once first second handle hold hold'
    · exact absurd (hnew' ▸ hold) (hfresh first)
    · exact absurd (hnew ▸ hold') (hfresh second)
    · exact heq.symm.trans heq'
  · intro other handle hother hmem
    rcases (owned_draw_iff hfree).mp hother with hold | ⟨-, rfl⟩
    · exact h.disjoint other handle hold hmem
    · exact Nat.not_succ_le_self _ ((h.exhaustive _).mp (Or.inr hmem)).2
  · intro handle
    change _ ∨ handle ∈ taken ++ account.released ↔ 1 ≤ handle ∧ handle ≤ account.drawn + 1
    simp only [owned_draw_iff hfree]
    constructor
    · rintro (⟨other, hold | ⟨-, rfl⟩⟩ | hold)
      · have hbounds := (h.exhaustive handle).mp (Or.inl ⟨other, hold⟩)
        omega
      · omega
      · have hbounds := (h.exhaustive handle).mp (Or.inr hold)
        omega
    · rintro ⟨hpos, hle⟩
      by_cases heq : handle = account.drawn + 1
      · exact Or.inl ⟨id, Or.inr ⟨rfl, heq⟩⟩
      · rcases (h.exhaustive handle).mpr ⟨hpos, by omega⟩ with ⟨other, hold⟩ | hold
        · exact Or.inl ⟨other, Or.inl hold⟩
        · exact Or.inr hold

theorem leads {account' : Account} (hleads : Leads account account') : account'.Balanced taken := by
  induction hleads with
  | refl => exact h
  | drop _ id ih => exact ih.drop id
  | draw _ id hfree ih => exact ih.draw hfree

/-- Taking what was given up moves it from one list to the other. -/
theorem take : ({ account with released := [] } : Account).Balanced (taken ++ account.released) where
  owned_once := h.owned_once
  nodup := by simpa using h.nodup
  disjoint := by simpa using h.disjoint
  exhaustive := by simpa using h.exhaustive

end Balanced

end Account

namespace Graph

/-- The handle that a live geometry or material owns. -/
def handle? (g : Graph) (id : NodeId) : Option Handle :=
  (g.object? id).bind Object.handle?

def account (g : Graph) : Account where
  owned := g.handle?
  released := g.released
  drawn := g.lastHandle

/-! ## Links own nothing -/

theorem handle?_eq_none_of_node? {g : Graph} {id : NodeId} {node : Node}
    (hnode : g.node? id = some node) : g.handle? id = none := by
  obtain ⟨object, hobject, hbody⟩ := node?_eq_some_iff.mp hnode
  rw [handle?, hobject]
  rcases object with ⟨name, body⟩
  cases body <;> cases hbody
  rfl

theorem account_setNode {g : Graph} {id : NodeId} {node : Node} (hnode : g.node? id = some node)
    (node' : Node) : (g.setNode id node').account = g.account := by
  have howned : (g.setNode id node').handle? = g.handle? := by
    funext other
    rw [handle?, setNode, setBody, object?_modify]
    split
    next heq =>
      rw [← heq, handle?_eq_none_of_node? hnode]
      cases g.object? id <;> rfl
    next => rfl
  exact congrArg (fun owned => (⟨owned, g.released, g.lastHandle⟩ : Account)) howned

theorem account_detach (g : Graph) (parent child : NodeId) :
    (g.detach parent child).1.account = g.account := by
  unfold detach
  cases g.kind? parent with
  | none => rfl
  | some parentKind =>
      cases g.kind? child with
      | none => rfl
      | some kind =>
          cases hobject : g.object? parent with
          | none => rfl
          | some object =>
              dsimp only
              cases hunlinked : object.node?.bind (·.unlink? kind.category child) with
              | none => dsimp only; split <;> rfl
              | some node' =>
                  obtain ⟨node, hnode, -⟩ := Option.bind_eq_some_iff.mp hunlinked
                  have hsame := account_setNode (node?_eq_some_iff.mpr ⟨object, hobject, hnode⟩) node'
                  dsimp only
                  split
                  · exact hsame
                  · exact hsame

theorem account_unlink (g : Graph) (child : NodeId) : (g.unlink child).account = g.account := by
  unfold unlink
  split
  next => rfl
  next parent _ =>
    have hsame := g.account_detach parent child
    split
    next heq => simpa only [heq] using hsame
    next heq =>
      rw [heq] at hsame
      exact hsame

theorem account_attachToSlot (g : Graph) (parent child : NodeId) (category : Category) :
    (g.attachToSlot parent child category).1.account = g.account := by
  unfold attachToSlot
  dsimp only
  split
  next node hnode =>
    obtain ⟨hnode, -⟩ := Option.filter_eq_some_iff.mp hnode
    have hsame := (account_setNode hnode (node.setSlot category (some child))).trans
      (g.account_unlink child)
    split
    · split <;> exact hsame
    · exact hsame
  next => exact g.account_unlink child

theorem account_attachToNode (g : Graph) (parent child : NodeId) (kind : Kind) :
    (g.attachToNode parent child kind).1.account = g.account := by
  unfold attachToNode
  split
  next => rfl
  next =>
    split
    next => rfl
    next =>
      dsimp only
      have hsame : (if kind = .scene then (g.unlink child).unmount child
          else g.unlink child).account = g.account := by
        split <;> exact g.account_unlink child
      split
      next node hnode => exact (account_setNode hnode (node.pushChild child)).trans hsame
      next => exact hsame

theorem account_attach (g : Graph) (parent child : NodeId) :
    (g.attach parent child).1.account = g.account := by
  unfold attach
  split
  next => rfl
  next =>
    split
    next => rfl
    next =>
      split
      next => rfl
      next =>
        split
        next => exact g.account_attachToNode parent child _
        next =>
          split
          next => rfl
          next => exact g.account_attachToSlot parent child _

/-! ## What the edits do to the account -/

theorem account_orphan (g : Graph) (id : NodeId) (dependents : List NodeId) :
    (g.orphan id dependents).account = g.account := by
  obtain ⟨parents, heq, -⟩ := g.orphan_spec id dependents
  rw [heq]
  rfl

theorem account_remove (g : Graph) (id : NodeId) : (g.remove id).account = g.account.drop id := by
  cases hobject : g.object? id with
  | none =>
      have hfree : g.account.owned id = none := by simp [account, handle?, hobject]
      rw [Account.drop_of_owned_eq_none hfree]
      simp only [remove, hobject]
  | some object =>
      have howned : (g.remove id).handle? = (g.account.drop id).owned := by
        funext other
        simp only [handle?, object?_remove, Account.drop, account]
        split <;> rfl
      have hreleased : (g.remove id).released = (g.account.drop id).released := by
        simp [remove, hobject, Account.drop, account, handle?]
      rw [account, howned, hreleased, g.lastHandle_remove id]
      rfl

theorem handle?_setObject {g : Graph} {id : NodeId} {object : Object}
    (hobject : g.object? id = some object) (object' : Object) :
    (g.setObject id object').handle? =
      fun other => if id = other then object'.handle? else g.handle? other := by
  funext other
  rw [handle?, object?_setObject]
  split
  next heq =>
    rw [← heq, hobject]
    rfl
  next => rfl

theorem Touched.leads {g g' : Graph} {id : NodeId} (htouched : Touched g id g') :
    g.account.Leads g'.account := by
  cases htouched with
  | select active _ =>
      unfold Graph.select
      split
      · exact .refl
      · split <;> exact .refl
  | store object object' hobject _ hhandle =>
      have howned : (g.setObject id object').handle? = g.handle? := by
        rw [handle?_setObject hobject, hhandle]
        funext other
        split
        next heq =>
          rw [← heq, handle?, hobject]
          rfl
        next => rfl
      have hsame : (g.setObject id object').account = g.account := by
        rw [account, howned]
        rfl
      rw [hsame]
      exact .refl
  | rebuild object object' handle hobject _ hold hnew =>
      have hgiven : g.handle? id = some handle := by rw [Graph.handle?, hobject]; exact hold
      -- The new handle is drawn before the old one is given up; the account is the same as if it
      -- were the other way round.
      have hrebuilt : ((g.drawHandle.setObject id object').release (some handle)).account =
          (g.account.drop id).draw id := by
        have howned : (g.drawHandle.setObject id object').handle? =
            ((g.account.drop id).draw id).owned := by
          rw [@handle?_setObject g.drawHandle id object hobject, hnew]
          funext other
          simp only [Account.draw, Account.drop]
          split <;> rfl
        change (⟨(g.drawHandle.setObject id object').handle?, _, _⟩ : Account) = _
        rw [howned]
        simp only [Account.draw, Account.drop, account, hgiven]
        rfl
      rw [hrebuilt]
      exact (Account.Leads.refl.drop id).draw id (if_pos rfl)

/-- A new object has the handle it was offered, or none. -/
theorem Object.handle?_of_default? {kind : Kind} {handle : Handle} {object : Object}
    (hdefault : Object.default? kind handle = some object) (hhandle : object.handle?.isSome) :
    object.handle? = some handle := by
  cases kind <;> simp only [Object.default?, Option.some.injEq, reduceCtorEq] at hdefault <;>
    subst hdefault <;> first | rfl | cases hhandle

theorem account_of_insert? {g g' : Graph} {id : NodeId} {kind : Kind} {object : Object}
    (hinsert : g.insert? id kind object = some g') :
    g.handle? id = none ∧ g'.account =
      { g.account with
        owned := fun other => if id = other then object.handle? else g.handle? other } := by
  have hfree := (lookups_of_insert? hinsert id).1
  have howned : g'.handle? = fun other => if id = other then object.handle? else g.handle? other := by
    funext other
    rw [handle?, (lookups_of_insert? hinsert other).2.1]
    split <;> rfl
  refine ⟨by rw [handle?, hfree]; rfl, ?_⟩
  rw [account, howned]
  unfold insert? at hinsert
  split at hinsert
  next => cases hinsert
  next => cases Option.some.inj hinsert; rfl

theorem Born.leads {g g' : Graph} {id : NodeId} {kind : Kind} (hborn : g.Born id kind g') :
    g.account.Leads g'.account := by
  obtain ⟨object, hdefault, hinsert⟩ := hborn
  split at hinsert
  next hhandle =>
    obtain ⟨hfree, heq⟩ := account_of_insert? hinsert
    rw [heq, Object.handle?_of_default? hdefault hhandle]
    exact Account.Leads.refl.draw id hfree
  next hnone =>
    obtain ⟨hfree, heq⟩ := account_of_insert? hinsert
    have howned := @Account.owned_without g.account id hfree
    rw [heq, Option.not_isSome_iff_eq_none.mp hnone]
    simp only [account] at howned ⊢
    rw [howned]
    exact .refl

theorem leads_apply (g : Graph) (op : Op) : g.account.Leads (g.apply op).state.account := by
  cases op with
  | create id kind properties =>
      rcases g.create_cases id kind properties with ⟨issue, heq⟩ | ⟨g', hborn, heq⟩
      · simp only [apply, heq]
        exact .refl
      · simp only [apply, heq]
        exact setProps_induction (P := fun g' => g.account.Leads g'.account)
          (fun _ _ hleads htouched => hleads.trans htouched.leads) properties hborn.leads
  | attach parent child =>
      change g.account.Leads (g.attach parent child).1.account
      rw [account_attach]
      exact .refl
  | detach parent child =>
      change g.account.Leads (g.detach parent child).1.account
      rw [account_detach]
      exact .refl
  | setProp id key value =>
      rcases g.setProp_cases id key value with ⟨issue, heq⟩ | ⟨htouched, -⟩
      · simp only [apply, heq]
        exact .refl
      · exact htouched.leads
  | unsetProp id key =>
      rcases g.unsetProp_cases id key with ⟨issue, heq⟩ | ⟨htouched, -⟩
      · simp only [apply, heq]
        exact .refl
      · exact htouched.leads
  | delete id =>
      rcases g.delete_cases id with ⟨issue, heq⟩ | ⟨-, -, heq⟩
      · simp only [apply, heq]
        exact .refl
      · simp only [apply, heq, account_remove, account_orphan, account_unlink]
        exact Account.Leads.refl.drop id

theorem leads_foldl_remove (g : Graph) (ids : List NodeId) :
    g.account.Leads (ids.foldl remove g).account := by
  induction ids generalizing g with
  | nil => exact .refl
  | cons id rest ih =>
      have hfirst : g.account.Leads (g.remove id).account := by
        rw [account_remove]
        exact Account.Leads.refl.drop id
      exact hfirst.trans (ih (g.remove id))

/-! ## Runs -/

/-- The account after a command, before anything given up is taken. -/
theorem leads_exec (g : Graph) {command : Command} (hkeeps : command ≠ .takeReleased) :
    g.account.Leads (g.exec command).account := by
  cases command with
  | apply op => exact g.leads_apply op
  | build tree =>
      exact buildTree_induction (P := fun g' => g.account.Leads g'.account)
        (fun g' op hleads => hleads.trans (g'.leads_apply op)) tree .refl
  | clear => exact g.leads_foldl_remove g.ids.reverse
  | takeReleased => exact absurd rfl hkeeps
  | fit aspect =>
      simp only [exec]
      rcases g.fitCamera_cases aspect with heq | ⟨id, htouched⟩
      · rw [heq]
        exact .refl
      · exact htouched.leads

/-- The handles that were taken in the course of a run, in order. -/
def taken (g : Graph) : List Command → List Handle
  | [] => []
  | .takeReleased :: rest => g.released ++ (g.exec .takeReleased).taken rest
  | command :: rest => (g.exec command).taken rest

theorem balanced_empty : empty.account.Balanced [] := by
  refine ⟨fun _ _ _ => nofun, List.nodup_nil, fun _ _ => nofun, fun handle => ?_⟩
  constructor
  · rintro (⟨id, hid⟩ | hmem)
    · cases hid
    · cases hmem
  · rintro ⟨hpos, hle⟩
    exact absurd hpos (Nat.not_le_of_lt (Nat.lt_succ_of_le hle))

theorem balanced_foldl_exec {g : Graph} {before : List Handle} (hg : g.account.Balanced before)
    (commands : List Command) :
    (commands.foldl exec g).account.Balanced (before ++ g.taken commands) := by
  induction commands generalizing g before with
  | nil => simpa [taken] using hg
  | cons command rest ih =>
      by_cases htake : command = .takeReleased
      · subst htake
        have hstep := ih (g := g.exec .takeReleased) hg.take
        rwa [List.append_assoc] at hstep
      · have hstep := ih (hg.leads (g.leads_exec htake))
        have htaken : g.taken (command :: rest) = (g.exec command).taken rest := by
          cases command <;> first | rfl | exact absurd rfl htake
        rw [htaken]
        exact hstep

theorem lastHandle_le_exec (g : Graph) (command : Command) :
    g.lastHandle ≤ (g.exec command).lastHandle := by
  by_cases htake : command = .takeReleased
  · subst htake
    exact Nat.le_refl _
  · exact (g.leads_exec htake).drawn_le

/-- No handle is lost, shared or given up twice: at every point of a run the handles that live ids
own and the handles given up so far, taken or not, are all different, and together they are all
the handles that were drawn. How many were drawn never goes down. -/
theorem handles_accounted (commands : List Command) :
    (∀ id id' handle, (run commands).handle? id = some handle →
      (run commands).handle? id' = some handle → id = id') ∧
    (empty.taken commands ++ (run commands).released).Nodup ∧
    (∀ id handle, (run commands).handle? id = some handle →
      handle ∉ empty.taken commands ++ (run commands).released) ∧
    (∀ handle : Nat, (∃ id, (run commands).handle? id = some handle) ∨
      handle ∈ empty.taken commands ++ (run commands).released ↔
        1 ≤ handle ∧ handle ≤ (run commands).lastHandle) ∧
    ∀ command, (run commands).lastHandle ≤ ((run commands).exec command).lastHandle := by
  have hrun := balanced_foldl_exec balanced_empty commands
  exact ⟨hrun.owned_once, hrun.nodup, hrun.disjoint, hrun.exhaustive,
    (run commands).lastHandle_le_exec⟩

/-- A box that was made anew owns the third handle, when the first was taken and the second, of a
material that was deleted, waits. -/
theorem handles_accounted_rebuilt :
    let commands : List Command :=
      [.apply (.create ⟨1⟩ .boxGeometry []), .apply (.create ⟨2⟩ .basicMaterial []),
        .apply (.setProp ⟨1⟩ "width" (.number 2)), .takeReleased, .apply (.delete ⟨2⟩)]
    (run commands).handle? ⟨1⟩ = some 3 ∧ empty.taken commands = [1] ∧
      (run commands).released = [2] ∧ 3 ∉ empty.taken commands ++ (run commands).released ∧
      3 ≤ (run commands).lastHandle := by
  intro commands
  have howned : (run commands).handle? ⟨1⟩ = some 3 := rfl
  obtain ⟨-, -, hdisjoint, hexhaustive, -⟩ := handles_accounted commands
  exact ⟨howned, rfl, rfl, hdisjoint ⟨1⟩ 3 howned, ((hexhaustive 3).mp (Or.inl ⟨⟨1⟩, howned⟩)).2⟩

end Graph

end LiveScene
