import LiveScene.Host.Pending
import LiveScene.Proofs.Batches
import LiveScene.Proofs.Runs
import LiveScene.Proofs.Shifting
import Mathlib.Data.List.Induction

/-! # Trees and operations received one after the other

A tree makes everything received before it void, but for the number of handles drawn. What is left
of a list of calls in a buffer, one tree and the operations after it, therefore leads to the same
graph as all of the calls, up to the numbering of handles.
-/

namespace LiveScene

/-- What a host is sent: a tree, or operations. -/
inductive Call where
  | reset (root : Descriptor)
  | patch (ops : List Op)

namespace Call

def isReset : Call → Bool
  | .reset _ => true
  | .patch _ => false

/-- The calls before the last tree; none when there is no tree. -/
def superseded : List Call → List Call
  | [] => []
  | call :: rest => if rest.any isReset then call :: superseded rest else []

theorem superseded_append_reset (calls : List Call) (root : Descriptor) :
    superseded (calls ++ [.reset root]) = calls := by
  induction calls with
  | nil => rfl
  | cons call rest ih => simp [superseded, ih, isReset]

theorem superseded_append_patch (calls : List Call) (ops : List Op) :
    superseded (calls ++ [.patch ops]) = superseded calls := by
  induction calls with
  | nil => rfl
  | cons call rest ih => simp [superseded, ih, isReset]

theorem superseded_eq_nil {calls : List Call} (hfirst : calls.tail.any isReset = false) :
    superseded calls = [] := by
  cases calls with
  | nil => rfl
  | cons call rest =>
      rw [List.tail_cons] at hfirst
      simp [superseded, hfirst]

end Call

/-- What is kept of a call until it can be applied. -/
def Pending.keep (pending : Pending) : Call → Pending
  | .reset root => pending.reset root
  | .patch ops => pending.queue ops

section

variable {ε α β : Type}

theorem exists_of_bind_eq_ok {first : Except ε α} {next : α → Except ε β} {value : β}
    (hbind : first.bind next = .ok value) : ∃ mid, first = .ok mid ∧ next mid = .ok value := by
  cases first with
  | error error => cases hbind
  | ok mid => exact ⟨mid, rfl, hbind⟩

theorem exists_of_map_eq_ok {first : Except ε α} {f : α → β} {value : β}
    (hmap : first.map f = .ok value) : ∃ mid, first = .ok mid ∧ f mid = value := by
  cases first with
  | error error => cases hmap
  | ok mid => exact ⟨mid, rfl, Except.ok.inj hmap⟩

end

namespace Outcome

variable {σ α β : Type}

/-- The state after a step that ended without a fault. -/
def final (outcome : Outcome σ α) : Except Fault σ :=
  outcome.result.map fun _ => outcome.state

theorem state_of_final_eq_ok {outcome : Outcome σ α} {state : σ}
    (hfinal : outcome.final = .ok state) : outcome.state = state := by
  rcases outcome with ⟨_, fault | value, log⟩
  · cases hfinal
  · exact Except.ok.inj hfinal

theorem final_andThen (outcome : Outcome σ α) (next : σ → α → Outcome σ β) :
    (outcome.andThen next).final =
      outcome.result.bind fun value => (next outcome.state value).final := by
  rcases outcome with ⟨state, fault | value, log⟩ <;> rfl

theorem final_map (f : α → β) (outcome : Outcome σ α) : (outcome.map f).final = outcome.final := by
  rcases outcome with ⟨state, fault | value, log⟩ <;> rfl

theorem final_within (put : σ → σ) (outcome : Outcome σ α) :
    (outcome.within put).final = outcome.final.map put := by
  rcases outcome with ⟨state, fault | value, log⟩ <;> rfl

end Outcome

namespace Graph

/-- Fits the camera to a surface, unless that has a zero side. -/
def fitTo (g : Graph) (size : Size) : Outcome Graph Unit :=
  if size.isEmpty then .done g () else g.fitCamera size.aspect

/-- What a call makes of the graph of a host that is ready, on a surface of a size. -/
def receive (size : Size) (g : Graph) : Call → Except Fault Graph
  | .reset root =>
    (g.clear.buildTree root).final.bind fun g => (g.forgetReleased.fitTo size).final
  | .patch ops => (g.applyAll ops).final.map forgetReleased

/-- What the calls that were kept make of an empty graph. -/
def receiveKept (size : Size) (pending : Pending) : Except Fault Graph :=
  match pending.root with
  | some root =>
    (empty.receive size (.reset root)).bind fun g => g.receive size (.patch pending.ops)
  | none => empty.receive size (.patch pending.ops)

/-! ## Numbering does not matter -/

theorem shift_zero (g : Graph) : g.shift 0 = g := by
  have hobjects : (g.objects.map fun _ object => object.shift 0) = g.objects := by
    apply Std.ExtTreeMap.ext_getElem?
    intro id
    rw [Std.ExtTreeMap.getElem?_map]
    cases g.objects[id]? with
    | none => rfl
    | some object => exact congrArg some object.shift_zero
  simp [shift, hobjects]

/-- A graph is what it is without the handles that wait, after these were given up. -/
theorem eq_later_forgetReleased (g : Graph) : g = g.forgetReleased.later 0 g.released := by
  rw [later, shift_zero]
  simp [forgetReleased]

theorem receive_patch_later (size : Size) (k : Nat) (waiting : List Handle) (g : Graph)
    (ops : List Op) :
    (g.later k waiting).receive size (.patch ops) =
      (g.receive size (.patch ops)).map (shift k) := by
  simp only [receive, applyAll_later, Outcome.final_within]
  cases (g.applyAll ops).final <;> rfl

/-- Handles that wait to be taken make no difference to what is received. -/
theorem receive_patch_forgetReleased (size : Size) (g : Graph) (ops : List Op) :
    g.receive size (.patch ops) = g.forgetReleased.receive size (.patch ops) := by
  have hzero : shift 0 = id := funext shift_zero
  conv_lhs => rw [g.eq_later_forgetReleased, receive_patch_later, hzero]
  cases g.forgetReleased.receive size (.patch ops) <;> rfl

/-- Operations that come in two parts lead to the same graph as all at once. -/
theorem receive_patch_append (size : Size) (g : Graph) (ops more : List Op) :
    g.receive size (.patch (ops ++ more)) =
      (g.receive size (.patch ops)).bind fun g => g.receive size (.patch more) := by
  have hmore := fun g' : Graph => g'.receive_patch_forgetReleased size more
  simp only [receive, applyAll_append, Outcome.final_andThen, Outcome.final_map] at hmore ⊢
  simp only [Outcome.final]
  cases (g.applyAll ops).result with
  | error fault => rfl
  | ok report => exact hmore (g.applyAll ops).state

theorem fitTo_later (size : Size) (k : Nat) (waiting : List Handle) (g : Graph) :
    (g.later k waiting).fitTo size = (g.fitTo size).within (later k waiting) := by
  unfold fitTo
  rw [fitCamera_later]
  split <;> rfl

/-- A tree replaces everything but the number of handles drawn. -/
theorem TablesAgree.receive_reset {g : Graph} (hg : g.TablesAgree) (size : Size)
    (root : Descriptor) :
    g.receive size (.reset root) = (empty.receive size (.reset root)).map (shift g.lastHandle) := by
  obtain ⟨released, hclear⟩ := hg.clear_eq
  have hcleared : g.clear = empty.later g.lastHandle released := by
    rw [hclear, later, shift]
    simp [empty]
  have hempty : empty.clear = empty := rfl
  simp only [receive, hcleared, hempty, buildTree_later, Outcome.final_within]
  cases (empty.buildTree root).final with
  | error fault => rfl
  | ok built =>
      have hfit := built.forgetReleased.fitTo_later size g.lastHandle []
      change ((built.forgetReleased.later g.lastHandle []).fitTo size).final =
        (built.forgetReleased.fitTo size).final.map (later g.lastHandle [])
      rw [hfit, Outcome.final_within]

/-! ## Calls and what is kept of them -/

theorem Consistent.forgetReleased {g : Graph} (hg : g.Consistent) : g.forgetReleased.Consistent :=
  hg.of_outline_eq (fun _ => rfl) rfl rfl rfl

theorem Consistent.receive {g g' : Graph} (hg : g.Consistent) {size : Size} {call : Call}
    (hreceive : g.receive size call = .ok g') : g'.Consistent := by
  cases call with
  | patch ops =>
      have happlied : (g.applyAll ops).state.Consistent :=
        applyAll_induction (fun _ op hg => hg.apply op) ops hg
      obtain ⟨g₁, hfinal, rfl⟩ := exists_of_map_eq_ok hreceive
      rw [Outcome.state_of_final_eq_ok hfinal] at happlied
      exact happlied.forgetReleased
  | reset root =>
      have hbuilt : (g.clear.buildTree root).state.Consistent :=
        buildTree_induction (fun _ op hg => hg.apply op) root hg.clear
      obtain ⟨g₁, hfinal, hfit⟩ := exists_of_bind_eq_ok hreceive
      rw [Outcome.state_of_final_eq_ok hfinal] at hbuilt
      rw [← Outcome.state_of_final_eq_ok hfit]
      unfold fitTo
      split
      · exact hbuilt.forgetReleased
      · exact hbuilt.forgetReleased.fitCamera size.aspect

theorem Consistent.foldlM_receive {g g' : Graph} (hg : g.Consistent) {size : Size}
    {calls : List Call} (hcalls : calls.foldlM (Graph.receive size) g = .ok g') :
    g'.Consistent := by
  induction calls generalizing g with
  | nil =>
      cases Except.ok.inj hcalls
      exact hg
  | cons call rest ih =>
      rw [List.foldlM_cons] at hcalls
      obtain ⟨g₁, hfirst, hrest⟩ := exists_of_bind_eq_ok hcalls
      exact ih (hg.receive hfirst) hrest

/-- What is kept changes with operations as a graph does. -/
theorem receiveKept_queue (size : Size) (pending : Pending) (ops : List Op) :
    receiveKept size (pending.queue ops) =
      (receiveKept size pending).bind fun g => g.receive size (.patch ops) := by
  unfold receiveKept Pending.queue
  cases pending.root with
  | none => exact empty.receive_patch_append size pending.ops ops
  | some root =>
      simp only [receive_patch_append]
      cases empty.receive size (.reset root) <;> rfl

theorem released_fitCamera (g : Graph) (aspect : Float32) :
    (g.fitCamera aspect).state.released = g.released := by
  unfold fitCamera
  split
  next => rfl
  next =>
    split
    next => split <;> rfl
    next => rfl

theorem released_fitTo (g : Graph) (size : Size) : (g.fitTo size).state.released = g.released := by
  unfold fitTo
  split
  next => rfl
  next => exact g.released_fitCamera size.aspect

/-- A tree is received as it is kept. -/
theorem receiveKept_reset (size : Size) (pending : Pending) (root : Descriptor) :
    receiveKept size (pending.reset root) = empty.receive size (.reset root) := by
  simp only [receiveKept, Pending.reset]
  cases hroot : empty.receive size (.reset root) with
  | error fault => rfl
  | ok g =>
      obtain ⟨built, -, hfit⟩ := exists_of_bind_eq_ok hroot
      have hreleased : g.released = [] := by
        rw [← Outcome.state_of_final_eq_ok hfit, released_fitTo]
        rfl
      change Except.ok g.forgetReleased = _
      rw [forgetReleased, ← hreleased]

/-- When all calls go through, so does what is kept of them, and it leads to the same graph up to
the handles drawn before the last tree. -/
theorem receive_kept {size : Size} {calls : List Call} {g : Graph}
    (hcalls : calls.foldlM (receive size) empty = .ok g) :
    ∃ kept before, receiveKept size (calls.foldl Pending.keep {}) = .ok kept ∧
      (Call.superseded calls).foldlM (receive size) empty = .ok before ∧
      g = kept.shift before.lastHandle := by
  -- The last call decides what is kept, so calls are added at the end.
  induction calls using List.reverseRecOn generalizing g with
  | nil =>
      cases Except.ok.inj hcalls
      exact ⟨empty, empty, rfl, rfl, (shift_zero empty).symm⟩
  | append_singleton calls call ih =>
      rw [List.foldlM_append] at hcalls
      obtain ⟨g₀, hprefix, hlast⟩ := exists_of_bind_eq_ok hcalls
      rw [List.foldlM_cons] at hlast
      obtain ⟨g₁, hcall, hdone⟩ := exists_of_bind_eq_ok hlast
      cases Except.ok.inj hdone
      rw [List.foldl_append]
      cases call with
      | patch ops =>
          obtain ⟨kept, before, hkept, hbefore, rfl⟩ := ih hprefix
          -- Operations commute with the shift, which stays what it was.
          have hshift : (kept.shift before.lastHandle).receive size (.patch ops) =
              (kept.receive size (.patch ops)).map (shift before.lastHandle) :=
            receive_patch_later size before.lastHandle [] kept ops
          obtain ⟨kept', hkept', rfl⟩ := exists_of_map_eq_ok (hshift ▸ hcall)
          refine ⟨kept', before, ?_, ?_, rfl⟩
          · change receiveKept size (Pending.queue (calls.foldl Pending.keep {}) ops) = _
            rw [receiveKept_queue, hkept]
            exact hkept'
          · rw [Call.superseded_append_patch, hbefore]
      | reset root =>
          -- A tree starts over, and the shift is by all the handles drawn up to here.
          have hconsistent := consistent_empty.foldlM_receive hprefix
          rw [hconsistent.receive_reset] at hcall
          obtain ⟨kept, hkept, rfl⟩ := exists_of_map_eq_ok hcall
          refine ⟨kept, g₀, ?_, ?_, rfl⟩
          · change receiveKept size (Pending.reset (calls.foldl Pending.keep {}) root) = _
            rw [receiveKept_reset, hkept]
          · rw [Call.superseded_append_reset, hprefix]

end Graph

end LiveScene
