import LiveScene.Proofs.Membership

/-! # Runs

A graph changes in five ways: an operation is applied, a tree is built into it, it is cleared, the
handles given up are taken, or its camera is fitted to a surface. What one operation keeps is kept
by whole lists of operations and by trees, with or without a fault, and so by every run.
-/

namespace LiveScene.Graph

/-! ## What every operation keeps -/

section

variable {P : Graph → Prop} (happly : ∀ g op, P g → P (g.apply op).state)

include happly

theorem recordAfter_induction {outcome : Outcome Graph Report} (hstart : P outcome.state) (op : Op) :
    P (recordAfter outcome op).state := by
  unfold recordAfter Outcome.andThen
  cases outcome.result with
  | error fault => exact hstart
  | ok report =>
      have hstep := happly outcome.state op hstart
      simp only [Outcome.after, record, Outcome.map, Outcome.note]
      split <;> exact hstep

theorem foldl_recordAfter_induction (ops : List Op) {outcome : Outcome Graph Report}
    (hstart : P outcome.state) : P (ops.foldl recordAfter outcome).state := by
  induction ops generalizing outcome with
  | nil => exact hstart
  | cons op rest ih => exact ih (recordAfter_induction happly hstart op)

theorem applyAll_induction (ops : List Op) {g : Graph} (hg : P g) : P (g.applyAll ops).state :=
  foldl_recordAfter_induction happly ops hg

theorem build_induction (queue : Queue) {outcome : Outcome Graph Report}
    (hstart : P outcome.state) : P (build outcome queue).state := by
  fun_induction build outcome queue with
  | case1 outcome => exact hstart
  | case2 outcome parent tree rest ih =>
      exact ih (foldl_recordAfter_induction happly (nodeOps parent tree) hstart)

theorem buildTree_induction (tree : Descriptor) {g : Graph} (hg : P g) :
    P (g.buildTree tree).state := by
  have hbuilt : P (build (.done g {}) [(none, tree)]).state := build_induction happly _ hg
  unfold buildTree Outcome.note
  split <;> exact hbuilt

end

theorem Consistent.apply {g : Graph} (hg : g.Consistent) (op : Op) :
    (g.apply op).state.Consistent := by
  cases op with
  | create id kind properties => exact hg.create id kind properties
  | attach parent child => exact hg.attach parent child
  | detach parent child => exact hg.detach parent child
  | setProp id key value =>
      rcases g.setProp_cases id key value with ⟨issue, heq⟩ | ⟨htouched, -⟩
      · simp only [Graph.apply, heq]
        exact hg
      · exact hg.touched htouched
  | unsetProp id key =>
      rcases g.unsetProp_cases id key with ⟨issue, heq⟩ | ⟨htouched, -⟩
      · simp only [Graph.apply, heq]
        exact hg
      · exact hg.touched htouched
  | delete id => exact hg.delete id

theorem Consistent.fitCamera {g : Graph} (hg : g.Consistent) (aspect : Float32) :
    (g.fitCamera aspect).state.Consistent := by
  rcases g.fitCamera_cases aspect with heq | ⟨id, htouched⟩
  · rw [heq]
    exact hg
  · exact hg.touched htouched

/-! ## Runs from the empty graph -/

/-- What can be done to a graph. -/
inductive Command where
  | apply (op : Op)
  | build (tree : Descriptor)
  | clear
  | takeReleased
  | fit (aspect : Float32)

/-- The graph after a command, whether or not it ended in a fault. -/
def exec (g : Graph) : Command → Graph
  | .apply op => (g.apply op).state
  | .build tree => (g.buildTree tree).state
  | .clear => g.clear
  | .takeReleased => g.forgetReleased
  | .fit aspect => (g.fitCamera aspect).state

def run (commands : List Command) : Graph :=
  commands.foldl exec empty

theorem Consistent.exec {g : Graph} (hg : g.Consistent) (command : Command) :
    (g.exec command).Consistent := by
  cases command with
  | apply op => exact hg.apply op
  | build tree => exact buildTree_induction (fun _ op hg => hg.apply op) tree hg
  | clear => exact hg.clear
  | takeReleased => exact hg.of_outline_eq (fun _ => rfl) rfl rfl rfl
  | fit aspect => exact hg.fitCamera aspect

theorem Consistent.foldl_exec {g : Graph} (hg : g.Consistent) (commands : List Command) :
    (commands.foldl Graph.exec g).Consistent := by
  induction commands generalizing g with
  | nil => exact hg
  | cons command rest ih => exact ih (hg.exec command)

theorem consistent_run (commands : List Command) : (run commands).Consistent :=
  consistent_empty.foldl_exec commands

end LiveScene.Graph
