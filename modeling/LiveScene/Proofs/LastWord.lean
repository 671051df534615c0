import LiveScene.Proofs.Deletion
import LiveScene.Proofs.Impacts
import LiveScene.Proofs.LevelOrder

/-! # The last word on the selection

A run of commands leaves a history of deeds: properties set, on their own or along with the creation
of an id, properties unset, ids deleted, graphs cleared. The selection can be told from the history
alone. A camera is selected exactly when it was selected at some time and nothing since then has put
an end to it. That a stale id is never selected is what makes this so: a deed that is ignored, because
the id is not live or no camera, would have changed nothing.
-/

namespace LiveScene

theorem NodeId.turn_false_eq_some_iff {id other : NodeId} {active : Option NodeId} :
    other.turn false active = some id ↔ other ≠ id ∧ active = some id := by
  by_cases hactive : active = some other
  · simp [turn, hactive]
  · simp only [turn, Bool.false_eq_true, if_false, hactive, iff_and_self]
    rintro hid rfl
    exact hactive hid

/-- Something done to a graph that may have to do with the selection. -/
inductive Deed where
  /-- A property was set, on its own or along with the creation of the id. -/
  | set (id : NodeId) (key : String) (value : Value) (accepted : Bool)
  | unset (id : NodeId) (key : String)
  | delete (id : NodeId)
  | clear
deriving DecidableEq

namespace Deed

/-- An id was selected. -/
def activation (id : NodeId) : Deed := .set id Property.activeKey (.bool true) true

/-- Whether a deed puts an end to the selection of an id. -/
def Ends (id : NodeId) : Deed → Prop
  | .set other key value accepted =>
    key = Property.activeKey ∧
      (other = id ∧ value = .bool false ∨ other ≠ id ∧ value = .bool true ∧ accepted = true)
  | .unset other key => other = id ∧ key = Property.activeKey
  | .delete other => other = id
  | .clear => True

/-- The selection after a deed. -/
def retell (active : Option NodeId) : Deed → Option NodeId
  | .set id key (.bool on) accepted =>
    if key = Property.activeKey ∧ (on = true → accepted = true) then id.turn on active else active
  | .set _ _ _ _ => active
  | .unset id key => if key = Property.activeKey then id.turn false active else active
  | .delete id => id.turn false active
  | .clear => none

/-- After a deed an id is selected if the deed selected it, or if it was selected and stays so. -/
theorem retell_eq_some_iff {id : NodeId} {active : Option NodeId} {deed : Deed} :
    retell active deed = some id ↔ deed = activation id ∨ active = some id ∧ ¬deed.Ends id := by
  cases deed with
  | set other key value accepted =>
      by_cases hkey : key = Property.activeKey
      · cases value with
        | bool on =>
            cases on with
            | false => simp [retell, activation, Ends, hkey, NodeId.turn_false_eq_some_iff, and_comm]
            | true =>
                cases accepted with
                | false => simp [retell, activation, Ends]
                | true =>
                    simp only [retell, activation, Ends, hkey, NodeId.turn]
                    by_cases hid : other = id <;> simp [hid]
        | _ => simp [retell, activation, Ends]
      · cases value <;> simp [retell, activation, Ends, hkey]
  | unset other key =>
      by_cases hkey : key = Property.activeKey
      · simp [retell, activation, Ends, hkey, NodeId.turn_false_eq_some_iff, and_comm]
      · simp [retell, activation, Ends, hkey]
  | delete other => simp [retell, activation, Ends, NodeId.turn_false_eq_some_iff, and_comm]
  | clear => simp [retell, activation, Ends]

theorem foldl_retell_of_stays {id : NodeId} {deeds : List Deed}
    (hstays : ∀ deed ∈ deeds, ¬deed.Ends id) : deeds.foldl retell (some id) = some id := by
  induction deeds with
  | nil => rfl
  | cons deed rest ih =>
      obtain ⟨hdeed, hrest⟩ := List.forall_mem_cons.mp hstays
      rw [List.foldl_cons, retell_eq_some_iff.mpr (Or.inr ⟨rfl, hdeed⟩)]
      exact ih hrest

/-- What a history comes to is its last word: an id was selected and nothing later ended this. -/
theorem foldl_retell_eq_some_iff {id : NodeId} (deeds : List Deed) :
    deeds.foldl retell none = some id ↔
      ∃ before after, deeds = before ++ activation id :: after ∧ ∀ deed ∈ after, ¬deed.Ends id := by
  constructor
  · -- The last deed selected the id, or it was selected before and the deed did not end this.
    induction deeds using List.reverseRecOn with
    | nil => simp
    | append_singleton deeds deed ih =>
        rw [List.foldl_append, List.foldl_cons, List.foldl_nil, retell_eq_some_iff]
        rintro (rfl | ⟨hbefore, hdeed⟩)
        · exact ⟨deeds, [], rfl, by simp⟩
        · obtain ⟨before, after, rfl, hafter⟩ := ih hbefore
          refine ⟨before, after ++ [deed], by simp, fun other hother => ?_⟩
          rcases List.mem_append.mp hother with hold | hnew
          · exact hafter other hold
          · exact List.mem_singleton.mp hnew ▸ hdeed
  · rintro ⟨before, after, rfl, hafter⟩
    rw [List.foldl_append, List.foldl_cons, retell_eq_some_iff.mpr (Or.inl rfl)]
    exact foldl_retell_of_stays hafter

end Deed

/-! ## Histories -/

/-- The deeds of a chain of steps, up to the first fault. -/
def Outcome.recount {σ α β : Type} (tell : σ → β → List Deed) (step : σ → β → Outcome σ α)
    (state : σ) : List β → List Deed
  | [] => []
  | item :: rest =>
    tell state item ++
      match (step state item).result with
      | .ok _ => recount tell step (step state item).state rest
      | .error _ => []

/-- Deeds that tell what each step does to the selection tell what a chain of steps does to it. -/
theorem Outcome.foldl_recount {σ α β : Type} {tell : σ → β → List Deed}
    {step : σ → β → Outcome σ α} {active : σ → Option NodeId} {P : σ → Prop}
    (hkeeps : ∀ state item, P state → P (step state item).state)
    (htell : ∀ state item, P state →
      active (step state item).state = (tell state item).foldl Deed.retell (active state))
    (items : List β) {state : σ} (hstate : P state) :
    active (chain step state items).state =
      (recount tell step state items).foldl Deed.retell (active state) := by
  induction items generalizing state with
  | nil => rfl
  | cons item rest ih =>
      simp only [recount, List.foldl_append, ← htell state item hstate]
      cases hresult : (step state item).result with
      | error fault =>
          rw [chain, andThen_of_error hresult]
          rfl
      | ok value =>
          rw [(chain_cons_of_ok hresult rest).2]
          exact ih (hkeeps state item hstate)

namespace Graph

/-- What is told of a property that is set. -/
def settingDeed (g : Graph) (id : NodeId) (property : String × Value) : Deed :=
  .set id property.1 property.2 ((g.setProp id property.1 property.2).result = .ok (.ok ()))

/-- The deeds of an operation. The properties of an id that is created count one by one, as long as
the id is created at all. -/
def deeds (g : Graph) : Op → List Deed
  | .create id kind properties =>
    if (g.create id kind []).result = .ok (.ok ()) then
      Outcome.recount (fun g property => [g.settingDeed id property])
        (fun g property => g.setProp id property.1 property.2) (g.create id kind []).state properties
    else []
  | .setProp id key value => [g.settingDeed id (key, value)]
  | .unsetProp id key => [.unset id key]
  | .delete id => [.delete id]
  | .attach _ _ | .detach _ _ => []

/-- The deeds of a command. -/
def deedsOf (g : Graph) : Command → List Deed
  | .apply op => g.deeds op
  | .build tree => Outcome.recount deeds apply g (tree.places.flatMap Place.ops)
  | .clear => [.clear]
  | .takeReleased | .fit _ => []

/-- The deeds of commands that are run from a graph on. -/
def historyFrom (g : Graph) : List Command → List Deed
  | [] => []
  | command :: rest => g.deedsOf command ++ historyFrom (g.exec command) rest

/-- All that was done in a run of commands. -/
def history (commands : List Command) : List Deed := empty.historyFrom commands

/-! ## The history tells the selection -/

theorem active_fitCamera (g : Graph) (aspect : Float32) :
    (g.fitCamera aspect).state.active = g.active := by
  unfold fitCamera
  split
  next => rfl
  next =>
    split
    next => split <;> rfl
    next => rfl

/-- A camera is selected or deselected as asked, and nothing else can be. -/
theorem TablesAgree.setProp_active {g : Graph} (hg : g.TablesAgree) (id : NodeId) (on : Bool) :
    g.setProp id Property.activeKey (.bool on) =
        .done { g with active := id.turn on g.active } (.ok ()) ∨
      (∀ kind, g.kind? id = some kind → kind.isCamera = false) ∧
        ∃ issue, g.setProp id Property.activeKey (.bool on) = .done g (.error issue) := by
  have hfound := hg.kind?_eq id
  cases hobject : g.object? id with
  | none =>
      rw [hobject, Option.map_none] at hfound
      refine Or.inr ⟨fun kind hkind => ?_, .missingReference id, ?_⟩
      · rw [hfound] at hkind
        cases hkind
      · simp only [setProp, hfound]
  | some object =>
      rw [hobject, Option.map_some] at hfound
      have hdecode : Property.decode Property.activeKey (.bool on) = .ok (.active on) := rfl
      simp only [setProp, hfound, hobject, hdecode, setProperty]
      cases hcamera : object.kind.isCamera with
      | true =>
          refine Or.inl ?_
          simp only [if_true, select_eq]
          rfl
      | false =>
          refine Or.inr ⟨fun kind hkind => ?_, .unsupportedProperty Property.activeKey object.kind, rfl⟩
          rw [← Option.some.inj hkind]
          exact hcamera

section

variable {g : Graph} (hselects : g.SelectsCamera)

include hselects

/-- To deselect what is no camera changes nothing. -/
theorem SelectsCamera.turn_false (id : NodeId)
    (hother : ∀ kind, g.kind? id = some kind → kind.isCamera = false) :
    id.turn false g.active = g.active := by
  have hne : g.active ≠ some id := by
    intro hactive
    obtain ⟨kind, hkind, hcamera⟩ := hselects id hactive
    rw [hother kind hkind] at hcamera
    cases hcamera
  rw [NodeId.turn, if_neg Bool.false_ne_true, if_neg hne]

theorem SelectsCamera.active_unsetProp (id : NodeId) (key : String) :
    (g.unsetProp id key).1.active = (Deed.unset id key).retell g.active := by
  unfold unsetProp
  cases hkind : g.kind? id with
  | none =>
      have hstays := hselects.turn_false id fun kind h => by rw [hkind] at h; cases h
      simp only [Deed.retell, hstays, ite_self]
  | some kind =>
      by_cases hkey : key = Property.activeKey
      · simp only [hkey, if_true, select_eq, Deed.retell]
      · simp only [hkey, if_false, Deed.retell]

variable (hg : g.Consistent)

include hg

theorem SelectsCamera.active_setProp (id : NodeId) (property : String × Value) :
    (g.setProp id property.1 property.2).state.active =
      (g.settingDeed id property).retell g.active := by
  obtain ⟨key, value⟩ := property
  by_cases hkey : key = Property.activeKey
  · subst hkey
    cases value with
    | bool on =>
        rcases hg.setProp_active id on with heq | ⟨hother, issue, heq⟩
        · simp [settingDeed, Deed.retell, heq, Outcome.done]
        · cases on with
          | true => simp [settingDeed, Deed.retell, heq, Outcome.done]
          | false => simp [settingDeed, Deed.retell, heq, Outcome.done, hselects.turn_false id hother]
    | _ =>
        simp only [settingDeed, Deed.retell, setProp]
        split <;> rfl
  · have hkept := (hg.framed ⟨id, key, some value⟩).active hkey
    rw [settingDeed]
    cases value <;> simp only [Deed.retell, hkey, false_and, if_false] <;> exact hkept

theorem SelectsCamera.active_delete (id : NodeId) :
    (g.delete id).state.active = (Deed.delete id).retell g.active := by
  cases hobject : g.object? id with
  | none =>
      have hne := (hg.forgets hselects hobject).active
      simp [Deed.retell, NodeId.turn, hne, delete, contains_eq_isSome, hobject, Outcome.done]
  | some object =>
      rw [(hg.delete_steps hobject).2.2.1]
      simp only [Deed.retell, NodeId.turn, Bool.false_eq_true, if_false]

theorem SelectsCamera.active_setProps (id : NodeId) (properties : PropertyList) :
    (g.setProps id properties).state.active =
      (Outcome.recount (fun g property => [g.settingDeed id property])
        (fun g property => g.setProp id property.1 property.2) g properties).foldl
        Deed.retell g.active := by
  rw [(g.setProps_eq_chain id properties).2]
  exact Outcome.foldl_recount (P := fun g => g.Consistent ∧ g.SelectsCamera)
    (fun g property h => ⟨h.1.apply (.setProp id property.1 property.2),
      h.2.apply h.1.toTablesAgree (.setProp id property.1 property.2)⟩)
    (fun g property h => h.2.active_setProp h.1 id property) properties ⟨hg, hselects⟩

/-- The deeds of an operation tell what it does to the selection. -/
theorem SelectsCamera.active_apply (op : Op) :
    (g.apply op).state.active = (g.deeds op).foldl Deed.retell g.active := by
  cases op with
  | create id kind properties =>
      rcases g.create_uniform id kind with ⟨-, issue, hrefused⟩ | ⟨g', hborn, hcreate⟩
      · simp [Graph.apply, deeds, hrefused, Outcome.done]
      · obtain ⟨object, hentered⟩ := hborn.entered
        have hset := (hselects.born hborn hg.toTablesAgree).active_setProps (hg.born hborn) id properties
        rw [hentered.active_eq] at hset
        simpa [Graph.apply, deeds, hcreate, Outcome.map, setProps, Outcome.done, Except.map] using hset
  | attach parent child =>
      obtain ⟨objects, parents, scenes, heq⟩ := g.exists_attach_eq parent child
      change (g.attach parent child).1.active = g.active
      rw [heq]
  | detach parent child =>
      obtain ⟨objects, parents, heq⟩ := g.exists_detach_eq parent child
      change (g.detach parent child).1.active = g.active
      rw [heq]
  | setProp id key value => exact hselects.active_setProp hg id (key, value)
  | unsetProp id key => exact hselects.active_unsetProp id key
  | delete id => exact hselects.active_delete hg id

theorem SelectsCamera.active_exec (command : Command) :
    (g.exec command).active = (g.deedsOf command).foldl Deed.retell g.active := by
  cases command with
  | apply op => exact hselects.active_apply hg op
  | build tree =>
      change (g.buildTree tree).state.active = _
      rw [(g.buildTree_eq_applyAll tree).1, (g.applyAll_eq_chain _).2]
      exact Outcome.foldl_recount (P := fun g => g.Consistent ∧ g.SelectsCamera)
        (fun g op h => ⟨h.1.apply op, h.2.apply h.1.toTablesAgree op⟩)
        (fun g op h => h.2.active_apply h.1 op) _ ⟨hg, hselects⟩
  | clear => rfl
  | takeReleased => rfl
  | fit aspect => exact g.active_fitCamera aspect

/-- There is something to be seen exactly when a camera is selected. -/
theorem SelectsCamera.isSome_frame?_iff : g.frame?.isSome ↔ g.active.isSome := by
  cases hactive : g.active with
  | none => simp [frame?, hactive]
  | some id =>
      obtain ⟨node, camera, hnode, hcamera⟩ := hg.exists_camera? hselects hactive
      simp [frame?, hactive, hcamera, worldMatrix?, hnode]

end

/-- The history of a run tells which camera is selected. -/
theorem active_run (commands : List Command) :
    (run commands).active = (history commands).foldl Deed.retell none := by
  have hrun : ∀ g : Graph, g.Consistent → g.SelectsCamera →
      (commands.foldl exec g).active = (g.historyFrom commands).foldl Deed.retell g.active := by
    induction commands with
    | nil => exact fun _ _ _ => rfl
    | cons command rest ih =>
        intro g hg hselects
        rw [historyFrom, List.foldl_append, ← hselects.active_exec hg command]
        exact ih _ (hg.exec command) (hg.selectsCamera_exec hselects command)
  exact hrun empty consistent_empty fun id hid => by cases hid

/-- The camera selected in the graph that any commands led to. It is live and a camera, so that there
is a frame exactly when one is selected. It has the last word in the history: it was selected at some
time, and later no other was, nor was it deselected or deleted, nor everything cleared. What is done
to another id to the same end does not change it. -/
theorem selection_last_word (commands : List Command) :
    let g := run commands
    (∀ id, g.active = some id → (∃ kind, g.kind? id = some kind ∧ kind.isCamera = true) ∧
      ∃ object, g.object? id = some object ∧ object.camera?.isSome) ∧
    (g.frame?.isSome ↔ g.active.isSome) ∧
    (∀ id, g.active = some id ↔ ∃ before after,
      history commands = before ++ Deed.activation id :: after ∧ ∀ deed ∈ after, ¬deed.Ends id) ∧
    ∀ id other key, g.active = some id → other ≠ id →
      ∀ op ∈ [.setProp other Property.activeKey (.bool false), .unsetProp other key, .delete other],
        (g.apply op).state.active = some id := by
  intro g
  have hg : g.Consistent := consistent_run commands
  have hselects : g.SelectsCamera := selectsCamera_run commands
  refine ⟨fun id hactive => ⟨hselects id hactive, ?_⟩, hselects.isSome_frame?_iff hg, fun id => ?_,
    fun id other key hactive hne op hop => ?_⟩
  · obtain ⟨node, camera, -, hcamera⟩ := hg.exists_camera? hselects hactive
    obtain ⟨object, hobject, hlens⟩ := Option.bind_eq_some_iff.mp hcamera
    exact ⟨object, hobject, Option.isSome_of_eq_some hlens⟩
  · rw [show g.active = _ from active_run commands]
    exact Deed.foldl_retell_eq_some_iff (history commands)
  · have hstays : ∀ deed : Deed, deed ∈ g.deeds op → ¬deed.Ends id := by
      simp only [List.mem_cons, List.not_mem_nil, or_false] at hop
      rcases hop with rfl | rfl | rfl <;> simp [deeds, settingDeed, Deed.Ends, hne]
    rw [hselects.active_apply hg, hactive]
    exact Deed.foldl_retell_of_stays hstays

/-- An id that was selected, deleted and given to a mesh is not selected again. A camera that selects
itself when it is created keeps the word, whatever becomes of the mesh. -/
theorem selection_last_word_recreated :
    let on : String × Value := (Property.activeKey, .bool true)
    let off : String × Value := (Property.activeKey, .bool false)
    let commands : List Command := [.apply (.create ⟨1⟩ .perspectiveCamera [on]),
      .apply (.delete ⟨1⟩), .apply (.create ⟨1⟩ .mesh [on]),
      .apply (.create ⟨2⟩ .orthographicCamera [on, off, on]),
      .apply (.setProp ⟨1⟩ Property.activeKey (.bool false)), .apply (.delete ⟨1⟩)]
    let before : List Deed := [.activation ⟨1⟩, .delete ⟨1⟩,
      .set ⟨1⟩ Property.activeKey (.bool true) false, .activation ⟨2⟩,
      .set ⟨2⟩ Property.activeKey (.bool false) true]
    let after : List Deed := [.set ⟨1⟩ Property.activeKey (.bool false) false, .delete ⟨1⟩]
    history commands = before ++ .activation ⟨2⟩ :: after ∧
      (run commands).active = some ⟨2⟩ ∧ (run commands).frame?.isSome := by
  intro on off commands before after
  have hhistory : history commands = before ++ .activation ⟨2⟩ :: after := by decide +kernel
  obtain ⟨-, hframe, hword, -⟩ := selection_last_word commands
  have hactive : (run commands).active = some ⟨2⟩ :=
    (hword ⟨2⟩).mpr ⟨before, after, hhistory, by simp [after, Deed.Ends]⟩
  exact ⟨hhistory, hactive, hframe.mpr (Option.isSome_of_eq_some hactive)⟩

end Graph

end LiveScene
