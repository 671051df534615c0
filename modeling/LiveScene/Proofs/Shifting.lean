import LiveScene.Proofs.Membership

/-! # Graphs with other handles

Nothing that is done to a graph depends on how its handles are numbered. A graph in which some
handles had been drawn before, and perhaps wait to be taken, goes through the same edits with the
same results and the same log, and stays the same graph up to these handles.
-/

namespace LiveScene

/-! ## Objects -/

/-- The body with a number added to its handle, if it has one. -/
def Body.shift (k : Nat) : Body → Body
  | .node inner => .node inner
  | .geometry inner => .geometry { inner with handle := inner.handle + k }
  | .material inner => .material { inner with handle := inner.handle + k }

/-- Setting a property of a material does not look at its handle. -/
theorem Material.set?_shift (k : Nat) (material : Material) (property : Property) :
    Material.set? { material with handle := material.handle + k } property =
      (material.set? property).map fun material =>
        { material with handle := material.handle + k } := by
  rcases material with ⟨shading, _, _, _, _, _, _⟩
  cases property <;> cases shading <;> rfl

namespace Object

def shift (k : Nat) (object : Object) : Object :=
  { object with body := object.body.shift k }

variable (k : Nat) (object : Object)

@[simp] theorem node?_shift : (object.shift k).node? = object.node? := by
  rcases object with ⟨name, body⟩
  cases body <;> rfl

theorem handle?_shift : (object.shift k).handle? = object.handle?.map (· + k) := by
  rcases object with ⟨name, body⟩
  cases body <;> rfl

theorem shift_zero : object.shift 0 = object := by
  rcases object with ⟨name, body⟩
  cases body <;> rfl

/-- New objects differ in their handles only. -/
theorem default?_add (kind : Kind) (handle : Handle) :
    default? kind (handle + k) = (default? kind handle).map (shift k) := by
  cases kind <;> rfl

theorem set?_shift (property : Property) :
    (object.shift k).set? property = (object.set? property).map (shift k) := by
  unfold set?
  split
  next => rfl
  next =>
    rcases object with ⟨name, body⟩
    cases body with
    | node node => simp [shift, Body.shift, Function.comp_def]
    | geometry geometry => rfl
    | material material =>
        simp [shift, Body.shift, Function.comp_def, Material.set?_shift]

end Object

namespace Outcome

variable {σ α β : Type} (put : σ → σ)

theorem within_andThen (outcome : Outcome σ α) {next : σ → α → Outcome σ β}
    (hnext : ∀ state value, next (put state) value = (next state value).within put) :
    (outcome.within put).andThen next = (outcome.andThen next).within put := by
  rcases outcome with ⟨state, fault | value, log⟩
  · rfl
  · simp only [andThen, within, hnext]
    rfl

theorem within_note (outcome : Outcome σ α) {log : σ → α → Log}
    (hlog : ∀ state value, log (put state) value = log state value) :
    (outcome.within put).note log = (outcome.note log).within put := by
  rcases outcome with ⟨state, fault | value, records⟩
  · rfl
  · simp only [note, within, hlog]

end Outcome

namespace Graph

/-- The graph with a number added to all handles and to the count of handles drawn. -/
def shift (k : Nat) (g : Graph) : Graph :=
  { g with
    objects := g.objects.map fun _ object => object.shift k
    released := g.released.map (· + k)
    lastHandle := g.lastHandle + k }

/-- The graph after some handles had been drawn before, of which some wait to be taken. -/
def later (k : Nat) (waiting : List Handle) (g : Graph) : Graph :=
  { g.shift k with released := waiting ++ (g.shift k).released }

variable (k : Nat) (waiting : List Handle) (g : Graph) (id other : NodeId)

/-! ## Lookups and single changes -/

@[simp] theorem object?_later :
    (g.later k waiting).object? id = (g.object? id).map (Object.shift k) := by
  simp [later, shift, object?, Std.ExtTreeMap.getElem?_map]

@[simp] theorem kind?_later : (g.later k waiting).kind? id = g.kind? id := rfl

@[simp] theorem parent?_later : (g.later k waiting).parent? id = g.parent? id := rfl

@[simp] theorem active_later : (g.later k waiting).active = g.active := rfl

@[simp] theorem node?_later : (g.later k waiting).node? id = g.node? id := by
  rw [node?, object?_later, node?]
  cases g.object? id <;> simp

@[simp] theorem contains_later : (g.later k waiting).contains id = g.contains id := by
  rw [contains_eq_isSome, contains_eq_isSome, object?_later, Option.isSome_map]

theorem nextHandle_later : (g.later k waiting).nextHandle = g.nextHandle + k :=
  Nat.add_right_comm g.lastHandle k 1

theorem chainReaches_later (depth : Nat) (start : Option NodeId) :
    (g.later k waiting).chainReaches other depth start = g.chainReaches other depth start := by
  induction depth generalizing start with
  | zero => cases start <;> rfl
  | succ depth ih =>
      cases start with
      | none => rfl
      | some node => simp only [chainReaches, parent?_later, ih]

@[simp] theorem isAncestor_later :
    (g.later k waiting).isAncestor other id = g.isAncestor other id :=
  g.chainReaches_later k waiting other _ _

theorem modify_later {f f' : Object → Object}
    (hshift : ∀ object, f' (object.shift k) = (f object).shift k) :
    (g.later k waiting).modify id f' = (g.modify id f).later k waiting := by
  have hobjects : ((g.later k waiting).modify id f').objects =
      ((g.modify id f).later k waiting).objects := by
    apply Std.ExtTreeMap.ext_getElem?
    intro other
    simp only [modify, later, shift, Std.ExtTreeMap.getElem?_modify, Std.ExtTreeMap.getElem?_map,
      Std.compare_eq_iff_eq]
    split
    · cases g.objects[id]? <;> simp [hshift]
    · rfl
  exact congrArg (fun objects => { g.later k waiting with objects }) hobjects

theorem setObject_later (object : Object) :
    (g.later k waiting).setObject id (object.shift k) = (g.setObject id object).later k waiting :=
  g.modify_later k waiting id fun _ => rfl

@[simp] theorem setNode_later (node : Node) :
    (g.later k waiting).setNode id node = (g.setNode id node).later k waiting :=
  g.modify_later k waiting id fun _ => rfl

@[simp] theorem setParent_later (parent : Option NodeId) :
    (g.later k waiting).setParent id parent = (g.setParent id parent).later k waiting := rfl

theorem drawHandle_later :
    (g.later k waiting).drawHandle = g.drawHandle.later k waiting := by
  rw [drawHandle, nextHandle_later]
  rfl

theorem insert?_later (kind : Kind) (object : Object) :
    (g.later k waiting).insert? id kind (object.shift k) =
      (g.insert? id kind object).map (later k waiting) := by
  have hobjects : (g.later k waiting).objects.insert id (object.shift k) =
      (g.objects.insert id object).map fun _ object => object.shift k := by
    apply Std.ExtTreeMap.ext_getElem?
    intro other
    simp only [later, shift, Std.ExtTreeMap.getElem?_insert, Std.ExtTreeMap.getElem?_map]
    split <;> rfl
  unfold insert?
  rw [contains_later]
  split
  · rfl
  · simp only [hobjects, Option.map_some]
    rfl

theorem remove_later : (g.later k waiting).remove id = (g.remove id).later k waiting := by
  have hobjects : (g.later k waiting).objects.erase id =
      (g.objects.erase id).map fun _ object => object.shift k := by
    apply Std.ExtTreeMap.ext_getElem?
    intro other
    simp only [later, shift, Std.ExtTreeMap.getElem?_erase, Std.ExtTreeMap.getElem?_map]
    split <;> rfl
  unfold remove
  rw [object?_later]
  cases g.object? id with
  | none => rfl
  | some object =>
      simp only [Option.map_some, hobjects, Object.handle?_shift]
      simp only [later, shift, List.map_append, Option.toList_map, List.append_assoc]
      rfl

theorem replace?_later (object : Object) :
    (g.later k waiting).replace? id (object.shift k) =
      (g.replace? id object).map (later k waiting) := by
  unfold replace?
  rw [object?_later]
  cases g.object? id with
  | none => rfl
  | some previous =>
      simp only [Option.map_some, setObject_later, Object.handle?_shift]
      simp only [release, later, shift, List.map_append, Option.toList_map, List.append_assoc]

theorem newObject?_later (kind : Kind) :
    (g.later k waiting).newObject? kind =
      (g.newObject? kind).map fun (object, g) => (object.shift k, g.later k waiting) := by
  unfold newObject?
  rw [nextHandle_later, Object.default?_add]
  cases Object.default? kind g.nextHandle with
  | none => rfl
  | some object =>
      simp only [Option.map_some, Object.handle?_shift, Option.isSome_map, drawHandle_later]
      split <;> rfl

/-! ## Links -/

theorem detach_later (parent child : NodeId) :
    (g.later k waiting).detach parent child =
      ((g.detach parent child).1.later k waiting, (g.detach parent child).2) := by
  unfold detach
  simp only [kind?_later, object?_later]
  cases g.kind? parent with
  | none => rfl
  | some parentKind =>
      cases g.kind? child with
      | none => rfl
      | some kind =>
          cases g.object? parent with
          | none => rfl
          | some object =>
              simp only [Option.map_some, Object.node?_shift]
              cases object.node?.bind (·.unlink? kind.category child) with
              | none =>
                  simp only [parent?_later, setParent_later]
                  split <;> rfl
              | some node =>
                  simp only [setNode_later, parent?_later, setParent_later]
                  split <;> rfl

theorem unlink_later (child : NodeId) :
    (g.later k waiting).unlink child = (g.unlink child).later k waiting := by
  unfold unlink
  rw [parent?_later]
  cases g.parent? child with
  | none => rfl
  | some parent =>
      dsimp only
      rw [detach_later]
      rcases g.detach parent child with ⟨g', _ | _⟩ <;> rfl

theorem attachToSlot_later (parent child : NodeId) (category : Category) :
    (g.later k waiting).attachToSlot parent child category =
      ((g.attachToSlot parent child category).1.later k waiting,
        (g.attachToSlot parent child category).2) := by
  unfold attachToSlot
  simp only [unlink_later, node?_later]
  cases ((g.unlink child).node? parent).filter Node.isMesh with
  | none => rfl
  | some node =>
      simp only [setNode_later]
      cases node.slot? category with
      | none => rfl
      | some previous =>
          dsimp only
          split <;> rfl

theorem attachToNode_later (parent child : NodeId) (kind : Kind) :
    (g.later k waiting).attachToNode parent child kind =
      ((g.attachToNode parent child kind).1.later k waiting,
        (g.attachToNode parent child kind).2) := by
  have hunmounted : (if kind = .scene then ((g.unlink child).later k waiting).unmount child
      else (g.unlink child).later k waiting) =
        (if kind = .scene then (g.unlink child).unmount child else g.unlink child).later k waiting := by
    split <;> rfl
  unfold attachToNode
  simp only [node?_later, isAncestor_later, unlink_later, hunmounted]
  cases g.node? parent with
  | none => rfl
  | some old =>
      dsimp only
      split
      · rfl
      · generalize (if kind = .scene then (g.unlink child).unmount child else g.unlink child) = g'
        cases g'.node? parent with
        | none => rfl
        | some node => simp only [setNode_later, setParent_later]

theorem attach_later (parent child : NodeId) :
    (g.later k waiting).attach parent child =
      ((g.attach parent child).1.later k waiting, (g.attach parent child).2) := by
  unfold attach
  simp only [kind?_later, attachToNode_later, attachToSlot_later]
  cases g.kind? parent with
  | none => rfl
  | some parentKind =>
      cases g.kind? child with
      | none => rfl
      | some kind =>
          dsimp only
          split
          · rfl
          · split
            · rfl
            · split <;> rfl

theorem dependents_later : (g.later k waiting).dependents id = g.dependents id := by
  rw [dependents, node?_later, dependents]

theorem orphan_later (dependents : List NodeId) :
    (g.later k waiting).orphan id dependents = (g.orphan id dependents).later k waiting := by
  induction dependents generalizing g with
  | nil => rfl
  | cons dependent rest ih =>
      rw [orphan_cons, orphan_cons]
      have hstep : (if (g.later k waiting).parent? dependent = some id
          then (g.later k waiting).setParent dependent none else g.later k waiting) =
            (if g.parent? dependent = some id then g.setParent dependent none else g).later
              k waiting := by
        rw [parent?_later]
        split <;> rfl
      rw [hstep, ih]

theorem leaveParent_later :
    (g.later k waiting).leaveParent id =
      ((g.leaveParent id).1.later k waiting, (g.leaveParent id).2) := by
  unfold leaveParent
  rw [parent?_later]
  cases g.parent? id with
  | none => rfl
  | some parent =>
      dsimp only
      rw [detach_later]
      rcases g.detach parent id with ⟨g', _ | _⟩ <;> rfl

theorem delete_later :
    (g.later k waiting).delete id = (g.delete id).within (later k waiting) := by
  unfold delete
  rw [contains_later]
  split
  · simp only [leaveParent_later, dependents_later, orphan_later, remove_later, removalLog,
      active_later, contains_later]
    rfl
  · rfl

/-! ## Properties -/

theorem select_later (active : Bool) :
    (g.later k waiting).select id active = (g.select id active).later k waiting := by
  unfold select
  split
  · rfl
  · rw [active_later]
    split <;> rfl

theorem setLens_later (object : Object) (property : Property) :
    (g.later k waiting).setLens id (object.shift k) property =
      (g.setLens id object property).within (later k waiting) := by
  rcases object with ⟨name, body⟩
  cases body with
  | node node =>
      simp only [setLens, Object.shift, Body.shift]
      split
      next camera _ =>
        cases camera.set? property with
        | none => rfl
        | some camera' =>
            simp only [setNode_later]
            rfl
      next => rfl
  | geometry geometry => rfl
  | material material => rfl

theorem rebuild_later (object : Object) (dimension : Dimension) (value : Float32) :
    (g.later k waiting).rebuild id (object.shift k) dimension value =
      ((g.rebuild id object dimension value).1.later k waiting,
        (g.rebuild id object dimension value).2) := by
  rcases object with ⟨name, body⟩
  cases body with
  | node node => rfl
  | material material => rfl
  | geometry geometry =>
      simp only [rebuild, Object.geometry?, Object.shift, Body.shift, Option.bind_some]
      cases geometry.shape.set? dimension value with
      | none => rfl
      | some shape =>
          have hrebuilt : (⟨name, .geometry (Geometry.make shape (g.later k waiting).nextHandle)⟩ :
              Object) = Object.shift k ⟨name, .geometry (Geometry.make shape g.nextHandle)⟩ := by
            rw [nextHandle_later]
            rfl
          simp only [hrebuilt, drawHandle_later, replace?_later]
          cases g.drawHandle.replace? id ⟨name, .geometry (Geometry.make shape g.nextHandle)⟩ <;> rfl

theorem store_later (object : Object) (property : Property) :
    (g.later k waiting).store id (object.shift k) property =
      (g.store id object property).within (later k waiting) := by
  unfold store
  rw [Object.set?_shift]
  cases object.set? property with
  | none => rfl
  | some object' =>
      simp only [Option.map_some, setObject_later]
      rfl

theorem setProperty_later (kind : Kind) (object : Object) (property : Property) :
    (g.later k waiting).setProperty id kind (object.shift k) property =
      (g.setProperty id kind object property).within (later k waiting) := by
  unfold setProperty
  simp only [select_later, setLens_later, rebuild_later, store_later]
  split
  next =>
    split <;> rfl
  all_goals rfl

theorem setProp_later (key : String) (value : Value) :
    (g.later k waiting).setProp id key value =
      (g.setProp id key value).within (later k waiting) := by
  unfold setProp
  simp only [kind?_later, object?_later]
  cases g.kind? id with
  | none => rfl
  | some kind =>
      cases Property.decode key value with
      | error issue => rfl
      | ok property =>
          cases g.object? id with
          | none => rfl
          | some object =>
              simp only [Option.map_some, setProperty_later]
              rfl

theorem unsetProp_later (key : String) :
    (g.later k waiting).unsetProp id key =
      ((g.unsetProp id key).1.later k waiting, (g.unsetProp id key).2) := by
  unfold unsetProp
  simp only [kind?_later, select_later]
  cases g.kind? id with
  | none => rfl
  | some kind =>
      dsimp only
      split <;> rfl

theorem setProps_later (properties : PropertyList) :
    (g.later k waiting).setProps id properties =
      (g.setProps id properties).within (later k waiting) := by
  induction properties generalizing g with
  | nil => rfl
  | cons property rest ih =>
      obtain ⟨key, value⟩ := property
      simp only [setProps, setProp_later]
      rw [Outcome.within_note (later k waiting) _ fun _ _ => rfl]
      exact Outcome.within_andThen _ _ fun g' _ => ih g'

theorem create_later (kind : Kind) (properties : PropertyList) :
    (g.later k waiting).create id kind properties =
      (g.create id kind properties).within (later k waiting) := by
  unfold create
  rw [contains_later, newObject?_later]
  split
  · rfl
  · cases g.newObject? kind with
    | none => rfl
    | some new =>
        obtain ⟨object, g'⟩ := new
        simp only [Option.map_some, insert?_later]
        cases g'.insert? id kind object with
        | none => rfl
        | some g'' =>
            simp only [Option.map_some, setProps_later]
            rfl

/-! ## Operations, batches and trees -/

theorem apply_later (op : Op) :
    (g.later k waiting).apply op = (g.apply op).within (later k waiting) := by
  cases op with
  | create id kind properties => exact g.create_later k waiting id kind properties
  | attach parent child =>
      simp only [apply, attach_later]
      rfl
  | detach parent child =>
      simp only [apply, detach_later]
      rfl
  | setProp id key value => exact g.setProp_later k waiting id key value
  | unsetProp id key =>
      simp only [apply, unsetProp_later]
      rfl
  | delete id => exact g.delete_later k waiting id

theorem record_later (report : Report) (op : Op) :
    (g.later k waiting).record report op = (g.record report op).within (later k waiting) := by
  unfold record
  rw [apply_later, Outcome.within_note (later k waiting) _ fun _ _ => rfl]
  rfl

theorem foldl_recordAfter_later (ops : List Op) (outcome : Outcome Graph Report) :
    ops.foldl recordAfter (outcome.within (later k waiting)) =
      (ops.foldl recordAfter outcome).within (later k waiting) := by
  induction ops generalizing outcome with
  | nil => rfl
  | cons op rest ih =>
      have hstep : recordAfter (outcome.within (later k waiting)) op =
          (recordAfter outcome op).within (later k waiting) :=
        Outcome.within_andThen _ _ fun g report => g.record_later k waiting report op
      rw [List.foldl_cons, hstep, ih, List.foldl_cons]

theorem applyAll_later (ops : List Op) :
    (g.later k waiting).applyAll ops = (g.applyAll ops).within (later k waiting) :=
  foldl_recordAfter_later k waiting ops (.done g {})

theorem build_later (outcome : Outcome Graph Report) (queue : Queue) :
    build (outcome.within (later k waiting)) queue =
      (build outcome queue).within (later k waiting) := by
  fun_induction build outcome queue with
  | case1 outcome => rw [build]
  | case2 outcome parent tree rest ih => rw [build, foldl_recordAfter_later, ih]

theorem size_later : (g.later k waiting).size = g.size :=
  Std.ExtTreeMap.size_map

theorem buildTree_later (tree : Descriptor) :
    (g.later k waiting).buildTree tree = (g.buildTree tree).within (later k waiting) := by
  unfold buildTree
  have hbuild : build (.done (g.later k waiting) {}) [(none, tree)] =
      (build (.done g {}) [(none, tree)]).within (later k waiting) :=
    build_later k waiting (.done g {}) [(none, tree)]
  rw [hbuild]
  exact Outcome.within_note _ _ fun g' _ => by rw [size_later]

theorem fitCamera_later (aspect : Float32) :
    (g.later k waiting).fitCamera aspect = (g.fitCamera aspect).within (later k waiting) := by
  unfold fitCamera
  rw [active_later]
  cases g.active with
  | none => rfl
  | some id =>
      simp only [node?_later]
      cases g.node? id with
      | none => rfl
      | some node =>
          dsimp only
          split
          next => simp only [setNode_later]; rfl
          next => rfl

end Graph

end LiveScene
