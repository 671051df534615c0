import LiveScene.Proofs.Runs

/-! # What becomes of objects

An object starts as the default of its kind. After that a property is stored in it, its lens is set
or fitted, its geometry is made anew, or its links change. A statement about single objects that
holds at the start and is kept by each of these holds of all objects of every run.
-/

namespace LiveScene

/-- A node apart from its links. -/
def Node.core (node : Node) : Node :=
  { node with
    children := []
    role := match node.role with
      | .mesh _ => .mesh {}
      | role => role }

namespace Node

theorem core_setSlot (node : Node) (category : Category) (id : Option NodeId) :
    (node.setSlot category id).core = node.core := by
  rcases node with ⟨_, _, _, _, _, role⟩
  cases role <;> rfl

theorem core_pushChild (node : Node) (child : NodeId) : (node.pushChild child).core = node.core :=
  rfl

theorem core_drop (node : Node) (category : Category) (child : NodeId) :
    (node.drop category child).core = node.core := by
  cases category with
  | generic => rfl
  | geometry => exact node.core_setSlot .geometry none
  | material => exact node.core_setSlot .material none

/-- A change of links makes nothing a camera. -/
theorem role_of_core {node node' : Node} {camera : Camera} (hcore : node'.core = node.core)
    (hrole : node'.role = .camera camera) : node.role = .camera camera := by
  have hsame := congrArg Node.role hcore
  simp only [core, hrole] at hsame
  cases hnode : node.role with
  | camera camera' =>
      rw [hnode] at hsame
      exact hsame.symm
  | scene | group | mesh | light =>
      rw [hnode] at hsame
      cases hsame

end Node

/-- The ways in which the lens of a camera changes: a parameter is set, or the aspect is that of a
surface. In both cases the matrix is formed anew. -/
inductive Camera.Tuned (camera : Camera) : Camera → Prop
  | set {property : Property} {camera' : Camera} (hset : camera.set? property = some camera') :
      Tuned camera camera'.refresh.state
  | fit (aspect : Float32) : Tuned camera (camera.fit aspect).state

/-- A statement about objects that holds of new ones and that no change makes false, apart perhaps
from a change of a lens. -/
structure Object.Steady (P : Object → Prop) : Prop where
  default {kind : Kind} {handle : Handle} {object : Object}
    (hdefault : Object.default? kind handle = some object) : P object
  set {object object' : Object} {property : Property} (h : P object)
    (hset : object.set? property = some object') : P object'
  rebuild {name : String} {geometry : Geometry} {dimension : Dimension} {value : Float32}
    {shape : Shape} (handle : Handle) (h : P ⟨name, .geometry geometry⟩)
    (hshape : geometry.shape.set? dimension value = some shape) :
    P ⟨name, .geometry (Geometry.make shape handle)⟩
  relink {name : String} {node node' : Node} (h : P ⟨name, .node node⟩)
    (hcore : node'.core = node.core) : P ⟨name, .node node'⟩

/-- A statement about objects that a change of a lens does not make false either. -/
structure Object.Lasting (P : Object → Prop) : Prop extends Object.Steady P where
  tune {name : String} {node : Node} {camera camera' : Camera} (h : P ⟨name, .node node⟩)
    (hrole : node.role = .camera camera) (htuned : camera.Tuned camera') :
    P ⟨name, .node { node with role := .camera camera' }⟩

namespace Graph

/-- A statement holds of every live object. -/
def Every (P : Object → Prop) (g : Graph) : Prop :=
  ∀ id object, g.object? id = some object → P object

namespace Every

variable {P : Object → Prop} {g : Graph}

theorem setObject (h : g.Every P) {id : NodeId} {object : Object} (hobject : P object) :
    (g.setObject id object).Every P := by
  intro other found hfound
  rw [object?_setObject] at hfound
  split at hfound
  next =>
    obtain ⟨_, -, rfl⟩ := Option.map_eq_some_iff.mp hfound
    exact hobject
  next => exact h other found hfound

theorem setNode (h : g.Every P) {id : NodeId} {object : Object} (hobject : g.object? id = some object)
    {node : Node} (hnode : P ⟨object.name, .node node⟩) : (g.setNode id node).Every P := by
  rw [setNode_eq_setObject hobject]
  exact h.setObject hnode

theorem remove (h : g.Every P) (id : NodeId) : (g.remove id).Every P := by
  intro other object hobject
  rw [object?_remove] at hobject
  split at hobject
  next => cases hobject
  next => exact h other object hobject

theorem foldl_remove (h : g.Every P) (ids : List NodeId) : (ids.foldl Graph.remove g).Every P := by
  induction ids generalizing g with
  | nil => exact h
  | cons id rest ih => exact ih (h.remove id)

theorem select (h : g.Every P) (id : NodeId) (active : Bool) : (g.select id active).Every P := by
  unfold Graph.select
  split
  · exact h
  · split <;> exact h

theorem unsetProp (h : g.Every P) (id : NodeId) (key : String) :
    (g.unsetProp id key).1.Every P := by
  unfold Graph.unsetProp
  split
  · exact h
  · split
    · exact h.select id false
    · exact h

theorem of_objects_eq {g' : Graph} (h : g.Every P) (hobjects : g'.objects = g.objects) :
    g'.Every P := by
  intro id object hobject
  rw [object?, hobjects] at hobject
  exact h id object hobject

section

variable (hP : Object.Steady P)

include hP

theorem relink (h : g.Every P) {id : NodeId} {node node' : Node} (hnode : g.node? id = some node)
    (hcore : node'.core = node.core) : (g.setNode id node').Every P := by
  obtain ⟨object, hobject, hbody⟩ := node?_eq_some_iff.mp hnode
  rcases object with ⟨name, body⟩
  cases body <;> cases hbody
  exact h.setNode hobject (hP.relink (h id _ hobject) hcore)

theorem detach (h : g.Every P) (parent child : NodeId) : (g.detach parent child).1.Every P := by
  unfold Graph.detach
  cases g.kind? parent with
  | none => exact h
  | some parentKind =>
      cases g.kind? child with
      | none => exact h
      | some kind =>
          cases hobject : g.object? parent with
          | none => exact h
          | some object =>
              dsimp only
              cases hunlinked : object.node?.bind (·.unlink? kind.category child) with
              | none => dsimp only; split <;> exact h
              | some node' =>
                  obtain ⟨node, hnode, hunlink⟩ := Option.bind_eq_some_iff.mp hunlinked
                  have hcore : node'.core = node.core := by
                    unfold Node.unlink? at hunlink
                    split at hunlink
                    · cases Option.some.inj hunlink
                      exact node.core_drop _ _
                    · cases hunlink
                  have hrelinked := h.relink hP (node?_eq_some_iff.mpr ⟨object, hobject, hnode⟩) hcore
                  dsimp only
                  split
                  · exact hrelinked
                  · exact hrelinked

theorem unlink (h : g.Every P) (child : NodeId) : (g.unlink child).Every P := by
  unfold Graph.unlink
  split
  next => exact h
  next parent _ =>
    have hdetached := h.detach hP parent child
    split
    next heq => simpa only [heq] using hdetached
    next heq =>
      rw [heq] at hdetached
      exact hdetached

theorem attach (h : g.Every P) (parent child : NodeId) : (g.attach parent child).1.Every P := by
  have hunlinked := h.unlink hP child
  unfold Graph.attach
  split
  next => exact h
  next =>
    split
    next => exact h
    next kind _ =>
      split
      next => exact h
      next =>
        split
        next =>
          unfold attachToNode
          split
          next => exact h
          next =>
            split
            next => exact h
            next =>
              dsimp only
              have hunmounted : (if kind = .scene then (g.unlink child).unmount child
                  else g.unlink child).Every P := by
                split <;> exact hunlinked
              split
              next node hnode => exact hunmounted.relink hP hnode (node.core_pushChild child)
              next => exact hunmounted
        next =>
          split
          next => exact h
          next =>
            unfold attachToSlot
            dsimp only
            split
            next node hnode =>
              obtain ⟨hnode, -⟩ := Option.filter_eq_some_iff.mp hnode
              have hput := hunlinked.relink hP hnode (node.core_setSlot kind.category (some child))
              split
              · split <;> exact hput
              · exact hput
            next => exact hunlinked

theorem rebuild (h : g.Every P) {id : NodeId} {object : Object}
    (hobject : g.object? id = some object) (dimension : Dimension) (value : Float32) :
    (g.rebuild id object dimension value).1.Every P := by
  unfold Graph.rebuild
  split
  next shape hshape =>
    obtain ⟨geometry, hgeometry, hset⟩ := Option.bind_eq_some_iff.mp hshape
    rcases object with ⟨name, body⟩
    cases body <;> cases hgeometry
    have hrebuilt := hP.rebuild g.nextHandle (h id _ hobject) hset
    have hdrawn : g.drawHandle.Every P := h
    dsimp only
    split
    next g' hreplace =>
      obtain ⟨_, -, rfl⟩ := Option.map_eq_some_iff.mp hreplace
      exact hdrawn.setObject hrebuilt
    next => exact hdrawn
  next => exact h

theorem born (h : g.Every P) {id : NodeId} {kind : Kind} {g' : Graph} (hborn : g.Born id kind g') :
    g'.Every P := by
  obtain ⟨object, hentered⟩ := hborn.entered
  obtain ⟨handle, hdefault⟩ := hentered.default?
  intro other found hfound
  rw [hentered.object?_eq] at hfound
  split at hfound
  next =>
    cases Option.some.inj hfound
    exact hP.default hdefault
  next => exact h other found hfound

theorem delete (h : g.Every P) (id : NodeId) : (g.delete id).state.Every P := by
  rcases g.delete_cases id with ⟨issue, heq⟩ | ⟨-, -, heq⟩
  · rw [heq]
    exact h
  · rw [heq]
    obtain ⟨parents, horphan, -⟩ := (g.unlink id).orphan_spec id ((g.unlink id).dependents id)
    rw [horphan]
    refine Every.remove ?_ id
    exact (h.unlink hP id).of_objects_eq rfl

end

variable (hP : Object.Lasting P)

include hP

theorem setLens (h : g.Every P) {id : NodeId} {object : Object} (hobject : g.object? id = some object)
    (property : Property) : (g.setLens id object property).state.Every P := by
  rcases object with ⟨name, body⟩
  unfold Graph.setLens
  split
  next node hbody =>
    cases hbody
    split
    next camera hrole =>
      split
      next camera' hset =>
        exact h.setNode hobject (hP.tune (h id _ hobject) hrole (.set hset))
      next => exact h
    next => exact h
  next => exact h

theorem setProp (h : g.Every P) (id : NodeId) (key : String) (value : Value) :
    (g.setProp id key value).state.Every P := by
  unfold Graph.setProp
  cases g.kind? id with
  | none => exact h
  | some kind =>
      cases Property.decode key value with
      | error issue => exact h
      | ok property =>
          cases hobject : g.object? id with
          | none => exact h
          | some object =>
              have hstore : ∀ property, (g.store id object property).state.Every P := by
                intro property
                unfold Graph.store
                split
                next hset => exact h.setObject (hP.set (h id object hobject) hset)
                next => exact h
              change (g.setProperty id kind object property).state.Every P
              unfold setProperty
              split
              next active =>
                split
                · exact h.select id active
                · exact h
              next => exact h.setLens hP hobject _
              next => exact h.setLens hP hobject _
              next => exact h.setLens hP hobject _
              next dimension value => exact h.rebuild hP.toSteady hobject dimension value
              next => exact hstore _

theorem apply (h : g.Every P) (op : Op) : (g.apply op).state.Every P := by
  cases op with
  | create id kind properties =>
      rcases g.create_cases id kind properties with ⟨issue, heq⟩ | ⟨g', hborn, heq⟩
      · simp only [Graph.apply, heq]
        exact h
      · simp only [Graph.apply, heq]
        exact setProps_invariant (fun _ key value hg => hg.setProp hP id key value) properties
          (h.born hP.toSteady hborn)
  | attach parent child => exact h.attach hP.toSteady parent child
  | detach parent child => exact h.detach hP.toSteady parent child
  | setProp id key value => exact h.setProp hP id key value
  | unsetProp id key => exact h.unsetProp id key
  | delete id => exact h.delete hP.toSteady id

theorem fitCamera (h : g.Every P) (aspect : Float32) : (g.fitCamera aspect).state.Every P := by
  unfold Graph.fitCamera
  split
  next => exact h
  next id _ =>
    split
    next node hnode =>
      split
      next camera hrole =>
        obtain ⟨object, hobject, hbody⟩ := node?_eq_some_iff.mp hnode
        rcases object with ⟨name, body⟩
        cases body <;> cases hbody
        exact h.setNode hobject (hP.tune (h id _ hobject) hrole (.fit aspect))
      next => exact h
    next => exact h

theorem exec (h : g.Every P) (command : Command) : (g.exec command).Every P := by
  cases command with
  | apply op => exact h.apply hP op
  | build tree => exact buildTree_induction (fun _ op hg => hg.apply hP op) tree h
  | clear => exact h.foldl_remove g.ids.reverse
  | takeReleased => exact h
  | fit aspect => exact h.fitCamera hP aspect

end Every

/-- What lasts holds of all objects in every run. -/
theorem every_run {P : Object → Prop} (hP : Object.Lasting P) (commands : List Command) :
    (run commands).Every P := by
  have hstart : empty.Every P := by
    intro id object hobject
    cases hobject
  have hfold : ∀ g : Graph, g.Every P → (commands.foldl exec g).Every P := by
    induction commands with
    | nil => exact fun g h => h
    | cons command rest ih => exact fun g h => ih _ (h.exec hP command)
  exact hfold empty hstart

end Graph

end LiveScene
