import LiveScene.Replay.Script

/-! # The script for want of another

A lit box in front of a camera, joined by a sphere; a change of size, a surface that is hidden, and
some operations that cannot be applied.
-/

namespace LiveScene.Script

private def boxScene : Descriptor :=
  .node ⟨1⟩ .scene []
    [.node ⟨2⟩ .perspectiveCamera
        [("position", .vec3 0 2 6), ("lookAt", .vec3 0 0 0), ("active", .bool true)] [],
      .node ⟨3⟩ .ambientLight [("intensity", .number 0.4)] [],
      .node ⟨4⟩ .directionalLight [("position", .vec3 3 5 2), ("color", .rgb 255 244 214)] [],
      .node ⟨5⟩ .mesh [("castShadow", .bool true)]
        [.node ⟨6⟩ .boxGeometry [] [],
          .node ⟨7⟩ .standardMaterial
            [("color", .rgb 64 128 255), ("roughness", .number 0.4)] []]]

private def addSphere : List Op :=
  [.create ⟨8⟩ .group [],
    .attach ⟨1⟩ ⟨8⟩,
    .create ⟨9⟩ .mesh [("position", .vec3 2 0 0)],
    .create ⟨10⟩ .sphereGeometry [("radius", .number 0.5)],
    .create ⟨11⟩ .basicMaterial [("opacity", .number 0.5)],
    .attach ⟨8⟩ ⟨9⟩,
    .attach ⟨9⟩ ⟨10⟩,
    .attach ⟨9⟩ ⟨11⟩,
    .setProp ⟨6⟩ "width" (.number 2),
    .create ⟨12⟩ .unsupported [],
    .attach ⟨5⟩ ⟨99⟩]

private def dropMaterial : List Op :=
  [.detach ⟨5⟩ ⟨7⟩,
    .delete ⟨7⟩,
    .unsetProp ⟨2⟩ "active"]

def standard : Script where
  surfaceId := 1
  size := ⟨800, 600⟩
  steps :=
    [.reset boxScene,
      .frames 3,
      .patch addSphere,
      .resize ⟨1280, 720⟩,
      .frames 2,
      .resize ⟨1280, 0⟩,
      .patch dropMaterial,
      .frames 1]

end LiveScene.Script
