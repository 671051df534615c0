import LiveScene.Replay.Run

/-! # Command line

Replays a script: `[configuration] [script]`, both files. The log goes to standard error.
-/

namespace LiveScene

/-- The files that can be read, with their texts. -/
def readFiles (paths : List String) : IO Folder := do
  let mut folder : Folder := {}
  for path in paths do
    try
      folder := folder.write path (← IO.FS.readFile path)
    catch _ => continue
  return folder

end LiveScene

open LiveScene

def main (arguments : List String) : IO UInt32 := do
  let result := Replay.run (← readFiles (arguments.take 2)) arguments
  for line in result.lines do
    if Level.info.weight ≤ line.entry.level.weight then
      IO.eprintln ("[" ++ line.entry.level.name ++ "] " ++ line.entry.text)
  return result.exitCode
