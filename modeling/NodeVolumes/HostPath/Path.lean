import NodeVolumes.Error

/-! # Volume paths

A volume lies at least two levels below the root of its node, so the directory above it, which a
helper pod mounts, is never the root itself.

* `steps` are the parts of a path between its slashes, without empty ones and `.`.
* `buildPath` joins base path and volume name to a checked, normal path.
* `splitForMount` cuts a volume path into the directory to mount and the name below it.
* `isSafeName` tells the names that may appear inside a helper command. -/

namespace NodeVolumes.HostPath

/-! ### Steps of a path -/

/-- The parts of a path between its slashes. -/
def pieces (path : String) : List String := (path.toList.splitOn '/').map String.ofList

/-- The parts of a path that lead somewhere: empty ones and `.` do not. -/
def steps (path : String) : List String := (pieces path).filter fun s => s ≠ "" && s ≠ "."

/-- The absolute path with the given steps. -/
def ofSteps (steps : List String) : String := "/" ++ String.intercalate "/" steps

/-- Tells the names that may appear inside a helper command: ASCII letters, digits, `-`, `_` and
`.`, at least one. -/
def isSafeName (name : String) : Bool :=
  name ≠ "" && name.toList.all fun c => c.isAlphanum || c == '-' || c == '_' || c == '.'

/-! ### Checks -/

/-- The steps of an absolute path that never leads upwards. -/
def checkedSteps (path : String) : Except Error (List String) :=
  if path.toList.head? ≠ some '/' then .error (.unsafePath path "path is not absolute")
  else if ".." ∈ pieces path then .error (.unsafePath path "path must not contain '..'")
  else .ok (steps path)

/-- Refuses the root and what lies directly below it. -/
def checkDepth (path : String) (steps : List String) : Except Error Unit :=
  match steps with
  | [] => .error (.unsafePath path "path should not be a root directory")
  | [_] => .error (.unsafePath path "volume directory should not be under root directory")
  | _ => .ok ()

/-- The checked path of a volume below a base path, in normal form. -/
def buildPath (base volume : String) : Except Error String := do
  let candidate := base ++ "/" ++ volume
  let found ← checkedSteps candidate
  checkDepth candidate found
  return ofSteps found

/-- The directory above a volume and the volume's name in it. -/
def splitForMount (path : String) : Except Error (String × String) := do
  let found ← checkedSteps path
  checkDepth path found
  match found.getLast? with
  | none => throw (.unsafePath path "path has no leaf directory")
  | some leaf =>
    if isSafeName leaf then return (ofSteps found.dropLast, leaf)
    else throw (.unsafePath path "volume directory contains unsupported characters")

end NodeVolumes.HostPath
