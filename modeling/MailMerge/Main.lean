import MailMerge.Command.Run

/-!
# The program

The files that a command line names are looked up, the command is run on them, and what it
leaves behind is written and printed.
-/

namespace MailMerge

/-- The parts of an absolute path. -/
def placeOf (path : String) : Place := (Disk.parts path).filter fun part => part ≠ ""

/-- What an error of the system is here. -/
def faultOf : IO.Error → FileFault
  | .noFileOrDirectory .. | .noSuchThing .. => .notFound
  | .permissionDenied .. => .permissionDenied
  -- a text that is none is reported by the reader itself
  | .userError _ => .invalidData
  | _ => .other

/-- Adds what is found under a path to a disk, or how it is refused. -/
def lookUp (d : Disk) (path : String) : IO Disk := do
  let full := (← IO.currentDir) / path
  let place := placeOf full.toString
  let mut d := d
  if let some parent := full.parent then
    if ← parent.isDir then d := { d with directories := placeOf parent.toString :: d.directories }
  if ← full.isDir then
    return { d with directories := place :: d.directories }
  try
    let _ ← full.metadata
  catch e =>
    -- nothing is known about a file in a directory that cannot be searched
    let fault := faultOf e
    return if fault = .notFound then d
      else { d with refusals := ((.search, place.dropLast), fault) :: d.refusals }
  try
    let text ← IO.FS.readFile full
    return { d with files := (place, text) :: d.files }
  catch e =>
    return { d with
      files := (place, "") :: d.files
      refusals := ((.read, place), faultOf e) :: d.refusals }

/-- The paths that a command line names. -/
def pathsOf (i : Invocation) : List String :=
  i.config.toList ++ match i.command with
    | .render tree context output _ => [tree, context] ++ output.toList
    | .check tree context => [tree, context]

/-- The variables of the environment that matter. -/
def environment : IO (Dict String) := do
  let mut found := Dict.empty
  for name in ["HOME", "PUBMAIL_CONFIG_PATH", "PUBMAIL_API_TOKEN"] do
    if let some value ← IO.getEnv name then
      found := found.insert name value
  return found

/-- The home directory that the list of accounts has for a user, if it has one. -/
def accountHome : IO (Option String) := do
  let some user ← IO.getEnv "USER" | return none
  try
    for line in ← IO.FS.lines "/etc/passwd" do
      if let [name, _, _, _, _, home, _] := line.splitOn ":" then
        if name = user then return some home
    return none
  catch _ =>
    return none

/-- Everything that the command depends on. No server is reached from here. -/
def machineFor (words : List String) : IO Machine := do
  let here := placeOf (← IO.currentDir).toString
  let m : Machine :=
    ⟨⟨[], [], [], here⟩, ← environment, ← accountHome, .ok .plain, .unreachable⟩
  let paths := match Invocation.parse words with
    | .ok i => m.configurationPath.toOption.toList ++ pathsOf i
    | .error _ => []
  let disk ← paths.foldlM lookUp m.disk
  return { m with disk }

/-- Runs a command and writes its files. A file that cannot be written is one that the system
refuses, and then the command ends as it does in that case. -/
def runAndWrite (m : Machine) (words : List String) : IO Finish := do
  let finish := m.run words
  for (place, text) in m.disk.changes finish.disk do
    try
      IO.FS.writeFile ("/" ++ "/".intercalate place) text
    catch e =>
      let refusals := ((.write, place), faultOf e) :: m.disk.refusals
      return { m with disk := { m.disk with refusals } }.run words
  return finish

end MailMerge

open MailMerge in
/-- Runs the program. -/
def main (words : List String) : IO UInt32 := do
  let finish ← runAndWrite (← machineFor words) words
  (← IO.getStdout).putStr finish.stdout
  (← IO.getStderr).putStr finish.stderr
  return UInt32.ofNat finish.exitCode
