import Conform.CommandLine.Run
/-!
# The command

Reads the environment and the files that a command line may ask for, runs the command and prints what
it has to say.  The command by itself knows no schemas; a program that does runs it on its registry.
-/
namespace Conform

/-- The variables that are set. -/
def readEnvironment : IO Environment :=
  Settings.variableNames.filterMapM fun name => do
    return (← IO.getEnv name).map fun value => (name, value)

/-- What is at a place of the disk, and where links to directories lead from there.  Of files only those
are read whose name an instance may have; a broken link leads to itself. -/
partial def readTree (place : String) : IO (Option (FileTree × List String)) := do
  let path := (← IO.currentDir) / place
  if ← path.isDir then
    let mut entries := #[]
    let mut targets := []
    for e in ← path.readDir do
      let linked := (← e.path.symlinkMetadata).type == .symlink
      if linked && (← e.path.isDir) then
        let target := (← IO.FS.realPath e.path).toString
        entries := entries.push (e.fileName, .link (.ofString target))
        targets := target :: targets
      else if linked && !(← e.path.pathExists) then
        entries := entries.push (e.fileName, .link (.ofString e.fileName))
      else if let some (t, others) ← readTree (place ++ "/" ++ e.fileName) then
        entries := entries.push (e.fileName, t)
        targets := others ++ targets
    return some (.directory entries.toList, targets)
  else if ← path.pathExists then
    if (← path.metadata).type == .file then
      if Files.endsLikeInstance (.ofString place) then
        return some (.file (← IO.FS.readBinFile path).toList, [])
      else return some (.file [], [])
    else return some (.device, [])
  else return none

/-- Reads what is at absolute places of the disk, and what links lead to from there. -/
partial def readPlaces (fs : Files) (read : List String) : List String → IO Files
  | [] => return fs
  | place :: places => do
    if read.contains place then readPlaces fs read places
    else match ← readTree place with
      | some (t, targets) =>
        readPlaces (fs.put (.ofString place) t) (place :: read) (targets ++ places)
      | none => readPlaces fs (place :: read) places

/-- The files that a command line may ask for. -/
def readFiles (line : List String) : IO Files := do
  match CommandLine.Command.ofTexts line with
  | .ok (.check o) =>
    let places := (o.filePaths.filter (·.root ≠ .here)).map (·.text)
    match ← readTree "." with
    | some (t, targets) => readPlaces { here := t } [] (places ++ targets)
    | none => readPlaces {} [] places
  | _ => return {}

def runCommand (registry : Registry) (line : List String) : IO UInt32 := do
  let malformed (_ : List Char) : String := "malformed document"
  let session := CommandLine.Session.ofEnvironment malformed (← readEnvironment)
  let o := CommandLine.run registry (← readFiles line) line session
  IO.print o.output
  IO.eprint o.errors
  match o.exit with
  | .ok code => return UInt32.ofNat code
  | .error f =>
    IO.eprintln s!"{f.kind}: {f.message}"
    return 1

end Conform

def main (line : List String) : IO UInt32 := Conform.runCommand [] line
