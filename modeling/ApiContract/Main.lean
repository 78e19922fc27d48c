import ApiContract.Command.Inputs

/-
This file is the program. It copies the files that a run looks at, runs the command, and prints the
report.
-/

open ApiContract

namespace ApiContract.Program

/-- The bytes of a file; what cannot be read as a file counts as a directory. -/
def readNode (place : String) : IO FileNode := do
  try
    let bytes ← IO.FS.readBinFile place
    return .file (bytes.toList.map UInt8.toNat)
  catch _ => return .directory []

/-- Copies what is at a path, if there is something. A path that ends in a link is copied as one. -/
def copyPlace (files : FileSystem) (path : Path) : IO FileSystem := do
  if (files.canonical? path).isSome then return files
  try
    let place := toString (← IO.FS.realPath path.text)
    let files ←
      if (files.canonical? ⟨place⟩).isSome then pure files
      else pure (files.write ⟨place⟩ (← readNode place))
    if (files.canonical? path).isSome then return files
    else
      let parent := ((path.parent?.bind files.canonical?).getD (FileSystem.pathOf []))
      return files.write (parent.join ⟨path.fileName?.getD ""⟩) (.link place)
  catch _ => return files

/-- Copies files until a run looks at no other ones. -/
partial def copyInputs (request : Request) (environment : Environment) (seen : List Path)
    (files : FileSystem) : IO FileSystem := do
  match (request.paths files environment).filter fun path => !seen.contains path with
  | [] => return files
  | wanted =>
      let files ← (wanted.flatMap Path.withAncestors).foldlM copyPlace files
      copyInputs request environment (wanted ++ seen) files

/-- The bytes of the standard input, if the request needs them. -/
def readInput (request : Request) : IO (List Nat) := do
  if request.readsInput then
    let bytes ← (← IO.getStdin).readBinToEnd
    return bytes.toList.map UInt8.toNat
  else return []

def readEnvironment : IO Environment := do
  return ⟨← IO.getEnv Environment.specDirectoryName, ← IO.getEnv Environment.apiPrefixName,
    ← IO.getEnv Environment.modulesName⟩

def printReport (report : Report) : IO UInt32 := do
  (← IO.getStdout).putStr report.output
  match report.complaint with
  | some complaint => IO.eprintln complaint
  | none => pure ()
  return UInt32.ofNat report.exitCode

/-- Runs the program with arguments. -/
def run (arguments : List String) : IO UInt32 := do
  match Request.ofArguments? arguments with
  | none => printReport Request.malformed
  | some request =>
      let environment ← readEnvironment
      let directory := toString (← IO.currentDir)
      let start := FileSystem.empty ((Text.split '/' directory).filter FileSystem.isName)
      let files ← copyInputs request environment [] start
      printReport (request.run files environment (← readInput request))

end ApiContract.Program

def main (arguments : List String) : IO UInt32 := ApiContract.Program.run arguments
