import ApiContract.Command

/-
This file tells which files a run may look at, as far as the files that are known tell. A copy of
the file system that holds all of them gives the same run.
-/

namespace ApiContract

namespace Path

/-- A path after all paths that lie on the way to it. The number bounds them. -/
def waypoints : Nat → Path → List Path
  | 0, path => [path]
  | steps + 1, path =>
      match path.parent? with
      | none => [path]
      | some parent =>
          if parent.text.isEmpty then [path] else waypoints steps parent ++ [path]

/-- A path after all paths that lie on the way to it. -/
def withAncestors (path : Path) : List Path := waypoints path.components.length path

end Path

namespace Command

/-- The file that a command reads besides specifications. -/
def inputFile? : Command → Option Path
  | replay transcript _ => some transcript
  | checkResponse _ _ _ _ body => body
  | checkRequest _ _ body => body
  | _ => none

end Command

namespace FileSystem

/-- The files that the references in a file name. -/
def referencedFrom (files : FileSystem) (path : Path) : List Path :=
  let base := path.parent?.getD ⟨"."⟩
  ((Document.load? files path).elim [] Json.references).filterMap fun text =>
    match Reference.ofString? text with
    | some (.inFile file _) => some (base.join ⟨file⟩)
    | _ => none

end FileSystem

namespace Request

/-- The paths that a run looks at. -/
def paths (files : FileSystem) (environment : Environment) : Request → List Path
  | perform flags command =>
      let specifications :=
        match Config.settle files flags environment with
        | .error _ => []
        | .ok config => config.specDirectory :: config.modules.map config.specPath
      flags.file.toList ++ command.inputFile?.toList ++ specifications ++
        files.allFiles.flatMap files.referencedFrom
  | _ => []

end Request

end ApiContract
