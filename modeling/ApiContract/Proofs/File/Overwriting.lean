import ApiContract.Document
import ApiContract.Proofs.File.Walk

/-
This file says when two file systems differ in the bytes of one file at most, and proves that every
path leads to the same place in both, and that all other files read the same. Writing over a file
makes such a difference.
-/

namespace ApiContract

/-- Whether a walk cannot tell two nodes apart. -/
inductive FileNode.SameKind : FileNode → FileNode → Prop where
  | file (bytes bytes' : List Nat) : SameKind (.file bytes) (.file bytes')
  | directory (entries entries' : List (FileName × FileNode)) :
      SameKind (.directory entries) (.directory entries')
  | link (target : String) : SameKind (.link target) (.link target)

namespace FileSystem

/-- What is held, if anything, is of its own kind. -/
theorem sameKind_refl (held : Option FileNode) : Option.Rel FileNode.SameKind held held := by
  cases held with
  | none => exact .none
  | some node =>
      cases node with
      | file bytes => exact .some (.file bytes bytes)
      | directory entries => exact .some (.directory entries entries)
      | link target => exact .some (.link target)

/-- Whether two file systems have nodes of the same kinds at the same places. -/
structure SameShape (files files' : FileSystem) : Prop where
  workingDirectory : files.workingDirectory = files'.workingDirectory
  kinds : ∀ place, Option.Rel FileNode.SameKind (files.node? place) (files'.node? place)

/-- Whether two file systems differ at most in the bytes of the file at a place. -/
structure DiffersOnlyAt (place : List String) (files files' : FileSystem) : Prop extends
    SameShape files files' where
  bytes : ∀ other bytes, other ≠ place → files.node? other = some (.file bytes) →
    files'.node? other = some (.file bytes)

variable {files files' : FileSystem} {place : List String}

/-- File systems of one shape take the same step along a path. -/
theorem SameShape.walkPart (same : SameShape files files') (links : Nat) (place : List String)
    (part : String) : files.walkPart links place part = files'.walkPart links place part := by
  have here := same.kinds place
  have below := same.kinds (place ++ [part])
  unfold FileSystem.walkPart
  generalize files.node? place = held at here ⊢
  generalize files'.node? place = held' at here ⊢
  generalize files.node? (place ++ [part]) = next at below ⊢
  generalize files'.node? (place ++ [part]) = next' at below ⊢
  cases here with
  | none => rfl
  | some kind =>
      cases kind with
      | file | link => rfl
      | directory =>
          cases below with
          | none => rfl
          | some kind => cases kind <;> rfl

/-- File systems of one shape walk to the same places. -/
theorem SameShape.walk (same : SameShape files files') (links : Nat) (place parts : List String) :
    files.walk links place parts = files'.walk links place parts := by
  fun_induction FileSystem.walk files links place parts with
  | case1 => rw [walk_nil]
  | case2 links place part rest fault step =>
      rw [same.walkPart] at step
      rw [files'.walk_cons_error links place part rest fault step]
  | case3 links place part rest links' place' inner step ih =>
      rw [same.walkPart] at step
      rw [ih, files'.walk_cons_ok links links' place place' part inner rest step]

/-- File systems of one shape locate a path alike. -/
theorem SameShape.locate (same : SameShape files files') (path : Path) :
    files.locate path = files'.locate path := by
  simp only [FileSystem.locate, same.walk, same.workingDirectory]

/-- File systems of one shape have the same canonical paths. -/
theorem SameShape.canonical? (same : SameShape files files') (path : Path) :
    files.canonical? path = files'.canonical? path := by
  rw [FileSystem.canonical?, FileSystem.canonical?, same.locate]

/-- File systems of one shape open a path at the same place. -/
theorem SameShape.openPlace (same : SameShape files files') (path : Path) :
    files.openPlace path = files'.openPlace path := by
  rw [FileSystem.openPlace, FileSystem.openPlace, same.locate]

/-- A path that can be opened is located at that place. -/
theorem locate_of_openPlace {path : Path} (opened : files.openPlace path = .ok place) :
    files.locate path = .ok place := by
  unfold openPlace at opened
  split at opened
  · cases opened
  · exact opened

/-- A path that leads elsewhere reads the same. -/
theorem DiffersOnlyAt.readText (differs : DiffersOnlyAt place files files') (path : Path)
    (apart : files.locate path ≠ .ok place) : files.readText path = files'.readText path := by
  unfold FileSystem.readText
  rw [← differs.openPlace]
  cases opened : files.openPlace path with
  | error fault => rfl
  | ok other =>
      have elsewhere : other ≠ place := by
        rintro rfl
        exact apart (locate_of_openPlace opened)
      have kinds := differs.kinds other
      have bytes := differs.bytes other
      dsimp only
      generalize files.node? other = held at kinds bytes
      generalize files'.node? other = held' at kinds bytes
      cases kinds with
      | none => rfl
      | some kind =>
          cases kind with
          | file old new => rw [bytes old elsewhere rfl]
          | directory => rfl
          | link => rfl

/-- Loading a path that leads elsewhere does not see the difference. -/
theorem DiffersOnlyAt.load? (differs : DiffersOnlyAt place files files') (path : Path)
    (apart : files.locate path ≠ .ok place) :
    Document.load? files path = Document.load? files' path := by
  rw [Document.load?, Document.load?, Document.read, Document.read, differs.readText path apart]

/-- An entry that is replaced changes what its name leads to, and nothing else. -/
theorem child?_alterEntry (name : FileName) (change : Option FileNode → Option FileNode)
    (keeps : ∀ held, (change held).isSome = true) (entries : List (FileName × FileNode))
    (key : String) :
    child? (alterEntry name change entries) key =
      if key = name.text then change (child? entries key) else child? entries key := by
  induction entries with
  | nil =>
      obtain ⟨node, made⟩ := Option.isSome_iff_exists.mp (keeps none)
      rw [alterEntry, made]
      by_cases here : key = name.text
      · simp [child?, here, made]
      · simp [child?, here, Ne.symm here]
  | cons entry rest ih =>
      obtain ⟨other, held⟩ := entry
      obtain ⟨node, made⟩ := Option.isSome_iff_exists.mp (keeps (some held))
      rw [alterEntry]
      by_cases replaced : other = name
      · subst replaced
        rw [if_pos rfl, made]
        by_cases here : key = other.text
        · simp [child?, here, made]
        · simp [child?, here, Ne.symm here]
      · have different : other.text ≠ name.text := fun same => replaced (by
          cases other
          cases name
          simpa using same)
        rw [if_neg replaced]
        by_cases here : other.text = key
        · subst here
          simp [child?, different]
        · simpa [child?, here] using ih

/-- What is put under a name changes what the name leads to, and nothing beside it. -/
theorem child?_put (node : FileNode) (part : String) (rest : List String)
    (entries : List (FileName × FileNode)) (allowed : FileName.isAllowed part = true) (key : String) :
    child? (put node (part :: rest) entries) key =
      if key = part then
        if rest.isEmpty then some node
        else
          match child? entries key with
          | some (.directory inner) => some (.directory (put node rest inner))
          | _ => some (.directory (put node rest []))
      else child? entries key := by
  rw [put, FileName.ofString?, dif_pos allowed]
  refine child?_alterEntry ⟨part, allowed⟩ _ (fun held => ?_) entries key
  split
  · rfl
  · split <;> rfl

/-- Putting a node leaves what stands beside its way. -/
theorem nodeAt?_put_beside (node : FileNode) (part : String) (rest : List String)
    (entries : List (FileName × FileNode)) (allowed : FileName.isAllowed part = true) (key : String)
    (others : List String) (apart : key ≠ part) :
    nodeAt? (put node (part :: rest) entries) (key :: others) = nodeAt? entries (key :: others) := by
  rw [nodeAt?, nodeAt?, child?_put node part rest entries allowed, if_neg apart]

/-- What is put below an entry changes nothing beside it, so only what is below the entry counts. -/
theorem differsOnlyAt_of_below (workingDirectory rest : List String) (node : FileNode) (part : String)
    (entries : List (FileName × FileNode)) (allowed : FileName.isAllowed part = true)
    (below : ∀ others, Option.Rel FileNode.SameKind (nodeAt? entries (part :: others))
        (nodeAt? (put node (part :: rest) entries) (part :: others)) ∧
      ∀ old, others ≠ rest → nodeAt? entries (part :: others) = some (.file old) →
        nodeAt? (put node (part :: rest) entries) (part :: others) = some (.file old)) :
    DiffersOnlyAt (part :: rest) ⟨entries, workingDirectory⟩
      ⟨put node (part :: rest) entries, workingDirectory⟩ := by
  have beside (key : String) (others : List String) (apart : key ≠ part) :=
    nodeAt?_put_beside node part rest entries allowed key others apart
  refine ⟨⟨rfl, fun place => ?_⟩, fun place old apart found => ?_⟩
  · rcases place with _ | ⟨key, others⟩
    · exact .some (.directory _ _)
    by_cases here : key = part
    · subst here
      exact (below others).1
    · rw [node?, node?, beside key others here]
      exact sameKind_refl _
  · rcases place with _ | ⟨key, others⟩
    · cases found
    by_cases here : key = part
    · subst here
      exact (below others).2 old (fun same => apart (by rw [same])) found
    · exact (beside key others here).trans found

/-- Bytes that are put in the place of others change the node at that place only. -/
theorem differsOnlyAt_put (workingDirectory place : List String)
    (entries : List (FileName × FileNode)) (bytes bytes' : List Nat)
    (held : nodeAt? entries place = some (.file bytes)) :
    DiffersOnlyAt place ⟨entries, workingDirectory⟩
      ⟨put (.file bytes') place entries, workingDirectory⟩ := by
  induction place generalizing entries with
  | nil => cases held
  | cons part rest ih =>
      obtain ⟨child, entry⟩ : ∃ child, child? entries part = some child := by
        rw [nodeAt?] at held
        split at held
        · cases held
        · exact ⟨_, by assumption⟩
        · exact ⟨_, by assumption⟩
      have allowed := child?_allowed entries part child entry
      have replaced := child?_put (.file bytes') part rest entries allowed part
      rw [if_pos rfl, entry] at replaced
      rw [nodeAt?, entry] at held
      refine differsOnlyAt_of_below workingDirectory rest _ part entries allowed fun others => ?_
      rw [nodeAt?, nodeAt?, entry, replaced]
      -- The file is the entry, or it is in the directory that the entry leads to.
      cases child with
      | file old =>
          cases rest with
          | nil =>
              cases others with
              | nil => exact ⟨.some (.file _ _), fun _ apart => absurd rfl apart⟩
              | cons => exact ⟨.none, fun _ _ found => by cases found⟩
          | cons => cases held
      | directory inner =>
          cases rest with
          | nil => cases held
          | cons first rest =>
              have inside := ih inner held
              exact ⟨inside.kinds others, inside.bytes others⟩
      | link target => cases rest <;> cases held

/-- Writing over a file changes its bytes only. -/
theorem differsOnlyAt_write (path : Path) (bytes bytes' : List Nat)
    (located : files.locate path = .ok place) (held : files.node? place = some (.file bytes)) :
    DiffersOnlyAt place files (files.write path (.file bytes')) := by
  rw [write, placeFor, located]
  exact differsOnlyAt_put files.workingDirectory place files.tree bytes bytes' held

end FileSystem

end ApiContract
