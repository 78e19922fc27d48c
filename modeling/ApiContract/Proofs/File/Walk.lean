import ApiContract.File.System
import ApiContract.Proofs.Text.Split

/-
This file proves that the canonical path of a place is a fixed point: it is absolute, holds no link,
and the walk along it ends at the same place.
-/

namespace ApiContract.FileSystem

/-- What a directory holds has a name that is allowed. -/
theorem child?_allowed (entries : List (FileName × FileNode)) (name : String) (node : FileNode)
    (found : child? entries name = some node) : FileName.isAllowed name = true := by
  obtain ⟨entry, held, _⟩ := Option.map_eq_some_iff.mp found
  have same := List.find?_some held
  rw [← beq_iff_eq.mp same]
  exact entry.1.allowed

@[simp] theorem node?_nil (files : FileSystem) :
    files.node? [] = some (.directory files.tree) := rfl

/-- The last name of a place is looked up in the directory before it. -/
theorem nodeAt?_concat (entries : List (FileName × FileNode)) (place : List String)
    (name : String) :
    nodeAt? entries (place ++ [name]) =
      match nodeAt? entries place with
      | some (.directory inner) => child? inner name
      | _ => none := by
  induction place generalizing entries with
  | nil =>
      simp only [List.nil_append, nodeAt?]
      rcases child? entries name with _ | node
      · rfl
      · cases node <;> rfl
  | cons first rest ih =>
      simp only [List.cons_append, nodeAt?]
      rcases child? entries first with _ | node
      · rfl
      · cases node with
        | directory inner => exact ih inner
        | file bytes => cases rest <;> rfl
        | link target => cases rest <;> rfl

/-- What is under a name lies in a directory. -/
theorem node?_concat (files : FileSystem) (place : List String) (name : String) :
    files.node? (place ++ [name]) =
      match files.node? place with
      | some (.directory inner) => child? inner name
      | _ => none :=
  nodeAt?_concat files.tree place name

/-- What stands at a place stands in a directory. -/
theorem node?_concat_eq_some (files : FileSystem) (place : List String) (name : String)
    (node : FileNode) (found : files.node? (place ++ [name]) = some node) :
    ∃ inner, files.node? place = some (.directory inner) ∧ child? inner name = some node := by
  rw [node?_concat] at found
  split at found
  · exact ⟨_, by assumption, found⟩
  · cases found

/-- Whether a place exists and holds no link. -/
def Stands (files : FileSystem) (place : List String) : Prop :=
  ∃ node, files.node? place = some node ∧ ∀ target, node ≠ .link target

/-- The place of a directory stands. -/
theorem stands_of_directory {files : FileSystem} {place : List String}
    {inner : List (FileName × FileNode)} (found : files.node? place = some (.directory inner)) :
    files.Stands place :=
  ⟨_, found, by simp⟩

/-- A place on the way to another one is a directory. -/
theorem directory_of_append (files : FileSystem) (place : List String) (name : String)
    (rest : List String) (node : FileNode)
    (found : files.node? (place ++ name :: rest) = some node) :
    ∃ inner, files.node? place = some (.directory inner) := by
  induction rest using List.reverseRecOn generalizing node with
  | nil =>
      obtain ⟨inner, directory, _⟩ := files.node?_concat_eq_some place name node found
      exact ⟨inner, directory⟩
  | append_singleton rest last ih =>
      rw [← List.cons_append, ← List.append_assoc] at found
      obtain ⟨inner, directory, _⟩ := files.node?_concat_eq_some _ last node found
      exact ih _ directory

/-- Every name on the way to a place is one that a directory can hold. -/
theorem allowed_of_node? (files : FileSystem) (place : List String) (node : FileNode)
    (found : files.node? place = some node) : ∀ name ∈ place, FileName.isAllowed name = true := by
  induction place using List.reverseRecOn generalizing node with
  | nil => simp
  | append_singleton place last ih =>
      obtain ⟨inner, directory, entry⟩ := files.node?_concat_eq_some place last node found
      intro name member
      rcases List.mem_append.mp member with earlier | final
      · exact ih _ directory name earlier
      · rw [List.mem_singleton.mp final]
        exact child?_allowed inner last node entry

/-- The place above a directory stands. -/
theorem stands_dropLast {files : FileSystem} {place : List String}
    {inner : List (FileName × FileNode)} (found : files.node? place = some (.directory inner)) :
    files.Stands place.dropLast := by
  rcases List.eq_nil_or_concat' place with rfl | ⟨first, last, rfl⟩
  · exact stands_of_directory found
  · obtain ⟨outer, directory, _⟩ := files.node?_concat_eq_some first last _ found
    rw [List.dropLast_concat]
    exact stands_of_directory directory

/-- A walk goes on from where its first step leads. -/
theorem walk_cons_ok (files : FileSystem) (links links' : Nat) (place place' : List String)
    (part : String) (inner rest : List String)
    (step : files.walkPart links place part = .ok (links', place', inner)) :
    files.walk links place (part :: rest) = files.walk links' place' (inner ++ rest) := by
  rw [walk.eq_def]
  dsimp only
  split
  · next fault failed => exact absurd (failed.symm.trans step) (by simp)
  · next links₁ place₁ inner₁ found =>
      cases found.symm.trans step
      rfl

/-- A walk ends with the fault of its first step. -/
theorem walk_cons_error (files : FileSystem) (links : Nat) (place : List String) (part : String)
    (rest : List String) (fault : FileFault) (step : files.walkPart links place part = .error fault) :
    files.walk links place (part :: rest) = .error fault := by
  rw [walk.eq_def]
  dsimp only
  split
  · next other failed =>
      cases failed.symm.trans step
      rfl
  · next found => exact absurd (found.symm.trans step) (by simp)

/-- A walk ends at a place that exists and holds no link. -/
theorem stands_of_walk (files : FileSystem) (links : Nat) (place parts result : List String)
    (start : parts = [] → files.Stands place)
    (walked : files.walk links place parts = .ok result) : files.Stands result := by
  fun_induction walk files links place parts with
  | case1 _ place =>
      cases walked
      exact start rfl
  | case2 => cases walked
  | case3 links place part rest links' place' inner step ih =>
      apply ih _ walked
      intro empty
      obtain ⟨entries, directory, ⟨_, _, blank | up | down⟩ | ⟨_, target, link⟩⟩ :=
        files.walkPart_cases _ _ _ _ _ _ step
      · rw [blank.2]
        exact stands_of_directory directory
      · rw [up.2]
        exact stands_dropLast directory
      · exact down.2
      · rw [link] at empty
        exact absurd (List.append_eq_nil_iff.mp empty).1 (Text.split_ne_nil '/' target)

/-- A path is located at a place that stands. -/
theorem stands_of_locate (files : FileSystem) (path : Path) (place : List String)
    (located : files.locate path = .ok place) : files.Stands place := by
  unfold locate at located
  split at located
  · cases located
  · split at located
    · cases located
    · refine files.stands_of_walk _ _ _ _ ?_ located
      exact fun empty => absurd empty (Text.split_ne_nil '/' path.text)

/-- A canonical path is the path of a place that stands. -/
theorem stands_of_canonical? (files : FileSystem) (path key : Path)
    (found : files.canonical? path = some key) : ∃ place, files.Stands place ∧ key = pathOf place := by
  unfold canonical? at found
  split at found
  · next place located =>
      exact ⟨place, files.stands_of_locate path place located, (Option.some.inj found).symm⟩
  · cases found

/-- An allowed name is no dot and not blank. -/
theorem isName_of_allowed (name : String) (allowed : FileName.isAllowed name = true) :
    isName name = true := by
  simp only [FileName.isAllowed, Bool.and_eq_true] at allowed
  exact allowed.1.1

/-- An allowed name has no slash and no null character. -/
theorem not_mem_of_allowed (name : String) (allowed : FileName.isAllowed name = true) :
    '/' ∉ name.toList ∧ '\x00' ∉ name.toList := by
  simp only [FileName.isAllowed, Bool.and_eq_true, List.all_eq_true, bne_iff_ne] at allowed
  exact ⟨fun member => (allowed.2 _ member).1 rfl, fun member => (allowed.2 _ member).2 rfl⟩

/-- An allowed name is not too long. -/
theorem size_le_of_allowed (name : String) (allowed : FileName.isAllowed name = true) :
    name.utf8ByteSize ≤ FileName.greatestSize := by
  simp only [FileName.isAllowed, Bool.and_eq_true, decide_eq_true_eq] at allowed
  exact allowed.1.2

/-- The places on the way to a place that stands do stand. -/
theorem stands_of_append (files : FileSystem) (place rest : List String)
    (stands : files.Stands (place ++ rest)) : files.Stands place := by
  cases rest with
  | nil => simpa using stands
  | cons name rest =>
      obtain ⟨node, found, _⟩ := stands
      obtain ⟨inner, directory⟩ := files.directory_of_append place name rest node found
      exact stands_of_directory directory

/-- A blank part stays in a directory. -/
theorem walk_blank (files : FileSystem) (links : Nat) (place : List String) (part : String)
    (rest : List String) (blank : Path.isBlank part = true) (inner : List (FileName × FileNode))
    (directory : files.node? place = some (.directory inner)) :
    files.walk links place (part :: rest) = files.walk links place rest :=
  files.walk_cons_ok _ _ _ _ _ [] _ (by simp [walkPart, directory, blank])

/-- A name of a directory leads one place down. -/
theorem walk_name (files : FileSystem) (links : Nat) (place : List String) (name : String)
    (rest : List String) (stands : files.Stands (place ++ [name])) :
    files.walk links place (name :: rest) = files.walk links (place ++ [name]) rest := by
  obtain ⟨node, found, notLink⟩ := stands
  obtain ⟨inner, directory, entry⟩ := files.node?_concat_eq_some place name node found
  have allowed := child?_allowed inner name node entry
  have proper := isName_of_allowed name allowed
  have short := size_le_of_allowed name allowed
  simp only [isName, Bool.and_eq_true, Bool.not_eq_true', bne_iff_ne] at proper
  have notBlank : Path.isBlank name = false := by simp [Path.isBlank, proper]
  apply files.walk_cons_ok _ _ _ _ _ []
  cases node with
  | link target => exact absurd rfl (notLink target)
  | file bytes => simp [walkPart, notBlank, proper, directory, found, Nat.not_lt.mpr short]
  | directory entries => simp [walkPart, notBlank, proper, directory, found, Nat.not_lt.mpr short]

/-- A walk along names that lead to a place comes by there. -/
theorem walk_names (files : FileSystem) (links : Nat) (place names rest : List String)
    (stands : files.Stands (place ++ names)) :
    files.walk links place (names ++ rest) = files.walk links (place ++ names) rest := by
  induction names generalizing place with
  | nil => simp
  | cons name others ih =>
      have onward : files.Stands ((place ++ [name]) ++ others) := by simpa using stands
      rw [List.cons_append,
        walk_name files links place name _ (files.stands_of_append _ others onward),
        ih (place ++ [name]) onward]
      simp

theorem walk_nil (files : FileSystem) (links : Nat) (place : List String) :
    files.walk links place [] = .ok place := by
  rw [walk]

/-- The path of a place is its names behind slashes. -/
theorem pathOf_text (place : List String) :
    (pathOf place).text.toList = '/' :: (String.intercalate "/" place).toList := by
  simp [pathOf]

/-- The parts of the path of a place are its names, after the empty one at the root. -/
theorem split_pathOf (place : List String) (clean : ∀ name ∈ place, '/' ∉ name.toList) :
    Text.split '/' (pathOf place).text = "" :: if place = [] then [""] else place := by
  rw [Text.split_between '/' (pathOf place).text "" (String.intercalate "/" place)
    (pathOf_text place)]
  split
  · next empty => subst empty; rfl
  · next present => rw [show ("/" : String) = String.singleton '/' from rfl,
      Text.split_intercalate '/' place present clean]; rfl

theorem pathOf_isAbsolute (place : List String) : (pathOf place).isAbsolute = true := by
  simp [Path.isAbsolute, Text.startsWith, pathOf_text]

theorem pathOf_not_isEmpty (place : List String) : (pathOf place).text.isEmpty = false := by
  rw [Bool.eq_false_iff]
  intro empty
  have text := pathOf_text place
  rw [String.isEmpty_iff.mp empty] at text
  cases text

/-- The path of a place has no null character if its names have none. -/
theorem pathOf_noNul (place : List String) (clean : ∀ name ∈ place, '/' ∉ name.toList)
    (noNul : ∀ name ∈ place, '\x00' ∉ name.toList) :
    (pathOf place).text.toList.any (· == '\x00') = false := by
  rw [List.any_eq_false]
  intro character member same
  rw [beq_iff_eq.mp same, Text.mem_iff_mem_split '/' _ _ (by decide), split_pathOf place clean]
    at member
  obtain ⟨part, inside, held⟩ := member
  rcases List.mem_cons.mp inside with rfl | inside
  · cases held
  · split at inside
    · rw [List.mem_singleton.mp inside] at held
      cases held
    · exact noNul part inside held

/-- The path of a place that stands leads to that place. -/
theorem locate_pathOf (files : FileSystem) (place : List String) (stands : files.Stands place) :
    files.locate (pathOf place) = .ok place := by
  obtain ⟨node, found, _⟩ := id stands
  have allowed := files.allowed_of_node? place node found
  have clean : ∀ name ∈ place, '/' ∉ name.toList :=
    fun name member => (not_mem_of_allowed name (allowed name member)).1
  have noNul := pathOf_noNul place clean
    fun name member => (not_mem_of_allowed name (allowed name member)).2
  simp only [locate, pathOf_not_isEmpty, noNul, pathOf_isAbsolute, split_pathOf place clean,
    Bool.false_eq_true, ↓reduceIte]
  rw [walk_blank files _ [] "" _ rfl _ files.node?_nil]
  split
  · next empty =>
      rw [walk_blank files _ [] "" _ rfl _ files.node?_nil, empty, walk_nil]
  · rw [← List.append_nil place, files.walk_names greatestLinkCount [] place [] stands, walk_nil]
    simp

/-- The path of a place that stands is canonical. -/
theorem canonical?_pathOf (files : FileSystem) (place : List String) (stands : files.Stands place) :
    files.canonical? (pathOf place) = some (pathOf place) := by
  rw [canonical?, files.locate_pathOf place stands]

section

variable {files : FileSystem} {place : List String}
  (short : (pathOf place).text.utf8ByteSize < pathLimit)

include short

/-- The path of a place that stands can be opened, if it is short enough. -/
theorem openPlace_pathOf (stands : files.Stands place) :
    files.openPlace (pathOf place) = .ok place := by
  rw [openPlace, if_neg fun long => Nat.not_le_of_gt short long.1, files.locate_pathOf place stands]

/-- The path of a place finds what stands there, unless it is a link. -/
theorem nodeOf?_pathOf {node : FileNode} (found : files.node? place = some node)
    (concrete : ∀ target, node ≠ .link target) : files.nodeOf? (pathOf place) = some node := by
  rw [nodeOf?, openPlace_pathOf short ⟨node, found, concrete⟩]
  exact found

theorem isFile_pathOf {bytes : List Nat} (found : files.node? place = some (.file bytes)) :
    files.isFile (pathOf place) = true := by
  rw [isFile, nodeOf?_pathOf short found nofun]

theorem isDirectory_pathOf {entries : List (FileName × FileNode)}
    (found : files.node? place = some (.directory entries)) :
    files.isDirectory (pathOf place) = true := by
  rw [isDirectory, nodeOf?_pathOf short found nofun]

/-- The text of a file is read along the path of its place. -/
theorem readText_pathOf {bytes : List Nat} {text : String}
    (found : files.node? place = some (.file bytes)) (decoded : Text.decodeUtf8 bytes = .ok text) :
    files.readText (pathOf place) = .ok text := by
  simp only [readText, openPlace_pathOf short ⟨_, found, nofun⟩, found, decoded]

end

/-- A canonical path is its own canonical path. -/
theorem canonical?_idem (files : FileSystem) (path key : Path)
    (found : files.canonical? path = some key) : files.canonical? key = some key := by
  obtain ⟨place, stands, rfl⟩ := files.stands_of_canonical? path key found
  exact files.canonical?_pathOf place stands

/-- The places below an entry of a directory are places below the directory. -/
theorem mem_entryPlaces (place : List String) (entries : List (FileName × FileNode))
    (name : String) (node : FileNode) (found : child? entries name = some node)
    (below : List String) (inside : below ∈ places (place ++ [name]) node) :
    below ∈ entryPlaces place entries := by
  induction entries with
  | nil => cases found
  | cons entry rest ih =>
      obtain ⟨other, held⟩ := entry
      rw [entryPlaces, List.mem_append]
      by_cases same : other.text = name
      · have here : held = node := by simpa [child?, same] using found
        rw [same, here]
        exact .inl inside
      · exact .inr (ih (by simpa [child?, same] using found))

/-- Every node but a link stands at one of the places that are listed. -/
theorem mem_places_of_node (place rest : List String) (entries : List (FileName × FileNode))
    (node : FileNode) (found : nodeAt? entries rest = some node)
    (notLink : ∀ target, node ≠ .link target) :
    place ++ rest ∈ places place (.directory entries) := by
  induction rest generalizing place entries with
  | nil => simp [places]
  | cons name rest ih =>
      rw [places, List.mem_cons]
      right
      rw [nodeAt?] at found
      split at found
      · cases found
      · next inner entry =>
          apply mem_entryPlaces place entries name _ entry
          simpa using ih (place ++ [name]) inner found
      · next other notDirectory entry =>
          split at found
          · next last =>
              rw [List.isEmpty_iff.mp last]
              apply mem_entryPlaces place entries name _ entry
              rw [Option.some.inj found]
              cases node with
              | link target => exact absurd rfl (notLink target)
              | file bytes => simp [places]
              | directory inner => simp [places]
          · cases found

/-- The places of a file system are the ones that stand. -/
theorem mem_allPlaces (files : FileSystem) (place : List String) (stands : files.Stands place) :
    pathOf place ∈ files.allPlaces := by
  obtain ⟨node, found, notLink⟩ := stands
  exact List.mem_map.mpr ⟨place, mem_places_of_node [] place files.tree node found notLink, rfl⟩

/-- All canonical paths are among the finitely many places of the tree. -/
theorem canonical?_mem_allPlaces (files : FileSystem) (path key : Path)
    (found : files.canonical? path = some key) : key ∈ files.allPlaces := by
  obtain ⟨place, stands, rfl⟩ := files.stands_of_canonical? path key found
  exact files.mem_allPlaces place stands

end ApiContract.FileSystem
