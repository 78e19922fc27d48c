import ApiContract.Proofs.File.Walk

/-
This file proves which spellings of a path are the same place. Empty parts and dots on the way do
not count; one at the end asks for a directory.
-/

namespace ApiContract

/-- The part of a path that a component comes from. -/
def PathComponent.part? : PathComponent → Option String
  | .name text => some text
  | .parent => some ".."
  | _ => none

namespace Path

def parts (path : Path) : List String := Text.split '/' path.text

/-- The parts of a path that lead somewhere. -/
def names (path : Path) : List String := path.parts.filter fun part => !isBlank part

/-- Whether a path ends in a name, as the path of a file does. -/
def endsInName (path : Path) : Bool := path.parts.getLast?.any fun part => !isBlank part

/-- Two paths spell the same if they have the same components. -/
theorem same_iff (first second : Path) :
    first.same second = true ↔ first.components = second.components :=
  beq_iff_eq

theorem same_refl (path : Path) : path.same path = true := (same_iff path path).mpr rfl

/-- Paths that spell the same are compared alike with any other. -/
theorem same_congr {first second : Path} (same : first.same second = true) (other : Path) :
    other.same first = other.same second := by
  rw [Bool.eq_iff_iff, same_iff, same_iff, (same_iff first second).mp same]

theorem same_comm (first second : Path) : first.same second = second.same first := by
  rw [Bool.eq_iff_iff, same_iff, same_iff, eq_comm]

/-- A path is absolute if its text starts with a slash. -/
theorem isAbsolute_iff (path : Path) :
    path.isAbsolute = true ↔ ∃ rest, path.text.toList = '/' :: rest := by
  rw [isAbsolute, Text.startsWith, show ("/" : String).toList = ['/'] from rfl]
  rcases path.text.toList with _ | ⟨first, rest⟩
  · simp
  · constructor
    · intro starts
      have same : '/' = first := by simpa [List.isPrefixOf] using starts
      exact ⟨rest, by rw [same]⟩
    · rintro ⟨other, same⟩
      simp [same]

/-- A part of a path is a component of the same text, unless it is blank. -/
theorem componentOf_part? (part : String) :
    (componentOf part).bind PathComponent.part? = if isBlank part then none else some part := by
  unfold componentOf
  split
  · rfl
  · split
    · next up => rw [up]; rfl
    · rfl

/-- The components of a path hold its names. -/
theorem components_names (path : Path) :
    path.components.filterMap PathComponent.part? = path.names := by
  have parts : (path.parts.filterMap componentOf).filterMap PathComponent.part? = path.names := by
    rw [List.filterMap_filterMap, names, ← List.filterMap_eq_filter]
    congr 1
    funext part
    rw [componentOf_part?, Option.guard]
    cases isBlank part <;> rfl
  unfold components
  dsimp only
  rw [List.filterMap_append, show Text.split '/' path.text = path.parts from rfl, parts]
  split
  · rfl
  · split <;> rfl

/-- No part between slashes is the root. -/
theorem componentOf_ne_root (part : String) : componentOf part ≠ some .root := by
  unfold componentOf
  split
  · simp
  · split <;> simp

/-- The root is a component of the absolute paths only. -/
theorem root_mem_components (path : Path) : .root ∈ path.components ↔ path.isAbsolute = true := by
  have other : PathComponent.root ∉ path.parts.filterMap componentOf := by
    rw [List.mem_filterMap]
    rintro ⟨part, _, root⟩
    exact componentOf_ne_root part root
  unfold components
  dsimp only
  rw [List.mem_append, show Text.split '/' path.text = path.parts from rfl]
  split
  · next absolute => simp [absolute]
  · next relative => split <;> simp [other, relative]

/-- Two paths with the same components have the same names. -/
theorem names_eq_of_same {first second : Path} (same : first.same second = true) :
    first.names = second.names := by
  rw [← components_names, ← components_names, beq_iff_eq.mp same]

/-- Paths that spell the same are both absolute or both relative. -/
theorem isAbsolute_eq_of_same {first second : Path} (same : first.same second = true) :
    first.isAbsolute = second.isAbsolute := by
  rw [Bool.eq_iff_iff, ← root_mem_components, ← root_mem_components, beq_iff_eq.mp same]

/-- A path that ends in a name has a name. -/
theorem names_ne_nil_of_endsInName (path : Path) (ends : path.endsInName = true) :
    path.names ≠ [] := by
  obtain ⟨last, found, name⟩ := (Option.any_eq_true _ _).mp ends
  exact List.ne_nil_of_mem (List.mem_filter.mpr ⟨List.mem_of_getLast? found, name⟩)

/-- Of an absolute path all leading blank parts are skipped. -/
theorem dropSkipped_absolute (parts : List String) :
    dropSkipped true parts = parts.dropWhile isBlank := by
  induction parts with
  | nil => rfl
  | cons part rest ih =>
      rw [dropSkipped, List.dropWhile_cons, ih]
      simp [isSkipped, isBlank]

/-- Leading blank parts make no difference to the other ones. -/
theorem filter_dropWhile_blank (parts : List String) :
    (parts.dropWhile isBlank).filter (fun part => !isBlank part) =
      parts.filter (fun part => !isBlank part) := by
  induction parts with
  | nil => rfl
  | cons part rest ih =>
      cases blank : isBlank part with
      | false => simp [blank]
      | true => simp [blank, ih]

/-- The text of an absolute path is not empty. -/
theorem text_ne_empty_of_isAbsolute (path : Path) (absolute : path.isAbsolute = true) :
    path.text ≠ "" := by
  obtain ⟨rest, text⟩ := path.isAbsolute_iff.mp absolute
  intro empty
  rw [empty] at text
  cases text

/-- The path of a place has the names of the place. -/
theorem names_pathOf_clean (kept : List String) (clean : ∀ part ∈ kept, '/' ∉ part.toList) :
    (FileSystem.pathOf kept).names = kept.filter fun part => !isBlank part := by
  rw [names, parts, FileSystem.split_pathOf kept clean, List.filter_cons_of_neg (by decide)]
  split
  · next empty => rw [empty]; rfl
  · rfl

/-- The parent of an absolute path lacks its last name. The path of the root has no parent. -/
theorem parent?_absolute (path : Path) (absolute : path.isAbsolute = true) :
    path.names = [] ∧ path.parent? = none ∨
      path.names ≠ [] ∧ ∃ base, path.parent? = some base ∧ base.isAbsolute = true ∧
        base.names = path.names.dropLast := by
  obtain ⟨rest, text⟩ := path.isAbsolute_iff.mp absolute
  have parts : path.parts = "" :: Text.split '/' (String.ofList rest) :=
    Text.split_between '/' path.text "" (String.ofList rest) (by simp [text])
  have names : path.names =
      (Text.split '/' (String.ofList rest)).filter (fun part => !isBlank part) := by
    rw [Path.names, parts, List.filter_cons_of_neg (by decide)]
  have backwards : path.names.reverse =
      ((Text.split '/' (String.ofList rest)).reverse.dropWhile isBlank).filter
        fun part => !isBlank part := by
    rw [names, filter_dropWhile_blank, List.filter_reverse]
  unfold parent?
  simp only [absolute, text, ↓reduceIte, List.drop_succ_cons, List.drop_zero]
  rw [dropSkipped_absolute]
  rcases reversed : (Text.split '/' (String.ofList rest)).reverse.dropWhile isBlank with
    _ | ⟨last, others⟩
  · left
    rw [reversed] at backwards
    exact ⟨by simpa using backwards, rfl⟩
  · right
    have lastName : isBlank last = false := by
      have head := List.head?_dropWhile_not isBlank (Text.split '/' (String.ofList rest)).reverse
      rw [reversed] at head
      exact head
    have clean : ∀ part ∈ (others.dropWhile isBlank).reverse, '/' ∉ part.toList := by
      intro part member
      apply Text.not_mem_of_mem_split '/' (String.ofList rest)
      have inside : part ∈ others :=
        (List.dropWhile_sublist _).subset (List.mem_reverse.mp member)
      have held : part ∈ (Text.split '/' (String.ofList rest)).reverse :=
        (List.dropWhile_sublist isBlank).subset (by rw [reversed]; exact .tail _ inside)
      exact List.mem_reverse.mp held
    rw [reversed, List.filter_cons_of_pos (by simp [lastName])] at backwards
    refine ⟨by intro empty; rw [empty] at backwards; simp at backwards,
      FileSystem.pathOf (others.dropWhile isBlank).reverse, ?_, FileSystem.pathOf_isAbsolute _, ?_⟩
    · simp only [dropSkipped_absolute]
      rfl
    · rw [names_pathOf_clean _ clean, List.filter_reverse, filter_dropWhile_blank,
        ← List.reverse_reverse path.names, backwards, List.reverse_cons, List.dropLast_concat]

/-- Whether a path asks for no directory at its end, by a slash or a dot behind a slash. -/
def IsTidy (path : Path) : Prop :=
  Text.endsWith path.text "/" = false ∧ Text.endsWith path.text "/." = false

instance (path : Path) : Decidable path.IsTidy := inferInstanceAs (Decidable (_ ∧ _))

/-- A tidy path ends in a name, or has none. -/
theorem IsTidy.endsInName_or_short {path : Path} (tidy : path.IsTidy) :
    path.endsInName = true ∨ path.text = "" ∨ path.text = "." := by
  obtain ⟨first, last, parts⟩ : ∃ first last, path.parts = first ++ [last] :=
    (List.eq_nil_or_concat' path.parts).resolve_left (Text.split_ne_nil '/' path.text)
  have text : String.intercalate "/" (first ++ [last]) = path.text := by
    rw [← parts]
    exact Text.intercalate_split '/' path.text
  cases blank : isBlank last with
  | false => exact .inl (by simp [endsInName, parts, blank])
  | true =>
      right
      have short : last = "" ∨ last = "." := by simpa [isBlank] using blank
      by_cases alone : first = []
      · simpa [← text, alone] using short
      · rw [String.intercalate_append_of_ne_nil alone (List.cons_ne_nil last []),
          String.intercalate_singleton, String.append_assoc] at text
        have tail : ("/" ++ last).toList.isSuffixOf path.text.toList = true := by
          have front : path.text.toList =
              (String.intercalate "/" first).toList ++ ("/" ++ last).toList := by
            rw [← text, ← String.toList_append]
          rw [List.isSuffixOf_iff_suffix, front]
          exact List.suffix_append _ _
        obtain ⟨slash, dot⟩ := tidy
        rcases short with rfl | rfl
        · exact absurd (tail.symm.trans slash) (by decide)
        · exact absurd (tail.symm.trans dot) (by decide)

/-- A path whose first part of several is empty starts with a slash. -/
theorem isAbsolute_of_parts {path : Path} {next : String} {others : List String}
    (parts : path.parts = "" :: next :: others) : path.isAbsolute = true := by
  have text : String.intercalate "/" path.parts = path.text := Text.intercalate_split '/' path.text
  have slash : path.text.toList = '/' :: (String.intercalate "/" (next :: others)).toList := by
    rw [← text, parts, String.intercalate_cons_cons, String.toList_append]
    rfl
  exact path.isAbsolute_iff.mpr ⟨_, slash⟩

/-- Only the empty path has its components. -/
theorem text_eq_empty_of_same {first second : Path} (same : first.same second = true)
    (empty : second.text = "") : first.text = "" := by
  have components : first.components = [] := by
    rw [beq_iff_eq.mp same, components, isAbsolute, empty]
    rfl
  have relative : first.isAbsolute = false := by
    rw [Bool.eq_false_iff]
    intro absolute
    rw [← root_mem_components, components] at absolute
    exact List.not_mem_nil absolute
  have names : first.names = [] := by rw [← components_names, components, List.filterMap_nil]
  have text : String.intercalate "/" first.parts = first.text :=
    Text.intercalate_split '/' first.text
  rcases parts : first.parts with _ | ⟨part, rest⟩
  · rw [← text, parts, String.intercalate_nil]
  · have blank : isBlank part = true := by
      have all := List.filter_eq_nil_iff.mp names part (by simp [parts])
      simpa using all
    have start : part ≠ "." := by
      rintro rfl
      have dotted : (Text.split '/' first.text).head? = some "." := by
        rw [show Text.split '/' first.text = first.parts from rfl, parts, List.head?_cons]
      simp [Path.components, relative, dotted] at components
    have nothing : part = "" := by simpa [isBlank, start] using blank
    cases rest with
    | nil => rw [← text, parts, nothing, String.intercalate_singleton]
    | cons next others =>
        rw [nothing] at parts
        cases relative.symm.trans (isAbsolute_of_parts parts)

/-- The parts of a path under a base follow those of the base, up to blank ones. -/
theorem join_parts (base path : Path) (present : base.text ≠ "")
    (relative : path.isAbsolute = false) :
    ∃ front, (base.join path).parts = front ++ path.parts ∧
      front.filter (fun part => !isBlank part) = base.names := by
  have notEmpty : base.text.isEmpty = false := by
    rw [Bool.eq_false_iff]
    exact fun empty => present (String.isEmpty_iff.mp empty)
  unfold join
  simp only [relative, notEmpty, Bool.false_eq_true, ↓reduceIte, Bool.false_or]
  split
  · next slashed =>
      obtain ⟨start, text⟩ := List.isSuffixOf_iff_suffix.mp slashed
      rw [show ("/" : String).toList = ['/'] from rfl] at text
      refine ⟨Text.split '/' (String.ofList start), ?_, ?_⟩
      · exact Text.split_between '/' _ (String.ofList start) path.text (by simp [← text])
      · rw [names, parts, Text.split_between '/' base.text (String.ofList start) ""
          (by simp [← text]), List.filter_append]
        rw [show Text.split '/' "" = [""] from rfl]
        simp [isBlank]
  · refine ⟨base.parts, ?_, rfl⟩
    exact Text.split_between '/' _ base.text path.text (by simp)

/-- The names of a path under a base are those of both. -/
theorem names_join (base path : Path) (present : base.text ≠ "")
    (relative : path.isAbsolute = false) : (base.join path).names = base.names ++ path.names := by
  obtain ⟨front, parts, names⟩ := join_parts base path present relative
  rw [Path.names, parts, List.filter_append, names, ← Path.names]

/-- A joined path ends in a name if its second part does. -/
theorem endsInName_join (base path : Path) (present : base.text ≠ "")
    (relative : path.isAbsolute = false) : (base.join path).endsInName = path.endsInName := by
  obtain ⟨front, parts, _⟩ := join_parts base path present relative
  have last : (front ++ path.parts).getLast? = path.parts.getLast? :=
    List.getLast?_append_of_ne_nil _ (Text.split_ne_nil '/' path.text)
  rw [endsInName, parts, last, ← endsInName]

/-- What is joined to an absolute path is absolute. -/
theorem isAbsolute_join (base path : Path) (absolute : base.isAbsolute = true)
    (relative : path.isAbsolute = false) : (base.join path).isAbsolute = true := by
  obtain ⟨rest, text⟩ := base.isAbsolute_iff.mp absolute
  apply (isAbsolute_iff _).mpr
  unfold join
  simp only [relative, Bool.false_eq_true, ↓reduceIte]
  split <;> simp [text]

end Path

namespace FileSystem

/-- A blank part before another one does not change where a walk leads. -/
theorem walk_blank_before (files : FileSystem) (links : Nat) (place : List String)
    (blank part : String) (rest : List String) (isBlank : Path.isBlank blank = true) :
    (files.walk links place (blank :: part :: rest)).toOption =
      (files.walk links place (part :: rest)).toOption := by
  have fails (fault : FileFault) (step : ∀ other, files.walkPart links place other = .error fault) :
      (files.walk links place (blank :: part :: rest)).toOption =
        (files.walk links place (part :: rest)).toOption := by
    rw [files.walk_cons_error _ _ _ _ fault (step blank),
      files.walk_cons_error _ _ _ _ fault (step part)]
  cases node : files.node? place with
  | none => exact fails .notFound fun other => by simp [walkPart, node]
  | some held =>
      cases held with
      | directory inner => rw [files.walk_blank links place blank _ isBlank inner node]
      | file bytes => exact fails .notADirectory fun other => by simp [walkPart, node]
      | link target => exact fails .notADirectory fun other => by simp [walkPart, node]

/-- Blank parts at the end of a path are all one. -/
theorem walk_last_blank (files : FileSystem) (links : Nat) (place : List String)
    (first second : String) (blank : Path.isBlank first = true) (blank' : Path.isBlank second = true) :
    files.walk links place [first] = files.walk links place [second] := by
  have same : files.walkPart links place first = files.walkPart links place second := by
    simp [walkPart, blank, blank']
  cases step : files.walkPart links place second with
  | error fault =>
      rw [files.walk_cons_error _ _ _ _ fault (same.trans step),
        files.walk_cons_error _ _ _ _ fault step]
  | ok next =>
      obtain ⟨links', place', inner⟩ := next
      rw [files.walk_cons_ok _ _ _ _ _ _ _ (same.trans step),
        files.walk_cons_ok _ _ _ _ _ _ _ step]

/-- Walks that agree from every place on agree behind the same parts. -/
theorem walk_append_congr (files : FileSystem) (tail tail' : List String)
    (agree : ∀ links place,
      (files.walk links place tail).toOption = (files.walk links place tail').toOption)
    (links : Nat) (place parts : List String) :
    (files.walk links place (parts ++ tail)).toOption =
      (files.walk links place (parts ++ tail')).toOption := by
  fun_induction walk files links place parts with
  | case1 links place => exact agree links place
  | case2 links place part rest fault step =>
      rw [List.cons_append, List.cons_append, files.walk_cons_error _ _ _ _ fault step,
        files.walk_cons_error _ _ _ _ fault step]
  | case3 links place part rest links' place' inner step ih =>
      rw [List.cons_append, List.cons_append, files.walk_cons_ok _ _ _ _ _ _ _ step,
        files.walk_cons_ok _ _ _ _ _ _ _ step, ← List.append_assoc, ← List.append_assoc]
      exact ih

/-- Blank parts before the last part of a path do not count. -/
theorem walk_filter (files : FileSystem) (parts : List String) (last : String) (links : Nat)
    (place : List String) :
    (files.walk links place (parts ++ [last])).toOption =
      (files.walk links place (parts.filter (fun part => !Path.isBlank part) ++ [last])).toOption := by
  induction parts generalizing links place with
  | nil => rfl
  | cons part rest ih =>
      cases blank : Path.isBlank part with
      | false =>
          rw [List.filter_cons_of_pos (by simp [blank])]
          exact files.walk_append_congr _ _ ih links place [part]
      | true =>
          rw [List.filter_cons_of_neg (by simp [blank]), ← ih]
          rcases onward : rest ++ [last] with _ | ⟨next, others⟩
          · simp at onward
          · rw [List.cons_append, onward]
            exact files.walk_blank_before links place part next others blank

/-- A walk along a path goes along its names, and asks for a directory unless the path ends in a
name. -/
theorem walk_parts (files : FileSystem) (path : Path) (links : Nat) (place : List String) :
    (files.walk links place path.parts).toOption =
      (files.walk links place
        (path.names ++ if path.endsInName then [] else ["."])).toOption := by
  obtain ⟨first, last, parts⟩ : ∃ first last, path.parts = first ++ [last] :=
    (List.eq_nil_or_concat' path.parts).resolve_left (Text.split_ne_nil '/' path.text)
  have names : path.names =
      first.filter (fun part => !Path.isBlank part) ++
        if Path.isBlank last then [] else [last] := by
    rw [Path.names, parts, List.filter_append]
    cases blank : Path.isBlank last <;> simp [blank]
  have ends : path.endsInName = !Path.isBlank last := by simp [Path.endsInName, parts]
  rw [parts, files.walk_filter first last, names, ends]
  cases blank : Path.isBlank last with
  | false => simp
  | true =>
      simp only [↓reduceIte, Bool.not_true, Bool.false_eq_true, List.append_nil]
      apply files.walk_append_congr
      intro links place
      rw [files.walk_last_blank links place last "." blank rfl]

/-- A path has a null character if one of its names has. -/
theorem mem_nul_iff (path : Path) :
    '\x00' ∈ path.text.toList ↔ ∃ name ∈ path.names, '\x00' ∈ name.toList := by
  rw [Text.mem_iff_mem_split '/' _ _ (by decide)]
  constructor
  · rintro ⟨part, member, held⟩
    refine ⟨part, List.mem_filter.mpr ⟨member, ?_⟩, held⟩
    simp only [Path.isBlank, Bool.not_eq_true', Bool.or_eq_false_iff, beq_eq_false_iff_ne]
    constructor
    · rw [Bool.eq_false_iff]
      intro empty
      rw [String.isEmpty_iff.mp empty] at held
      cases held
    · rintro rfl
      simp at held
  · rintro ⟨name, member, held⟩
    exact ⟨name, (List.mem_filter.mp member).1, held⟩

/-- The walk along a path that has a text. It starts at the root or in the working directory. -/
theorem locate_of_present (files : FileSystem) (path : Path) (present : path.text ≠ "") :
    files.locate path =
      if ∃ name ∈ path.names, '\x00' ∈ name.toList then .error .nulInPath
      else
        files.walk greatestLinkCount (if path.isAbsolute then [] else files.workingDirectory)
          path.parts := by
  have notEmpty : path.text.isEmpty = false := by
    rw [Bool.eq_false_iff]
    exact fun empty => present (String.isEmpty_iff.mp empty)
  have nul : path.text.toList.any (· == '\x00') = decide ('\x00' ∈ path.text.toList) := by
    rw [Bool.eq_iff_iff]
    simp
  simp only [locate, notEmpty, nul, Path.parts, Bool.false_eq_true, ↓reduceIte, decide_eq_true_eq,
    ← mem_nul_iff]

/-- An absolute path without null characters is walked from the root. -/
theorem locate_absolute (files : FileSystem) (path : Path) (absolute : path.isAbsolute = true) :
    files.locate path =
      if ∃ name ∈ path.names, '\x00' ∈ name.toList then .error .nulInPath
      else files.walk greatestLinkCount [] path.parts := by
  rw [files.locate_of_present path (path.text_ne_empty_of_isAbsolute absolute), if_pos absolute]

/-- The canonical path spells the place at which a path is located. -/
theorem canonical?_eq_map (files : FileSystem) (path : Path) :
    files.canonical? path = (files.locate path).toOption.map pathOf := by
  unfold canonical?
  cases files.locate path <;> rfl

/-- Absolute paths with the same names lead to the same place, if both end in names or neither
does. -/
theorem canonical?_congr (files : FileSystem) (first second : Path)
    (absolute : first.isAbsolute = true) (absolute' : second.isAbsolute = true)
    (names : first.names = second.names) (ends : first.endsInName = second.endsInName) :
    files.canonical? first = files.canonical? second := by
  rw [canonical?_eq_map, canonical?_eq_map, files.locate_absolute first absolute,
    files.locate_absolute second absolute', names]
  split
  · rfl
  · rw [files.walk_parts first, files.walk_parts second, names, ends]

/-- The name of a file is not blank. -/
theorem isBlank_of_allowed (name : String) (allowed : FileName.isAllowed name = true) :
    Path.isBlank name = false := by
  have proper := isName_of_allowed name allowed
  simp only [isName, Bool.and_eq_true, Bool.not_eq_true', bne_iff_ne] at proper
  simp [Path.isBlank, proper]

/-- The names of the path of a place are the place. -/
theorem names_pathOf (files : FileSystem) (place : List String) (stands : files.Stands place) :
    (pathOf place).names = place := by
  obtain ⟨node, found, _⟩ := stands
  have allowed := files.allowed_of_node? place node found
  rw [Path.names_pathOf_clean place
    fun name member => (not_mem_of_allowed name (allowed name member)).1]
  apply List.filter_eq_self.mpr
  intro name member
  simp [isBlank_of_allowed name (allowed name member)]

/-- A canonical path is absolute. -/
theorem canonical?_isAbsolute (files : FileSystem) (path key : Path)
    (found : files.canonical? path = some key) : key.isAbsolute = true := by
  obtain ⟨place, _, rfl⟩ := files.stands_of_canonical? path key found
  exact pathOf_isAbsolute place

/-- Two canonical paths with the same components are one path. -/
theorem canonical?_eq_of_same (files : FileSystem) {path path' key key' : Path}
    (found : files.canonical? path = some key) (found' : files.canonical? path' = some key')
    (same : key.same key' = true) : key = key' := by
  obtain ⟨place, stands, rfl⟩ := files.stands_of_canonical? path key found
  obtain ⟨place', stands', rfl⟩ := files.stands_of_canonical? path' key' found'
  have names := Path.names_eq_of_same same
  rw [files.names_pathOf place stands, files.names_pathOf place' stands'] at names
  rw [names]

/-- A dot leads back to its own place. -/
theorem walk_dot (files : FileSystem) (links : Nat) (place found : List String)
    (leads : (files.walk links place ["."]).toOption = some found) : found = place := by
  have fails (fault : FileFault) (step : files.walkPart links place "." = .error fault) :
      found = place := by
    rw [files.walk_cons_error _ _ _ _ fault step] at leads
    cases leads
  cases node : files.node? place with
  | none => exact fails .notFound (by simp [walkPart, node])
  | some held =>
      cases held with
      | directory inner =>
          rw [files.walk_blank links place "." [] rfl inner node, walk_nil] at leads
          exact (Option.some.inj leads).symm
      | file bytes => exact fails .notADirectory (by simp [walkPart, node])
      | link target => exact fails .notADirectory (by simp [walkPart, node])

/-- A walk that asks for a directory at its end ends where it would without that. -/
theorem walk_without_dot (files : FileSystem) (links : Nat) (place parts found : List String)
    (leads : (files.walk links place (parts ++ ["."])).toOption = some found) :
    (files.walk links place parts).toOption = some found := by
  fun_induction walk files links place parts with
  | case1 links place => rw [files.walk_dot links place found leads, Except.toOption]
  | case2 links place part rest fault step =>
      rw [List.cons_append, files.walk_cons_error _ _ _ _ fault step] at leads
      cases leads
  | case3 links place part rest links' place' inner step ih =>
      rw [List.cons_append, files.walk_cons_ok _ _ _ _ _ _ _ step, ← List.append_assoc] at leads
      exact ih leads

/-- A path that leads somewhere is not empty. -/
theorem text_ne_empty_of_canonical? (files : FileSystem) {path key : Path}
    (found : files.canonical? path = some key) : path.text ≠ "" := by
  intro empty
  simp [canonical?, locate, empty] at found

/-- A path leads where a path with the same components leads, unless it alone asks for a directory. -/
theorem canonical?_of_same_of_ends (files : FileSystem) {first second key : Path}
    (found : files.canonical? second = some key) (same : first.same second = true)
    (present : first.text ≠ "")
    (ends : first.endsInName = true ∨ second.endsInName = false) :
    files.canonical? first = some key := by
  have names := Path.names_eq_of_same same
  have absolute := Path.isAbsolute_eq_of_same same
  have present' := files.text_ne_empty_of_canonical? found
  rw [canonical?_eq_map, files.locate_of_present second present', ← names, ← absolute] at found
  rw [canonical?_eq_map, files.locate_of_present first present]
  split
  · next nul =>
      rw [if_pos nul] at found
      cases found
  · next clean =>
      rw [if_neg clean] at found
      obtain ⟨place, leads, rfl⟩ := Option.map_eq_some_iff.mp found
      rw [files.walk_parts second, ← names] at leads
      apply Option.map_eq_some_iff.mpr
      refine ⟨place, ?_, rfl⟩
      rw [files.walk_parts first]
      cases last : second.endsInName with
      | true =>
          have alike : first.endsInName = true := by simpa [last] using ends
          rw [alike, ← leads, last]
      | false =>
          rw [last, if_neg Bool.false_ne_true] at leads
          cases first.endsInName with
          | true => simpa using files.walk_without_dot _ _ _ place leads
          | false => simpa using leads

/-- Paths with the same components that lead somewhere lead to one place. -/
theorem canonical?_unique (files : FileSystem) {first second key key' : Path}
    (found : files.canonical? first = some key) (found' : files.canonical? second = some key')
    (same : first.same second = true) : key = key' := by
  have same' : second.same first = true := by rw [second.same_comm, same]
  cases ends : first.endsInName with
  | true =>
      have again := files.canonical?_of_same_of_ends found' same
        (files.text_ne_empty_of_canonical? found) (.inl ends)
      exact Option.some.inj (found.symm.trans again)
  | false =>
      have again := files.canonical?_of_same_of_ends found same'
        (files.text_ne_empty_of_canonical? found') (.inr ends)
      exact Option.some.inj (again.symm.trans found')

/-- A path that ends in a name and has the components of a canonical path leads to it. -/
theorem canonical?_of_same (files : FileSystem) {origin key path : Path}
    (found : files.canonical? origin = some key) (same : key.same path = true)
    (ends : path.endsInName = true) : files.canonical? path = some key := by
  have same' : path.same key = true := by rw [path.same_comm, same]
  have present : path.text ≠ "" := by
    intro empty
    rw [Path.endsInName, Path.parts, empty] at ends
    cases ends
  exact files.canonical?_of_same_of_ends (files.canonical?_idem origin key found) same' present
    (.inl ends)

/-- A path with the components of a canonical path leads there or nowhere. -/
theorem canonical?_eq_of_same_of_some (files : FileSystem) {origin key path found : Path}
    (canonical : files.canonical? origin = some key) (same : key.same path = true)
    (leads : files.canonical? path = some found) : found = key :=
  (files.canonical?_unique (files.canonical?_idem origin key canonical) leads same).symm

/-- A tidy path leads where any path with the same components leads. -/
theorem canonical?_of_same_of_tidy (files : FileSystem) {first second key : Path}
    (found : files.canonical? second = some key) (same : first.same second = true)
    (tidy : first.IsTidy) : files.canonical? first = some key := by
  have same' : second.same first = true := by rw [second.same_comm, same]
  have present : first.text ≠ "" := by
    intro empty
    exact files.text_ne_empty_of_canonical? found (Path.text_eq_empty_of_same same' empty)
  apply files.canonical?_of_same_of_ends found same present
  rcases tidy.endsInName_or_short with ends | empty | dot
  · exact .inl ends
  · exact absurd empty present
  · right
    have names : second.names = [] := by
      rw [← Path.names_eq_of_same same, Path.names, Path.parts, dot]
      rfl
    rw [Bool.eq_false_iff]
    exact fun ends => second.names_ne_nil_of_endsInName ends names

/-- A relative file is looked up beside a path in the same way for each spelling of the path. -/
theorem canonical?_beside (files : FileSystem) (first second : Path) (relative : Path)
    (absolute : first.isAbsolute = true) (same : first.same second = true)
    (notAbsolute : relative.isAbsolute = false) :
    files.canonical? ((first.parent?.getD ⟨"."⟩).join relative) =
      files.canonical? ((second.parent?.getD ⟨"."⟩).join relative) := by
  have names := Path.names_eq_of_same same
  have absolute' : second.isAbsolute = true := by rw [← Path.isAbsolute_eq_of_same same, absolute]
  rcases first.parent?_absolute absolute with ⟨empty, root⟩ | ⟨present, base, parent, above, held⟩
  · rcases second.parent?_absolute absolute' with ⟨_, root'⟩ | ⟨present', _⟩
    · rw [root, root']
    · exact absurd (names.symm.trans empty) present'
  · rcases second.parent?_absolute absolute' with ⟨empty, _⟩ | ⟨_, base', parent', above', held'⟩
    · exact absurd (names.trans empty) present
    · rw [parent, parent', Option.getD_some, Option.getD_some]
      have text := base.text_ne_empty_of_isAbsolute above
      have text' := base'.text_ne_empty_of_isAbsolute above'
      apply files.canonical?_congr _ _ (base.isAbsolute_join relative above notAbsolute)
        (base'.isAbsolute_join relative above' notAbsolute)
      · rw [base.names_join relative text notAbsolute, base'.names_join relative text' notAbsolute,
          held, held', names]
      · rw [base.endsInName_join relative text notAbsolute,
          base'.endsInName_join relative text' notAbsolute]

end FileSystem

end ApiContract
