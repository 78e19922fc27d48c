import ApiContract.Proofs.Resolver.Count

/-
This file proves that schemas without recursion are inlined completely. A target that is used again
is put in again: it is marked only inside itself, and no target is found inside itself here.
-/

namespace ApiContract

namespace Library

variable {library : Library}

/-- Whether a walk from a node of a file comes by another node: below it, or by way of references. -/
inductive Reaches (library : Library) : Path → Json → Path → Json → Prop where
  | here (file : Path) (node : Json) : Reaches library file node file node
  | inner (file : Path) (node child : Json) (place : Path) (reached : Json)
      (concrete : node.reference? = none) (member : child ∈ node.children)
      (onward : Reaches library file child place reached) : Reaches library file node place reached
  | target (file : Path) (node : Json) (text : String) (resolved : Resolved) (place : Path)
      (reached : Json) (refers : node.reference? = some text)
      (leads : library.Leads ⟨text, file, library.document? file⟩ resolved)
      (onward : Reaches library resolved.file resolved.value place reached) :
      Reaches library file node place reached

/-- What is reached from what is reached is reached. -/
theorem Reaches.trans {file place place' : Path} {node inner reached : Json}
    (first : library.Reaches file node place inner)
    (second : library.Reaches place inner place' reached) :
    library.Reaches file node place' reached := by
  induction first with
  | here => exact second
  | inner file node child _ _ concrete member _ ih =>
      exact .inner file node child place' reached concrete member (ih second)
  | target file node text resolved _ _ refers leads _ ih =>
      exact .target file node text resolved place' reached refers leads (ih second)

/-- What holds at first and along each step holds wherever a walk comes by. -/
theorem Reaches.stays (holds : Path → Json → Prop)
    (children : ∀ file node child, holds file node → node.reference? = none →
      child ∈ node.children → holds file child)
    (targets : ∀ file node text resolved, holds file node → node.reference? = some text →
      library.Leads ⟨text, file, library.document? file⟩ resolved →
        holds resolved.file resolved.value)
    {file place : Path} {node reached : Json} (reaches : library.Reaches file node place reached)
    (start : holds file node) : holds place reached := by
  induction reaches with
  | here => exact start
  | inner file node child _ _ concrete member _ ih =>
      exact ih (children file node child start concrete member)
  | target file node text resolved _ _ refers leads _ ih =>
      exact ih (targets file node text resolved start refers leads)

/-- Whether some reference that a walk comes by leads to a node. -/
def LeadsBelow (library : Library) (file : Path) (node : Json) (resolved : Resolved) : Prop :=
  ∃ place left text, library.Reaches file node place left ∧ left.reference? = some text ∧
    library.Leads ⟨text, place, library.document? place⟩ resolved

variable {file place : Path} {node inner : Json}

/-- What leads on below a reached tree does so below the first one. -/
theorem LeadsBelow.before {resolved : Resolved} (below : library.LeadsBelow place inner resolved)
    (reaches : library.Reaches file node place inner) : library.LeadsBelow file node resolved := by
  obtain ⟨place', left, text, onward, refers, leads⟩ := below
  exact ⟨place', left, text, reaches.trans onward, refers, leads⟩

/-- Whether each reference below a node leads to something other than a text, is not marked, and is
not found again below itself. -/
structure Inlinable (library : Library) (file : Path) (node : Json) : Prop where
  resolves : ∀ place left text, library.Reaches file node place left →
    left.reference? = some text →
      ∃ resolved, library.Leads ⟨text, place, library.document? place⟩ resolved
  unmarked : ∀ place left text, library.Reaches file node place left →
    left.reference? = some text → (left.member? recursiveMark).isSome = false
  proper : ∀ resolved, library.LeadsBelow file node resolved → resolved.value.string? = none
  acyclic : ∀ resolved again, library.LeadsBelow file node resolved →
    library.LeadsBelow resolved.file resolved.value again →
      (Target.ofPointer again.file again.pointer).same
        (Target.ofPointer resolved.file resolved.pointer) = false

/-- Every tree that is reached from an inlinable one is inlinable. -/
theorem Inlinable.onward (inlinable : library.Inlinable file node)
    (reaches : library.Reaches file node place inner) : library.Inlinable place inner where
  resolves place' left text onward := inlinable.resolves place' left text (reaches.trans onward)
  unmarked place' left text onward := inlinable.unmarked place' left text (reaches.trans onward)
  proper resolved below := inlinable.proper resolved (below.before reaches)
  acyclic resolved again below := inlinable.acyclic resolved again (below.before reaches)

/-- Whether no target that is found below a node is one of those around it. -/
def Clear (library : Library) (enclosing : List Target) (file : Path) (node : Json) : Prop :=
  ∀ resolved, library.LeadsBelow file node resolved →
    enclosing.any (Target.ofPointer resolved.file resolved.pointer).same = false

/-- A tree that is reached from a clear one is clear. -/
theorem Clear.onward {enclosing : List Target} (clear : library.Clear enclosing file node)
    (reaches : library.Reaches file node place inner) : library.Clear enclosing place inner :=
  fun resolved below => clear resolved (below.before reaches)

/-- Inside its target, what is below a reference is clear of the target, too. -/
theorem Clear.push {enclosing : List Target} (clear : library.Clear enclosing file node)
    (inlinable : library.Inlinable file node) {text : String} {resolved : Resolved}
    (refers : node.reference? = some text)
    (leads : library.Leads ⟨text, file, library.document? file⟩ resolved) :
    library.Clear (Target.ofPointer resolved.file resolved.pointer :: enclosing) resolved.file
      resolved.value := by
  intro again below
  have found : library.LeadsBelow file node resolved := ⟨file, node, text, .here _ _, refers, leads⟩
  have onward : library.Reaches file node resolved.file resolved.value :=
    .target file node text resolved _ _ refers leads (.here _ _)
  rw [List.any_cons, inlinable.acyclic resolved again found below, Bool.false_or]
  exact clear again (below.before onward)

/-- Whether trees are what lists of nodes of a file become when each reference gives way to what it
leads to, over and over, and nothing else changes. -/
inductive Inlines (library : Library) : Path → List Json → List Json → Prop where
  | done (file : Path) : Inlines library file [] []
  | inner (file : Path) (node : Json) (rest trees trees' : List Json)
      (concrete : node.reference? = none) (below : Inlines library file node.children trees)
      (beside : Inlines library file rest trees') :
      Inlines library file (node :: rest) (node.withChildren trees :: trees')
  | target (file : Path) (node tree : Json) (text : String) (resolved : Resolved)
      (rest trees : List Json) (refers : node.reference? = some text)
      (leads : library.Leads ⟨text, file, library.document? file⟩ resolved)
      (below : Inlines library resolved.file [resolved.value] [tree])
      (beside : Inlines library file rest trees) : Inlines library file (node :: rest) (tree :: trees)

variable {forest trees : List Json}

/-- Inlining gives a tree for each tree. -/
theorem Inlines.length (inlines : library.Inlines file forest trees) :
    trees.length = forest.length := by
  induction inlines with
  | done => rfl
  | inner _ _ _ _ _ _ _ _ _ ih => rw [List.length_cons, List.length_cons, ih]
  | target _ _ _ _ _ _ _ _ _ _ _ _ ih => rw [List.length_cons, List.length_cons, ih]

/-- Nodes are inlined in one way at most. -/
theorem Inlines.unique {trees' : List Json} (inlines : library.Inlines file forest trees)
    (inlines' : library.Inlines file forest trees') : trees = trees' := by
  induction inlines generalizing trees' with
  | done =>
      cases inlines'
      rfl
  | inner file node rest trees others concrete below beside ihBelow ihBeside =>
      cases inlines' with
      | inner _ _ _ _ _ _ below' beside' => rw [ihBelow below', ihBeside beside']
      | target _ _ _ _ _ _ _ refers => simp_all
  | target file node tree text resolved rest trees refers leads below beside ihBelow ihBeside =>
      cases inlines' with
      | inner _ _ _ _ _ concrete => simp_all
      | target _ _ _ _ _ _ _ refers' leads' below' beside' =>
          cases refers.symm.trans refers'
          cases library.leads_unique _ _ _ leads leads'
          rw [List.head_eq_of_cons_eq (ihBelow below'), ihBeside beside']

/-- Inlined trees have no references in them, unless a reference leads to a text. -/
theorem Inlines.tallies (inlines : library.Inlines file forest trees)
    (proper : ∀ node ∈ forest, ∀ resolved, library.LeadsBelow file node resolved →
      resolved.value.string? = none) : Tallies forest trees 0 0 := by
  induction inlines with
  | done => exact .nil 0
  | inner file node rest trees trees' concrete below beside ihBelow ihBeside =>
      obtain ⟨own, others⟩ := List.forall_mem_cons.mp proper
      refine .cons (.inner concrete (ihBelow ?_)) (ihBeside others)
      intro child member resolved found
      exact own resolved (found.before (.inner file node child _ _ concrete member (.here _ _)))
  | target file node tree text resolved rest trees refers leads below beside ihBelow ihBeside =>
      obtain ⟨own, others⟩ := List.forall_mem_cons.mp proper
      have first := own resolved ⟨file, node, text, .here _ _, refers, leads⟩
      refine .cons (.target refers first (ihBelow ?_)) (ihBeside others)
      refine List.forall_mem_singleton.mpr fun again found => own again (found.before ?_)
      exact .target file node text resolved _ _ refers leads (.here _ _)

end Library

namespace Json

/-- The keys of an object. -/
def keys (node : Json) : List String := node.members.map (·.1)

/-- A node keeps its keys when its children are replaced. -/
theorem keys_withChildren (node : Json) (trees : List Json)
    (same : trees.length = node.children.length) : (node.withChildren trees).keys = node.keys := by
  cases node with
  | object members =>
      rw [children, List.length_map] at same
      exact List.map_fst_zip (by rw [List.length_map, same])
  | _ => rfl

end Json

namespace Library

variable {library : Library} {file : Path} {forest trees : List Json}

/-- What holds of the keys of all objects that a walk comes by, holds of the keys of inlined trees: no
object gets a key that it did not have. -/
theorem Inlines.everywhere (inlines : library.Inlines file forest trees)
    (property : List String → Prop)
    (supplied : ∀ node ∈ forest, ∀ place source, library.Reaches file node place source →
      source.reference? = none → property source.keys) :
    ∀ tree ∈ trees, tree.Everywhere fun inner => property inner.keys := by
  induction inlines with
  | done => exact nofun
  | inner file node rest trees trees' concrete below beside ihBelow ihBeside =>
      obtain ⟨own, others⟩ := List.forall_mem_cons.mp supplied
      refine List.forall_mem_cons.mpr ⟨.intro _ ?_ ?_, ihBeside others⟩
      · rw [node.keys_withChildren trees below.length]
        exact own file node (.here _ _) concrete
      · rw [node.children_withChildren trees below.length]
        refine ihBelow fun child member place source reaches => own place source ?_
        exact .inner file node child place source concrete member reaches
  | target file node tree text resolved rest trees refers leads below beside ihBelow ihBeside =>
      obtain ⟨own, others⟩ := List.forall_mem_cons.mp supplied
      refine List.forall_mem_cons.mpr ⟨ihBelow ?_ tree (.head _), ihBeside others⟩
      refine List.forall_mem_singleton.mpr fun place source reaches => own place source ?_
      exact .target file node text resolved place source refers leads reaches

/-- A run inlines nodes that can be inlined, if their targets are clear of those around them. -/
theorem inlines_of_runs {allowed : List Target → Prop} {before after : Resolver}
    (runs : Resolver.Runs library.files allowed file forest before trees after)
    (explained : library.Explains before.cache)
    (inlinable : ∀ node ∈ forest, library.Inlinable file node)
    (clear : ∀ node ∈ forest, library.Clear before.expanding file node) :
    library.Inlines file forest trees ∧ after.unresolved = before.unresolved := by
  induction runs with
  | done => exact ⟨.done _, rfl⟩
  | inner file node rest trees trees' before between after concrete below beside ihBelow ihBeside =>
      obtain ⟨own, others⟩ := List.forall_mem_cons.mp inlinable
      obtain ⟨free, frees⟩ := List.forall_mem_cons.mp clear
      have onward (child : Json) (member : child ∈ node.children) :
          library.Reaches file node file child :=
        .inner file node child _ _ concrete member (.here _ _)
      obtain ⟨inside, count⟩ := ihBelow explained
        (fun child member => own.onward (onward child member))
        (fun child member => free.onward (onward child member))
      obtain ⟨outside, count'⟩ := ihBeside (below.cache library.explains_get explained) others
        (by rw [below.expanding]; exact frees)
      exact ⟨.inner file node rest trees trees' concrete inside outside, count'.trans count⟩
  | marked file node text rest trees before after refers mark =>
      have unmarked := (inlinable node (.head _)).unmarked file node text (.here _ _) refers
      rw [mark] at unmarked
      cases unmarked
  | unresolved file node text rest trees before after cache refers unmarked follows =>
      obtain ⟨resolved, leads⟩ := (inlinable node (.head _)).resolves file node text (.here _ _) refers
      cases explained.found leads follows
  | enclosed file node text resolved rest trees before after cache refers unmarked follows encloses =>
      obtain ⟨found, leads⟩ := (inlinable node (.head _)).resolves file node text (.here _ _) refers
      cases explained.found leads follows
      have free := clear node (.head _) resolved ⟨file, node, text, .here _ _, refers, leads⟩
      rw [encloses] at free
      cases free
  | expanded file node tree text resolved rest trees before between after cache refers unmarked
      follows new fits below beside ihBelow ihBeside =>
      obtain ⟨own, others⟩ := List.forall_mem_cons.mp inlinable
      obtain ⟨free, frees⟩ := List.forall_mem_cons.mp clear
      obtain ⟨found, leads⟩ := own.resolves file node text (.here _ _) refers
      cases explained.found leads follows
      have onward : library.Reaches file node resolved.file resolved.value :=
        .target file node text resolved _ _ refers leads (.here _ _)
      have known := follows.cache library.explains_get explained
      have popped : library.Explains between.cache := below.cache library.explains_get known
      obtain ⟨inside, count⟩ := ihBelow known (List.forall_mem_singleton.mpr (own.onward onward))
        (List.forall_mem_singleton.mpr (free.push own refers leads))
      obtain ⟨outside, count'⟩ := ihBeside popped others
        (by rw [Resolver.pop, below.expanding, Resolver.push, List.tail_cons]; exact frees)
      exact ⟨.target file node tree text resolved rest trees refers leads inside outside,
        count'.trans count⟩

end Library

namespace Resolver

open Library

/-- A tree that can be inlined is so completely: no reference is left, no object gets a new member,
and nothing is counted. -/
theorem resolveTree_inlines (library : Library) (cache : DocumentCache)
    (explained : library.Explains cache) (calls : List Call) (node : Json) (file : Path)
    (inlinable : library.Inlinable file node) :
    let resolver := (ofCache cache).serve library.files calls
    let outcome := resolver.resolveTree library.files node file
    library.Inlines file [node] [outcome.1] ∧ outcome.1.hasReference = false ∧
      (outcome.1.Everywhere fun inner => ∃ place source, library.Reaches file node place source ∧
        source.reference? = none ∧ source.keys = inner.keys) ∧
        outcome.2.unresolved = resolver.unresolved := by
  intro resolver outcome
  have idle : resolver.expanding = [] := serve_expanding library.files calls _ rfl
  have known : library.Explains resolver.cache :=
    serve_cache library.explains_get calls (ofCache cache) rfl explained
  have runs := runs_resolveTree library.files node file resolver idle
  obtain ⟨inlines, count⟩ := inlines_of_runs runs known (List.forall_mem_singleton.mpr inlinable)
    (List.forall_mem_singleton.mpr fun _ _ => by rw [idle]; rfl)
  refine ⟨inlines, ?_, ?_, count⟩
  · have none_left := (inlines.tallies (List.forall_mem_singleton.mpr inlinable.proper)).count
    rw [← Json.referenceCount_eq_zero_iff]
    simpa using none_left.symm
  · refine inlines.everywhere (fun keys => ∃ place source, library.Reaches file node place source ∧
      source.reference? = none ∧ source.keys = keys) (List.forall_mem_singleton.mpr ?_) outcome.1
      (.head _)
    exact fun place source reaches concrete => ⟨place, source, reaches, concrete, rfl⟩

end Resolver

namespace SharedSchema

open Library Resolver

/-- A reference to a schema beside it, and one by way of an alias in another file. -/
def near : Json := .object [("$ref", .string "#/shared")]

def far : Json := .object [("$ref", .string "b.json#/alias")]

def shared : Json := .object [("type", .string "string")]

/-- A schema that uses another one twice, at two depths. -/
def node : Json := .object [("left", near), ("right", .object [("deep", far)])]

def first : Json := .object [("shared", shared)]

def second : Json := .object [("alias", .object [("$ref", .string "a.json#/shared")])]

def library : Library := ⟨CrossFile.library.files, [(⟨"/a.json"⟩, first), (⟨"/b.json"⟩, second)]⟩

def cache : DocumentCache := ⟨[(⟨"/a.json"⟩, some first), (⟨"/b.json"⟩, some second)]⟩

theorem canonical?_first : library.files.canonical? ⟨"/a.json"⟩ = some ⟨"/a.json"⟩ := by
  have stands : library.files.Stands ["a.json"] := ⟨.file [], by rfl, nofun⟩
  exact library.files.canonical?_pathOf ["a.json"] stands

/-- The reference within the file leads to the shared schema. -/
theorem leads_near : library.Leads ⟨"#/shared", ⟨"/a.json"⟩, some first⟩
    ⟨shared, ⟨"/a.json"⟩, "/shared"⟩ :=
  ⟨0, _, ⟨⟨"/a.json"⟩, first, "/shared", shared⟩, rfl, by rfl, rfl, rfl⟩

/-- The reference through the other file leads to the shared schema. -/
theorem leads_far : library.Leads ⟨"b.json#/alias", ⟨"/a.json"⟩, some first⟩
    ⟨shared, ⟨"/a.json"⟩, "/shared"⟩ := by
  have across : library.land? ⟨"b.json#/alias", ⟨"/a.json"⟩, some first⟩ =
      some ⟨⟨"/b.json"⟩, second, "/alias", .object [("$ref", .string "a.json#/shared")]⟩ := by
    have read : Reference.ofString? "b.json#/alias" = some (.inFile "b.json" "/alias") := by rfl
    have beside : ((⟨"/a.json"⟩ : Path).parent?.getD ⟨"."⟩).join ⟨"b.json"⟩ = ⟨"/b.json"⟩ := by rfl
    have found : library.files.canonical? ⟨"/b.json"⟩ = some ⟨"/b.json"⟩ :=
      CrossFile.canonical?_second
    simp only [land?, read, enter?, beside, found]
    rfl
  have back : library.land? ⟨"a.json#/shared", ⟨"/b.json"⟩, some second⟩ =
      some ⟨⟨"/a.json"⟩, first, "/shared", shared⟩ := by
    have read : Reference.ofString? "a.json#/shared" = some (.inFile "a.json" "/shared") := by rfl
    have beside : ((⟨"/b.json"⟩ : Path).parent?.getD ⟨"."⟩).join ⟨"a.json"⟩ = ⟨"/a.json"⟩ := by rfl
    simp only [land?, read, enter?, beside, canonical?_first]
    rfl
  exact Leads.before across (by rfl) ⟨0, _, _, rfl, back, rfl, rfl⟩

/-- All that a walk from the schema comes by. -/
def visited : List Json := [node, near, .object [("deep", far)], far, shared, .string "string"]

/-- All visited references lead to the shared schema. -/
theorem leads_visited (left : Json) (member : left ∈ visited) (text : String)
    (refers : left.reference? = some text) :
    library.Leads ⟨text, ⟨"/a.json"⟩, library.document? ⟨"/a.json"⟩⟩
      ⟨shared, ⟨"/a.json"⟩, "/shared"⟩ := by
  have own : library.document? ⟨"/a.json"⟩ = some first := by rfl
  rw [own]
  simp only [visited, List.mem_cons, List.not_mem_nil, or_false] at member
  rcases member with rfl | rfl | rfl | rfl | rfl | rfl <;> cases refers
  · exact leads_near
  · exact leads_far

/-- Only the visited trees of the first file are reached. -/
theorem visited_of_reaches {place : Path} {reached : Json}
    (reaches : library.Reaches ⟨"/a.json"⟩ node place reached) :
    place = ⟨"/a.json"⟩ ∧ reached ∈ visited := by
  refine reaches.stays (fun place reached => place = ⟨"/a.json"⟩ ∧ reached ∈ visited) ?_ ?_
    ⟨rfl, .head _⟩
  · rintro file inner child ⟨rfl, member⟩ concrete below
    refine ⟨rfl, ?_⟩
    simp only [visited, List.mem_cons, List.not_mem_nil, or_false] at member ⊢
    rcases member with rfl | rfl | rfl | rfl | rfl | rfl
    · simp only [Json.children, node, List.map_cons, List.map_nil, List.mem_cons,
        List.not_mem_nil, or_false] at below
      tauto
    · cases concrete
    · simp only [Json.children, List.map_cons, List.map_nil, List.mem_singleton] at below
      tauto
    · cases concrete
    · simp only [Json.children, shared, List.map_cons, List.map_nil, List.mem_singleton] at below
      tauto
    · cases below
  · rintro file left text resolved ⟨rfl, member⟩ refers leads
    cases library.leads_unique _ _ _ leads (leads_visited left member text refers)
    simp [visited]

/-- Below the tree everything leads to the shared schema. -/
theorem leadsBelow_node {resolved : Resolved}
    (below : library.LeadsBelow ⟨"/a.json"⟩ node resolved) :
    resolved = ⟨shared, ⟨"/a.json"⟩, "/shared"⟩ := by
  obtain ⟨place, left, text, reaches, refers, leads⟩ := below
  obtain ⟨rfl, member⟩ := visited_of_reaches reaches
  exact library.leads_unique _ _ _ leads (leads_visited left member text refers)

/-- Nothing leads on below the shared schema. -/
theorem not_leadsBelow_shared (resolved : Resolved) :
    ¬library.LeadsBelow ⟨"/a.json"⟩ shared resolved := by
  rintro ⟨place, left, text, reaches, refers, -⟩
  have bare := reaches.stays (fun _ reached => reached = shared ∨ reached = .string "string")
    (by
      rintro _ _ child (rfl | rfl) _ below
      · exact .inr (List.mem_singleton.mp below)
      · cases below)
    (by rintro _ _ _ _ (rfl | rfl) refers <;> cases refers)
    (.inl rfl)
  rcases bare with rfl | rfl <;> cases refers

/-- The tree can be inlined. -/
theorem inlinable : library.Inlinable ⟨"/a.json"⟩ node where
  resolves place left text reaches refers := by
    obtain ⟨rfl, member⟩ := visited_of_reaches reaches
    exact ⟨_, leads_visited left member text refers⟩
  unmarked place left text reaches refers := by
    have member := (visited_of_reaches reaches).2
    simp only [visited, List.mem_cons, List.not_mem_nil, or_false] at member
    rcases member with rfl | rfl | rfl | rfl | rfl | rfl <;> rfl
  proper resolved below := by
    rw [leadsBelow_node below]
    rfl
  acyclic resolved again below inside := by
    cases leadsBelow_node below
    exact absurd inside (not_leadsBelow_shared again)

/-- A schema that is used twice is put in twice, also by a resolver that did so before. -/
theorem resolveTree_inlines_shared_schema :
    let resolver := (ofCache cache).serve library.files [.resolveTree node ⟨"/a.json"⟩]
    let outcome := resolver.resolveTree library.files node ⟨"/a.json"⟩
    library.Explains cache ∧ library.Inlinable ⟨"/a.json"⟩ node ∧
      outcome.1 = .object [("left", shared), ("right", .object [("deep", shared)])] ∧
        outcome.2.unresolved = resolver.unresolved := by
  intro resolver outcome
  have explained : library.Explains cache := explains_inserted library.files library.inserted
  obtain ⟨inlines, -, -, count⟩ := resolveTree_inlines library cache explained
    [.resolveTree node ⟨"/a.json"⟩] node ⟨"/a.json"⟩ inlinable
  refine ⟨explained, inlinable, ?_, count⟩
  have own : library.document? ⟨"/a.json"⟩ = some first := by rfl
  have text : library.Inlines ⟨"/a.json"⟩ [.string "string"] [.string "string"] :=
    .inner _ (.string "string") [] [] [] (by rfl) (.done _) (.done _)
  have again : library.Inlines ⟨"/a.json"⟩ [shared] [shared] :=
    .inner _ shared [] _ [] (by rfl) text (.done _)
  have deep : library.Inlines ⟨"/a.json"⟩ [far] [shared] :=
    .target _ far _ "b.json#/alias" ⟨shared, ⟨"/a.json"⟩, "/shared"⟩ [] [] (by rfl)
      (own ▸ leads_far) again (.done _)
  have right : library.Inlines ⟨"/a.json"⟩ [.object [("deep", far)]] [.object [("deep", shared)]] :=
    .inner _ (.object [("deep", far)]) [] _ [] (by rfl) deep (.done _)
  have both : library.Inlines ⟨"/a.json"⟩ node.children [shared, .object [("deep", shared)]] :=
    .target _ near _ "#/shared" ⟨shared, ⟨"/a.json"⟩, "/shared"⟩ _ _ (by rfl) (own ▸ leads_near)
      again right
  have whole := Inlines.inner _ node [] _ [] (by rfl) both (.done _)
  exact List.head_eq_of_cons_eq (inlines.unique whole)

end SharedSchema

end ApiContract
