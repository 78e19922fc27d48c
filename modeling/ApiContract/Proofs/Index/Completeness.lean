import ApiContract.Proofs.Index.Content
import ApiContract.Proofs.Index.Declarations
import ApiContract.Proofs.Index.Insertion

/-
This file proves that an index has the schemas of the declared bodies of its specification, resolved as
if each was the only one, and nothing else. It also proves what the count of an index says.
-/

namespace ApiContract

namespace ModuleIndex

/-- Stores the schema of a declared body. -/
def store (index : ModuleIndex) (declaration : Declaration) (schema : Json) : ModuleIndex :=
  match declaration.responseKey? with
  | none => index.insertRequest declaration.identifier schema
  | some key => index.insertResponse key schema

/-- The index after some schemas are stored. -/
def storeAll (index : ModuleIndex) (entries : List (Declaration × Json)) : ModuleIndex :=
  entries.foldl (fun index entry => index.store entry.1 entry.2) index

/-- Reads a declared body and stores its schema. -/
def addDeclaration (files : FileSystem) (bound : Nat) (state : ModuleIndex × Resolver)
    (declaration : Declaration) : ModuleIndex × Resolver :=
  match readContent files bound declaration.body state.1.specPath state.2 with
  | (none, resolver) => (state.1, resolver)
  | (some schema, resolver) => (state.1.store declaration schema, resolver)

/-- A declaration adds the schema of its body, if the body has one. -/
theorem addDeclaration_eq (files : FileSystem) (bound : Nat) (index : ModuleIndex)
    (resolver : Resolver) (declaration : Declaration) :
    addDeclaration files bound (index, resolver) declaration =
      ((readContent files bound declaration.body index.specPath resolver).1.elim index
          (index.store declaration),
        (readContent files bound declaration.body index.specPath resolver).2) := by
  rw [addDeclaration]
  dsimp only
  rcases readContent files bound declaration.body index.specPath resolver with
    ⟨_ | schema, after⟩ <;> rfl

/-- An operation adds the declarations of its bodies one by one. -/
theorem addOperation_eq_bodies (files : FileSystem) (bound : Nat) (path name : String)
    (method : Method) (content : Json) (state : ModuleIndex × Resolver) :
    addOperation files bound state ⟨method, path,
        ((content.member? "operationId").bind Json.string?).getD (name ++ "_" ++ path), content⟩ =
      (bodies path name method content).foldl (addDeclaration files bound) state := by
  rw [bodies, List.foldl_append, List.foldl_map, addOperation, addRequest, Operation.responses]
  cases content.member? "requestBody" <;> rfl

/-- An index meets the declarations of a specification one after the other. -/
theorem addOperations_eq_declarations (files : FileSystem) (bound : Nat) (spec : Json)
    (state : ModuleIndex × Resolver) :
    (operations spec).foldl (addOperation files bound) state =
      (declarations spec).foldl (addDeclaration files bound) state := by
  rw [operations, declarations, List.foldl_flatMap, List.foldl_flatMap]
  congr 1
  funext state entry
  obtain ⟨path, item⟩ := entry
  rw [List.foldl_filterMap, List.foldl_flatMap]
  congr 1
  funext state member
  obtain ⟨name, content⟩ := member
  dsimp only
  unfold operation? memberBodies
  cases Method.ofString? name with
  | none => rfl
  | some method => exact addOperation_eq_bodies files bound path name method content state

/-- The declarations whose schema is stored, with the schema. -/
def stored (files : FileSystem) (specPath : Path) (spec : Json)
    (declarations : List Declaration) : List (Declaration × Json) :=
  declarations.filterMap fun declaration =>
    (freshContent? files specPath spec declaration.body).map fun schema => (declaration, schema)

theorem store_specPath (index : ModuleIndex) (declaration : Declaration) (schema : Json) :
    (index.store declaration schema).specPath = index.specPath := by
  unfold store
  split <;> rfl

/-- Adding declarations stores what fresh resolvers give for each of them, and counts what they
count. -/
theorem Ready.addDeclarations {files : FileSystem} {specPath : Path} {spec : Json} {scope : Scope}
    {bound : Nat} {resolver : Resolver} (ready : Ready files specPath spec scope resolver)
    (fits : Fits files specPath scope bound) (index : ModuleIndex)
    (located : index.specPath = home files specPath) (declarations : List Declaration)
    (texts : ∀ declaration ∈ declarations, declaration.body.references ⊆ scope.texts) :
    let outcome := declarations.foldl (addDeclaration files bound) (index, resolver)
    outcome.1 = index.storeAll (stored files specPath spec declarations) ∧
      outcome.2.unresolved = resolver.unresolved +
        (declarations.map fun declaration => freshCount files specPath spec declaration.body).sum := by
  induction declarations generalizing index resolver with
  | nil => exact ⟨rfl, rfl⟩
  | cons declaration rest ih =>
      obtain ⟨own, others⟩ := List.forall_mem_cons.mp texts
      obtain ⟨same, after, count⟩ := ready.readContent fits declaration.body own
      rw [List.foldl_cons, addDeclaration_eq, located, same, stored, List.filterMap_cons,
        List.map_cons, List.sum_cons, ← Nat.add_assoc, ← count]
      cases freshContent? files specPath spec declaration.body with
      | none => exact ih after index located others
      | some schema =>
          exact ih after (index.store declaration schema)
            ((store_specPath index declaration schema).trans located) others

/-- The insertion of the schema of a declared body. -/
def Declaration.insertion (declaration : Declaration) (schema : Json) : Insertion :=
  match declaration.responseKey? with
  | none => .request declaration.identifier schema
  | some key => .response key schema

theorem insertion_key (declaration : Declaration) (schema : Json) :
    (declaration.insertion schema).key = declaration.key := by
  rw [Declaration.insertion, Declaration.key]
  cases declaration.responseKey? <;> rfl

theorem insertion_schema (declaration : Declaration) (schema : Json) :
    (declaration.insertion schema).schema = schema := by
  rw [Declaration.insertion]
  cases declaration.responseKey? <;> rfl

theorem insertion_responseKey? (declaration : Declaration) (schema : Json) :
    (declaration.insertion schema).responseKey? = declaration.responseKey? := by
  rw [Declaration.insertion]
  cases declaration.responseKey? <;> rfl

/-- Storing the schemas of declared bodies is inserting them. -/
theorem storeAll_eq_insertAll (index : ModuleIndex) (entries : List (Declaration × Json)) :
    index.storeAll entries =
      index.insertAll (entries.map fun entry => entry.1.insertion entry.2) := by
  rw [storeAll, insertAll, List.foldl_map]
  congr 1
  funext index entry
  rw [store, Declaration.insertion]
  cases entry.1.responseKey? <;> rfl

/-- The schemas that are stored stand in the order of their keys. -/
theorem schemas_storeAll (name : String) (specPath : Path) (entries : List (Declaration × Json)) :
    ((empty name specPath).storeAll entries).schemas =
      Json.sortMembers (entries.map fun entry => (entry.1.key, entry.2)) := by
  rw [storeAll_eq_insertAll, schemas_insertAll, List.map_map]
  simp only [Function.comp_def, insertion_key, insertion_schema]

/-- Of the schemas with one key, the last is kept. -/
theorem schema?_storeAll (name : String) (specPath : Path) (entries : List (Declaration × Json))
    (key : String) :
    ((empty name specPath).storeAll entries).schema? key =
      ((entries.filter fun entry => entry.1.key = key).getLast?).map (·.2) := by
  rw [storeAll_eq_insertAll, schema?_insertAll, List.filter_map, List.getLast?_map, Option.map_map]
  simp only [Function.comp_def, insertion_key, insertion_schema]

/-- The routes are the keys of the stored responses, each in the place where it came first. -/
theorem routes_storeAll (name : String) (specPath : Path) (entries : List (Declaration × Json))
    (clear : ∀ entry ∈ entries, ∀ status, entry.1.status = some status → ClearStatus status) :
    ((empty name specPath).storeAll entries).routes =
      (entries.filterMap fun entry => entry.1.responseKey?).eraseDups.map routeOf := by
  have keys : Insertion.responseKeys (entries.map fun entry => entry.1.insertion entry.2) =
      entries.filterMap fun entry => entry.1.responseKey? := by
    rw [Insertion.responseKeys, List.filterMap_map]
    simp only [Function.comp_def, insertion_responseKey?]
  rw [storeAll_eq_insertAll, routes_insertAll, keys]
  rw [keys]
  intro key member
  obtain ⟨entry, inside, found⟩ := List.mem_filterMap.mp member
  obtain ⟨status, given, rfl⟩ := Option.map_eq_some_iff.mp found
  exact clear entry inside status given

/-- The index of a specification has the schemas of its declared bodies, and counts what is left in
each of them. -/
theorem ofSpecification_eq (files : FileSystem) (name : String) (specPath : Path) (spec : Json)
    (modelsDirectory : String) :
    ofSpecification files name specPath spec modelsDirectory =
      { (empty name (home files specPath)).storeAll
          (stored files specPath spec (declarations spec)) with
        unresolved := ((declarations spec).map fun declaration =>
          freshCount files specPath spec declaration.body).sum } := by
  let cache := startCache files (home files specPath) spec modelsDirectory
  let scope := Resolver.scope files cache (home files specPath) []
  have covers : scope.Covers files cache := Resolver.scope_covers files cache _ []
  have ready : Ready files specPath spec scope (.ofCache cache) :=
    ⟨rfl, explains_startCache files specPath spec modelsDirectory, covers⟩
  have fits : Fits files specPath scope (Resolver.targetBound files cache (home files specPath) []) :=
    ⟨rfl, Nat.lt_succ_self _⟩
  have known : spec ∈ Resolver.knownDocuments files cache := by
    refine List.mem_append_left _ (DocumentCache.mem_documents_of_entryOf? cache
      ((files.canonical? (home files specPath)).getD (home files specPath)) spec ?_)
    exact (DocumentCache.entryOf?_set _ _ _ _).trans (if_pos (Path.same_refl _))
  obtain ⟨result, count⟩ := ready.addDeclarations fits (empty name (home files specPath)) rfl
    (declarations spec) fun declaration member =>
      List.Subset.trans ((mem_declarations_iff spec declaration).mp member).references_subset
        (covers spec known)
  rw [← addOperations_eq_declarations] at result count
  rw [← result, ← Nat.zero_add (List.sum _), show 0 = (Resolver.ofCache cache).unresolved by rfl,
    ← count]
  rfl

/-- The index of a specification has the schemas of its declared bodies, and its count grows if a
reference is left in one of them. -/
theorem ofSpecification_reads (files : FileSystem) (name : String) (specPath : Path) (spec : Json)
    (modelsDirectory : String) :
    let index := ofSpecification files name specPath spec modelsDirectory
    let filled := (empty name (home files specPath)).storeAll
      (stored files specPath spec (declarations spec))
    index.schemas = filled.schemas ∧ index.routes = filled.routes ∧
      GrowsIf 0 index.unresolved
        (∃ declaration ∈ declarations spec, ∃ schema file,
          schemaOf? files specPath spec declaration.body = some (schema, file) ∧
            (library files specPath spec).Leaves [] file schema) := by
  dsimp only
  rw [ofSpecification_eq]
  refine ⟨rfl, rfl, Nat.zero_le _, ?_⟩
  rw [Nat.pos_iff_ne_zero, Ne, List.sum_eq_zero_iff_forall_eq_nat, List.forall_mem_map]
  simp only [← freshCount_pos_iff, Nat.pos_iff_ne_zero, not_forall, exists_prop]

/-- An index stores exactly the schemas of the declared bodies that have one, as fresh resolvers
give them; of a shared key the last one. -/
theorem ofSpecification_stores_declared (files : FileSystem) (name : String) (specPath : Path)
    (spec : Json) (modelsDirectory : String) :
    let index := ofSpecification files name specPath spec modelsDirectory
    let entries := stored files specPath spec (declarations spec)
    (∀ declaration, declaration ∈ declarations spec ↔ Declared spec declaration) ∧
      (spec.Sorted → (declarations spec).Pairwise Declaration.Before) ∧
        Table.InOrder index.schemas ∧
          (∀ key, index.schema? key =
            ((entries.filter fun entry => entry.1.key = key).getLast?).map (·.2)) ∧
            ((∀ declaration status, Declared spec declaration → declaration.status = some status →
                ClearStatus status) →
              index.routes =
                (entries.filterMap fun entry => entry.1.responseKey?).eraseDups.map routeOf) := by
  intro index entries
  obtain ⟨schemas, routes, -⟩ := ofSpecification_reads files name specPath spec modelsDirectory
  refine ⟨mem_declarations_iff spec, declarations_ordered spec, ?_, ?_, ?_⟩
  · rw [schemas, schemas_storeAll]
    exact Json.sortMembers_ordered _
  · intro key
    rw [schema?, schemas]
    exact schema?_storeAll name (home files specPath) entries key
  · intro clear
    refine routes.trans (routes_storeAll name _ entries ?_)
    intro entry member status given
    obtain ⟨declaration, inside, held⟩ := List.mem_filterMap.mp member
    obtain ⟨schema, -, rfl⟩ := Option.map_eq_some_iff.mp held
    exact clear declaration status ((mem_declarations_iff spec declaration).mp inside) given

/-- The count of an index is above zero exactly if a reference is left in the schema of a declared
body; a body that leads nowhere has none. -/
theorem unresolved_pos_iff (files : FileSystem) (name : String) (specPath : Path) (spec : Json)
    (modelsDirectory : String) :
    0 < (ofSpecification files name specPath spec modelsDirectory).unresolved ↔
      ∃ declaration, Declared spec declaration ∧ ∃ schema file,
        schemaOf? files specPath spec declaration.body = some (schema, file) ∧
          (library files specPath spec).Leaves [] file schema := by
  obtain ⟨-, -, grows⟩ := ofSpecification_reads files name specPath spec modelsDirectory
  refine grows.grows.trans (exists_congr fun declaration => and_congr_left' ?_)
  exact mem_declarations_iff spec declaration

end ModuleIndex

namespace PetModule

open ModuleIndex

/-- A response whose body has a type. -/
def response (type : String) : Json :=
  .object [("content", .object [("application/json", .object [("schema", .object
    [("type", .string type)])])])]

/-- A path with two spellings of one method. -/
def spec : Json :=
  .object [("paths", .object [("/pets", .object [
    ("Get", .object [("responses", .object [("200", response "string")])]),
    ("get", .object [("operationId", .string "list"), ("requestBody", response "object"),
      ("responses", .object [("200", response "array")])]),
    ("summary", .string "Pets")])])]

def files : FileSystem := ⟨[], []⟩

def specPath : Path := ⟨"/in-memory/pets.yaml"⟩

def index : ModuleIndex := ofSpecification files "pets" specPath spec "models"

/-- The later of two responses with one key is stored, under one route. -/
theorem index_stores_last_response :
    (declarations spec).Pairwise Declaration.Before ∧
      index.schema? "GET /pets 200" = some (.object [("type", .string "array")]) ∧
        index.schema? "list_request" = some (.object [("type", .string "object")]) ∧
          index.schema? "get_/pets_request" = none ∧
            index.routes = [⟨.get, .ofString "/pets", "200"⟩] := by
  obtain ⟨declared, ordered, -, schemas, routes⟩ :=
    ofSpecification_stores_declared files "pets" specPath spec "models"
  have sorted : spec.Sorted := by
    simp only [spec, response, Json.sorted_object, Json.sorted_string, Table.InOrder,
      List.forall_mem_cons, List.pairwise_cons, List.Pairwise.nil, List.not_mem_nil, false_implies,
      implies_true, and_true, true_and]
    decide
  have clear : ∀ declaration status, Declared spec declaration →
      declaration.status = some status → ClearStatus status := by
    intro declaration status held given
    have listed : (declarations spec).map (·.status) = [some "200", none, some "200"] := by rfl
    have member := List.mem_map_of_mem (f := Declaration.status) ((declared declaration).mpr held)
    rw [listed, given] at member
    have only : status = "200" := by simpa using member
    rw [only]
    exact ⟨by decide, by decide⟩
  exact ⟨ordered sorted, (schemas _).trans rfl, (schemas _).trans rfl, (schemas _).trans rfl,
    (routes clear).trans (by rfl)⟩

/-- A response that is a reference to nothing. -/
def broken : Json := .object [("$ref", .string "#/components/responses/Gone")]

def brokenSpec : Json :=
  .object [("paths", .object [("/pets", .object [("get", .object [
    ("responses", .object [("200", broken)])])])])]

/-- A response that is a reference to nothing is not counted. -/
theorem index_misses_reference_to_nothing :
    Declared brokenSpec ⟨"/pets", "get", .get, .object [("responses", .object [("200", broken)])],
        some "200", broken⟩ ∧
      broken.reference? = some "#/components/responses/Gone" ∧
        (∀ found, ¬(library files specPath brokenSpec).Leads
          ⟨"#/components/responses/Gone", home files specPath, some brokenSpec⟩ found) ∧
          (ofSpecification files "pets" specPath brokenSpec "models").unresolved = 0 := by
  have listed : declarations brokenSpec = [⟨"/pets", "get", .get,
      .object [("responses", .object [("200", broken)])], some "200", broken⟩] := by rfl
  have refers : broken.reference? = some "#/components/responses/Gone" := by rfl
  have nowhere (found : Resolved) : ¬(library files specPath brokenSpec).Leads
      ⟨"#/components/responses/Gone", home files specPath, some brokenSpec⟩ found := by
    intro leads
    refine Library.not_fails_of_leads _ _ found leads (.inl ⟨0, _, rfl, ?_⟩)
    exact (Library.land?_eq_none _ _).mp rfl
  refine ⟨(mem_declarations_iff _ _).mp (by rw [listed]; exact .head _), refers, nowhere, ?_⟩
  obtain ⟨-, -, grows⟩ := ofSpecification_reads files "pets" specPath brokenSpec "models"
  refine Nat.eq_zero_of_not_pos fun positive => ?_
  obtain ⟨declaration, member, schema, file, found, -⟩ := grows.grows.mp positive
  rw [listed] at member
  cases List.mem_singleton.mp member
  rw [schemaOf?_of_nowhere broken _ refers nowhere] at found
  cases found

end PetModule

end ApiContract
