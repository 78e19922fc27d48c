import ApiContract.Proofs.Index.Completeness
import ApiContract.Proofs.Resolver.Count

/-
This file proves that the count of an index is exact: it is the number of references that are left in
the schemas of all bodies, and in the stored schemas if no two bodies share a key.
-/

namespace ApiContract

namespace ModuleIndex

open Resolver

variable {files : FileSystem} {specPath : Path} {spec : Json}

/-- Whether no reference that is met below the schema of a body leads to a text. -/
def BodyAvoidsTexts (files : FileSystem) (specPath : Path) (spec body : Json) : Prop :=
  ∀ schema file, schemaOf? files specPath spec body = some (schema, file) →
    AvoidsTexts files file [schema] (fresh files specPath spec)

/-- A body counts the references that are left in its schema. -/
theorem freshCount_eq {body : Json} (avoids : BodyAvoidsTexts files specPath spec body) :
    freshCount files specPath spec body =
      (freshContent? files specPath spec body).elim 0 Json.referenceCount := by
  unfold freshCount freshContent?
  cases found : schemaOf? files specPath spec body with
  | none => rfl
  | some read =>
      obtain ⟨schema, file⟩ := read
      have count := unresolved_resolveTree files schema file (fresh files specPath spec) rfl
        (avoids schema file found)
      rw [fresh, ofCache, Nat.zero_add] at count
      exact count

/-- Fresh resolvers count together what all stored schemas hold. -/
theorem sum_freshCount (declarations : List Declaration)
    (avoids : ∀ declaration ∈ declarations,
      BodyAvoidsTexts files specPath spec declaration.body) :
    (declarations.map fun declaration => freshCount files specPath spec declaration.body).sum =
      ((stored files specPath spec declarations).map fun entry => entry.2.referenceCount).sum := by
  induction declarations with
  | nil => rfl
  | cons declaration rest ih =>
      obtain ⟨own, others⟩ := List.forall_mem_cons.mp avoids
      rw [List.map_cons, List.sum_cons, freshCount_eq own, ih others]
      simp only [stored, List.filterMap_cons]
      cases freshContent? files specPath spec declaration.body with
      | none => exact Nat.zero_add _
      | some schema => rfl

/-- Stored schemas with distinct keys are all kept. -/
theorem schemas_storeAll_perm (name : String) (specPath : Path) (entries : List (Declaration × Json))
    (distinct : (entries.map fun entry => entry.1.key).Nodup) :
    ((empty name specPath).storeAll entries).schemas.Perm
      (entries.map fun entry => (entry.1.key, entry.2)) := by
  rw [schemas_storeAll]
  apply Json.sortMembers_perm
  rw [List.map_map]
  exact distinct

/-- Unless a reference that is met leads to a text, a count grows by the references that are left,
in a tree and in the schemas of an index. -/
theorem unresolved_counts_references (files : FileSystem) :
    (∀ (cache : DocumentCache) (count : Nat) (node : Json) (file : Path),
      AvoidsTexts files file [node] ⟨cache, [], count⟩ →
        let outcome := (⟨cache, [], count⟩ : Resolver).resolveTree files node file
        outcome.2.unresolved = count + outcome.1.referenceCount ∧
          (outcome.2.unresolved = count → outcome.1.hasReference = false)) ∧
      ∀ (name : String) (specPath : Path) (spec : Json) (modelsDirectory : String),
        (∀ declaration, Declared spec declaration →
            BodyAvoidsTexts files specPath spec declaration.body) →
          let index := ofSpecification files name specPath spec modelsDirectory
          let entries := stored files specPath spec (declarations spec)
          index.unresolved = (entries.map fun entry => entry.2.referenceCount).sum ∧
            -- Bodies that share a key count twice, but are stored once.
            ((entries.map fun entry => entry.1.key).Nodup →
              index.unresolved =
                (index.schemas.map fun member => member.2.referenceCount).sum) := by
  refine ⟨?_, ?_⟩
  · intro cache count node file avoids outcome
    have grown := unresolved_resolveTree files node file ⟨cache, [], count⟩ rfl avoids
    refine ⟨grown, fun same => ?_⟩
    rw [← Json.referenceCount_eq_zero_iff]
    exact Nat.left_eq_add.mp (same.symm.trans grown)
  · intro name specPath spec modelsDirectory avoids index entries
    have total : index.unresolved = (entries.map fun entry => entry.2.referenceCount).sum := by
      rw [← sum_freshCount (declarations spec) fun declaration member =>
        avoids declaration ((mem_declarations_iff spec declaration).mp member)]
      exact congrArg unresolved (ofSpecification_eq files name specPath spec modelsDirectory)
    refine ⟨total, fun distinct => ?_⟩
    have schemas : index.schemas = ((empty name (home files specPath)).storeAll entries).schemas :=
      (congrArg schemas (ofSpecification_eq files name specPath spec modelsDirectory)).trans rfl
    have kept := schemas_storeAll_perm name (home files specPath) entries distinct
    rw [total, schemas, (kept.map fun member => member.2.referenceCount).sum_eq, List.map_map]
    rfl

end ModuleIndex

namespace OwnerModule

open ModuleIndex Resolver

def schema : Json := .object [("$ref", .string "#/pet")]

/-- A schema with a reference to nothing. -/
def pet : Json := .object [("owner", .object [("$ref", .string "#/owner")])]

def body : Json :=
  .object [("content", .object [("application/json", .object [("schema", schema)])])]

/-- A specification in which a request and a response share a schema. -/
def spec : Json :=
  .object [
    ("paths", .object [("/pets", .object [("post", .object [("operationId", .string "add"),
      ("requestBody", body), ("responses", .object [("200", body)])])])]),
    ("pet", pet)]

def files : FileSystem := ⟨[], []⟩

def specPath : Path := ⟨"/in-memory/pets.yaml"⟩

theorem document?_home :
    (library files specPath spec).document? (home files specPath) = some spec :=
  Library.document?_of_inserted _ _ _ (inserted?_library files specPath spec)

/-- The reference to the pet leads to it. -/
theorem leads_pet : (library files specPath spec).Leads
    ⟨"#/pet", home files specPath, some spec⟩ ⟨pet, home files specPath, "/pet"⟩ :=
  ⟨0, _, ⟨home files specPath, spec, "/pet", pet⟩, rfl, by rfl, rfl, rfl⟩

/-- The reference to the owner leads nowhere. -/
theorem not_leads_owner (found : Resolved) : ¬(library files specPath spec).Leads
    ⟨"#/owner", home files specPath, some spec⟩ found := by
  intro leads
  refine Library.not_fails_of_leads _ _ found leads (.inl ⟨0, _, rfl, ?_⟩)
  exact (Library.land?_eq_none _ _).mp rfl

/-- No reference in the pet leads to anything. -/
theorem not_meets_owner (resolver : Resolver) (found : Resolved)
    (explained : (library files specPath spec).Explains resolver.cache) :
    ¬Meets files (home files specPath) pet.children resolver found := by
  have settled := settles_home files specPath spec
  have nowhere {cache : DocumentCache} {resolved : Resolved} (follows : Follows files
      ⟨[], "#/owner", ⟨home files specPath, none⟩, resolver.cache⟩ (some resolved) cache) : False := by
    have leads := (explained.leads_of_follows settled follows).1 resolved rfl
    rw [document?_home] at leads
    exact not_leads_owner resolved leads
  intro meets
  cases meets with
  | here _ _ _ _ _ _ _ refers _ follows =>
      cases refers
      exact nowhere follows
  | inner _ _ _ _ _ concrete => cases concrete
  | target _ _ _ _ _ _ _ _ refers _ follows =>
      cases refers
      exact nowhere follows
  | beside _ _ _ _ _ _ _ _ _ onward => cases onward

/-- No reference that the schema is unfolded by leads to a text. -/
theorem avoidsTexts_schema :
    AvoidsTexts files (home files specPath) [schema] (fresh files specPath spec) := by
  have explained := explains_fresh files specPath spec
  have settled := settles_home files specPath spec
  have only {cache : DocumentCache} {resolved : Resolved} (follows : Follows files
      ⟨[], "#/pet", ⟨home files specPath, none⟩, (fresh files specPath spec).cache⟩ (some resolved)
      cache) : resolved = ⟨pet, home files specPath, "/pet"⟩ := by
    have leads := (explained.leads_of_follows settled follows).1 resolved rfl
    rw [document?_home] at leads
    exact Library.leads_unique _ _ _ _ leads leads_pet
  intro found meets
  cases meets with
  | here _ _ _ _ _ _ _ refers _ follows =>
      cases refers
      rw [only follows]
      rfl
  | inner _ _ _ _ _ concrete => cases concrete
  | target _ _ _ resolved _ _ _ cache refers _ follows _ inside =>
      cases refers
      cases only follows
      cases inside with
      | inner _ _ _ _ _ _ below =>
          have known := follows.cache (library files specPath spec).explains_get explained
          exact absurd below (not_meets_owner _ found known)
      | beside _ _ _ _ _ _ _ _ _ onward => cases onward
      | here _ _ _ _ _ _ _ refers => cases refers
      | target _ _ _ _ _ _ _ _ refers => cases refers
  | beside _ _ _ _ _ _ _ _ _ onward => cases onward

/-- The schema gives way to the one that it names, in which the broken reference is left. -/
theorem resolveTree_schema :
    ((fresh files specPath spec).resolveTree files schema (home files specPath)).1 = pet := by
  have settled := settles_home files specPath spec
  have left : (library files specPath spec).Unfolds [⟨home files specPath, "pet"⟩]
      (home files specPath) (.object [("$ref", .string "#/owner")])
      (.object [("$ref", .string "#/owner")]) := by
    refine .unresolved _ _ _ "#/owner" (by rfl) (by rfl) ?_
    rw [document?_home]
    exact not_leads_owner
  have inside : (library files specPath spec).UnfoldsEach [⟨home files specPath, "pet"⟩]
      (home files specPath) pet.children pet.children := .cons left ⟨rfl, nofun⟩
  have whole : (library files specPath spec).Unfolds [] (home files specPath) schema pet := by
    refine .expanded _ _ _ _ "#/pet" ⟨pet, home files specPath, "/pet"⟩ (by rfl) (by rfl) ?_ (by rfl)
      (.inner _ _ pet _ (by rfl) inside.1 inside.2)
    rw [document?_home]
    exact leads_pet
  exact (unfolds_resolveTree (fresh files specPath spec) rfl (explains_fresh files specPath spec)
    schema (home files specPath) settled).unique whole

/-- The specification declares the one body. -/
theorem body_of_listed {declaration : Declaration} (listed : declaration ∈ declarations spec) :
    declaration.body = body := by
  have member := List.mem_map_of_mem (f := Declaration.body) listed
  rw [show (declarations spec).map Declaration.body = [body, body] by rfl] at member
  simpa using member

theorem schemaOf?_body :
    schemaOf? files specPath spec body = some (schema, home files specPath) := by
  rfl

/-- No reference of a declared body leads to a text. -/
theorem avoidsTexts_declared (declaration : Declaration) (declared : Declared spec declaration) :
    BodyAvoidsTexts files specPath spec declaration.body := by
  rw [body_of_listed ((mem_declarations_iff spec declaration).mpr declared)]
  rintro _ _ found
  cases schemaOf?_body.symm.trans found
  exact avoidsTexts_schema

/-- Both bodies keep the schema around the broken reference. -/
theorem stored_declarations : stored files specPath spec (declarations spec) =
    (declarations spec).map fun declaration => (declaration, pet) := by
  have content : freshContent? files specPath spec body = some pet := by
    rw [freshContent?, schemaOf?_body]
    exact congrArg some resolveTree_schema
  rw [stored, ← List.filterMap_eq_map]
  refine List.filterMap_congr fun declaration member => ?_
  rw [body_of_listed member, content]
  rfl

/-- A broken reference counts once for each body that shares the schema around it. -/
theorem index_counts_shared_schema_twice :
    let index := ofSpecification files "pets" specPath spec "models"
    let alone := (fresh files specPath spec).resolveTree files schema (home files specPath)
    AvoidsTexts files (home files specPath) [schema] (fresh files specPath spec) ∧
      alone.2.unresolved = 1 ∧
        (∀ declaration, Declared spec declaration →
          BodyAvoidsTexts files specPath spec declaration.body) ∧
          index.unresolved = 2 ∧
            (index.schemas.map fun member => member.2.referenceCount).sum = 2 := by
  intro index alone
  obtain ⟨trees, indexes⟩ := unresolved_counts_references files
  obtain ⟨total, distinct⟩ := indexes "pets" specPath spec "models" avoidsTexts_declared
  rw [stored_declarations, List.map_map] at total distinct
  refine ⟨avoidsTexts_schema, ?_, avoidsTexts_declared, total, ?_⟩
  · have grown := (trees _ 0 schema (home files specPath) avoidsTexts_schema).1
    rw [Nat.zero_add] at grown
    refine grown.trans ?_
    exact (congrArg Json.referenceCount resolveTree_schema).trans rfl
  · refine (distinct ?_).symm.trans total
    decide

end OwnerModule

end ApiContract
