import ApiContract.Proofs.Document.Order
import ApiContract.Proofs.Index.Completeness

/-
This file proves from which entries of content objects the schemas of an index come: from the entry for
plain JSON if there is one, and else from the first entry with a media type that is taken for JSON. More
media types are taken than are documented.
-/

namespace ApiContract

namespace ModuleIndex

/-- Whether a media type is documented to be JSON: the plain type without or with parameters, or a type
with the suffix. -/
def IsDocumented (media : String) : Prop :=
  media = "application/json" ∨ Text.startsWith media "application/json;" = true ∨
    Text.endsWith media "+json" = true

/-- Whether a media type starts as the plain type does and is not documented to be JSON. -/
def IsStray (media : String) : Prop :=
  Text.startsWith media "application/json" = true ∧ ¬IsDocumented media

instance : DecidablePred IsDocumented := fun _ => inferInstanceAs (Decidable (_ ∨ _ ∨ _))

instance : DecidablePred IsStray := fun _ => inferInstanceAs (Decidable (_ ∧ _))

/-- Whether a media type is taken for JSON. -/
def IsTaken (media : String) : Prop := IsDocumented media ∨ IsStray media

/-- What starts with a text starts with the beginnings of that text. -/
theorem startsWith_of_longer {text start longer : String}
    (shorter : start.toList <+: longer.toList) (starts : Text.startsWith text longer = true) :
    Text.startsWith text start = true := by
  rw [Text.startsWith, List.isPrefixOf_iff_prefix] at starts ⊢
  exact shorter.trans starts

/-- The media types that are taken are those that are documented, and the stray ones. -/
theorem isJsonMedia_iff (media : String) : isJsonMedia media = true ↔ IsTaken media := by
  rw [isJsonMedia, Bool.or_eq_true]
  constructor
  · rintro (starts | ends)
    · by_cases documented : IsDocumented media
      · exact .inl documented
      · exact .inr ⟨starts, documented⟩
    · exact .inl (.inr (.inr ends))
  · rintro ((rfl | parameters | ends) | ⟨starts, -⟩)
    · exact .inl (by decide)
    · exact .inl (startsWith_of_longer (by decide) parameters)
    · exact .inr ends
    · exact .inl starts

/-- Whether an entry of a content object is the one for plain JSON, or else the first in key order
that a rule for media types takes. -/
structure Chooses (rule : String → Prop) (content : List (String × Json)) (entry : String × Json) :
    Prop where
  listed : entry ∈ content
  taken : rule entry.1
  plain : "application/json" ∈ content.map (·.1) → entry.1 = "application/json"
  first : "application/json" ∉ content.map (·.1) → ∀ other ∈ content, rule other.1 →
    entry.1 ≤ other.1

/-- In a content object with its keys in order, a rule chooses one entry at most. -/
theorem Chooses.unique {rule : String → Prop} {content : List (String × Json)}
    (ordered : Table.InOrder content) {entry other : String × Json}
    (chosen : Chooses rule content entry) (chosen' : Chooses rule content other) :
    entry = other := by
  have same : entry.1 = other.1 := by
    by_cases plain : "application/json" ∈ content.map (·.1)
    · exact (chosen.plain plain).trans (chosen'.plain plain).symm
    · exact le_antisymm (chosen.first plain other chosen'.listed chosen'.taken)
        (chosen'.first plain entry chosen.listed chosen.taken)
  have value := ordered.lookup_of_mem chosen.listed
  rw [same, ordered.lookup_of_mem chosen'.listed] at value
  exact Prod.ext same (Option.some.inj value).symm

/-- What is found first in an object with its keys in order has the first key. -/
theorem le_of_find? {content : List (String × Json)} (ordered : Table.InOrder content)
    {test : String × Json → Bool} {entry : String × Json} (found : content.find? test = some entry) :
    ∀ other ∈ content, test other = true → entry.1 ≤ other.1 := by
  obtain ⟨-, before, after, rfl, failed⟩ := List.find?_eq_some_iff_append.mp found
  intro other member passes
  obtain ⟨-, onward, -⟩ := List.pairwise_append.mp ordered
  rcases List.mem_append.mp member with early | late
  · have fails := failed other early
    rw [passes] at fails
    cases fails
  · rcases List.mem_cons.mp late with rfl | later
    · exact le_refl _
    · exact ((List.pairwise_cons.mp onward).1 other later).le

/-- The entry that is taken of a content object is the chosen one. -/
theorem jsonMedia?_eq_some_iff {content : List (String × Json)} (ordered : Table.InOrder content)
    (value : Json) :
    jsonMedia? content = some value ↔ ∃ media, Chooses IsTaken content (media, value) := by
  have sound (value : Json) (taken : jsonMedia? content = some value) :
      ∃ media, Chooses IsTaken content (media, value) := by
    unfold jsonMedia? at taken
    cases named : content.lookup "application/json" with
    | some plain =>
        rw [named] at taken
        cases taken
        have member := Table.mem_of_lookup _ _ _ named
        exact ⟨_, member, .inl (.inl rfl), fun _ => rfl,
          fun absent => absurd (List.mem_map_of_mem member) absent⟩
    | none =>
        rw [named] at taken
        obtain ⟨⟨media, value⟩, found, rfl⟩ := Option.map_eq_some_iff.mp taken
        have absent : "application/json" ∉ content.map (·.1) := by
          intro present
          obtain ⟨entry, member, same⟩ := List.mem_map.mp present
          have held := ordered.lookup_of_mem member
          rw [same, named] at held
          cases held
        refine ⟨media, List.mem_of_find?_eq_some found, ?_, fun present => absurd present absent, ?_⟩
        · have passes := List.find?_some found
          exact (isJsonMedia_iff media).mp passes
        · intro _ other member taken
          exact le_of_find? ordered found other member ((isJsonMedia_iff other.1).mpr taken)
  -- Something is taken if an entry can be chosen, and only one can be.
  refine ⟨sound value, fun ⟨media, chosen⟩ => ?_⟩
  cases taken : jsonMedia? content with
  | none =>
      rw [jsonMedia?, Option.orElse_eq_orElse, Option.orElse_eq_or, Option.or_eq_none_iff,
        Option.map_eq_none_iff, List.find?_eq_none] at taken
      have refused := taken.2 _ chosen.listed
      exact absurd ((isJsonMedia_iff media).mpr chosen.taken) refused
  | some other =>
      obtain ⟨media', chosen'⟩ := sound other taken
      cases chosen.unique ordered chosen'
      rfl

/-- An entry that is taken is the documented choice, unless its media type is a stray one. -/
theorem Chooses.documented {content : List (String × Json)} {entry : String × Json}
    (chosen : Chooses IsTaken content entry) (known : ¬IsStray entry.1) :
    Chooses IsDocumented content entry :=
  ⟨chosen.listed, chosen.taken.resolve_right known, chosen.plain,
    fun absent other member documented => chosen.first absent other member (.inl documented)⟩

/-- Without stray media types, the documented choice is taken. -/
theorem Chooses.of_documented {content : List (String × Json)} {entry : String × Json}
    (chosen : Chooses IsDocumented content entry) (clean : ∀ other ∈ content, ¬IsStray other.1) :
    Chooses IsTaken content entry :=
  ⟨chosen.listed, .inl chosen.taken, chosen.plain, fun absent other member taken =>
    chosen.first absent other member (taken.resolve_right (clean other member))⟩

variable (files : FileSystem) (specPath : Path) (spec : Json)

/-- Whether an object in a file describes a body: the body itself, or what its reference leads to. -/
inductive Describes (body : Json) : Json → Path → Prop where
  | itself (concrete : body.reference? = none) : Describes body body (home files specPath)
  | followed (text : String) (found : Resolved) (refers : body.reference? = some text)
      (leads : (library files specPath spec).Leads ⟨text, home files specPath, some spec⟩ found) :
      Describes body found.value found.file

/-- Whether a content object belongs to a body. -/
def HasContent (body : Json) (content : List (String × Json)) (file : Path) : Prop :=
  ∃ object, Describes files specPath spec body object file ∧
    object.member? "content" = some (.object content)

/-- Whether a body contributes a schema through its entry for a media type, by a rule for media types.
The schema is resolved as a fresh resolver does it. -/
inductive Contributes (rule : String → Prop) (body : Json) : String → Json → Prop where
  | entry (content : List (String × Json)) (file : Path) (media : String) (value schema : Json)
      (held : HasContent files specPath spec body content file)
      (chosen : Chooses rule content (media, value)) (given : value.member? "schema" = some schema) :
      Contributes rule body media ((fresh files specPath spec).resolveTree files schema file).1

variable {files specPath spec}

/-- A resolver that knows nothing but a specification finds what a reference in it leads to. -/
theorem resolve_fresh_eq_some_iff (text : String) (found : Resolved) :
    ((fresh files specPath spec).resolve files text (home files specPath) none).1 = some found ↔
      (library files specPath spec).Leads ⟨text, home files specPath, some spec⟩ found := by
  have own : (library files specPath spec).document? (home files specPath) = some spec :=
    Library.document?_of_inserted _ _ _ (inserted?_library files specPath spec)
  have explained := explains_fresh files specPath spec
  have follows := Resolver.follows_resolve files text (home files specPath) none
    (fresh files specPath spec)
  rw [← own]
  constructor
  · exact (Library.Explains.leads_of_follows explained (settles_home files specPath spec)
      follows).1 found
  · exact fun leads => explained.found leads follows

/-- A body has the schema of the object that describes it. -/
theorem schemaOf?_eq_some_iff (body schema : Json) (file : Path) :
    schemaOf? files specPath spec body = some (schema, file) ↔
      ∃ object, Describes files specPath spec body object file ∧
        contentSchema? object = some schema := by
  unfold schemaOf?
  cases refers : body.reference? with
  | none =>
      constructor
      · intro found
        obtain ⟨_, given, same⟩ := Option.map_eq_some_iff.mp found
        cases same
        exact ⟨body, .itself refers, given⟩
      · rintro ⟨object, described, given⟩
        cases described with
        | itself => rw [given, Option.map_some]
        | followed _ _ other => cases refers.symm.trans other
  | some text =>
      constructor
      · intro found
        obtain ⟨resolved, led, inside⟩ := Option.bind_eq_some_iff.mp found
        obtain ⟨_, given, same⟩ := Option.map_eq_some_iff.mp inside
        cases same
        exact ⟨_, .followed text resolved refers ((resolve_fresh_eq_some_iff text resolved).mp led),
          given⟩
      · rintro ⟨object, described, given⟩
        cases described with
        | itself concrete => cases refers.symm.trans concrete
        | followed _ found other leads =>
            cases refers.symm.trans other
            dsimp only
            rw [(resolve_fresh_eq_some_iff text found).mpr leads, Option.bind_some, given,
              Option.map_some]

/-- The schema of an object is that of the media type chosen from its content. -/
theorem contentSchema?_eq_some_iff (object schema : Json) :
    contentSchema? object = some schema ↔
      ∃ content value, object.member? "content" = some (.object content) ∧
        jsonMedia? content = some value ∧ value.member? "schema" = some schema := by
  constructor
  · intro found
    obtain ⟨node, held, onward⟩ := Option.bind_eq_some_iff.mp found
    obtain ⟨content, shaped, onward⟩ := Option.bind_eq_some_iff.mp onward
    obtain ⟨value, taken, given⟩ := Option.bind_eq_some_iff.mp onward
    cases node with
    | object members =>
        cases shaped
        exact ⟨_, value, held, taken, given⟩
    | _ => cases shaped
  · rintro ⟨content, value, held, taken, given⟩
    simp only [contentSchema?, held, Json.object?, taken, given, Option.bind_eq_bind,
      Option.bind_some]

/-- A declared body has its members in order if the specification has. -/
theorem Declared.sorted {declaration : Declaration} (declared : Declared spec declaration)
    (sorted : spec.Sorted) : declaration.body.Sorted := by
  obtain ⟨⟨paths, members, located, inside, member⟩, -, held⟩ := declared
  have operation := (((sorted.member? located).member _ _ inside).member _ _ member)
  split at held
  · exact operation.member? held
  · obtain ⟨responses, given, listed⟩ := held
    exact (operation.member? given).member _ _ listed

/-- A body is described by an object with its members in order, whatever file it is in. -/
theorem Describes.sorted {body object : Json} {file : Path}
    (described : Describes files specPath spec body object file) (sorted : spec.Sorted)
    (own : body.Sorted) : object.Sorted := by
  cases described with
  | itself => exact own
  | followed text found refers leads =>
      obtain ⟨count, reading, landing, reached, lands, -, rfl⟩ := leads
      obtain ⟨kept, inside⟩ := Library.Keeps.land (Library.keeps_reading? _ reading count reached) lands
      -- A document of the library is the specification itself, or was read from a file.
      have document : landing.document.Sorted := by
        rcases kept with ⟨-, same⟩ | ⟨canonical, held⟩
        · cases same
          exact sorted
        · rcases Library.inserted_or_loaded _ held with ⟨_, inserted⟩ | ⟨_, loaded⟩
          · cases List.mem_singleton.mp inserted
            exact sorted
          · exact Document.sorted_of_load? loaded
      exact document.at? inside

/-- The resolved schema of a body is what the body contributes. -/
theorem freshContent?_eq_some_iff {body : Json} (sorted : spec.Sorted) (own : body.Sorted)
    (schema : Json) :
    freshContent? files specPath spec body = some schema ↔
      ∃ media, Contributes files specPath spec IsTaken body media schema := by
  have ordered {object : Json} {file : Path} {content : List (String × Json)}
      (described : Describes files specPath spec body object file)
      (held : object.member? "content" = some (.object content)) : Table.InOrder content :=
    ((described.sorted sorted own).member? held).here
  rw [freshContent?, Option.map_eq_some_iff]
  simp only [Prod.exists, schemaOf?_eq_some_iff, contentSchema?_eq_some_iff]
  constructor
  · rintro ⟨raw, file, ⟨object, described, content, value, held, taken, given⟩, rfl⟩
    obtain ⟨media, chosen⟩ := (jsonMedia?_eq_some_iff (ordered described held) value).mp taken
    exact ⟨media, .entry content file media value raw ⟨object, described, held⟩ chosen given⟩
  · rintro ⟨media, contributes⟩
    obtain ⟨content, file, media, value, raw, ⟨object, described, held⟩, chosen, given⟩ := contributes
    have taken := (jsonMedia?_eq_some_iff (ordered described held) value).mpr ⟨media, chosen⟩
    exact ⟨raw, file, ⟨object, described, content, value, held, taken, given⟩, rfl⟩

/-- What is stored for a declaration is what its body contributes. -/
theorem mem_stored_iff (sorted : spec.Sorted) (declaration : Declaration) (schema : Json) :
    (declaration, schema) ∈ stored files specPath spec (declarations spec) ↔
      Declared spec declaration ∧
        ∃ media, Contributes files specPath spec IsTaken declaration.body media schema := by
  have contributes (declared : Declared spec declaration) :
      freshContent? files specPath spec declaration.body = some schema ↔
        ∃ media, Contributes files specPath spec IsTaken declaration.body media schema :=
    freshContent?_eq_some_iff sorted (declared.sorted sorted) schema
  rw [stored, List.mem_filterMap]
  constructor
  · rintro ⟨other, member, made⟩
    obtain ⟨_, found, same⟩ := Option.map_eq_some_iff.mp made
    cases same
    have declared := (mem_declarations_iff spec declaration).mp member
    exact ⟨declared, (contributes declared).mp found⟩
  · rintro ⟨declared, given⟩
    refine ⟨declaration, (mem_declarations_iff spec declaration).mpr declared, ?_⟩
    rw [(contributes declared).mpr given, Option.map_some]

/-- What comes from a media type that is not a stray one is what is documented. -/
theorem Contributes.documented {body schema : Json} {media : String}
    (contributes : Contributes files specPath spec IsTaken body media schema)
    (known : ¬IsStray media) : Contributes files specPath spec IsDocumented body media schema := by
  obtain ⟨content, file, media, value, raw, held, chosen, given⟩ := contributes
  exact .entry content file media value raw held (chosen.documented known) given

/-- A body without stray media types contributes what the documented ones do. -/
theorem contributes_iff_documented {body : Json}
    (clean : ∀ content file, HasContent files specPath spec body content file →
      ∀ entry ∈ content, ¬IsStray entry.1) (media : String) (schema : Json) :
    Contributes files specPath spec IsTaken body media schema ↔
      Contributes files specPath spec IsDocumented body media schema := by
  constructor
  · intro contributes
    apply contributes.documented
    obtain ⟨content, file, media, value, raw, held, chosen, given⟩ := contributes
    exact clean content file held _ chosen.listed
  · rintro ⟨content, file, media, value, raw, held, chosen, given⟩
    exact .entry content file media value raw held (chosen.of_documented (clean content file held))
      given

/-- An index stores what the declared bodies contribute through the media types taken for JSON,
which is what is documented unless a stray one is chosen. -/
theorem ofSpecification_stores_json_entries (files : FileSystem) (name : String) (specPath : Path)
    (spec : Json) (modelsDirectory : String) (sorted : spec.Sorted) :
    let index := ofSpecification files name specPath spec modelsDirectory
    let entries := stored files specPath spec (declarations spec)
    (∀ key, index.schema? key =
        ((entries.filter fun entry => entry.1.key = key).getLast?).map (·.2)) ∧
      (∀ declaration schema, (declaration, schema) ∈ entries ↔ Declared spec declaration ∧
        ∃ media, Contributes files specPath spec IsTaken declaration.body media schema) ∧
      -- Only stray media types make a difference to what is documented.
      (∀ body media schema, Contributes files specPath spec IsTaken body media schema →
        ¬IsStray media → Contributes files specPath spec IsDocumented body media schema) ∧
      ∀ declaration,
        (∀ content file, HasContent files specPath spec declaration.body content file →
          ∀ entry ∈ content, ¬IsStray entry.1) →
        ∀ schema, (declaration, schema) ∈ entries ↔ Declared spec declaration ∧
          ∃ media, Contributes files specPath spec IsDocumented declaration.body media schema := by
  intro index entries
  refine ⟨fun key => ?_, mem_stored_iff sorted, fun _ _ _ => Contributes.documented, ?_⟩
  · have filled : index.schemas =
        ((empty name (home files specPath)).storeAll entries).schemas :=
      (ofSpecification_reads files name specPath spec modelsDirectory).1
    rw [schema?, filled]
    exact schema?_storeAll name (home files specPath) entries key
  · intro declaration clean schema
    rw [mem_stored_iff sorted]
    simp only [contributes_iff_documented clean]

end ModuleIndex

namespace MediaModule

open ModuleIndex

/-- A response with a schema for each of some media types. -/
def response (medias : List String) : Json :=
  .object [("content", .object (medias.map fun media =>
    (media, .object [("schema", .object [("title", .string media)])])))]

def specOf (responses : List (String × Json)) : Json :=
  .object [("paths", .object [("/a", .object [("get", .object [("responses", .object responses)])])])]

/-- A response with parameters of its media type, and one without JSON. -/
def spec : Json :=
  specOf [("200", response ["application/json; charset=utf-8", "application/vnd.a+json", "text/plain"]),
    ("404", response ["text/plain"])]

def files : FileSystem := ⟨[], []⟩

def specPath : Path := ⟨"/in-memory/test.yaml"⟩

theorem sorted_spec : spec.Sorted := by
  simp only [spec, specOf, response, Json.sorted_object, Json.sorted_string, Table.InOrder,
    List.forall_mem_cons, List.pairwise_cons, List.Pairwise.nil, List.not_mem_nil, false_implies,
    implies_true, and_true, true_and, List.map_cons, List.map_nil]
  decide

/-- The first JSON entry is stored, and of a response without one nothing. -/
theorem index_stores_first_json_entry :
    let index := ofSpecification files "test" specPath spec "models"
    spec.Sorted ∧
      index.schema? "GET /a 200" =
          some (.object [("title", .string "application/json; charset=utf-8")]) ∧
        index.schema? "GET /a 404" = none := by
  obtain ⟨schemas, -⟩ :=
    ofSpecification_stores_json_entries files "test" specPath spec "models" sorted_spec
  exact ⟨sorted_spec, (schemas _).trans rfl, (schemas _).trans rfl⟩

/-- A response that is a sequence of texts. -/
def sequenceSpec : Json := specOf [("200", response ["application/json-seq"])]

/-- A sequence is taken for JSON, although its media type is not documented to be. -/
theorem index_stores_sequence :
    (∀ declaration, Declared sequenceSpec declaration → ∀ content file,
        HasContent files specPath sequenceSpec declaration.body content file →
          ∀ entry ∈ content, ¬IsDocumented entry.1) ∧
      (ofSpecification files "test" specPath sequenceSpec "models").schema? "GET /a 200" =
        some (.object [("title", .string "application/json-seq")]) := by
  constructor
  · intro declaration declared content file held
    have bodies : (declarations sequenceSpec).map (·.body) = [response ["application/json-seq"]] := by
      rfl
    have listed := List.mem_map_of_mem (f := Declaration.body)
      ((mem_declarations_iff sequenceSpec declaration).mpr declared)
    rw [bodies, List.mem_singleton] at listed
    rw [listed] at held
    obtain ⟨object, described, inside⟩ := held
    cases described with
    | itself =>
        cases inside
        decide
    | followed _ _ refers => cases refers
  · rw [ofSpecification_eq]
    exact (schema?_storeAll _ _ _ _).trans rfl

end MediaModule

end ApiContract
