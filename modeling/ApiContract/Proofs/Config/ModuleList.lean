import ApiContract.Proofs.Config.Override
import ApiContract.Proofs.Text.Split
import ApiContract.Proofs.Text.Trim

/-
This file proves that a module list is read as it was written. Each entry that is not blank gives its
module, in order, and the first entry that is no module keeps the whole list from being read.
-/

namespace ApiContract

open Text (IsBlank IsBare Pads)

namespace ModuleSpec

/-- Whether a name and a file are found again in an entry: there is no white space at their ends, and
no equals sign in the name. -/
structure IsReadable (module : ModuleSpec) : Prop where
  name : module.name ≠ "" ∧ IsBare module.name
  file : module.file ≠ "" ∧ IsBare module.file
  unmarked : '=' ∉ module.name.toList

/-- Whether a list can hold a module. Its file may have equals signs. -/
structure IsListable (module : ModuleSpec) : Prop extends IsReadable module where
  wholeName : ',' ∉ module.name.toList
  wholeFile : ',' ∉ module.file.toList

/-- Whether an entry is the name and the file of a module around an equals sign, with white space
around each of them or not. -/
def IsSpelledBy (module : ModuleSpec) (entry : String) : Prop :=
  ∃ name file, Pads name module.name ∧ Pads file module.file ∧ entry = name ++ "=" ++ file

/-- Whether entries spell modules in their order. There may be blank entries anywhere. -/
inductive AreSpelledBy : List ModuleSpec → List String → Prop
  | nil : AreSpelledBy [] []
  | blank {modules : List ModuleSpec} {entry : String} {entries : List String}
      (blank : IsBlank entry) (others : AreSpelledBy modules entries) :
      AreSpelledBy modules (entry :: entries)
  | module {module : ModuleSpec} {modules : List ModuleSpec} {entry : String}
      {entries : List String} (spelled : module.IsSpelledBy entry)
      (others : AreSpelledBy modules entries) : AreSpelledBy (module :: modules) (entry :: entries)

/-- Whether an entry has something in it, but no equals sign, or nothing on one side of the first. -/
def IsMalformed (entry : String) : Prop :=
  ¬IsBlank entry ∧
    ('=' ∉ entry.toList ∨
      ∃ name file, entry = name ++ "=" ++ file ∧ '=' ∉ name.toList ∧ (IsBlank name ∨ IsBlank file))

/-- An entry is a name and a file around its equals sign. -/
theorem toList_entry (name file : String) :
    (name ++ "=" ++ file).toList = name.toList ++ '=' :: file.toList := by
  simp

/-- What spells a module is not blank. -/
theorem IsSpelledBy.not_isBlank {module : ModuleSpec} {entry : String}
    (spelled : module.IsSpelledBy entry) : ¬IsBlank entry := by
  obtain ⟨name, file, _, _, rfl⟩ := spelled
  exact Text.not_isBlank_of_mem (show '=' ∈ _ by simp) (by decide)

/-- Apart from the equals sign and white space, an entry has the characters of its module. -/
theorem mem_iff_of_isSpelledBy {module : ModuleSpec} {entry : String}
    (spelled : module.IsSpelledBy entry) {character : Char}
    (dark : Unicode.isWhiteSpace character = false) (other : character ≠ '=') :
    character ∈ entry.toList ↔ character ∈ module.name.toList ∨ character ∈ module.file.toList := by
  obtain ⟨name, file, pads, pads', rfl⟩ := spelled
  rw [toList_entry, List.mem_append, List.mem_cons, pads.mem_iff dark, pads'.mem_iff dark]
  simp [other]

/-- An entry is cut at its first equals sign. -/
theorem ofEntry?_of_cut (name file : String) (clean : '=' ∉ name.toList) :
    ofEntry? (name ++ "=" ++ file) =
      if IsBlank name ∨ IsBlank file then none
      else some ⟨Unicode.trim name, Unicode.trim file⟩ := by
  have cut : Text.splitOnce '=' (name ++ "=" ++ file) = some (name, file) :=
    (Text.splitOnce_eq_some_iff _ _ _ _).mpr ⟨clean, toList_entry name file⟩
  unfold ofEntry?
  rw [cut]
  simp only [Text.isEmpty_trim_iff]

/-- An entry without an equals sign is read as nothing; any other one is cut at its first. -/
theorem ofEntry?_cases (entry : String) :
    '=' ∉ entry.toList ∧ ofEntry? entry = none ∨
      ∃ name file, entry = name ++ "=" ++ file ∧ '=' ∉ name.toList := by
  cases cut : Text.splitOnce '=' entry with
  | none =>
      refine .inl ⟨(Text.splitOnce_eq_none_iff _ _).mp cut, ?_⟩
      unfold ofEntry?
      rw [cut]
  | some parts =>
      obtain ⟨clean, whole⟩ := (Text.splitOnce_eq_some_iff _ _ parts.1 parts.2).mp cut
      exact .inr ⟨parts.1, parts.2, String.toList_inj.mp (by rw [whole, toList_entry]), clean⟩

/-- An entry is read as a module exactly if it spells it, and the module can be found in it. -/
theorem ofEntry?_eq_some_iff (entry : String) (module : ModuleSpec) :
    ofEntry? entry = some module ↔ module.IsSpelledBy entry ∧ module.IsReadable := by
  constructor
  · intro read
    rcases ofEntry?_cases entry with ⟨_, unread⟩ | ⟨name, file, rfl, clean⟩
    · rw [unread] at read
      cases read
    · rw [ofEntry?_of_cut name file clean] at read
      split at read
      · cases read
      · next present =>
          rw [not_or, ← Text.trim_eq_empty_iff, ← Text.trim_eq_empty_iff] at present
          cases read
          refine ⟨⟨name, file, Text.pads_trim name, Text.pads_trim file, rfl⟩,
            ⟨present.1, Text.isBare_trim name⟩, ⟨present.2, Text.isBare_trim file⟩, ?_⟩
          rwa [← (Text.pads_trim name).mem_iff (by decide)]
  · rintro ⟨⟨name, file, pads, pads', rfl⟩, readable⟩
    have clean : '=' ∉ name.toList := by
      rw [pads.mem_iff (by decide)]
      exact readable.unmarked
    have trimmed := Text.trim_of_pads readable.name.2 pads
    have trimmed' := Text.trim_of_pads readable.file.2 pads'
    have present : ¬(IsBlank name ∨ IsBlank file) := by
      rw [← Text.trim_eq_empty_iff, ← Text.trim_eq_empty_iff, trimmed, trimmed', not_or]
      exact ⟨readable.name.1, readable.file.1⟩
    rw [ofEntry?_of_cut name file clean, if_neg present, trimmed, trimmed']

/-- An entry is no module if it has no equals sign, or nothing on one side of the first. -/
theorem ofEntry?_eq_none_iff (entry : String) :
    ofEntry? entry = none ↔
      '=' ∉ entry.toList ∨ ∃ name file, entry = name ++ "=" ++ file ∧ '=' ∉ name.toList ∧
        (IsBlank name ∨ IsBlank file) := by
  constructor
  · intro unread
    rcases ofEntry?_cases entry with ⟨unmarked, _⟩ | ⟨name, file, rfl, clean⟩
    · exact .inl unmarked
    · rw [ofEntry?_of_cut name file clean, ite_eq_left_iff] at unread
      exact .inr ⟨name, file, rfl, clean, by_contra fun present => nomatch unread present⟩
  · rintro (unmarked | ⟨name, file, rfl, clean, blank⟩)
    · rcases ofEntry?_cases entry with ⟨_, unread⟩ | ⟨name, file, rfl, _⟩
      · exact unread
      · exact absurd (by simp) unmarked
    · rw [ofEntry?_of_cut name file clean, if_pos blank]

/-- White space around an entry does not matter. -/
theorem isSpelledBy_trim_iff {module : ModuleSpec} (readable : module.IsReadable) (entry : String) :
    module.IsSpelledBy (Unicode.trim entry) ↔ module.IsSpelledBy entry := by
  constructor
  · rintro ⟨name, file, pads, pads', whole⟩
    obtain ⟨before, after, blank, blank', padded⟩ := Text.pads_trim entry
    refine ⟨before ++ name, file ++ after, ?_, ?_, ?_⟩
    · exact .trans ⟨before, "", blank, Text.isBlank_empty, by simp⟩ pads
    · exact .trans ⟨"", after, Text.isBlank_empty, blank', by simp⟩ pads'
    · rw [padded, whole]
      simp only [String.append_assoc]
  · rintro ⟨_, _, ⟨before, between, blank, white, rfl⟩, ⟨between', after, white', blank', rfl⟩, rfl⟩
    have bare := readable.name.2.around readable.name.1 readable.file.2 readable.file.1
      (between ++ "=" ++ between')
    refine ⟨module.name ++ between, between' ++ module.file, ⟨"", between, Text.isBlank_empty, white,
      by simp⟩, ⟨between', "", white', Text.isBlank_empty, by simp⟩, ?_⟩
    refine (Text.trim_of_pads bare ⟨before, after, blank, blank', ?_⟩).trans ?_
    · simp only [String.append_assoc]
    · simp only [String.append_assoc]

/-- White space around an entry does not change what it is read as. -/
theorem ofEntry?_trim (entry : String) : ofEntry? (Unicode.trim entry) = ofEntry? entry := by
  ext module
  simp only [ofEntry?_eq_some_iff]
  exact and_congr_left fun readable => isSpelledBy_trim_iff readable entry

/-- An entry is malformed if it is not blank and nothing is read from it. -/
theorem isMalformed_iff (entry : String) :
    IsMalformed entry ↔ ¬IsBlank entry ∧ ofEntry? entry = none := by
  rw [IsMalformed, ofEntry?_eq_none_iff]

instance (entry : String) : Decidable (IsMalformed entry) :=
  decidable_of_iff _ (isMalformed_iff entry).symm

end ModuleSpec

open ModuleSpec

/-- The entries of a list are its trimmed parts that are not blank. -/
theorem moduleEntries_eq (list : String) :
    moduleEntries list =
      ((Text.split ',' list).filter fun entry => ¬IsBlank entry).map Unicode.trim := by
  rw [moduleEntries, List.filter_map]
  congr 1
  refine List.filter_congr fun entry _ => ?_
  rw [Function.comp_apply, Bool.eq_iff_iff, Bool.not_eq_true', decide_eq_true_iff,
    ← Text.isEmpty_trim_iff, Bool.not_eq_true]

/-- Entries that are not blank are read as modules exactly if they spell them. -/
theorem read_entries_iff (entries : List String) (modules : List ModuleSpec) :
    (entries.filter fun entry => ¬IsBlank entry).map ofEntry? = modules.map some ↔
      AreSpelledBy modules entries ∧ ∀ module ∈ modules, module.IsReadable := by
  induction entries generalizing modules with
  | nil =>
      constructor
      · intro same
        cases modules with
        | nil => exact ⟨.nil, nofun⟩
        | cons => cases same
      · rintro ⟨⟨⟩, _⟩
        rfl
  | cons entry rest ih =>
      by_cases blank : IsBlank entry
      · rw [List.filter_cons_of_neg (by simpa using blank), ih]
        refine and_congr_left fun _ => ⟨.blank blank, fun spelled => ?_⟩
        cases spelled with
        | blank _ others => exact others
        | module own _ => exact absurd blank own.not_isBlank
      · rw [List.filter_cons_of_pos (by simpa using blank), List.map_cons]
        cases modules with
        | nil =>
            refine ⟨nofun, fun ⟨spelled, _⟩ => ?_⟩
            cases spelled with
            | blank white _ => exact absurd white blank
        | cons module modules =>
            rw [List.map_cons, List.cons.injEq, ofEntry?_eq_some_iff, ih, List.forall_mem_cons]
            constructor
            · rintro ⟨⟨own, readable⟩, others, each⟩
              exact ⟨.module own others, readable, each⟩
            · rintro ⟨spelled, readable, each⟩
              cases spelled with
              | blank white _ => exact absurd white blank
              | module own others => exact ⟨⟨own, readable⟩, others, each⟩

/-- A list is read as the readable modules that its parts spell. -/
theorem parseModuleList_eq_ok_iff_areSpelledBy (list source : String) (modules : List ModuleSpec) :
    parseModuleList list source = .ok modules ↔
      AreSpelledBy modules (Text.split ',' list) ∧ ∀ module ∈ modules, module.IsReadable := by
  rw [parseModuleList_eq_ok_iff, moduleEntries_eq, List.map_map, ← read_entries_iff]
  simp only [Function.comp_def, ofEntry?_trim]

/-- No entry between the commas of a list has a comma. -/
theorem isListable_of_areSpelledBy {modules : List ModuleSpec} {entries : List String}
    (spelled : AreSpelledBy modules entries) (whole : ∀ entry ∈ entries, ',' ∉ entry.toList)
    (readable : ∀ module ∈ modules, module.IsReadable) : ∀ module ∈ modules, module.IsListable := by
  induction spelled with
  | nil => exact nofun
  | blank _ _ ih => exact ih (List.forall_mem_cons.mp whole).2 readable
  | module own _ ih =>
      obtain ⟨here, others⟩ := List.forall_mem_cons.mp whole
      obtain ⟨found, each⟩ := List.forall_mem_cons.mp readable
      rw [mem_iff_of_isSpelledBy own (by decide) (by decide), not_or] at here
      exact List.forall_mem_cons.mpr ⟨⟨found, here.1, here.2⟩, ih others each⟩

/-- What spells listable modules has no comma in it. -/
theorem not_comma_mem_of_areSpelledBy {modules : List ModuleSpec} {entries : List String}
    (spelled : AreSpelledBy modules entries) (listable : ∀ module ∈ modules, module.IsListable) :
    ∀ entry ∈ entries, ',' ∉ entry.toList := by
  induction spelled with
  | nil => exact nofun
  | blank white _ ih =>
      refine List.forall_mem_cons.mpr ⟨fun member => ?_, ih listable⟩
      exact Text.not_isBlank_of_mem member (by decide) white
  | module own _ ih =>
      obtain ⟨here, others⟩ := List.forall_mem_cons.mp listable
      refine List.forall_mem_cons.mpr ⟨?_, ih others⟩
      rw [mem_iff_of_isSpelledBy own (by decide) (by decide), not_or]
      exact ⟨here.wholeName, here.wholeFile⟩

/-- Entries that spell modules are found again in a list with commas between them. -/
theorem split_of_areSpelledBy {modules : List ModuleSpec} {entries : List String}
    (spelled : AreSpelledBy modules entries) (listable : ∀ module ∈ modules, module.IsListable) :
    AreSpelledBy modules (Text.split ',' (",".intercalate entries)) := by
  cases entries with
  | nil =>
      cases spelled
      exact .blank Text.isBlank_empty .nil
  | cons entry rest =>
      have whole := not_comma_mem_of_areSpelledBy spelled listable
      have parts : Text.split ',' (",".intercalate (entry :: rest)) = entry :: rest :=
        Text.split_intercalate ',' _ (List.cons_ne_nil _ _) whole
      rwa [parts]

/-- Reads an entry of a list. -/
def readEntry (source entry : String) : Except ModuleEntryFault ModuleSpec :=
  match ofEntry? entry with
  | some module => .ok module
  | none => .error ⟨entry, source⟩

/-- An entry is read without a fault if a module is read from it. -/
theorem isOk_readEntry (source entry : String) :
    (readEntry source entry).isOk = Option.isSome ( ofEntry? entry) := by
  rw [readEntry]
  cases ofEntry? entry <;> rfl

/-- The fault of an entry names the entry and the source. -/
theorem readEntry_eq_error (source entry : String) (unread : ofEntry? entry = none) :
    readEntry source entry = .error ⟨entry, source⟩ := by
  rw [readEntry, unread]

/-- The first malformed entry of a list is its fault, without the white space at its ends. -/
theorem parseModuleList_eq_error_iff (list source : String) (fault : ModuleEntryFault) :
    parseModuleList list source = .error fault ↔
      ∃ entry, (Text.split ',' list).find? (fun entry => IsMalformed entry) = some entry ∧
        fault = ⟨Unicode.trim entry, source⟩ := by
  have first : (moduleEntries list).find? (fun entry => !(readEntry source entry).isOk) =
      ((Text.split ',' list).find? fun entry => IsMalformed entry).map Unicode.trim := by
    rw [moduleEntries_eq, List.find?_map, List.find?_filter]
    simp only [Function.comp_def, isOk_readEntry, ofEntry?_trim, isMalformed_iff]
    simp
  have malformed (entry : String)
      (met : (Text.split ',' list).find? (fun entry => IsMalformed entry) = some entry) :
      readEntry source (Unicode.trim entry) = .error ⟨Unicode.trim entry, source⟩ := by
    have found := (isMalformed_iff entry).mp (by simpa using List.find?_some met)
    exact readEntry_eq_error source _ ((ofEntry?_trim entry).trans found.2)
  -- A list is read entry by entry, and the first that fails ends the reading.
  change (moduleEntries list).mapM (readEntry source) = .error fault ↔ _
  rw [mapM_eq_error_iff, first]
  constructor
  · rintro ⟨_, found, failed⟩
    obtain ⟨entry, met, rfl⟩ := Option.map_eq_some_iff.mp found
    exact ⟨entry, met, Except.error.inj (failed.symm.trans (malformed entry met))⟩
  · rintro ⟨entry, met, rfl⟩
    exact ⟨Unicode.trim entry, by rw [met, Option.map_some], malformed entry met⟩

/-- A list is rejected if and only if one of its entries is malformed. -/
theorem exists_parseModuleList_error_iff_isMalformed (list source : String) :
    (∃ fault, parseModuleList list source = .error fault) ↔
      ∃ entry ∈ Text.split ',' list, IsMalformed entry := by
  rw [exists_parseModuleList_error_iff, moduleEntries_eq]
  simp [isMalformed_iff, ofEntry?_trim, and_assoc]

/-- A module list is read exactly if its entries that are not blank spell modules, and gives these;
otherwise the fault is the first malformed entry. -/
theorem parseModuleList_reads_written (list source : String) :
    (∀ modules, parseModuleList list source = .ok modules ↔
      AreSpelledBy modules (Text.split ',' list) ∧ ∀ module ∈ modules, module.IsListable) ∧
    -- White space and blank entries may stand anywhere in a list that is written.
    (∀ modules entries, (∀ module ∈ modules, module.IsListable) → AreSpelledBy modules entries →
      list = ",".intercalate entries → parseModuleList list source = .ok modules) ∧
    ((∃ fault, parseModuleList list source = .error fault) ↔
      ∃ entry ∈ Text.split ',' list, IsMalformed entry) ∧
    -- The fault is the first malformed entry, without the white space at its ends.
    ∀ fault, parseModuleList list source = .error fault ↔
      ∃ before entry after, Text.split ',' list = before ++ entry :: after ∧ IsMalformed entry ∧
        (∀ other ∈ before, ¬IsMalformed other) ∧ IsBare fault.entry ∧ Pads entry fault.entry ∧
          fault.source = source ∧ fault.message =
            "malformed module entry '" ++ fault.entry ++ "' in " ++ source ++
              ": expected NAME=FILE" := by
  have reads (modules : List ModuleSpec) : parseModuleList list source = .ok modules ↔
      AreSpelledBy modules (Text.split ',' list) ∧ ∀ module ∈ modules, module.IsListable := by
    rw [parseModuleList_eq_ok_iff_areSpelledBy]
    refine and_congr_right fun spelled => ⟨?_, fun listable module member =>
      (listable module member).toIsReadable⟩
    exact isListable_of_areSpelledBy spelled (Text.not_mem_of_mem_split ',' list)
  refine ⟨reads, ?_, exists_parseModuleList_error_iff_isMalformed list source, ?_⟩
  · rintro modules entries listable spelled rfl
    exact (reads modules).mpr ⟨split_of_areSpelledBy spelled listable, listable⟩
  · intro fault
    rw [parseModuleList_eq_error_iff]
    constructor
    · rintro ⟨entry, met, rfl⟩
      obtain ⟨malformed, before, after, parts, others⟩ := List.find?_eq_some_iff_append.mp met
      exact ⟨before, entry, after, parts, of_decide_eq_true malformed, by simpa using others,
        Text.isBare_trim entry, Text.pads_trim entry, rfl, rfl⟩
    · rintro ⟨before, entry, after, parts, malformed, others, bare, pads, rfl, -⟩
      refine ⟨entry, List.find?_eq_some_iff_append.mpr ?_, by rw [Text.trim_of_pads bare pads]⟩
      exact ⟨decide_eq_true malformed, before, after, parts, by simpa using others⟩

/-- A file with an equals sign, spelled among blank entries with a tab and a no-break space. -/
theorem parseModuleList_reads_spaced_list :
    parseModuleList " user=user.yaml,,\tnews = a=b.json\xa0,  " "APICHECK_MODULES" =
        .ok [⟨"user", "user.yaml"⟩, ⟨"news", "a=b.json"⟩] ∧
      parseModuleList " user=user.yaml, =x ,broken" "APICHECK_MODULES" =
        .error ⟨"=x", "APICHECK_MODULES"⟩ := by
  constructor
  · obtain ⟨-, written, -⟩ := parseModuleList_reads_written
      " user=user.yaml,,\tnews = a=b.json\xa0,  " "APICHECK_MODULES"
    refine written _ [" user=user.yaml", "", "\tnews = a=b.json\xa0", "  "] ?_ ?_ (by decide)
    · have user : IsListable ⟨"user", "user.yaml"⟩ :=
        ⟨⟨by decide, by decide, by decide⟩, by decide, by decide⟩
      have news : IsListable ⟨"news", "a=b.json"⟩ :=
        ⟨⟨by decide, by decide, by decide⟩, by decide, by decide⟩
      exact List.forall_mem_cons.mpr ⟨user, List.forall_mem_cons.mpr ⟨news, nofun⟩⟩
    · have user : IsSpelledBy ⟨"user", "user.yaml"⟩ " user=user.yaml" :=
        ⟨" user", "user.yaml", ⟨" ", "", by decide, by decide, by decide⟩,
          ⟨"", "", by decide, by decide, by decide⟩, by decide⟩
      have news : IsSpelledBy ⟨"news", "a=b.json"⟩ "\tnews = a=b.json\xa0" :=
        ⟨"\tnews ", " a=b.json\xa0", ⟨"\t", " ", by decide, by decide, by decide⟩,
          ⟨" ", "\xa0", by decide, by decide, by decide⟩, by decide⟩
      exact .module user (.blank (by decide) (.module news (.blank (by decide) .nil)))
  · obtain ⟨-, -, -, fails⟩ := parseModuleList_reads_written
      " user=user.yaml, =x ,broken" "APICHECK_MODULES"
    exact (fails _).mpr ⟨[" user=user.yaml"], " =x ", ["broken"], by decide, by decide, by decide,
      by decide, ⟨" ", " ", by decide, by decide, by decide⟩, rfl, rfl⟩

end ApiContract
