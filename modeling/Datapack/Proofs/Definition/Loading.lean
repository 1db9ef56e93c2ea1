import Mathlib.Logic.ExistsUnique
import Datapack.Cli.Run
import Datapack.Proofs.Definition.DataFiles
import Datapack.Proofs.Definition.Faults

/-!
Which directories are loaded, what is read from them, and which fault is reported where there are
several. The parsers of the formats may be any functions.
-/

namespace Datapack

namespace Disk

/-- The faults of a directory, in the order in which they are looked for. -/
def loadFaults (disk : Disk) (directory : Path) (parsers : Parsers) : List (LoadError → Prop) :=
  [disk.Conflicting directory "pack", disk.Missing directory "pack",
    disk.Unreadable directory "pack", disk.Unparsable directory "pack" parsers.manifest,
    disk.Conflicting directory "economy", disk.Unreadable directory "economy",
    disk.Unparsable directory "economy" parsers.economy]

/-- A directory with one manifest and at most one economy, both of which can be read. -/
structure IsWellFormed (disk : Disk) (directory : Path) (parsers : Parsers) : Prop where
  one_manifest : ∃! format, disk.HasData directory "pack" format
  manifest_read : ∀ format, disk.HasData directory "pack" format →
    ∃ manifest, disk.ReadsAs directory "pack" parsers.manifest format manifest
  one_economy : ∀ first second, disk.HasData directory "economy" first →
    disk.HasData directory "economy" second → first = second
  economy_read : ∀ format, disk.HasData directory "economy" format →
    ∃ config, disk.ReadsAs directory "economy" parsers.economy format config

end Disk

namespace Definition

/-- A definition says what the data files of a directory say. -/
structure IsReadFrom (definition : Definition) (disk : Disk) (directory : Path)
    (parsers : Parsers) : Prop where
  manifest_read : ∃ format,
    disk.ReadsAs directory "pack" parsers.manifest format definition.manifest
  economy_present : definition.economy.isSome = true ↔
    ∃ format, disk.HasData directory "economy" format
  economy_named : ∀ file config, definition.economy = some (file, config) →
    ∃ format, file = dataFile directory "economy" format ∧
      disk.ReadsAs directory "economy" parsers.economy format config

inductive InvalidNamespace (definition : Definition) : LoadError → Prop
  | refused {cause : NamespaceError}
      (checked : Namespace.ofString definition.manifest.namespaceText = .error cause) :
      InvalidNamespace definition (.invalidNamespace cause)

inductive RejectedEconomy (definition : Definition) : LoadError → Prop
  | refused {file : Path} {config : Economy.Config} {cause : Economy.ConfigError}
      (given : definition.economy = some (file, config))
      (resolved : Economy.resolve config = .error cause) :
      RejectedEconomy definition (.invalidEconomy file cause)

/-- What may keep a definition from being a package, in the order in which it is looked for. -/
def packageFaults (definition : Definition) : List (LoadError → Prop) :=
  [definition.InvalidNamespace, definition.RejectedEconomy]

end Definition

namespace Disk

variable {disk : Disk} {directory : Path} {name : String} {format : Format}

section Steps

variable {Value : Type}

theorem reports_find (valid : IsDataName name) :
    Reports (disk.find directory name) [disk.Conflicting directory name] := by
  intro cause
  rw [firstOf_singleton]
  rcases find_cases valid disk directory with ⟨absent, found⟩ | ⟨format, alone, found⟩ |
    ⟨first, second, two, found⟩
  · rw [found]
    refine ⟨nofun, ?_⟩
    rintro ⟨two⟩
    exact absurd two.first_present (absent _)
  · rw [found]
    refine ⟨nofun, ?_⟩
    rintro ⟨two⟩
    exact absurd two alone.not_areFirst
  · rw [found]
    constructor
    · rintro ⟨⟩
      exact .first_two two
    · rintro ⟨again⟩
      obtain ⟨rfl, rfl⟩ := two.unique again
      rfl

theorem reports_require (valid : IsDataName name) :
    Reports (disk.require directory name)
      [disk.Conflicting directory name, disk.Missing directory name] := by
  apply (reports_find valid).bind
  intro found known
  cases found with
  | none =>
    intro cause
    rw [firstOf_singleton]
    constructor
    · rintro ⟨⟩
      exact .absent ((find_eq_ok_none_iff valid).mp known)
    · rintro ⟨-⟩
      rfl
  | some file =>
    obtain ⟨format, alone, -⟩ := (find_eq_ok_some_iff valid).mp known
    apply Reports.of_isFaultless
    rw [isFaultless_iff]
    intro cause
    rw [firstOf_singleton]
    rintro ⟨absent⟩
    exact absent format alone.present

theorem reports_decode (valid : IsDataName name) (alone : disk.HasOnly directory name format)
    (parse : Parser Value) :
    Reports (disk.decode (dataFile directory name format) parse)
      [disk.Unreadable directory name, disk.Unparsable directory name parse] := by
  intro cause
  simp only [FirstOf, alone.unreadable_iff, alone.unparsable_iff]
  rw [decode_dataFile valid]
  cases disk.readText (dataFile directory name format) with
  | error reason => simp [eq_comm]
  | ok text =>
    dsimp only
    cases parsed : parse format text with
    | ok value => simp [parsed]
    | error detail => simp [parsed, eq_comm]

theorem isFaultless_of_absent (absent : ∀ format, ¬disk.HasData directory name format)
    (parse : Parser Value) :
    IsFaultless [disk.Unreadable directory name, disk.Unparsable directory name parse] := by
  rw [isFaultless_cons, isFaultless_cons]
  refine ⟨?_, ?_, List.forall_mem_nil _⟩
  · rintro cause (found | ⟨found, -⟩)
    · exact absent _ ⟨_, found⟩
    · exact absent _ ⟨_, found⟩
  · rintro cause ⟨found, -⟩
    exact absent _ ⟨_, found⟩

end Steps

theorem reports_loadEconomy (disk : Disk) (directory : Path) (parsers : Parsers) :
    Reports (disk.loadEconomy directory parsers)
      [disk.Conflicting directory "economy", disk.Unreadable directory "economy",
        disk.Unparsable directory "economy" parsers.economy] := by
  apply (reports_find isDataName_economy).bind
  intro found known
  cases found with
  | none =>
    have absent := (find_eq_ok_none_iff isDataName_economy).mp known
    exact .of_isFaultless (isFaultless_of_absent absent parsers.economy) none
  | some file =>
    obtain ⟨format, alone, rfl⟩ := (find_eq_ok_some_iff isDataName_economy).mp known
    exact (reports_decode isDataName_economy alone parsers.economy).bind
      fun config _ => .of_isFaultless nofun _

theorem require_eq_ok_iff (valid : IsDataName name) {file : Path} :
    disk.require directory name = .ok file ↔
      ∃ format, disk.HasOnly directory name format ∧ file = dataFile directory name format := by
  rw [← find_eq_ok_some_iff valid, require, bind_eq_ok_iff]
  constructor
  · rintro ⟨found, known, given⟩
    cases found with
    | none => cases given
    | some other =>
      obtain rfl := Except.ok.inj given
      exact known
  · intro known
    exact ⟨some file, known, rfl⟩

theorem reports_loadDefinition (disk : Disk) (directory : Path) (parsers : Parsers) :
    Reports (disk.loadDefinition directory parsers) (disk.loadFaults directory parsers) := by
  apply (reports_require isDataName_pack).bind
  intro file required
  obtain ⟨format, alone, rfl⟩ := (require_eq_ok_iff isDataName_pack).mp required
  apply (reports_decode isDataName_pack alone parsers.manifest).bind
  intro manifest _
  exact (reports_loadEconomy disk directory parsers).bind fun economy _ => .of_isFaultless nofun _

section Acceptance

theorem not_conflicting_iff (valid : IsDataName name) :
    (∀ cause, ¬disk.Conflicting directory name cause) ↔
      ∀ first second, disk.HasData directory name first → disk.HasData directory name second →
        first = second := by
  constructor
  · intro none first second present also
    rcases find_cases valid disk directory with ⟨absent, -⟩ | ⟨format, alone, -⟩ |
      ⟨first, second, two, -⟩
    · exact absurd present (absent first)
    · rw [alone.only first present, alone.only second also]
    · exact absurd (.first_two two) (none _)
  · rintro single cause ⟨two⟩
    have same := single _ _ two.first_present two.second_present
    have ordered := two.ordered
    rw [same] at ordered
    exact Nat.lt_irrefl _ ordered

theorem not_missing_iff :
    (∀ cause, ¬disk.Missing directory name cause) ↔
      ∃ format, disk.HasData directory name format := by
  constructor
  · intro none
    by_contra absent
    exact none _ (.absent (not_exists.mp absent))
  · rintro ⟨format, present⟩ cause ⟨absent⟩
    exact absent format present

theorem not_unreadable_or_unparsable_iff {Value : Type} {parse : Parser Value} :
    ((∀ cause, ¬disk.Unreadable directory name cause) ∧
        ∀ cause, ¬disk.Unparsable directory name parse cause) ↔
      ∀ format, disk.HasData directory name format →
        ∃ value, disk.ReadsAs directory name parse format value := by
  constructor
  · rintro ⟨readable, parsable⟩ format ⟨entry, found⟩
    cases entry with
    | directory => exact absurd (.directory found) (readable _)
    | file content =>
      by_cases decoded : ∃ text : String, content = text.toUTF8
      · obtain ⟨text, rfl⟩ := decoded
        cases parsed : parse format text with
        | ok value => exact ⟨value, text, found, parsed⟩
        | error detail => exact absurd (.refused found parsed) (parsable _)
      · exact absurd (.bytes found (not_exists.mp decoded)) (readable _)
  · intro read
    refine ⟨?_, ?_⟩
    · rintro cause (found | ⟨found, broken⟩)
      · obtain ⟨_, text, also, -⟩ := read _ ⟨_, found⟩
        cases found.unique also
      · obtain ⟨_, text, also, -⟩ := read _ ⟨_, found⟩
        exact broken text (Entry.file.inj (found.unique also))
    · rintro cause ⟨found, refused⟩
      obtain ⟨value, text, also, parsed⟩ := read _ ⟨_, found⟩
      obtain rfl := Except.ok.inj
        ((readText_of_finds_text also).symm.trans (readText_of_finds_text found))
      cases parsed.symm.trans refused

theorem isFaultless_loadFaults_iff {parsers : Parsers} :
    IsFaultless (disk.loadFaults directory parsers) ↔ disk.IsWellFormed directory parsers := by
  simp only [loadFaults, isFaultless_cons, not_conflicting_iff isDataName_pack,
    not_conflicting_iff isDataName_economy, not_missing_iff]
  constructor
  · rintro ⟨alone, ⟨format, present⟩, readable, parsable, single, economyReadable,
      economyParsable, -⟩
    exact {
      one_manifest := ⟨format, present, fun other also => alone other format also present⟩
      manifest_read := not_unreadable_or_unparsable_iff.mp ⟨readable, parsable⟩
      one_economy := single
      economy_read := not_unreadable_or_unparsable_iff.mp ⟨economyReadable, economyParsable⟩ }
  · intro wellFormed
    obtain ⟨readable, parsable⟩ := not_unreadable_or_unparsable_iff.mpr wellFormed.manifest_read
    obtain ⟨economyReadable, economyParsable⟩ :=
      not_unreadable_or_unparsable_iff.mpr wellFormed.economy_read
    exact ⟨fun _ _ => wellFormed.one_manifest.unique, wellFormed.one_manifest.exists, readable,
      parsable, wellFormed.one_economy, economyReadable, economyParsable, nofun⟩

end Acceptance

theorem loadEconomy_eq_ok {parsers : Parsers} {economy : Option (Path × Economy.Config)}
    (loaded : disk.loadEconomy directory parsers = .ok economy) :
    (economy.isSome = true ↔ ∃ format, disk.HasData directory "economy" format) ∧
      ∀ file config, economy = some (file, config) →
        ∃ format, file = dataFile directory "economy" format ∧
          disk.ReadsAs directory "economy" parsers.economy format config := by
  obtain ⟨found, known, taken⟩ := bind_eq_ok_iff.mp loaded
  cases found with
  | none =>
    obtain rfl := Except.ok.inj taken
    have absent := (find_eq_ok_none_iff isDataName_economy).mp known
    exact ⟨⟨nofun, fun ⟨format, present⟩ => absurd present (absent format)⟩, nofun⟩
  | some file =>
    obtain ⟨format, alone, rfl⟩ := (find_eq_ok_some_iff isDataName_economy).mp known
    obtain ⟨config, decoded, made⟩ := bind_eq_ok_iff.mp taken
    obtain rfl := Except.ok.inj made
    refine ⟨⟨fun _ => ⟨format, alone.present⟩, fun _ => rfl⟩, ?_⟩
    rintro _ _ ⟨⟩
    exact ⟨format, rfl, (decode_eq_ok_iff isDataName_economy).mp decoded⟩

theorem isReadFrom_of_loadDefinition {parsers : Parsers} {definition : Definition}
    (loaded : disk.loadDefinition directory parsers = .ok definition) :
    definition.IsReadFrom disk directory parsers := by
  obtain ⟨file, required, rest⟩ := bind_eq_ok_iff.mp loaded
  obtain ⟨format, -, rfl⟩ := (require_eq_ok_iff isDataName_pack).mp required
  obtain ⟨manifest, decoded, rest⟩ := bind_eq_ok_iff.mp rest
  obtain ⟨economy, economyLoaded, made⟩ := bind_eq_ok_iff.mp rest
  obtain rfl := Except.ok.inj made
  obtain ⟨present, named⟩ := loadEconomy_eq_ok economyLoaded
  exact {
    manifest_read := ⟨format, (decode_eq_ok_iff isDataName_pack).mp decoded⟩
    economy_present := present
    economy_named := named }

end Disk

namespace Definition

theorem reports_create (definition : Definition) :
    Reports
      (match Package.create definition.manifest.displayName definition.manifest.namespaceText with
        | .ok package => .ok package
        | .error cause => .error (.invalidNamespace cause))
      [definition.InvalidNamespace] := by
  intro cause
  rw [firstOf_singleton, Package.create]
  cases checked : Namespace.ofString definition.manifest.namespaceText with
  | error refusal =>
    constructor
    · rintro ⟨⟩
      exact .refused checked
    · rintro ⟨again⟩
      obtain rfl := Except.error.inj (checked.symm.trans again)
      rfl
  | ok namespaceName =>
    refine ⟨nofun, ?_⟩
    rintro ⟨again⟩
    cases checked.symm.trans again

theorem package_eq (definition : Definition) :
    definition.package =
      (match Package.create definition.manifest.displayName definition.manifest.namespaceText with
        | .ok package => .ok package
        | .error cause => .error (.invalidNamespace cause)) >>= fun package =>
      match definition.economy with
      | none => .ok package
      | some (file, config) =>
        match EconomyPlugin.configure { namespaceName := package.namespaceName } config with
        | .ok plugin => .ok (package.register (.economy plugin))
        | .error cause => .error (.invalidEconomy file cause) := by
  unfold package
  cases Package.create definition.manifest.displayName definition.manifest.namespaceText <;> rfl

theorem reports_package (definition : Definition) :
    Reports definition.package definition.packageFaults := by
  rw [package_eq]
  apply definition.reports_create.bind
  intro package _ cause
  rw [firstOf_singleton]
  cases given : definition.economy with
  | none =>
    refine ⟨nofun, ?_⟩
    rintro ⟨again, -⟩
    cases given.symm.trans again
  | some found =>
    obtain ⟨file, config⟩ := found
    dsimp only [EconomyPlugin.configure]
    cases resolved : Economy.resolve config with
    | error refusal =>
      constructor
      · rintro ⟨⟩
        exact .refused given resolved
      · rintro ⟨again, rejected⟩
        cases given.symm.trans again
        cases resolved.symm.trans rejected
        rfl
    | ok layout =>
      refine ⟨nofun, ?_⟩
      rintro ⟨again, rejected⟩
      cases given.symm.trans again
      cases resolved.symm.trans rejected

end Definition

theorem LoadError.message_invalidEconomy (file : Path) (cause : Economy.ConfigError) :
    ∃ before behind, (invalidEconomy file cause).message = before ++ file.text ++ behind :=
  ⟨"invalid economy configuration in ", ": " ++ cause.message, String.append_assoc⟩

theorem Disk.loadPackage_eq_error_iff {disk : Disk} {directory : Path} {parsers : Parsers}
    {cause : LoadError} :
    disk.loadPackage directory parsers = .error cause ↔
      disk.loadDefinition directory parsers = .error cause ∨
        ∃ definition, disk.loadDefinition directory parsers = .ok definition ∧
          definition.package = .error cause :=
  bind_eq_error_iff

theorem Cli.run_of_loadPackage_error {disk : Disk} {parsers : Parsers} {arguments : List String}
    {directory outputRoot : Path} {cause : LoadError}
    (asked : Cli.Invocation.ofArguments arguments = .build directory outputRoot)
    (failed : disk.loadPackage directory parsers = .error cause) :
    Cli.run arguments disk parsers = { code := 1, complaint := cause.message, disk } := by
  rw [Cli.run, asked]
  simp only [Cli.Invocation.run, failed]

/-- A directory can be loaded exactly if it is well-formed, whatever the parsers of the formats
accept, and the definition is then what its data files say. Otherwise the first fault is reported,
in the order in which they are looked for; and so it is if the definition is no package. In both
cases a build leaves the file tree as it is. -/
theorem loading_accepts_well_formed_directories_and_writes_nothing (disk : Disk)
    (directory : Path) (parsers : Parsers) :
    ((∃ definition, disk.loadDefinition directory parsers = .ok definition) ↔
        disk.IsWellFormed directory parsers) ∧
      (∀ definition, disk.loadDefinition directory parsers = .ok definition →
        definition.IsReadFrom disk directory parsers) ∧
      (∀ cause, disk.loadDefinition directory parsers = .error cause ↔
        FirstOf (disk.loadFaults directory parsers) cause) ∧
      (∀ definition cause, disk.loadDefinition directory parsers = .ok definition →
        (definition.package = .error cause ↔ FirstOf definition.packageFaults cause)) ∧
      ∀ arguments outputRoot cause,
        Cli.Invocation.ofArguments arguments = .build directory outputRoot →
        (disk.loadDefinition directory parsers = .error cause ∨
          ∃ definition, disk.loadDefinition directory parsers = .ok definition ∧
            definition.package = .error cause) →
        Cli.run arguments disk parsers = { code := 1, complaint := cause.message, disk } ∧
          ∀ file refusal, cause = .invalidEconomy file refusal →
            ∃ before behind, cause.message = before ++ file.text ++ behind := by
  have reports := disk.reports_loadDefinition directory parsers
  refine ⟨?_, ?_, reports, ?_, ?_⟩
  · exact reports.exists_ok_iff.trans Disk.isFaultless_loadFaults_iff
  · intro definition loaded
    exact Disk.isReadFrom_of_loadDefinition loaded
  · intro definition cause _
    exact definition.reports_package cause
  · intro arguments outputRoot cause asked failed
    refine ⟨Cli.run_of_loadPackage_error asked (Disk.loadPackage_eq_error_iff.mpr failed), ?_⟩
    rintro file refusal rfl
    exact LoadError.message_invalidEconomy file refusal

/-- A directory with two economies. One is a directory itself, and nothing can be read from it. -/
def disputedDisk : Disk where
  entries := [
    (["packs"], .directory),
    (["packs", "pack.json"],
      .file "\x7b\"display_name\":\"Arena\",\"namespace\":\"BW\"\x7d".toUTF8),
    (["packs", "economy.json"], .file "\x7b\x7d".toUTF8),
    (["packs", "economy.ron"], .directory)]
  workingDirectory := []

/-- Neither what is wrong with one of the economies nor the namespace is looked at. -/
theorem disputed_economy_is_reported :
    FirstOf (disputedDisk.loadFaults (.ofString "packs") .standard)
        (.conflictingFormats (.ofString "packs/economy.ron") (.ofString "packs/economy.json")) ∧
      Cli.run ["build", "packs", "-o", "out"] disputedDisk =
        { code := 1
          complaint := "conflicting formats: packs/economy.ron and packs/economy.json"
          disk := disputedDisk } := by
  obtain ⟨-, -, reports, -, unwritten⟩ :=
    loading_accepts_well_formed_directories_and_writes_nothing disputedDisk (.ofString "packs")
      .standard
  have known : (match disputedDisk.loadDefinition (.ofString "packs") with
      | .ok _ => none
      | .error cause => some cause) =
      some (.conflictingFormats (.ofString "packs/economy.ron")
        (.ofString "packs/economy.json")) := by
    decide +kernel
  have failed : disputedDisk.loadDefinition (.ofString "packs") =
      .error (.conflictingFormats (.ofString "packs/economy.ron")
        (.ofString "packs/economy.json")) := by
    split at known
    next => cases known
    next cause ended => rw [ended, Option.some.inj known]
  have asked : Cli.Invocation.ofArguments ["build", "packs", "-o", "out"] =
      .build (.ofString "packs") (.ofString "out") := by
    decide +kernel
  have message : (LoadError.conflictingFormats (.ofString "packs/economy.ron")
      (.ofString "packs/economy.json")).message =
      "conflicting formats: packs/economy.ron and packs/economy.json" := by
    decide +kernel
  refine ⟨(reports _).mp failed, ?_⟩
  rw [← message]
  exact (unwritten _ _ _ asked (.inl failed)).1

end Datapack
