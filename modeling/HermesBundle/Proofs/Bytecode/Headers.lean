import HermesBundle.Proofs.CommandLine.EngineCheck
import HermesBundle.Proofs.Text.Pieces

/-! # Bytecode headers — that all inspections agree, and what previews show

    A file is recognised by its first eight bytes, its version is read from
    its first twelve, and a header is parsed from any blob.  These looks at
    one content never contradict each other:

    * what is made of a content is settled by whether it starts with the
      magic bytes and whether it holds a whole header
      (`version_of_header`, `version_of_cutOff`, `version_of_foreign`,
      gathered in `HeaderLaw`);
    * the first twelve bytes settle it (`isBytecode_take`, `version_take`),
      so a file of which only these are read is inspected like its whole
      content;
    * an inspection describes what a path yields (`describes_findingAt`),
      and does so for path after path (`perform_inspect`), up to a name that
      cannot be handed to the system (`inspect_failsWith`);
    * so there is a report, of one entry for each path, just when all names
      can be handed to the system (`inspectionLaw_iff`).

    A preview shows the first bytes of a blob, two hexadecimal digits for
    each, with a space between groups of eight.  Nothing of them is lost:

    * they are a slice of the blob, which ends at a count from its front or
      from its back (`isSlice_iff`);
    * cutting them into groups loses none and repeats none
      (`flatten_groups`), and only the last group may fall short
      (`isCut_groups`);
    * bytes come back from their digits (`ofHex?_hex`), none of which is a
      space, so the spaces between the groups can be dropped
      (`preview_shows`). -/

namespace HermesBundle

open HermesBundle.Action

namespace Bytecode

/-! ## One content -/

/-- Whether a content starts as bytecode and ends before its header
    does. -/
def IsCutOff (content : Bytes) : Prop := magic <+: content ∧ content.length < headerSize

/-- The version in a content that holds a whole header: the four bytes
    behind the magic ones, the least significant one first. -/
def versionIn (content : Bytes) (h : 12 ≤ content.length) : Nat :=
  content[8].toNat + 256 * content[9].toNat + 65536 * content[10].toNat
    + 16777216 * content[11].toNat

section
variable {path : Text} {content : Bytes}

theorem isBytecode_iff : isBytecode content = true ↔ magic <+: content := by
  rw [isBytecode, beq_iff_eq, List.prefix_iff_eq_take]
  exact eq_comm

theorem littleEndian_version (h : 12 ≤ content.length) :
    littleEndian ((content.drop 8).take 4) = versionIn content h := by
  have hbytes : (content.drop 8).take 4 = [content[8], content[9], content[10], content[11]] := by
    rw [List.drop_eq_getElem_cons (by omega), List.drop_eq_getElem_cons (by omega),
      List.drop_eq_getElem_cons (by omega), List.drop_eq_getElem_cons (by omega)]
    rfl
  rw [hbytes, versionIn]
  simp only [littleEndian]
  omega

theorem versionIn_lt (h : 12 ≤ content.length) : versionIn content h < 2 ^ 32 := by
  have h₀ := content[8].toNat_lt
  have h₁ := content[9].toNat_lt
  have h₂ := content[10].toNat_lt
  have h₃ := content[11].toNat_lt
  rw [versionIn]
  omega

/-- The header of a content that holds a whole one. -/
theorem parseHeader_of_header (hmagic : magic <+: content) (h : 12 ≤ content.length) :
    parseHeader content = .ok ⟨magic, versionIn content h⟩ := by
  have hstart : content.take 8 = magic := (List.prefix_iff_eq_take.mp hmagic).symm
  have hlength : ¬content.length < headerSize := Nat.not_lt.mpr h
  rw [parseHeader, if_neg hlength, hstart, littleEndian_version h]

/-- The header of a file is that of its content. -/
theorem readHeader_of_header (hmagic : magic <+: content) (h : 12 ≤ content.length) :
    (readHeader path content >>= parseHeader) = .ok ⟨magic, versionIn content h⟩ := by
  have hlength : (content.take 12).length = 12 := List.length_take_of_le h
  have hprefix : magic <+: content.take 12 := List.prefix_take_iff.mpr ⟨hmagic, by decide⟩
  have hversion : versionIn (content.take 12) (Nat.le_of_eq hlength.symm)
      = versionIn content h := by
    simp only [versionIn, List.getElem_take]
  have hread : readHeader path content = .ok (content.take 12) :=
    if_neg (Nat.not_lt.mpr (Nat.le_of_eq hlength.symm))
  rw [hread, ← hversion]
  exact parseHeader_of_header hprefix _

/-! ### What the version of a content is -/

theorem version_of_header (hmagic : magic <+: content) (h : 12 ≤ content.length) :
    version path content = .ok (versionIn content h) := by
  have hheader : (readHeader path content >>= fun head => parseHeader head >>= fun header =>
      pure header.version) = .ok (versionIn content h) := by
    rw [← bind_assoc, readHeader_of_header hmagic h]
    rfl
  rw [version, if_pos (isBytecode_iff.mpr hmagic)]
  exact hheader

theorem version_of_cutOff (h : IsCutOff content) :
    version path content = .error (.headerTooShort (some path) content.length) := by
  obtain ⟨hmagic, hlength⟩ := h
  have htake : content.take headerSize = content := List.take_of_length_le (Nat.le_of_lt hlength)
  have hread : readHeader path content = .error (.headerTooShort (some path) content.length) := by
    rw [readHeader, htake]
    exact if_pos hlength
  rw [version, if_pos (isBytecode_iff.mpr hmagic), hread]
  rfl

theorem version_of_foreign (h : ¬magic <+: content) :
    version path content = .error (.notBytecode path) := by
  rw [version, if_neg (mt isBytecode_iff.mp h)]

/-- **A content is foreign, cut off or has a version.** -/
theorem content_cases (content : Bytes) :
    ¬magic <+: content ∨ IsCutOff content ∨ magic <+: content ∧ 12 ≤ content.length := by
  by_cases hmagic : magic <+: content
  · obtain hshort | hlong := Nat.lt_or_ge content.length 12
    · exact .inr (.inl ⟨hmagic, hshort⟩)
    · exact .inr (.inr ⟨hmagic, hlong⟩)
  · exact .inl hmagic

theorem version_eq_ok_iff {v : Nat} : version path content = .ok v
    ↔ magic <+: content ∧ ∃ h : 12 ≤ content.length, v = versionIn content h := by
  obtain hforeign | hcut | ⟨hmagic, hlength⟩ := content_cases content
  · rw [version_of_foreign hforeign]
    exact iff_of_false (fun h => nomatch h) fun h => hforeign h.1
  · rw [version_of_cutOff hcut]
    exact iff_of_false (fun h => nomatch h) fun ⟨_, h, _⟩ => Nat.not_lt.mpr h hcut.2
  · rw [version_of_header hmagic hlength]
    constructor
    · rintro ⟨⟩
      exact ⟨hmagic, hlength, rfl⟩
    · rintro ⟨-, -, rfl⟩
      rfl

theorem version_eq_headerTooShort_iff {place : Option Text} {found : Nat} :
    version path content = .error (.headerTooShort place found)
      ↔ (place = some path ∧ found = content.length) ∧ IsCutOff content := by
  obtain hforeign | hcut | ⟨hmagic, hlength⟩ := content_cases content
  · rw [version_of_foreign hforeign]
    exact iff_of_false (fun h => nomatch h) fun h => hforeign h.2.1
  · rw [version_of_cutOff hcut]
    constructor
    · rintro ⟨⟩
      exact ⟨⟨rfl, rfl⟩, hcut⟩
    · rintro ⟨⟨rfl, rfl⟩, -⟩
      rfl
  · rw [version_of_header hmagic hlength]
    exact iff_of_false (fun h => nomatch h) fun h => Nat.not_lt.mpr hlength h.2.2

theorem version_eq_notBytecode_iff {place : Text} :
    version path content = .error (.notBytecode place) ↔ place = path ∧ ¬magic <+: content := by
  obtain hforeign | hcut | ⟨hmagic, hlength⟩ := content_cases content
  · rw [version_of_foreign hforeign]
    constructor
    · rintro ⟨⟩
      exact ⟨rfl, hforeign⟩
    · rintro ⟨rfl, -⟩
      rfl
  · rw [version_of_cutOff hcut]
    exact iff_of_false (fun h => nomatch h) fun h => h.2 hcut.1
  · rw [version_of_header hmagic hlength]
    exact iff_of_false (fun h => nomatch h) fun h => h.2 hmagic

end

/-- What the looks at a content, that of the file at a path, come to. -/
structure HeaderLaw (path : Text) (content : Bytes) : Prop where
  recognised : isBytecode content = true ↔ magic <+: content
  /-- The version is that of a whole header behind the magic bytes. -/
  versioned : ∀ v, version path content = .ok v
    ↔ magic <+: content ∧ ∃ h : 12 ≤ content.length, v = versionIn content h
  /-- A version has four bytes, and the header says the same, parsed from
      the content or from what is read of the file. -/
  parsed : ∀ v, version path content = .ok v → v < 2 ^ 32
    ∧ ∃ header : Header, header.isHermes = true ∧ header.version = v
      ∧ parseHeader content = .ok header
      ∧ (readHeader path content >>= parseHeader) = .ok header
  tooShort : ∀ place found, version path content = .error (.headerTooShort place found)
    ↔ (place = some path ∧ found = content.length) ∧ magic <+: content ∧ content.length < 12
  foreign : ∀ place, version path content = .error (.notBytecode place)
    ↔ place = path ∧ ¬magic <+: content

/-- **The looks at a content agree.** -/
theorem headerLaw (path : Text) (content : Bytes) : HeaderLaw path content where
  recognised := isBytecode_iff
  versioned _ := version_eq_ok_iff
  parsed v hv := by
    obtain ⟨hmagic, hlength, rfl⟩ := version_eq_ok_iff.mp hv
    exact ⟨versionIn_lt hlength, ⟨magic, versionIn content hlength⟩, beq_self_eq_true _, rfl,
      parseHeader_of_header hmagic hlength, readHeader_of_header hmagic hlength⟩
  tooShort _ _ := version_eq_headerTooShort_iff
  foreign _ := version_eq_notBytecode_iff

/-! ### That the first bytes settle it -/

section
variable {path : Text} {content : Bytes}

theorem magic_prefix_take : magic <+: content.take headerSize ↔ magic <+: content := by
  rw [List.prefix_take_iff]
  exact and_iff_left (by decide)

theorem isBytecode_take : isBytecode (content.take headerSize) = isBytecode content := by
  rw [Bool.eq_iff_iff, isBytecode_iff, isBytecode_iff, magic_prefix_take]

theorem isCutOff_take : IsCutOff (content.take headerSize) ↔ IsCutOff content := by
  rw [IsCutOff, IsCutOff, magic_prefix_take, List.length_take, headerSize]
  have hlength : min 12 content.length < 12 ↔ content.length < 12 := by omega
  rw [hlength]

theorem version_take : version path (content.take headerSize) = version path content := by
  obtain hforeign | hcut | ⟨hmagic, hlength⟩ := content_cases content
  · rw [version_of_foreign hforeign, version_of_foreign (mt magic_prefix_take.mp hforeign)]
  · rw [List.take_of_length_le (Nat.le_of_lt hcut.2)]
  · have htake : (content.take 12).length = 12 := List.length_take_of_le hlength
    rw [version_of_header hmagic hlength,
      version_of_header (magic_prefix_take.mpr hmagic) (Nat.le_of_eq htake.symm)]
    simp only [versionIn, headerSize, List.getElem_take]

end

end Bytecode

/-! ## One path -/

namespace CommandLine

open Bytecode

/-- Whether the start of a content is read at a path. -/
def Yields (m : Machine) (path : Path) (content : Bytes) : Prop :=
  m.files.readStart m.here path.toText headerSize = .ok (content.take headerSize)

/-- A path of a regular file yields its content. -/
theorem yields_of_file {m : Machine} {path : Path} {content : Bytes} {executable : Bool}
    (h : m.files.status? m.here path.toText = .ok (.file content executable)) :
    Yields m path content := by
  rw [Yields, FileSystem.readStart, FileSystem.readFile, h]
  rfl

/-- What is said of a header that is cut off. -/
def cutOffText (path : Path) (content : Bytes) : Text :=
  path.toText ++ (Text.ofString ": expected 12 header bytes, found " ++ Text.ofNat content.length)

theorem headerTooShort_message (path : Path) (content : Bytes) :
    (BuildError.headerTooShort (some path.toText) content.length).message
      = cutOffText path content := by
  have hwords : Text.ofString ": expected 12 header bytes, found "
      = Text.ofString ": " ++ (Text.ofString "expected " ++ (Text.ofNat headerSize
        ++ Text.ofString " header bytes, found ")) := by decide
  rw [cutOffText, hwords]
  simp only [BuildError.message, List.append_assoc]

/-- What is reported about a path, by what is read there. -/
inductive Describes (m : Machine) (path : Path) : Json → Prop where
  | bytecode {content : Bytes} {v : Nat} : Yields m path content →
      version path.toText content = .ok v →
      Describes m path (.obj [(Text.ofString "path", .str path.toText),
        (Text.ofString "is_hermes_bytecode", .bool true), (Text.ofString "version", .int v)])
  | other {content : Bytes} : Yields m path content → ¬magic <+: content →
      Describes m path (.obj [(Text.ofString "path", .str path.toText),
        (Text.ofString "is_hermes_bytecode", .bool false), (Text.ofString "version", .null)])
  | cutOff {content : Bytes} : Yields m path content → IsCutOff content →
      Describes m path (.obj [(Text.ofString "path", .str path.toText),
        (Text.ofString "is_hermes_bytecode", .bool true), (Text.ofString "version", .null),
        (Text.ofString "error", .str (cutOffText path content))])
  | unreadable {e : SystemError} : m.files.readStart m.here path.toText headerSize = .error e →
      Describes m path (.obj [(Text.ofString "path", .str path.toText),
        (Text.ofString "error",
          .str (Text.ofString e.className ++ Text.ofString ": " ++ e.message))])

/-- What an inspection finds out from the start of a file. -/
def findingOf (path : Path) : Except SystemError Bytes → Finding
  | .error e => .unreadable e
  | .ok start =>
      if isBytecode start then
        match version path.toText start with
        | .ok v => .bytecode v
        | .error e => .broken e
      else .other

/-- What an inspection finds out about a path. -/
def findingAt (m : Machine) (path : Path) : Finding :=
  findingOf path (m.files.readStart m.here path.toText headerSize)

section
variable {m : Machine} {path : Path}

theorem perform_inspectFile (husable : FileSystem.isUsable path.toText = true) :
    (inspectFile path).Gives m (findingAt m path) m := by
  unfold inspectFile Gives findingAt
  rw [perform_bind, perform_attempt, perform_readStart husable]
  cases m.files.readStart m.here path.toText headerSize with
  | error e => rfl
  | ok start =>
      show Action.perform (if isBytecode start then _ else _) m = _
      rw [findingOf]
      split
      · cases version path.toText start <;> rfl
      · rfl

/-- What is found out at a path that yields a content. -/
theorem findingAt_of_yields {content : Bytes} (h : Yields m path content) :
    findingAt m path = if isBytecode content then
        match version path.toText content with
        | .ok v => .bytecode v
        | .error e => .broken e
      else .other := by
  rw [findingAt, h, findingOf, isBytecode_take, version_take]

/-- What is read at a path is the start of some content. -/
theorem exists_yields {start : Bytes}
    (h : m.files.readStart m.here path.toText headerSize = .ok start) :
    ∃ content, Yields m path content := by
  have hstart : ∃ content : Bytes, start = content.take headerSize := by
    rw [FileSystem.readStart] at h
    split at h
    · exact ⟨List.replicate headerSize 0, (Except.ok.inj h).symm⟩
    · exact ⟨List.replicate headerSize 0, (Except.ok.inj h).symm⟩
    · cases hfile : m.files.readFile m.here path.toText with
      | error e =>
          rw [hfile] at h
          exact nomatch h
      | ok content =>
          rw [hfile] at h
          exact ⟨content, (Except.ok.inj h).symm⟩
  obtain ⟨content, rfl⟩ := hstart
  exact ⟨content, h⟩

/-- Contents that a path yields are cut off together. -/
theorem Yields.isCutOff_iff {content other : Bytes} (h : Yields m path content)
    (hother : Yields m path other) : IsCutOff content ↔ IsCutOff other := by
  have htake : content.take headerSize = other.take headerSize :=
    Except.ok.inj (h.symm.trans hother)
  rw [← isCutOff_take, htake, isCutOff_take]

/-- **An inspection describes what is read**, and it fails where nothing is
    read or what is read is cut off. -/
theorem describes_findingAt (m : Machine) (path : Path) :
    Describes m path ((findingAt m path).toJson path)
      ∧ ((findingAt m path).isFailure = false ↔
        (∃ content, Yields m path content)
          ∧ ∀ content, Yields m path content → ¬IsCutOff content) := by
  cases hread : m.files.readStart m.here path.toText headerSize with
  | error e =>
      have hnone : ¬∃ content, Yields m path content := fun ⟨content, h⟩ =>
        nomatch hread.symm.trans h
      rw [findingAt, hread]
      exact ⟨.unreadable hread, iff_of_false Bool.noConfusion fun h => hnone h.1⟩
  | ok start =>
      -- only the start has been read, but it tells as much as the whole content
      obtain ⟨content, hyields⟩ := exists_yields hread
      rw [findingAt_of_yields hyields]
      have hall : ((∃ other, Yields m path other)
          ∧ ∀ other, Yields m path other → ¬IsCutOff other) ↔ ¬IsCutOff content := by
        constructor
        · exact fun h => h.2 content hyields
        · exact fun h => ⟨⟨content, hyields⟩,
            fun other hother => mt (hother.isCutOff_iff hyields).mp h⟩
      rw [hall]
      obtain hforeign | hcut | ⟨hmagic, hlength⟩ := content_cases content
      · rw [if_neg (mt isBytecode_iff.mp hforeign)]
        exact ⟨.other hyields hforeign, iff_of_true rfl fun h => hforeign h.1⟩
      · rw [if_pos (isBytecode_iff.mpr hcut.1), version_of_cutOff hcut]
        refine ⟨?_, iff_of_false Bool.noConfusion fun h => h hcut⟩
        dsimp only [Finding.toJson]
        rw [headerTooShort_message]
        exact .cutOff hyields hcut
      · have hversion : version path.toText content = .ok (versionIn content hlength) :=
          version_of_header hmagic hlength
        rw [if_pos (isBytecode_iff.mpr hmagic), hversion]
        exact ⟨.bytecode hyields hversion,
          iff_of_true rfl fun h => Nat.not_lt.mpr hlength h.2⟩

end

/-! ## The command -/

/-- The entries of a report on paths. -/
def entriesOf (m : Machine) (paths : List Path) : List Json :=
  paths.map fun path => (findingAt m path).toJson path

/-- The status of a report on paths. -/
def statusOf (m : Machine) (paths : List Path) : Nat :=
  if paths.any fun path => (findingAt m path).isFailure then 1 else 0

/-- The document of a report. -/
def documentOf (entries : List Json) : Text := Json.render Json.indented (.arr entries)

/-- What an inspection does with its report. -/
def deliver (document : Text) (status : Nat) (out : Option Path) : Action (Nat × Text) :=
  match out with
  | some out => do
      Action.writeText out.toText document
      return (status, line (Text.ofString "[+] wrote " ++ out.toText))
  | none => return (status, line document)

/-- The inspection of one path, with the path. -/
def inspectNamed (path : Path) : Action (Path × Finding) := do
  return (path, ← inspectFile path)

section
variable {m : Machine} {paths : List Path}

theorem inspectNamed_gives {path : Path} (h : FileSystem.isUsable path.toText = true) :
    (inspectNamed path).Gives m (path, findingAt m path) m :=
  perform_bind_of_gives (perform_inspectFile h) _

theorem inspect_eq (out : Option Path) : inspect paths out = (do
    let findings ← paths.mapM inspectNamed
    deliver (documentOf (findings.map fun (path, finding) => finding.toJson path))
      (if findings.any fun (_, finding) => finding.isFailure then 1 else 0) out) := by
  cases out <;> rfl

/-- **An inspection makes one report on all its paths.** -/
theorem perform_inspect (h : ∀ path ∈ paths, FileSystem.isUsable path.toText = true)
    (out : Option Path) : (inspect paths out).perform m
      = (deliver (documentOf (entriesOf m paths)) (statusOf m paths) out).perform m := by
  have hfindings : (paths.mapM inspectNamed).Gives m
      (paths.map fun path => (path, findingAt m path)) m :=
    gives_mapM fun path hpath => inspectNamed_gives (h path hpath)
  rw [inspect_eq, perform_bind_of_gives hfindings, List.map_map, List.any_map]
  rfl

/-- A name that cannot be handed to the system ends an inspection. -/
theorem inspect_failsWith {before rest : List Path} {path : Path} {f : Failure}
    (hbefore : ∀ p ∈ before, FileSystem.isUsable p.toText = true)
    (hfails : (checkName path.toText).FailsWith m f m) (out : Option Path) :
    (inspect (before ++ path :: rest) out).FailsWith m f m := by
  obtain ⟨hkind, -⟩ := checkName_failsWith_cases hfails
  -- the check precedes the reading, and its failures are none of the system
  have hread : (readStart path.toText headerSize).FailsWith m f m :=
    perform_bind_of_failsWith hfails _
  have hinspect : (inspectFile path).FailsWith m f m := by
    unfold inspectFile FailsWith
    rw [perform_bind, perform_attempt, hread]
    obtain rfl | rfl := hkind <;> rfl
  have hnamed : (inspectNamed path).FailsWith m f m := perform_bind_of_failsWith hinspect _
  unfold FailsWith
  rw [inspect_eq]
  exact perform_bind_of_failsWith
    (failsWith_mapM (fun p hp => inspectNamed_gives (hbefore p hp)) hnamed) _

/-- The status tells whether all paths are read and none is cut off. -/
theorem statusOf_eq_zero_iff : statusOf m paths = 0
    ↔ (∀ path ∈ paths, ∃ content, Yields m path content)
      ∧ ∀ path ∈ paths, ∀ content, Yields m path content → ¬IsCutOff content := by
  have hstatus : statusOf m paths = 0 ↔ ∀ path ∈ paths, (findingAt m path).isFailure = false := by
    rw [statusOf]
    split
    · rename_i hany
      obtain ⟨path, hpath, hfailure⟩ := List.any_eq_true.mp hany
      refine iff_of_false Nat.one_ne_zero fun h => ?_
      exact Bool.false_ne_true ((h path hpath).symm.trans hfailure)
    · rename_i hnone
      refine iff_of_true rfl ?_
      simpa using hnone
  rw [hstatus, ← forall₂_and]
  exact forall₂_congr fun path _ => (describes_findingAt m path).2

/-- Where there are settings, the command line of an inspection ends as
    the inspection does. -/
theorem perform_run_inspect {programs : Build.Programs} {arguments : List Text} {level : Nat}
    (hcommand : readCommand arguments = .ok (.inspect paths none))
    (hlevel : threshold.Gives m level m) {outcome : Except Failure (Nat × Text)}
    (hinspect : (inspect paths none).perform m = (outcome, m)) :
    (run programs arguments).perform m = (ended [] outcome, m) := by
  have hperform : (perform programs (.inspect paths none)).perform m = (outcome, m) := hinspect
  have hrun : (run programs arguments).perform m = _ := run_eq_ended hcommand m
  rw [hlevel] at hrun
  dsimp only at hrun
  rw [hperform, List.drop_length] at hrun
  exact hrun

end

/-- What an inspection of paths comes to: entries and a status. -/
structure InspectionLaw (m : Machine) (paths : List Path) (entries : List Json) (status : Nat) :
    Prop where
  /-- There is an entry for each path, in their order. -/
  described : List.Forall₂ (Describes m) paths entries
  exits : status = 0
    ↔ (∀ path ∈ paths, ∃ content, Yields m path content)
      ∧ ∀ path ∈ paths, ∀ content, Yields m path content → ¬IsCutOff content
  otherwise : status = 0 ∨ status = 1
  printed : (inspect paths none).Gives m (status, line (documentOf entries)) m
  /-- The report is written if it can be written where it is asked for. -/
  written : ∀ out after, (writeText out.toText (documentOf entries)).Gives m () after →
    (inspect paths (some out)).Gives m
      (status, line (Text.ofString "[+] wrote " ++ out.toText)) after
  ended : ∀ programs arguments level, readCommand arguments = .ok (.inspect paths none) →
    threshold.Gives m level m →
    (run programs arguments).Gives m (.ran ⟨status, line (documentOf entries), []⟩) m

/-- Names that can be handed to the system are inspected. -/
theorem inspectionLaw {m : Machine} {paths : List Path}
    (h : ∀ path ∈ paths, FileSystem.isUsable path.toText = true) :
    InspectionLaw m paths (entriesOf m paths) (statusOf m paths) where
  described := by
    rw [entriesOf, List.forall₂_map_right_iff, List.forall₂_same]
    exact fun path _ => (describes_findingAt m path).1
  exits := statusOf_eq_zero_iff
  otherwise := by
    rw [statusOf]
    split
    · exact .inr rfl
    · exact .inl rfl
  printed := perform_inspect h none
  written out after hwritten :=
    (perform_inspect h (some out)).trans (perform_bind_of_gives hwritten _)
  ended programs arguments level hcommand hlevel :=
    perform_run_inspect hcommand hlevel (perform_inspect h none)

/-- Some first name cannot be handed to the system unless all can. -/
theorem exists_first_unusable {paths : List Path}
    (h : ¬∀ path ∈ paths, FileSystem.isUsable path.toText = true) :
    ∃ before path rest f, paths = before ++ path :: rest
      ∧ (∀ p ∈ before, FileSystem.isUsable p.toText = true)
      ∧ ∀ m, (checkName path.toText).FailsWith m f m := by
  induction paths with
  | nil => exact absurd (fun _ hmem => nomatch hmem) h
  | cons path rest ih =>
      cases husable : FileSystem.isUsable path.toText with
      | false =>
          obtain ⟨f, hfails⟩ := exists_checkName_failsWith husable
          exact ⟨[], path, rest, f, rfl, fun _ hmem => (nomatch hmem), hfails⟩
      | true =>
          obtain ⟨before, bad, more, f, rfl, hbefore, hfails⟩ :=
            ih fun hrest => h (List.forall_mem_cons.mpr ⟨husable, hrest⟩)
          exact ⟨path :: before, bad, more, f, rfl,
            List.forall_mem_cons.mpr ⟨husable, hbefore⟩, hfails⟩

/-- **A report is made just when all names can be handed to the system.** -/
theorem inspectionLaw_iff {m : Machine} {paths : List Path} :
    (∃ entries status, InspectionLaw m paths entries status)
      ↔ ∀ path ∈ paths, FileSystem.isUsable path.toText = true := by
  constructor
  · rintro ⟨entries, status, hlaw⟩
    by_contra hunusable
    obtain ⟨before, path, rest, f, rfl, hbefore, hfails⟩ := exists_first_unusable hunusable
    have hended : (inspect (before ++ path :: rest) none).FailsWith m f m :=
      inspect_failsWith hbefore (hfails m) none
    exact nomatch hlaw.printed.symm.trans hended
  · exact fun h => ⟨_, _, inspectionLaw h⟩

/-- **All inspections agree.**  The looks at a content follow one law; a
    path of a regular file yields its content; and an inspection of any
    paths makes an entry of each, in their order, by what they yield, and
    ends with the status zero just when all are read and none is cut off.
    Only a name that cannot be handed to the system keeps an inspection
    from its report: the first of them ends it. -/
theorem inspections_agree (m : Machine) (paths : List Path) (name : Text) (content : Bytes) :
    HeaderLaw name content
      ∧ (∀ (path : Path) (executable : Bool),
        m.files.status? m.here path.toText = .ok (.file content executable) →
        Yields m path content)
      ∧ ((∃ entries status, InspectionLaw m paths entries status)
        ↔ ∀ path ∈ paths, FileSystem.isUsable path.toText = true)
      ∧ ∀ before path rest f, paths = before ++ path :: rest →
        (∀ p ∈ before, FileSystem.isUsable p.toText = true) →
        (checkName path.toText).FailsWith m f m →
        ∀ out, (inspect paths out).FailsWith m f m := by
  refine ⟨headerLaw name content, fun _ _ => yields_of_file, inspectionLaw_iff, ?_⟩
  rintro before path rest f rfl hbefore hfails out
  exact inspect_failsWith hbefore hfails out

/-- A machine with a bytecode file, and with one that is cut off. -/
def bytecodeMachine : Machine :=
  { Build.homeMachine with
    files := .ofEntries [(["home"], .directory),
      (["home", "main.hbc"], .file (magic ++ [96, 0, 0, 0]) false),
      (["home", "cut.hbc"], .file (magic ++ [96]) false)] }

theorem threshold_bytecodeMachine : threshold.Gives bytecodeMachine 30 bytecodeMachine := by
  rfl

/-- The inspections of a whole file and of one that is cut off. -/
theorem inspections_agree_bytecodeMachine :
    ∃ entries status, InspectionLaw bytecodeMachine
        [Path.ofString "/home/main.hbc", Path.ofString "/home/cut.hbc"] entries status
      ∧ status = 1
      ∧ (run Build.localCompiler ["inspect", "/home/main.hbc", "/home/cut.hbc"]).Gives
        bytecodeMachine (.ran ⟨status, line (documentOf entries), []⟩) bytecodeMachine := by
  have hcommand : readCommand ["inspect", "/home/main.hbc", "/home/cut.hbc"]
      = .ok (.inspect [Path.ofString "/home/main.hbc", Path.ofString "/home/cut.hbc"] none) := by
    rfl
  have hfile : bytecodeMachine.files.status? bytecodeMachine.here
      (Path.ofString "/home/cut.hbc").toText = .ok (.file (magic ++ [96]) false) := by
    cbv
  have husable : ∀ path ∈ [Path.ofString "/home/main.hbc", Path.ofString "/home/cut.hbc"],
      FileSystem.isUsable path.toText = true := by decide
  obtain ⟨-, hyields, hinspected, -⟩ := inspections_agree bytecodeMachine
    [Path.ofString "/home/main.hbc", Path.ofString "/home/cut.hbc"] [] (magic ++ [96])
  obtain ⟨entries, status, hlaw⟩ := hinspected.mpr husable
  refine ⟨entries, status, hlaw, ?_, hlaw.ended _ _ 30 hcommand threshold_bytecodeMachine⟩
  obtain hzero | hone := hlaw.otherwise
  · have hwhole := (hlaw.exits.mp hzero).2 _ (by simp) _ (hyields _ _ hfile)
    exact absurd ⟨List.prefix_append .., by decide⟩ hwhole
  · exact hone

/-- A name with a zero in it. -/
def brokenName : Text := [.ofChar 'a', .ofNat 0, .ofChar 'b']

/-- **An inspection of a whole file makes no report** when a name that
    cannot be handed to the system stands next to it. -/
theorem inspection_escapes :
    (run Build.localCompiler ["inspect", "/home/main.hbc", brokenName]).FailsWith bytecodeMachine
        (.invalidValue "embedded null byte") bytecodeMachine := by
  have hcommand : readCommand ["inspect", "/home/main.hbc", brokenName]
      = .ok (.inspect [Path.ofString "/home/main.hbc", Path.ofText brokenName] none) := by
    rfl
  have hname : (checkName (Path.ofText brokenName).toText).FailsWith bytecodeMachine
      (.invalidValue "embedded null byte") bytecodeMachine := by
    rfl
  have hinspect : (inspect [Path.ofString "/home/main.hbc", Path.ofText brokenName] none).FailsWith
      bytecodeMachine (.invalidValue "embedded null byte") bytecodeMachine :=
    @inspect_failsWith _ [Path.ofString "/home/main.hbc"] _ _ _ (by decide) hname none
  exact perform_run_inspect hcommand threshold_bytecodeMachine hinspect

end CommandLine

/-! ## Bytes and their digits -/

namespace CodePoint

/-- The hexadecimal digits in the order of their values. -/
def hexDigits : Text := Text.ofString "0123456789abcdef"

theorem hexValue?_ofHexValue {n : Nat} (h : n < 16) : (ofHexValue n).hexValue? = some n := by
  have hall : ∀ k : Fin 16, (ofHexValue k.val).hexValue? = some k.val := by decide
  exact hall ⟨n, h⟩

theorem ofHexValue_mem_hexDigits {n : Nat} (h : n < 16) : ofHexValue n ∈ hexDigits := by
  have hall : ∀ k : Fin 16, ofHexValue k.val ∈ hexDigits := by decide
  exact hall ⟨n, h⟩

end CodePoint

namespace Bytes

open CodePoint

/-- A byte has a digit for each of its halves. -/
theorem hex_cons (b : UInt8) (rest : Bytes) :
    hex (b :: rest) = ofHexValue (b.toNat / 16) :: ofHexValue (b.toNat % 16) :: hex rest := by
  have hhigh : b.toNat / 16 % 16 = b.toNat / 16 := by
    have hbyte := b.toNat_lt
    omega
  rw [hex, List.flatMap_cons, Text.hex, Text.hex, Text.hex, hhigh]
  rfl

/-- **Bytes come back from their digits.** -/
theorem ofHex?_hex (bytes : Bytes) : ofHex? (hex bytes) = some bytes := by
  induction bytes with
  | nil => rfl
  | cons b rest ih =>
      have hbyte := b.toNat_lt
      have hhalves : 16 * (b.toNat / 16) + b.toNat % 16 = b.toNat := by omega
      rw [hex_cons, ofHex?, hexValue?_ofHexValue (by omega), hexValue?_ofHexValue (by omega), ih]
      show some (UInt8.ofNat (16 * (b.toNat / 16) + b.toNat % 16) :: rest) = some (b :: rest)
      rw [hhalves, UInt8.ofNat_toNat]

theorem length_hex (bytes : Bytes) : (hex bytes).length = 2 * bytes.length := by
  induction bytes with
  | nil => rfl
  | cons b rest ih =>
      rw [hex_cons, List.length_cons, List.length_cons, ih, List.length_cons]
      omega

theorem hex_ne_nil {bytes : Bytes} (h : bytes ≠ []) : hex bytes ≠ [] := by
  obtain ⟨b, rest, rfl⟩ := List.exists_cons_of_ne_nil h
  rw [hex_cons]
  exact List.cons_ne_nil _ _

theorem forall_mem_hex (bytes : Bytes) : ∀ c ∈ hex bytes, c ∈ hexDigits := by
  induction bytes with
  | nil => exact fun _ hc => nomatch hc
  | cons b rest ih =>
      have hbyte := b.toNat_lt
      rw [hex_cons]
      exact List.forall_mem_cons.mpr ⟨ofHexValue_mem_hexDigits (by omega),
        List.forall_mem_cons.mpr ⟨ofHexValue_mem_hexDigits (by omega), ih⟩⟩

/-- The digits of parts in a row are those of the bytes in a row. -/
theorem flatten_map_hex (parts : List Bytes) : (parts.map hex).flatten = hex parts.flatten := by
  induction parts with
  | nil => rfl
  | cons part rest ih =>
      rw [List.map_cons, List.flatten_cons, ih, List.flatten_cons, hex, hex, hex,
        List.flatMap_append]

end Bytes

namespace Bytecode

/-! ## The bytes that are shown -/

/-- Whether bytes are the front of a blob up to a count, which is taken from
    the end of the blob if it is negative and never leaves the blob. -/
structure IsSlice (blob : Bytes) (count : Int) (part : Bytes) : Prop where
  front : part <+: blob
  size : (part.length : Int)
    = if 0 ≤ count then min count blob.length else max 0 (blob.length + count)

theorem isSlice_firstBytes (blob : Bytes) (count : Int) :
    IsSlice blob count (firstBytes blob count) := by
  cases count with
  | ofNat n =>
      refine ⟨List.take_prefix n blob, ?_⟩
      rw [firstBytes, List.length_take, Int.ofNat_eq_natCast, if_pos (Int.natCast_nonneg n)]
      omega
  | negSucc n =>
      refine ⟨List.take_prefix _ blob, ?_⟩
      rw [firstBytes, List.length_take, if_neg (by omega)]
      omega

/-- **There is one slice for a count**, and it is what is shown. -/
theorem isSlice_iff {blob part : Bytes} {count : Int} :
    IsSlice blob count part ↔ part = firstBytes blob count := by
  have hfirst := isSlice_firstBytes blob count
  constructor
  · intro h
    -- fronts of one blob are the same if they are of one size
    have hsize : part.length = (firstBytes blob count).length :=
      Int.ofNat.inj (h.size.trans hfirst.size.symm)
    rw [List.prefix_iff_eq_take.mp h.front, hsize, ← List.prefix_iff_eq_take.mp hfirst.front]
  · rintro rfl
    exact hfirst

/-! ## Groups -/

/-- Whether pieces are of one size, up to the last of them, which may fall
    short but is not empty. -/
structure IsCut {α : Type} (size : Nat) (pieces : List (List α)) : Prop where
  nonempty : ∀ piece ∈ pieces, piece ≠ []
  bounded : ∀ piece ∈ pieces, piece.length ≤ size
  full : ∀ piece ∈ pieces.dropLast, piece.length = size

theorem isCut_nil {α : Type} {size : Nat} : IsCut (α := α) size [] where
  nonempty _ h := nomatch h
  bounded _ h := nomatch h
  full _ h := nomatch h

theorem isCut_single {α : Type} {size : Nat} {piece : List α} (hne : piece ≠ [])
    (hsize : piece.length ≤ size) : IsCut size [piece] where
  nonempty := List.forall_mem_singleton.mpr hne
  bounded := List.forall_mem_singleton.mpr hsize
  full _ h := nomatch h

theorem IsCut.cons {α : Type} {size : Nat} {piece : List α} {pieces : List (List α)}
    (hne : piece ≠ []) (hsize : piece.length = size) (h : IsCut size pieces) :
    IsCut size (piece :: pieces) where
  nonempty := List.forall_mem_cons.mpr ⟨hne, h.nonempty⟩
  bounded := List.forall_mem_cons.mpr ⟨Nat.le_of_eq hsize, h.bounded⟩
  full := by
    cases pieces with
    | nil => exact fun _ hmem => nomatch hmem
    | cons next rest =>
        rw [List.dropLast_cons_cons]
        exact List.forall_mem_cons.mpr ⟨hsize, h.full⟩

theorem groups_cons (b : UInt8) (rest : Bytes) :
    groups (b :: rest) = (b :: rest).take 8 :: groups ((b :: rest).drop 8) := by
  rw [groups]
  rfl

/-- **The groups of bytes** are the bytes, none lost and none repeated. -/
theorem flatten_groups (bytes : Bytes) : (groups bytes).flatten = bytes := by
  induction bytes using groups.induct with
  | case1 => rw [groups, List.flatten_nil]
  | case2 b rest ih =>
      rw [groups_cons, List.flatten_cons]
      exact (congrArg (_ ++ ·) ih).trans (List.take_append_drop 8 (b :: rest))

/-- **Only the last group may fall short** of eight bytes. -/
theorem isCut_groups (bytes : Bytes) : IsCut 8 (groups bytes) := by
  induction bytes using groups.induct with
  | case1 =>
      rw [groups]
      exact isCut_nil
  | case2 b rest ih =>
      rw [groups_cons]
      have hne : (b :: rest).take 8 ≠ [] := List.cons_ne_nil _ _
      -- behind a group that falls short nothing is left, so it is the last one
      obtain hshort | hfull := Nat.lt_or_ge (b :: rest).length 8
      · have hnone : (b :: rest).drop 8 = [] := List.drop_eq_nil_of_le (Nat.le_of_lt hshort)
        rw [hnone, groups]
        exact isCut_single hne (List.length_take_le 8 _)
      · exact .cons hne (List.length_take_of_le hfull) ih

/-- Digits are grouped as their bytes are, two for each. -/
theorem IsCut.map_hex {size : Nat} {parts : List Bytes} (h : IsCut size parts) :
    IsCut (2 * size) (parts.map Bytes.hex) where
  nonempty := List.forall_mem_map.mpr fun part hpart => Bytes.hex_ne_nil (h.nonempty part hpart)
  bounded := List.forall_mem_map.mpr fun part hpart => by
    rw [Bytes.length_hex]
    exact Nat.mul_le_mul_left 2 (h.bounded part hpart)
  full := by
    rw [← List.map_dropLast]
    exact List.forall_mem_map.mpr fun part hpart => by rw [Bytes.length_hex, h.full part hpart]

/-! ## Previews -/

/-- What stands between two groups. -/
def space : CodePoint := .ofChar ' '

/-- Whether a text shows bytes: groups of sixteen digits, of which the last
    may fall short, with one space between two of them; and the digits are
    those of the bytes. -/
structure Shows (t : Text) (bytes : Bytes) : Prop where
  grouped : ∃ pieces, t = Text.join [space] pieces ∧ IsCut 16 pieces
    ∧ ∀ piece ∈ pieces, ∀ c ∈ piece, c ∈ CodePoint.hexDigits
  decoded : Bytes.ofHex? (t.filter (· ≠ space)) = some bytes

/-- A preview shows the bytes that it is made of. -/
theorem preview_shows (blob : Bytes) (count : Int) :
    Shows (preview blob count) (firstBytes blob count) := by
  have hdigits : ∀ piece ∈ (groups (firstBytes blob count)).map Bytes.hex,
      ∀ c ∈ piece, c ∈ CodePoint.hexDigits :=
    List.forall_mem_map.mpr fun part _ => Bytes.forall_mem_hex part
  have hspace : space ∉ CodePoint.hexDigits := by decide
  constructor
  · exact ⟨_, rfl, (isCut_groups _).map_hex, hdigits⟩
  · have hdropped : (preview blob count).filter (· ≠ space) = Bytes.hex (firstBytes blob count) :=
      calc (preview blob count).filter (· ≠ space)
          = ((groups (firstBytes blob count)).map Bytes.hex).flatten :=
            Text.filter_join fun piece hpiece hmem => hspace (hdigits piece hpiece space hmem)
        _ = Bytes.hex (groups (firstBytes blob count)).flatten := Bytes.flatten_map_hex _
        _ = Bytes.hex (firstBytes blob count) := by rw [flatten_groups]
    rw [hdropped, Bytes.ofHex?_hex]

/-- **A preview loses nothing of its slice.**  For any blob and any count,
    one slice of the blob ends at the count, and the preview shows it. -/
theorem preview_lossless (blob : Bytes) (count : Int) :
    ∃ shown, (∀ part, IsSlice blob count part ↔ part = shown)
      ∧ Shows (preview blob count) shown :=
  ⟨firstBytes blob count, fun _ => isSlice_iff, preview_shows blob count⟩

/-- The last byte is left out, and nine make a group and one more. -/
example : preview (magic ++ [96, 0]) (-1) = Text.ofString "c61fbc03c103191f 60" := by cbv

end Bytecode

end HermesBundle
