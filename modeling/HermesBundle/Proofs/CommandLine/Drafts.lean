import HermesBundle.CommandLine.Report
import HermesBundle.Proofs.Build.Outcome
import HermesBundle.Proofs.Build.Traces

/-! # Drafts — what a build command has before it writes

    A build command reads its inputs, builds, and settles where its outputs
    go; then it publishes the bytecode, publishes the map, and says what it
    has done (`build_eq`).  Whatever it does before the first output is
    published spares the files (`draft_sparesFiles`), and saying something
    leaves them alone (`announce_leavesFiles`).  So a command can change a
    file only by publishing. -/

namespace HermesBundle

open HermesBundle.Action FileSystem

/-- Whether a machine has the files of another one, and stands where that
    stands. -/
structure Machine.Resembles (after m : Machine) : Prop where
  files : after.files = m.files
  here : after.here = m.here

theorem Machine.Resembles.trans {m middle after : Machine} (h : after.Resembles middle)
    (hm : middle.Resembles m) : after.Resembles m :=
  ⟨h.files.trans hm.files, h.here.trans hm.here⟩

theorem Action.LeavesFiles.of_perform {α : Type} {x : Action α} (h : LeavesFiles x)
    {m after : Machine} {outcome : Except Failure α} (hperform : x.perform m = (outcome, after)) :
    after.Resembles m := by
  obtain ⟨hfiles, hhere⟩ := h m
  rw [hperform] at hfiles hhere
  exact ⟨hfiles, hhere⟩

/-! ## Finding the project -/

namespace Project

theorem holds_leavesFiles (directory : Path) (name : String) :
    LeavesFiles (holds directory name) := .leadsTo _ _

theorem searchRoot_leavesFiles (underControl : Option Path) (candidates : List Path) :
    LeavesFiles (searchRoot underControl candidates) := by
  induction candidates generalizing underControl with
  | nil => exact .pure _
  | cons candidate rest ih =>
      refine .bind (holds_leavesFiles _ _) fun isRoot => ?_
      split
      · exact .pure _
      · split
        · exact ih _
        · refine .bind (holds_leavesFiles _ _) fun isControlled => ?_
          split
          · exact ih _
          · exact ih _

theorem rootAbove_leavesFiles (start : Path) : LeavesFiles (rootAbove start) := by
  intro m
  unfold rootAbove
  rw [perform_bind, perform_get]
  dsimp only
  split
  · exact ⟨rfl, rfl⟩
  · refine LeavesFiles.bind (searchRoot_leavesFiles _ _) (fun found => ?_) m
    split
    · exact fun _ => ⟨rfl, rfl⟩
    · exact .throw _

theorem findRoot_leavesFiles (start : Option Path) : LeavesFiles (findRoot start) := by
  have habove : ∀ path, LeavesFiles (resolve path >>= rootAbove) := fun path =>
    .bind (.resolve path) rootAbove_leavesFiles
  cases start with
  | some path => exact habove path
  | none => exact .bind .currentDirectory fun here => .bind (.pure _) habove

theorem relative_leavesFiles (path : Path) (root : Option Path) :
    LeavesFiles (relative path root) := by
  have hfrom : ∀ resolved start, LeavesFiles (do
      let base ← resolve start
      pure (relativeTo base resolved)) := fun resolved start =>
    .bind (.resolve start) fun _ => .pure _
  cases root with
  | some root => exact .bind (.resolve _) fun resolved => .bind (.pure root) (hfrom resolved)
  | none =>
      exact .bind (.resolve _) fun resolved => .bind (findRoot_leavesFiles none) (hfrom resolved)

end Project

namespace CommandLine

theorem projectRoot_leavesFiles (given start : Option Path) :
    LeavesFiles (projectRoot given start) := by
  unfold projectRoot
  split
  · exact .pure _
  · refine .bind (.attempt (Project.findRoot_leavesFiles _)) fun found => ?_
    split
    · exact .pure _
    · exact .throw _
    · exact .throw _

theorem renamed_leavesFiles (p : Path) (q : Option Path) : LeavesFiles (renamed p q) := by
  unfold renamed
  split
  · exact .pure _
  · exact .throw _

/-! ## The stages of a build command -/

/-- What a build command has before it writes anything. -/
structure Draft where
  root : Path
  result : Build.Result
  out : Path
  mapOut : Path

/-- The path of the bytecode: the given one, or that of the bundle with
    another suffix. -/
def bytecodePath (bundle : Path) (out : Option Path) : Action Path :=
  match out with
  | some out => pure out
  | none => renamed bundle (bundle.withSuffix? ".hbc")

/-- The path of the map: the given one, or one next to the bytecode. -/
def mapPath (out : Path) (mapOut : Option Path) : Action Path :=
  match mapOut with
  | some mapOut => pure mapOut
  | none => renamed out (out.withName? (out.name ++ Text.ofString ".map"))

/-- The map of the bundler. -/
def bundlerMap (sourceMap : Option Path) : Action Text :=
  match sourceMap with
  | some path => Action.readText path.toText
  | none => throw (.misuse .noMembers)

/-- Everything up to the first output. -/
def draft (programs : Build.Programs) (bundle : Path)
    (sourceMap project out mapOut : Option Path) (optimize : Bool) : Action Draft := do
  let resolved ← Action.resolve bundle
  let root ← projectRoot project (some resolved.parent)
  let code ← Action.readBytes bundle.toText
  let text ← bundlerMap sourceMap
  Action.record .debug "asyncio" (Text.ofString "Using selector: EpollSelector")
  let result ← Build.run programs ⟨⟨root, .bytes code, text, optimize⟩, none, none, none⟩
  let out ← bytecodePath bundle out
  let mapOut ← mapPath out mapOut
  return ⟨root, result, out, mapOut⟩

/-- Makes the directory of a file, and writes the file. -/
def publish (path : Path) (content : Bytes) : Action Unit := do
  Action.ensureDirectory path.parent
  Action.writeBytes path.toText content

/-- Writes the bytecode. -/
def Draft.publishBytecode (d : Draft) : Action Unit := publish d.out d.result.bytecode

/-- Writes the map. -/
def Draft.publishMap (d : Draft) : Action Unit := do
  Action.ensureDirectory d.mapOut.parent
  Action.writeText d.mapOut.toText d.result.sourceMap

/-- Says what has been written. -/
def Draft.announce (d : Draft) (bundle : Path) : Action (Nat × Text) := do
  let shownOut ← Project.relative d.out (some d.root)
  let shownBundle ← Project.relative bundle (some d.root)
  let first := Text.ofString "[+] " ++ shownBundle ++ Text.ofString " -> " ++ shownOut
    ++ Text.ofString " (len=" ++ Text.ofNat d.result.bytecode.length
    ++ Text.ofString ", version=" ++ shownVersion d.result.bytecode
    ++ Text.ofString ") preview: " ++ Bytecode.preview d.result.bytecode Bytecode.previewSize
  let shownMap ← Project.relative d.mapOut (some d.root)
  return (0, line first ++ line (Text.ofString "[+] wrote " ++ shownMap))

/-- Everything from the first output on. -/
def Draft.finish (d : Draft) (bundle : Path) : Action (Nat × Text) := do
  d.publishBytecode
  d.publishMap
  d.announce bundle

/-- A build command drafts its outputs, publishes them and says so. -/
theorem build_eq (programs : Build.Programs) (bundle : Path)
    (sourceMap project out mapOut : Option Path) (optimize : Bool) :
    build programs bundle sourceMap project out mapOut optimize = (do
      let d ← draft programs bundle sourceMap project out mapOut optimize
      d.finish bundle) := by
  unfold build draft Draft.finish Draft.publishBytecode publish Draft.publishMap Draft.announce
    bytecodePath mapPath bundlerMap
  -- Once it is known which options are given, no choice stands between the steps.
  cases sourceMap <;> cases out <;> cases mapOut <;> simp only [bind_assoc, pure_bind]

/-- Whether the outputs go where the options say: to the given paths, or to
    those that follow from the path of the bundle. -/
structure Draft.IsNamedBy (d : Draft) (bundle : Path) (out mapOut : Option Path) : Prop where
  out : out = some d.out ∨ out = none ∧ bundle.withSuffix? ".hbc" = some d.out
  mapOut : mapOut = some d.mapOut
    ∨ mapOut = none ∧ d.out.withName? (d.out.name ++ Text.ofString ".map") = some d.mapOut

/-- Whether what is to be published has been built from the inputs: from
    the bundle's bytes and the map's text, on a machine that has the files
    on which the command began. -/
inductive Draft.IsBuilt (programs : Build.Programs) (bundle : Path) (sourceMap : Option Path)
    (optimize : Bool) (m : Machine) (d : Draft) : Prop where
  | fromInputs {path : Path} {code bytes : Bytes} {text : Text} {began : Machine} :
      sourceMap = some path →
      m.files.readFile m.here bundle.toText = .ok code →
      m.files.readFile m.here path.toText = .ok bytes →
      Utf8.decode? bytes = some text →
      began.Resembles m →
      Build.Succeeds programs
        ⟨⟨d.root, .bytes code, text.unifyNewlines, optimize⟩, none, none, none⟩ began d.result →
      IsBuilt programs bundle sourceMap optimize m d

theorem renamed_gives {p path : Path} {q : Option Path} {m after : Machine}
    (h : (renamed p q).Gives m path after) : q = some path := by
  cases q with
  | none => exact nomatch h
  | some q =>
      obtain ⟨rfl, -⟩ := gives_pure.mp h
      rfl

/-- What has been read is what the files hold. -/
theorem readBytes_gives {path : Text} {content : Bytes} {m after : Machine}
    (h : (Action.readBytes path).Gives m content after) :
    m.files.readFile m.here path = .ok content := by
  obtain ⟨_, middle, hname, -⟩ := gives_bind.mp h
  obtain ⟨husable, -⟩ := checkName_gives_iff.mp hname
  have hread := congrArg Prod.fst (h.symm.trans (perform_readBytes husable m))
  cases hfile : m.files.readFile m.here path with
  | ok bytes =>
      rw [hfile] at hread
      rw [Except.ok.inj hread]
  | error e =>
      rw [hfile] at hread
      exact nomatch hread

theorem readText_gives {path text : Text} {m after : Machine}
    (h : (Action.readText path).Gives m text after) :
    ∃ bytes t, m.files.readFile m.here path = .ok bytes ∧ Utf8.decode? bytes = some t
      ∧ text = t.unifyNewlines := by
  obtain ⟨bytes, middle, hbytes, htext⟩ := gives_bind.mp h
  have hread := readBytes_gives hbytes
  split at htext
  · rename_i t hdecoded
    obtain ⟨rfl, -⟩ := gives_pure.mp htext
    exact ⟨bytes, t, hread, hdecoded, rfl⟩
  · exact nomatch htext

section Drafts

variable {programs : Build.Programs} {bundle : Path} {sourceMap project out mapOut : Option Path}
  {optimize : Bool} {m drafted : Machine} {d : Draft}

/-- **What has been drafted has been built from the inputs**, and its
    outputs go where the options say. -/
theorem draft_gives (h : (draft programs bundle sourceMap project out mapOut optimize).Gives m d
    drafted) : d.IsBuilt programs bundle sourceMap optimize m ∧ d.IsNamedBy bundle out mapOut := by
  obtain ⟨resolved, looked, hresolved, h⟩ := gives_bind.mp h
  obtain ⟨root, rooted, hroot, h⟩ := gives_bind.mp h
  obtain ⟨code, coded, hcode, h⟩ := gives_bind.mp h
  obtain ⟨text, mapped, htext, h⟩ := gives_bind.mp h
  obtain ⟨_, began, hbegan, h⟩ := gives_bind.mp h
  obtain ⟨result, built, hbuilt, h⟩ := gives_bind.mp h
  obtain ⟨bytecodeAt, named, hout, h⟩ := gives_bind.mp h
  obtain ⟨mapAt, _, hmapOut, h⟩ := gives_bind.mp h
  obtain ⟨rfl, -⟩ := gives_pure.mp h
  have hlooked := (LeavesFiles.resolve bundle).of_perform hresolved
  have hrooted := ((projectRoot_leavesFiles _ _).of_perform hroot).trans hlooked
  have hcoded := ((LeavesFiles.readBytes _).of_perform hcode).trans hrooted
  constructor
  · have hread := readBytes_gives hcode
    cases sourceMap with
    | none => exact nomatch htext
    | some path =>
        obtain ⟨bytes, t, hbytes, hdecoded, rfl⟩ := readText_gives htext
        have hmapped := ((LeavesFiles.readText _).of_perform htext).trans hcoded
        have hready := ((LeavesFiles.record _ _ _).of_perform hbegan).trans hmapped
        rw [hrooted.files, hrooted.here] at hread
        rw [hcoded.files, hcoded.here] at hbytes
        exact .fromInputs rfl hread hbytes hdecoded hready
          (Build.succeeds_of_course ((Build.run_iff rfl).mp hbuilt))
  · constructor
    · cases out with
      | some out =>
          obtain ⟨rfl, -⟩ := gives_pure.mp hout
          exact .inl rfl
      | none => exact .inr ⟨rfl, renamed_gives hout⟩
    · cases mapOut with
      | some mapOut =>
          obtain ⟨rfl, -⟩ := gives_pure.mp hmapOut
          exact .inl rfl
      | none => exact .inr ⟨rfl, renamed_gives hmapOut⟩

end Drafts

/-- The draft spares the files. -/
theorem draft_sparesFiles {programs : Build.Programs} (hcontained : Build.IsContained programs)
    (bundle : Path) (sourceMap project out mapOut : Option Path) (optimize : Bool) :
    SparesFiles (draft programs bundle sourceMap project out mapOut optimize) := by
  refine .bind (LeavesFiles.resolve bundle).sparesFiles fun resolved => ?_
  refine .bind (projectRoot_leavesFiles _ _).sparesFiles fun root => ?_
  refine .bind (LeavesFiles.readBytes _).sparesFiles fun code => ?_
  have hmap : LeavesFiles (bundlerMap sourceMap) := by
    unfold bundlerMap
    split
    · exact .readText _
    · exact .throw _
  have hnames : ∀ result, LeavesFiles (do
      let out ← bytecodePath bundle out
      let mapOut ← mapPath out mapOut
      return (⟨root, result, out, mapOut⟩ : Draft)) := by
    intro result
    refine .bind ?_ fun out => .bind ?_ fun mapOut => .pure _
    · unfold bytecodePath
      split
      · exact .pure _
      · exact renamed_leavesFiles _ _
    · unfold mapPath
      split
      · exact .pure _
      · exact renamed_leavesFiles _ _
  refine .bind hmap.sparesFiles fun text => .bind (LeavesFiles.record _ _ _).sparesFiles fun _ => ?_
  exact .bind (Build.run_sparesFiles hcontained rfl rfl) fun result => (hnames result).sparesFiles

theorem announce_leavesFiles (d : Draft) (bundle : Path) : LeavesFiles (d.announce bundle) :=
  .bind (Project.relative_leavesFiles _ _) fun _ =>
    .bind (Project.relative_leavesFiles _ _) fun _ =>
      .bind (Project.relative_leavesFiles _ _) fun _ => .pure _

end CommandLine

end HermesBundle
