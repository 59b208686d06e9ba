import HermesBundle.Proofs.CommandLine.Drafts
import HermesBundle.Proofs.Json.Encoding

/-! # Publication — what a build command leaves

    To publish is to make directories and then to write a file
    (`Published`).  Afterwards the path leads to what has been published,
    unless it leads to a device (`Published.delivers`), and every other path
    leads where it led, unless it leads to the same file
    (`Published.leadsTo`).

    A command line reports how its command has ended (`run_cases`).  A build
    command publishes the bytecode first and the map after it.  If it fails
    before, nothing but directories is left; if it fails between the two or
    after them, what has been published stays (`leftover_of_failed`).
    Nothing takes the bytecode back when there is no place for the map
    (`bytecode_left_without_map`).

    A build command that ends with status 0 has published both.  The map is
    there; the bytecode is there too, unless its path leads to the same file
    as that of the map, which is written last; and every other path leads to
    what it led to, the inputs included, unless it leads to one of the two
    files (`delivered_of_run`).  Where a path leads to a device, nothing is
    kept.  The exceptions are real: nothing keeps the paths apart, so that a
    command can succeed and leave the map in place of both its bytecode and
    its bundle (`bundle_replaced_by_map`). -/

namespace HermesBundle

open HermesBundle.Action FileSystem

/-! ## Where paths lead -/

namespace Machine

/-- Whether a path leads to a file with a content. -/
def HasFile (m : Machine) (path : Path) (content : Bytes) : Prop :=
  ∃ place executable,
    m.files.locate m.here .target path.toText = .ok (.found place (.file content executable))

/-- Whether a path leads to a device. -/
def HasDevice (m : Machine) (path : Path) : Prop :=
  ∃ place device,
    m.files.locate m.here .target path.toText = .ok (.found place (.device device))

/-- Whether two paths lead to the same file, by one of its names or by
    two. -/
def HaveSameFile (m : Machine) (p q : Path) : Prop :=
  ∃ place other content executable, place ∈ m.files.locationsOf other
    ∧ m.files.locate m.here .target p.toText = .ok (.found place (.file content executable))
    ∧ m.files.locate m.here .target q.toText = .ok (.found other (.file content executable))

variable {m after : Machine} {path : Path} {content : Bytes}

theorem HasFile.of_spares (h : m.HasFile path content) (hafter : after.Spares m) :
    after.HasFile path content := by
  obtain ⟨place, executable, hlocate⟩ := h
  rw [← hafter.here] at hlocate
  exact ⟨place, executable, hafter.files.kept.locate hlocate⟩

theorem HasDevice.of_spares (h : m.HasDevice path) (hafter : after.Spares m) :
    after.HasDevice path := by
  obtain ⟨place, device, hlocate⟩ := h
  rw [← hafter.here] at hlocate
  exact ⟨place, device, hafter.files.kept.locate hlocate⟩

end Machine

/-! ## Publishing -/

/-- What comes of publishing a content at a path: directories are made, at
    most, and the content is written. -/
inductive Published (path : Path) (content : Bytes) (m after : Machine) : Prop where
  | written {files : FileSystem} {place : Location} {e : Entry} :
      m.files.Grown files → Written files m.here path.toText content place e after.files →
      after.here = m.here → Published path content m after

/-- What resembles the machine afterwards will do as well. -/
theorem Published.of_resembles {path : Path} {content : Bytes} {m mapped after : Machine}
    (h : Published path content m mapped) (hsame : after.Resembles mapped) :
    Published path content m after := by
  obtain ⟨hgrown, hwritten, hhere⟩ := h
  rw [← hsame.files] at hwritten
  exact .written hgrown hwritten (hsame.here.trans hhere)

section Published

open HermesBundle.Build

variable {path p q : Path} {content : Bytes} {m after : Machine} {l : Location} {e : Entry}
  (hm : HasNames m) (h : Published path content m after)

include hm h

/-- What was a file is one, and all else is there. -/
theorem Published.covers : after.files.Covers m.files := by
  obtain ⟨hgrown, hwritten, -⟩ := h
  exact (hwritten.covers (hgrown.hasTwins hm.1)).trans hgrown.extends.covers

theorem Published.hasNames : HasNames after := by
  have hcovers := h.covers hm
  obtain ⟨hgrown, hwritten, hhere⟩ := h
  refine ⟨hwritten.hasTwins (hgrown.hasTwins hm.1), ?_⟩
  rw [hhere]
  exact hcovers.settle hm.2

/-- **What has been published is there**, or has gone to a device. -/
theorem Published.delivers : after.HasFile path content ∨ after.HasDevice path := by
  obtain ⟨hgrown, hwritten, hhere⟩ := h
  have hlocate := hwritten.locate (hgrown.hasTwins hm.1)
  rw [← hhere] at hlocate
  rcases hwritten.kind with ⟨_, rfl⟩ | ⟨_, rfl⟩
  · exact .inl ⟨_, _, hlocate⟩
  · exact .inr ⟨_, _, hlocate⟩

/-- **A path leads where it led, unless it leads to what has been
    published.** -/
theorem Published.leadsTo (hp : m.files.locate m.here .target p.toText = .ok (.found l e)) :
    after.files.locate after.here .target p.toText = .ok (.found l e)
      ∨ after.HaveSameFile p path := by
  obtain ⟨hgrown, hwritten, hhere⟩ := h
  have htwins := hgrown.hasTwins hm.1
  unfold Machine.HaveSameFile
  rw [hhere]
  rcases hwritten.leadsTo htwins (hgrown.extends.locate hp) with
    hkept | ⟨⟨_, _, rfl⟩, hname, hchanged⟩
  · exact .inl hkept
  · exact .inr ⟨l, _, _, _, hname, hchanged, hwritten.locate htwins⟩

/-- Paths to the same file still lead to the same file. -/
theorem Published.haveSameFile (hpq : m.HaveSameFile p q) : after.HaveSameFile p q := by
  have hcovers := h.covers hm
  have htwins := (h.hasNames hm).1
  obtain ⟨place, other, _, _, hname, hp, hq⟩ := hpq
  obtain ⟨hgrown, hwritten, hhere⟩ := h
  rw [← hhere] at hp hq
  obtain ⟨e, hp, hfile⟩ := hcovers.locate hp
  obtain ⟨e', hq, hfile'⟩ := hcovers.locate hq
  rw [← hgrown.locationsOf, ← hwritten.locationsOf] at hname
  obtain ⟨content, executable, rfl⟩ := hfile.exists_file
  obtain ⟨content', executable', rfl⟩ := hfile'.exists_file
  have hsame := htwins.agree _ _ hname
  rw [entry?_of_locate hp (fun h => nomatch h), entry?_of_locate hq (fun h => nomatch h)] at hsame
  obtain ⟨rfl, rfl⟩ := Entry.file.inj (Option.some.inj hsame)
  exact ⟨place, other, _, _, hname, hp, hq⟩

end Published

namespace CommandLine

/-! ## How a command line ends -/

/-- Whether a failure is printed as a complaint. -/
def isComplaint : Failure → Bool
  | .build _ => true
  | .system _ => true
  | _ => false

/-- What is reported of how a command has ended: its status and what it has
    printed, or status 2 and a complaint; other failures escape. -/
inductive Reports : Except Failure (Nat × Text) → Except Failure Ending → Prop where
  | printed (exit : Nat) (out err : Text) : Reports (.ok (exit, out)) (.ok (.ran ⟨exit, out, err⟩))
  | complained {f : Failure} (err : Text) :
      isComplaint f = true → Reports (.error f) (.ok (.ran ⟨2, [], err⟩))
  | escaped {f : Failure} : isComplaint f = false → Reports (.error f) (.error f)

/-- The level from which on records are printed, as the settings of a
    machine have it. -/
def threshold : Action Nat := do
  let settings ← Settings.current
  Action.ofExcept id (logThreshold settings.logLevel)

/-- Looking at the settings changes nothing. -/
theorem threshold_keeps (m : Machine) : (threshold.perform m).2 = m := by
  unfold threshold Settings.current environmentValue
  simp only [perform_bind, perform_get, perform_pure, perform_ofExcept]
  cases Settings.load (m.environment.find? (Text.ofString "HOME")) m.environment m.accounts <;> rfl

/-- A command line that asks for a command ends before the command begins,
    for want of settings, or reports how the command has ended. -/
theorem run_cases {programs : Build.Programs} {arguments : List Text} {command : Command}
    {m after : Machine} {outcome : Except Failure Ending}
    (hcommand : readCommand arguments = .ok command)
    (hrun : (run programs arguments).perform m = (outcome, after)) :
    (∃ f, threshold.FailsWith m f m ∧ outcome = .error f ∧ after = m)
      ∨ ∃ result, (perform programs command).perform m = (result, after)
        ∧ Reports result outcome := by
  have hthreshold : threshold
      = (do
        let settings ← Settings.current
        Action.ofExcept id (logThreshold settings.logLevel)) := rfl
  unfold run at hrun
  rw [hcommand, ← bind_assoc, ← hthreshold] at hrun
  rcases gives_or_failsWith threshold m with ⟨level, middle, hgives⟩ | ⟨f, left, hfails⟩
  · obtain rfl : m = middle := (threshold_keeps m).symm.trans (congrArg Prod.snd hgives)
    rw [perform_bind_of_gives hgives] at hrun
    simp only [perform_bind, perform_get, perform_attempt] at hrun
    generalize hperform : (perform programs command).perform m = ended at hrun
    obtain ⟨result, left⟩ := ended
    refine .inr ⟨result, ?_⟩
    dsimp only at hrun
    split at hrun
    · obtain ⟨rfl, rfl⟩ := Prod.mk.inj hrun
      exact ⟨rfl, .printed ..⟩
    · obtain ⟨rfl, rfl⟩ := Prod.mk.inj hrun
      exact ⟨rfl, .complained _ rfl⟩
    · obtain ⟨rfl, rfl⟩ := Prod.mk.inj hrun
      exact ⟨rfl, .complained _ rfl⟩
    · rename_i f hbuild hsystem
      obtain ⟨rfl, rfl⟩ := Prod.mk.inj hrun
      refine ⟨rfl, .escaped ?_⟩
      cases f with
      | build e => exact (hbuild e rfl).elim
      | system e => exact (hsystem e rfl).elim
      | _ => rfl
  · obtain rfl : m = left := (threshold_keeps m).symm.trans (congrArg Prod.snd hfails)
    obtain ⟨rfl, rfl⟩ := Prod.mk.inj ((perform_bind_of_failsWith hfails _).symm.trans hrun)
    exact .inl ⟨f, hfails, rfl, rfl⟩

section Reported

variable {programs : Build.Programs} {arguments : List Text} {command : Command}
  {m after : Machine} {level : Nat} (hcommand : readCommand arguments = .ok command)
  (hlevel : threshold.Gives m level m)

include hcommand hlevel

/-- Where there are settings, it is reported how the command has ended. -/
theorem run_reports {result : Except Failure (Nat × Text)}
    (hperform : (perform programs command).perform m = (result, after)) :
    ∃ outcome, (run programs arguments).perform m = (outcome, after) ∧ Reports result outcome := by
  cases hrun : (run programs arguments).perform m with
  | mk outcome left =>
      rcases run_cases hcommand hrun with ⟨f, hfails, -⟩ | ⟨result', hresult, hreports⟩
      · exact nomatch hlevel.symm.trans hfails
      · obtain ⟨rfl, rfl⟩ := Prod.mk.inj (hperform.symm.trans hresult)
        exact ⟨outcome, rfl, hreports⟩

/-- A complaint is reported with status 2. -/
theorem run_of_complaint {f : Failure} (hperform : (perform programs command).FailsWith m f after)
    (hf : isComplaint f = true) :
    ∃ err, (run programs arguments).perform m = (.ok (.ran ⟨2, [], err⟩), after) := by
  obtain ⟨outcome, hrun, hreports⟩ := run_reports hcommand hlevel hperform
  cases hreports with
  | complained err _ => exact ⟨err, hrun⟩
  | escaped hescapes => exact nomatch hf.symm.trans hescapes

/-- A command that ends with a status reports it. -/
theorem run_of_gives {exit : Nat} {shown : Text}
    (hperform : (perform programs command).Gives m (exit, shown) after) :
    ∃ err, (run programs arguments).perform m = (.ok (.ran ⟨exit, shown, err⟩), after) := by
  obtain ⟨outcome, hrun, hreports⟩ := run_reports hcommand hlevel hperform
  cases hreports with
  | printed exit shown err => exact ⟨err, hrun⟩

end Reported

/-! ## Publishing as an action -/

section Publishing

variable {path : Path} {content : Bytes} {m after : Machine} {f : Failure}

theorem publish_gives (hm : m.files.settle m.here = m.here)
    (h : (publish path content).Gives m () after) : Published path content m after := by
  obtain ⟨_, middle, hensured, hwrote⟩ := gives_bind.mp h
  have hgrows := Grows.ensureDirectory path.parent m
  rw [hensured] at hgrows
  obtain ⟨hgrown, hhere⟩ := hgrows
  have hsettled : middle.files.settle middle.here = middle.here := by
    rw [hhere]
    exact settle_of_extends hm hgrown.extends
  rcases writeBytes_cases path.toText content middle with ⟨files, hfiles, hgives⟩ | ⟨f, hfails⟩
  · obtain ⟨-, rfl⟩ := hwrote.unique hgives
    obtain ⟨place, e, hwritten⟩ := written_of_writeFile hsettled hfiles
    rw [hhere] at hwritten
    exact .written hgrown hwritten hhere
  · exact nomatch hwrote.symm.trans hfails

/-- Publishing that fails spares the files. -/
theorem spares_of_publish (h : (publish path content).FailsWith m f after) : after.Spares m := by
  have hgrows := Grows.ensureDirectory path.parent m
  rcases failsWith_bind.mp h with hensured | ⟨_, middle, hensured, hwrote⟩
  · rw [hensured] at hgrows
    exact ⟨hgrows.1.spares, hgrows.2⟩
  · rw [hensured] at hgrows
    rcases writeBytes_cases path.toText content middle with ⟨files, -, hgives⟩ | ⟨f', hfails⟩
    · exact nomatch hwrote.symm.trans hgives
    · obtain ⟨-, rfl⟩ := Prod.mk.inj (hwrote.symm.trans hfails)
      exact ⟨hgrows.1.spares, hgrows.2⟩

end Publishing

/-- **The map that has been built has bytes**, so it can be written. -/
theorem Draft.IsBuilt.exists_bytes {programs : Build.Programs} {bundle : Path}
    {sourceMap : Option Path} {optimize : Bool} {m : Machine} {d : Draft}
    (h : d.IsBuilt programs bundle sourceMap optimize m) :
    ∃ bytes, Utf8.encode? d.result.sourceMap = some bytes := by
  obtain ⟨-, -, -, -, -, hsucceeds⟩ := h
  cases d with
  | mk root result out mapOut =>
      cases hsucceeds with
      | all _ _ _ _ _ _ _ _ _ hwritten _ =>
          exact Option.isSome_iff_exists.mp (Json.encode?_dump hwritten)

/-! ## Commands that fail -/

section Failing

variable (programs : Build.Programs) (bundle : Path) (sourceMap out mapOut : Option Path)
  (optimize : Bool) (m : Machine)

/-- What a build command that fails leaves behind. -/
inductive Leftover (after : Machine) : Prop where
  /-- Nothing but directories. -/
  | nothing : after.Spares m → Leftover after
  /-- The bytecode, when the map cannot be published. -/
  | bytecode {d : Draft} {drafted published : Machine} {f : Failure} :
      d.IsBuilt programs bundle sourceMap optimize m → d.IsNamedBy bundle out mapOut →
      drafted.Spares m → Published d.out d.result.bytecode drafted published →
      d.publishMap.FailsWith published f after → after.Spares published →
      after.HasFile d.out d.result.bytecode ∨ after.HasDevice d.out → Leftover after
  /-- Both, when what has been done cannot be shown. -/
  | both {d : Draft} {drafted published mapped : Machine} {bytes : Bytes} {f : Failure} :
      d.IsBuilt programs bundle sourceMap optimize m → d.IsNamedBy bundle out mapOut →
      drafted.Spares m → Published d.out d.result.bytecode drafted published →
      Utf8.encode? d.result.sourceMap = some bytes → Published d.mapOut bytes published mapped →
      (d.announce bundle).FailsWith mapped f after → after.Resembles mapped →
      after.HasFile d.mapOut bytes ∨ after.HasDevice d.mapOut → Leftover after

end Failing

section Failing

variable {programs : Build.Programs} {arguments : List Text} {bundle : Path}
  {sourceMap project out mapOut : Option Path} {optimize : Bool} {m after : Machine}

/-- A draft leaves directories behind, at most, and files with their names
    together. -/
theorem draft_keeps (hcontained : Build.IsContained programs) (hm : m.IsSound)
    (htwins : m.files.HasTwins) {d : Draft}
    (h : (draft programs bundle sourceMap project out mapOut optimize).Gives m d after) :
    after.Spares m ∧ Build.HasNames after := by
  have hspares := (draft_sparesFiles hcontained bundle sourceMap project out mapOut
    optimize).of_perform hm h
  exact ⟨hspares, hspares.files.twins htwins, (hspares.isSound hm).settled⟩

theorem publishMap_eq {d : Draft} {bytes : Bytes}
    (h : Utf8.encode? d.result.sourceMap = some bytes) :
    d.publishMap = publish d.mapOut bytes := by
  unfold Draft.publishMap publish writeText
  rw [h]

/-- What a build command that ends with a value has done: it ends with
    status 0. -/
theorem build_gives {ended : Nat × Text}
    (h : (build programs bundle sourceMap project out mapOut optimize).Gives m ended after) :
    ended.1 = 0 ∧ ∃ d drafted published mapped,
      (draft programs bundle sourceMap project out mapOut optimize).Gives m d drafted
      ∧ d.publishBytecode.Gives drafted () published ∧ d.publishMap.Gives published () mapped
      ∧ after.Resembles mapped := by
  rw [build_eq] at h
  obtain ⟨d, drafted, hdraft, h⟩ := gives_bind.mp h
  obtain ⟨_, published, hbytecode, h⟩ := gives_bind.mp h
  obtain ⟨_, mapped, hmap, hannounced⟩ := gives_bind.mp h
  refine ⟨?_, d, drafted, published, mapped, hdraft, hbytecode, hmap,
    (announce_leavesFiles d bundle).of_perform hannounced⟩
  obtain ⟨_, _, -, h⟩ := gives_bind.mp hannounced
  obtain ⟨_, _, -, h⟩ := gives_bind.mp h
  obtain ⟨_, _, -, h⟩ := gives_bind.mp h
  obtain ⟨rfl, -⟩ := gives_pure.mp h
  rfl

/-- What a build command that fails leaves behind. -/
theorem leftover_of_failsWith (hcontained : Build.IsContained programs) (hm : m.IsSound)
    (htwins : m.files.HasTwins) {f : Failure}
    (h : (build programs bundle sourceMap project out mapOut optimize).FailsWith m f after) :
    Leftover programs bundle sourceMap out mapOut optimize m after := by
  rw [build_eq] at h
  rcases failsWith_bind.mp h with hdraft | ⟨d, drafted, hdraft, h⟩
  · exact .nothing ((draft_sparesFiles hcontained bundle sourceMap project out mapOut
      optimize).of_perform hm hdraft)
  obtain ⟨hspares, hdrafted⟩ := draft_keeps hcontained hm htwins hdraft
  obtain ⟨hbuilt, hnamed⟩ := draft_gives hdraft
  rcases failsWith_bind.mp h with hbytecode | ⟨_, published, hbytecode, h⟩
  · exact .nothing ((spares_of_publish hbytecode).trans hspares)
  have hpublished := publish_gives hdrafted.2 hbytecode
  obtain ⟨bytes, hbytes⟩ := hbuilt.exists_bytes
  rcases failsWith_bind.mp h with hmap | ⟨_, mapped, hmap, hannounced⟩
  · rw [publishMap_eq hbytes] at hmap
    have hleft := spares_of_publish hmap
    rw [← publishMap_eq hbytes] at hmap
    exact .bytecode hbuilt hnamed hspares hpublished hmap hleft
      ((hpublished.delivers hdrafted).imp (·.of_spares hleft) (·.of_spares hleft))
  · rw [publishMap_eq hbytes] at hmap
    have hmapped := publish_gives (hpublished.hasNames hdrafted).2 hmap
    have hsame := (announce_leavesFiles d bundle).of_perform hannounced
    exact .both hbuilt hnamed hspares hpublished hbytes hmapped hannounced hsame
      ((hmapped.of_resembles hsame).delivers (hpublished.hasNames hdrafted))

/-- **What a build command line leaves behind that does not end with
    status 0**: nothing but directories, unless it fails once the bytecode
    has been published. -/
theorem leftover_of_failed (hcontained : Build.IsContained programs) (hm : m.IsSound)
    (htwins : m.files.HasTwins)
    (hcommand : readCommand arguments
      = .ok (.build bundle sourceMap project out mapOut optimize))
    {outcome : Except Failure Ending} (hrun : (run programs arguments).perform m = (outcome, after))
    (hfailed : ∀ report, outcome = .ok (.ran report) → report.exit ≠ 0) :
    Leftover programs bundle sourceMap out mapOut optimize m after := by
  rcases run_cases hcommand hrun with ⟨f, -, -, rfl⟩ | ⟨result, hperform, hreports⟩
  · exact .nothing ⟨.refl _, rfl⟩
  cases result with
  | error f => exact leftover_of_failsWith hcontained hm htwins hperform
  | ok ended =>
      cases hreports with
      | printed exit shown err => exact absurd (build_gives hperform).1 (hfailed _ rfl)

end Failing

/-! ## A build that cannot publish its map -/

/-- A machine with a bundle, its map and a compiler. -/
def appMachine : Machine :=
  { Build.homeMachine with
    files := .ofEntries [(["home"], .directory), (["home", "bin"], .directory),
      (["home", "bin", "hermesc"], .file [] true), (["home", "app.js"], .file [0x31] false),
      (["home", "app.map"], .file Build.blankMap false)]
    environment := [("HBC_HERMESC", "/home/bin/hermesc"), ("HBC_COMPOSER", "builtin"),
      ("HBC_WORKSPACE_ROOT", "/home/ws")] }

/-- What its environment asks for. -/
def appSettings : Settings where
  compiler := some (Path.ofString "/home/bin/hermesc")
  composer := .builtin
  workspaceRoot := some (Path.ofString "/home/ws")
  node := none
  logLevel := "WARNING"

/-- The workspace of a build there. -/
def appWorkspace : Build.Workspace := ⟨Path.ofString "/home/ws/hbc-build-7-aaaaaaaa"⟩

/-- A build of the bundle. -/
def appJob : Build.Job where
  request := ⟨Path.ofString "/home", .bytes [0x31],
    "\x7b\x22version\x22:3,\x22mappings\x22:\x22\x22\x7d", false⟩
  toolchain := none
  root := none
  deadline := none

/-- The machine on which the workspace has been acquired. -/
def appAcquired : Machine :=
  ((Build.Workspace.acquire appSettings.workspaceRoot).perform
    (appMachine.noting .debug "asyncio" "Using selector: EpollSelector")).2

/-- The machine on which the build has ended. -/
def appBuilt : Machine :=
  ((Build.steps Build.localCompiler appJob 5 (.acquired Build.builtinComposer
    (Path.ofString "/home/bin/hermesc") appWorkspace)).perform appAcquired).2

/-- A command line that builds the bundle. -/
def buildApp (out mapOut : String) : List Text :=
  ["build", "app.js", "--map", "app.map", "--project-root", "/home", "--out", out,
    "--map-out", mapOut]

/-- What it asks for. -/
def appCommand (out mapOut : String) : Command :=
  .build (Path.ofString "app.js") (some (Path.ofString "app.map")) (some (Path.ofString "/home"))
    (some (Path.ofString out)) (some (Path.ofString mapOut)) false

theorem current_app (m : Machine) (henvironment : m.environment = appMachine.environment) :
    Settings.current.Gives m appSettings m := by
  have hload : Settings.load none appMachine.environment m.accounts = .ok appSettings := by rfl
  have hhome : appMachine.environment.find? (Text.ofString "HOME") = none := by rfl
  unfold Settings.current environmentValue Gives
  simp only [perform_bind, perform_get, perform_pure, perform_ofExcept, henvironment, hhome, hload]
  rfl

theorem run_app : (Build.run Build.localCompiler appJob).Gives
    (appMachine.noting .debug "asyncio" "Using selector: EpollSelector") Build.terseResult
    appBuilt := by
  have hsettings := current_app
    (appMachine.noting .debug "asyncio" "Using selector: EpollSelector") rfl
  have htools : appJob.tools.Gives _ (.project appSettings) _ := perform_bind_of_gives hsettings _
  have hequip : (Build.equip appJob).Gives _
      (Build.builtinComposer, Path.ofString "/home/bin/hermesc") _ :=
    (perform_bind_of_gives htools _).trans (by cbv)
  have hparent : (Build.Workspace.parentOf none).Gives _ appSettings.workspaceRoot _ :=
    perform_bind_of_gives hsettings _
  have hacquired : (Build.Workspace.acquire none).Gives _ appWorkspace appAcquired :=
    (perform_bind_of_gives hparent _).trans (Prod.ext (by cbv) rfl)
  exact Build.run_of_leads (Build.leads_step (Build.attempt_then hequip)
    (Build.leads_step (Build.attempt_then hacquired) (Prod.ext (by cbv) rfl)))

/-- What is drafted there. -/
def appDraft (out mapOut : String) : Draft :=
  ⟨Path.ofString "/home", Build.terseResult, Path.ofString out, Path.ofString mapOut⟩

theorem draft_app (out mapOut : String) :
    (draft Build.localCompiler (Path.ofString "app.js") (some (Path.ofString "app.map"))
      (some (Path.ofString "/home")) (some (Path.ofString out)) (some (Path.ofString mapOut))
      false).Gives appMachine (appDraft out mapOut) appBuilt := by
  have hresolved : (resolve (Path.ofString "app.js")).Gives appMachine
      (Path.ofString "/home/app.js") appMachine := Prod.ext (by cbv) (by cbv)
  have hcode : (readBytes (Path.ofString "app.js").toText).Gives appMachine [0x31] appMachine := by
    cbv
  have htext : (readText (Path.ofString "app.map").toText).Gives appMachine
      appJob.request.sourceMap appMachine := by cbv
  refine (perform_bind_of_gives hresolved _).trans ?_
  refine (perform_bind_of_gives (perform_pure _ _) _).trans ?_
  refine (perform_bind_of_gives hcode _).trans ?_
  refine (perform_bind_of_gives htext _).trans ?_
  refine (perform_bind_of_gives (perform_record ..) _).trans ?_
  exact perform_bind_of_gives run_app _

/-- What the command does. -/
theorem perform_app (out mapOut : String) :
    (perform Build.localCompiler (appCommand out mapOut)).perform appMachine
      = ((appDraft out mapOut).finish (Path.ofString "app.js")).perform appBuilt := by
  have hdrafted := perform_bind_of_gives (draft_app out mapOut) fun d =>
    d.finish (Path.ofString "app.js")
  rw [← build_eq] at hdrafted
  exact hdrafted

theorem threshold_app : threshold.Gives appMachine 30 appMachine :=
  (perform_bind_of_gives (current_app appMachine rfl) _).trans (by rfl)

theorem appMachine_isSound : appMachine.IsSound where
  tree := isTree_of_all (by decide)
  settled := by decide

theorem appMachine_hasTwins : appMachine.files.HasTwins := hasTwins_of_nil rfl

/-- There is no place for the map below a file. -/
def placeless : List Text := buildApp "out.hbc" "app.js/out.map"

/-- The machine on which that command has ended. -/
def appLeft : Machine :=
  (((appDraft "out.hbc" "app.js/out.map").finish (Path.ofString "app.js")).perform appBuilt).2

theorem readCommand_placeless :
    readCommand placeless = .ok (appCommand "out.hbc" "app.js/out.map") := by rfl

theorem run_placeless : ∃ err,
    (run Build.localCompiler placeless).perform appMachine = (.ok (.ran ⟨2, [], err⟩), appLeft) := by
  have hfails : ((appDraft "out.hbc" "app.js/out.map").finish (Path.ofString "app.js")).FailsWith
      appBuilt (.system (.about .occupied "app.js")) appLeft := Prod.ext (by cbv) rfl
  exact run_of_complaint readCommand_placeless threshold_app ((perform_app _ _).trans hfails) rfl

theorem leftover_of_failed_placeless :
    ∃ outcome, Build.IsContained Build.localCompiler ∧ appMachine.IsSound
      ∧ appMachine.files.HasTwins
      ∧ readCommand placeless = .ok (appCommand "out.hbc" "app.js/out.map")
      ∧ (run Build.localCompiler placeless).perform appMachine = (outcome, appLeft)
      ∧ (∀ report, outcome = .ok (.ran report) → report.exit ≠ 0)
      ∧ Leftover Build.localCompiler (Path.ofString "app.js") (some (Path.ofString "app.map"))
        (some (Path.ofString "out.hbc")) (some (Path.ofString "app.js/out.map")) false appMachine
        appLeft := by
  obtain ⟨err, hrun⟩ := run_placeless
  have hfailed : ∀ report, (.ok (.ran ⟨2, [], err⟩) : Except Failure Ending) = .ok (.ran report) →
      report.exit ≠ 0 := by
    rintro _ ⟨⟩
    exact Nat.succ_ne_zero 1
  exact ⟨_, Build.isContained_localCompiler, appMachine_isSound, appMachine_hasTwins,
    readCommand_placeless, hrun, hfailed,
    leftover_of_failed Build.isContained_localCompiler appMachine_isSound appMachine_hasTwins
      readCommand_placeless hrun hfailed⟩

/-- **The bytecode is left behind without its map**: the command ends with
    status 2, and the bytecode that was not there is there. -/
theorem bytecode_left_without_map :
    ∃ arguments m err after,
      readCommand arguments = .ok (appCommand "out.hbc" "app.js/out.map")
      ∧ m.IsSound ∧ m.files.HasTwins
      ∧ (run Build.localCompiler arguments).perform m = (.ok (.ran ⟨2, [], err⟩), after)
      ∧ m.files.pathExists m.here "out.hbc" = false
      ∧ after.files.readFile after.here "out.hbc" = .ok [0xC6] := by
  obtain ⟨err, hrun⟩ := run_placeless
  exact ⟨placeless, appMachine, err, appLeft, readCommand_placeless, appMachine_isSound,
    appMachine_hasTwins, hrun, by cbv, by cbv⟩

/-! ## Commands that succeed -/

section Delivering

variable (programs : Build.Programs) (bundle : Path) (sourceMap out mapOut : Option Path)
  (optimize : Bool) (m : Machine)

/-- What a build command that succeeds leaves. -/
inductive Delivered (after : Machine) : Prop where
  | outputs {d : Draft} {bytes : Bytes} :
      d.IsBuilt programs bundle sourceMap optimize m → d.IsNamedBy bundle out mapOut →
      Utf8.encode? d.result.sourceMap = some bytes →
      -- The map is there.
      after.HasFile d.mapOut bytes ∨ after.HasDevice d.mapOut →
      -- So is the bytecode, unless the map has been written over it.
      after.HasFile d.out d.result.bytecode ∨ after.HasDevice d.out
        ∨ after.HaveSameFile d.out d.mapOut →
      -- Every other path leads where it led, and to the same.
      (∀ (p : Path) l e, m.files.locate m.here .target p.toText = .ok (.found l e) →
        after.files.locate after.here .target p.toText = .ok (.found l e)
          ∨ after.HaveSameFile p d.out ∨ after.HaveSameFile p d.mapOut) →
      Delivered after

end Delivering

section Delivering

variable {programs : Build.Programs} {arguments : List Text} {bundle : Path}
  {sourceMap project out mapOut : Option Path} {optimize : Bool} {m after : Machine}

/-- What has been published first is there after something else has been
    published, unless that has been written over it. -/
theorem delivers_first {published : Machine} {p q : Path} {content content' : Bytes}
    (hm : Build.HasNames m) (hfirst : Published p content m published)
    (hsecond : Published q content' published after) :
    after.HasFile p content ∨ after.HasDevice p ∨ after.HaveSameFile p q := by
  have hpublished := hfirst.hasNames hm
  rcases hfirst.delivers hm with ⟨place, executable, hfile⟩ | ⟨place, device, hdevice⟩
  · rcases hsecond.leadsTo hpublished hfile with hkept | hsame
    · exact .inl ⟨place, executable, hkept⟩
    · exact .inr (.inr hsame)
  · rcases hsecond.leadsTo hpublished hdevice with hkept | hsame
    · exact .inr (.inl ⟨place, device, hkept⟩)
    · exact .inr (.inr hsame)

/-- After two files have been published every path leads where it led,
    unless it leads to one of them. -/
theorem leadsTo_of_both {published : Machine} {p q path : Path} {content content' : Bytes}
    {l : Location} {e : Entry} (hm : Build.HasNames m) (hfirst : Published p content m published)
    (hsecond : Published q content' published after)
    (hpath : m.files.locate m.here .target path.toText = .ok (.found l e)) :
    after.files.locate after.here .target path.toText = .ok (.found l e)
      ∨ after.HaveSameFile path p ∨ after.HaveSameFile path q := by
  have hpublished := hfirst.hasNames hm
  rcases hfirst.leadsTo hm hpath with hkept | hsame
  · exact (hsecond.leadsTo hpublished hkept).imp_right .inr
  · exact .inr (.inl (hsecond.haveSameFile hpublished hsame))

theorem delivered_of_gives (hcontained : Build.IsContained programs) (hm : m.IsSound)
    (htwins : m.files.HasTwins) {ended : Nat × Text}
    (h : (build programs bundle sourceMap project out mapOut optimize).Gives m ended after) :
    Delivered programs bundle sourceMap out mapOut optimize m after := by
  obtain ⟨-, d, drafted, published, mapped, hdraft, hbytecode, hmap, hsame⟩ := build_gives h
  obtain ⟨hspares, hdrafted⟩ := draft_keeps hcontained hm htwins hdraft
  obtain ⟨hbuilt, hnamed⟩ := draft_gives hdraft
  obtain ⟨bytes, hbytes⟩ := hbuilt.exists_bytes
  have hfirst := publish_gives hdrafted.2 hbytecode
  rw [publishMap_eq hbytes] at hmap
  have hsecond := (publish_gives (hfirst.hasNames hdrafted).2 hmap).of_resembles hsame
  refine .outputs hbuilt hnamed hbytes (hsecond.delivers (hfirst.hasNames hdrafted))
    (delivers_first hdrafted hfirst hsecond) fun p l e hp => ?_
  rw [← hspares.here] at hp
  exact leadsTo_of_both hdrafted hfirst hsecond (hspares.files.kept.locate hp)

/-- **A build command line that ends with status 0 has delivered**: the map
    is there, and so is the bytecode, unless the map has been written over
    it, and nothing else has changed. -/
theorem delivered_of_run (hcontained : Build.IsContained programs) (hm : m.IsSound)
    (htwins : m.files.HasTwins)
    (hcommand : readCommand arguments
      = .ok (.build bundle sourceMap project out mapOut optimize))
    {report : Report} (hrun : (run programs arguments).perform m = (.ok (.ran report), after))
    (hexit : report.exit = 0) :
    Delivered programs bundle sourceMap out mapOut optimize m after := by
  rcases run_cases hcommand hrun with ⟨f, -, hfails, -⟩ | ⟨result, hperform, hreports⟩
  · exact nomatch hfails
  cases hreports with
  | printed exit shown err => exact delivered_of_gives hcontained hm htwins hperform
  | complained err _ => exact nomatch hexit

end Delivering

/-! ## A build whose outputs are apart, and one whose outputs are not -/

/-- The machine on which the command has ended that builds the bundle. -/
def appDelivered (out mapOut : String) : Machine :=
  (((appDraft out mapOut).finish (Path.ofString "app.js")).perform appBuilt).2

/-- The command succeeds if its outputs can be published and shown. -/
theorem run_buildApp {out mapOut : String}
    (hcommand : readCommand (buildApp out mapOut) = .ok (appCommand out mapOut))
    (hfinish : (((appDraft out mapOut).finish (Path.ofString "app.js")).perform appBuilt).1.toBool
      = true) :
    ∃ shown err, (run Build.localCompiler (buildApp out mapOut)).perform appMachine
      = (.ok (.ran ⟨0, shown, err⟩), appDelivered out mapOut) := by
  have hperform := perform_app out mapOut
  rcases gives_or_failsWith ((appDraft out mapOut).finish (Path.ofString "app.js")) appBuilt with
    ⟨⟨exit, shown⟩, after, hgives⟩ | ⟨f, after, hfails⟩
  · rw [hgives] at hperform
    have hbuild : (build Build.localCompiler (Path.ofString "app.js")
        (some (Path.ofString "app.map")) (some (Path.ofString "/home")) (some (Path.ofString out))
        (some (Path.ofString mapOut)) false).Gives appMachine (exit, shown) after := hperform
    obtain rfl : exit = 0 := (build_gives hbuild).1
    obtain ⟨err, hrun⟩ := run_of_gives hcommand threshold_app hperform
    unfold appDelivered
    rw [hgives]
    exact ⟨shown, err, hrun⟩
  · rw [hfails] at hfinish
    exact nomatch hfinish

theorem delivered_of_run_app :
    ∃ report, Build.IsContained Build.localCompiler ∧ appMachine.IsSound
      ∧ appMachine.files.HasTwins
      ∧ readCommand (buildApp "out.hbc" "out.hbc.map")
        = .ok (appCommand "out.hbc" "out.hbc.map")
      ∧ (run Build.localCompiler (buildApp "out.hbc" "out.hbc.map")).perform appMachine
        = (.ok (.ran report), appDelivered "out.hbc" "out.hbc.map")
      ∧ report.exit = 0
      ∧ Delivered Build.localCompiler (Path.ofString "app.js") (some (Path.ofString "app.map"))
        (some (Path.ofString "out.hbc")) (some (Path.ofString "out.hbc.map")) false appMachine
        (appDelivered "out.hbc" "out.hbc.map") := by
  have hcommand : readCommand (buildApp "out.hbc" "out.hbc.map")
      = .ok (appCommand "out.hbc" "out.hbc.map") := by rfl
  obtain ⟨shown, err, hrun⟩ := run_buildApp hcommand (by cbv)
  exact ⟨⟨0, shown, err⟩, Build.isContained_localCompiler, appMachine_isSound,
    appMachine_hasTwins, hcommand, hrun, rfl, delivered_of_run Build.isContained_localCompiler
      appMachine_isSound appMachine_hasTwins hcommand hrun rfl⟩

/-- **The map can replace both the bytecode and the bundle**: if both
    outputs are to go where the bundle is, the command ends with status 0
    and leaves the map there. -/
theorem bundle_replaced_by_map :
    ∃ arguments m shown err after,
      readCommand arguments = .ok (appCommand "app.js" "app.js")
      ∧ m.IsSound ∧ m.files.HasTwins
      ∧ (draft Build.localCompiler (Path.ofString "app.js") (some (Path.ofString "app.map"))
        (some (Path.ofString "/home")) (some (Path.ofString "app.js"))
        (some (Path.ofString "app.js")) false).Gives m (appDraft "app.js" "app.js") appBuilt
      ∧ (run Build.localCompiler arguments).perform m = (.ok (.ran ⟨0, shown, err⟩), after)
      ∧ after.files.readFile after.here "app.js" ≠ .ok (appDraft "app.js" "app.js").result.bytecode
      ∧ after.files.readFile after.here "app.js" ≠ m.files.readFile m.here "app.js" := by
  have hcommand : readCommand (buildApp "app.js" "app.js") = .ok (appCommand "app.js" "app.js") := by
    rfl
  obtain ⟨shown, err, hrun⟩ := run_buildApp hcommand (by cbv)
  have hleft : (appDelivered "app.js" "app.js").files.readFile (appDelivered "app.js" "app.js").here
      "app.js" = .ok (Text.bytes Build.terseResult.sourceMap) := by cbv
  have hbundle : appMachine.files.readFile appMachine.here "app.js" = .ok [0x31] := by cbv
  refine ⟨buildApp "app.js" "app.js", appMachine, shown, err, appDelivered "app.js" "app.js",
    hcommand, appMachine_isSound, appMachine_hasTwins, draft_app _ _, hrun, ?_, ?_⟩
  · rw [hleft]
    exact fun h => absurd (Except.ok.inj h) (by decide)
  · rw [hleft, hbundle]
    exact fun h => absurd (Except.ok.inj h) (by decide)

end CommandLine

end HermesBundle
