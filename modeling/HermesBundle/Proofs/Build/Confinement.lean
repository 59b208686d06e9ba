import HermesBundle.Proofs.Build.Course
import HermesBundle.Proofs.Build.Ground

/-! # Confinement — a build sees its own workspace, and changes nothing else

    Inside its workspace a build reads and writes files whose names it
    knows.  If its compiler works inside the workspace, too, then all that
    decides how a step of the build goes are the contents of the workspace
    and what no build touches:

    * **an action is confined** if on every machine with the same contents
      it has the same outcome, leaves the same contents and changes nothing
      beside them (`Ground.Does`);
    * **sequences of confined actions are confined** (`Does.bind`,
      `Does.bind_error`);
    * **every step of a build that has a workspace is confined**
      (`Fits.advance`): staging (`does_stageInputs`), the compiler
      (`does_compile`), the readings (`looks_readBytecode`,
      `looks_composedMap`) and the removal, which always succeeds
      (`does_close`). -/

namespace HermesBundle.Build.Ground

open HermesBundle.Action FileSystem

/-! ## Machines that builds share -/

/-- The machine of a ground with other files, and at another time. -/
def later (G : Ground) (files : FileSystem) (tickets clock : Nat) (log : List LogRecord) :
    Machine := { G.machine with files := files, tickets := tickets, clock := clock, log := log }

/-- Whether a machine is one on which builds have been at work. -/
structure Carries (G : Ground) (m : Machine) : Prop where
  same : m = G.later m.files m.tickets m.clock m.log
  keeps : G.Keeps m.files

/-- Whether a machine changes inside a workspace at most. -/
structure Touches (G : Ground) (n : Nat) (m after : Machine) : Prop where
  same : after = { m with files := after.files, clock := after.clock, log := after.log }
  beside : ∀ l, ¬G.lot n <+: l → after.files.entry? l = m.files.entry? l

/-- Whether an action has an outcome wherever a workspace has some contents,
    leaves other contents there and changes nothing beside them. -/
def Does (G : Ground) (n : Nat) {α : Type} (before : List Text → Option Entry) (x : Action α)
    (outcome : Except Failure α) (left : List Text → Option Entry) : Prop :=
  ∀ m, G.Carries m → m.files.contents (G.lot n) = before →
    ∃ after, x.perform m = (outcome, after) ∧ G.Touches n m after
      ∧ after.files.contents (G.lot n) = left

/-- Whether an action has an outcome wherever a workspace has some contents,
    and leaves all files as they are. -/
def Looks (G : Ground) (n : Nat) {α : Type} (before : List Text → Option Entry) (x : Action α) :
    Prop :=
  ∃ outcome, ∀ m, G.Carries m → m.files.contents (G.lot n) = before →
    ∃ clock log, x.perform m = (outcome, { m with clock := clock, log := log })

variable {G : Ground} {n : Nat} {m after : Machine} {α β : Type}
  {before middle left : List Text → Option Entry}

theorem Carries.here (h : G.Carries m) : m.here = G.machine.here := by
  rw [h.same]
  rfl

/-- Whatever a build does in its workspace, the machine is still one that
    builds share. -/
theorem Touches.carries (h : G.Touches n m after) (htakes : G.Takes n) (hm : G.Carries m) :
    G.Carries after where
  same := by
    rw [h.same, hm.same]
    rfl
  keeps := hm.keeps.of_same htakes h.beside

theorem Touches.trans {last : Machine} (h : G.Touches n m after) (hlast : G.Touches n after last) :
    G.Touches n m last where
  same := by
    rw [hlast.same, h.same]
  beside := fun l hl => (hlast.beside l hl).trans (h.beside l hl)

theorem Touches.refl (G : Ground) (n : Nat) (m : Machine) : G.Touches n m m :=
  ⟨rfl, fun _ _ => rfl⟩

theorem Touches.looked (G : Ground) (n : Nat) (m : Machine) (clock : Nat) (log : List LogRecord) :
    G.Touches n m { m with clock := clock, log := log } := ⟨rfl, fun _ _ => rfl⟩

/-- Whoever takes notice of changes in a workspace stands where it stood. -/
theorem Touches.settled (hm : G.Carries m) (htakes : G.Takes n) {files : FileSystem}
    (hbeside : ∀ l, ¬G.lot n <+: l → files.entry? l = m.files.entry? l) (clock : Nat)
    (log : List LogRecord) :
    G.Touches n m
      { m with files := files, here := files.settle m.here, clock := clock, log := log } where
  same := by
    have hhere : files.settle m.here = m.here := by
      rw [hm.here]
      exact settle_here (hm.keeps.of_same htakes hbeside).extends
    rw [hhere]
  beside := hbeside

/-! ## Sequences -/

theorem Does.bind {x : Action α} {f : α → Action β} {a : α} {outcome : Except Failure β}
    (htakes : G.Takes n) (hx : G.Does n before x (.ok a) middle)
    (hf : G.Does n middle (f a) outcome left) : G.Does n before (x >>= f) outcome left := by
  intro m hm hbefore
  obtain ⟨next, hnext, htouched, hmiddle⟩ := hx m hm hbefore
  obtain ⟨after, hafter, htouches, hleft⟩ := hf next (htouched.carries htakes hm) hmiddle
  exact ⟨after, (perform_bind_of_gives hnext f).trans hafter, htouched.trans htouches, hleft⟩

theorem Does.bind_error {x : Action α} {e : Failure} (hx : G.Does n before x (.error e) left)
    (f : α → Action β) : G.Does n before (x >>= f) (.error e) left := by
  intro m hm hbefore
  obtain ⟨after, hafter, htouches, hleft⟩ := hx m hm hbefore
  exact ⟨after, perform_bind_of_failsWith hafter f, htouches, hleft⟩

theorem Does.attempt {x : Action α} {outcome : Except Failure α}
    (hx : G.Does n before x outcome left) : G.Does n before (attempt x) (.ok outcome) left := by
  intro m hm hbefore
  obtain ⟨after, hafter, htouches, hleft⟩ := hx m hm hbefore
  exact ⟨after, by rw [perform_attempt, hafter], htouches, hleft⟩

/-- An action that leaves the machine as it is leaves the workspace so. -/
theorem Does.of_same {x : Action α} {outcome : Except Failure α}
    (h : ∀ m, G.Carries m → m.files.contents (G.lot n) = before → x.perform m = (outcome, m)) :
    G.Does n before x outcome before := by
  intro m hm hbefore
  exact ⟨m, h m hm hbefore, .refl G n m, hbefore⟩

theorem Does.pure (a : α) : G.Does n before (Pure.pure a) (.ok a) before :=
  .of_same fun _ _ _ => rfl

theorem Does.throw (e : Failure) :
    G.Does n before (throwThe Failure e : Action α) (.error e) before :=
  .of_same fun _ _ _ => rfl

theorem Looks.does {x : Action α} (h : G.Looks n before x) :
    ∃ outcome, G.Does n before x outcome before := by
  obtain ⟨outcome, hx⟩ := h
  refine ⟨outcome, fun m hm hbefore => ?_⟩
  obtain ⟨clock, log, hperform⟩ := hx m hm hbefore
  exact ⟨_, hperform, .looked G n m clock log, hbefore⟩

/-- A sequence only looks if its first step does, and the second with
    whatever the first one gives. -/
theorem Looks.bind {x : Action α} {f : α → Action β} (htakes : G.Takes n) (hx : G.Looks n before x)
    (hf : ∀ a, G.Looks n before (f a)) : G.Looks n before (x >>= f) := by
  obtain ⟨outcome, hx⟩ := hx
  cases outcome with
  | error e =>
      refine ⟨.error e, fun m hm hbefore => ?_⟩
      obtain ⟨clock, log, hperform⟩ := hx m hm hbefore
      exact ⟨clock, log, perform_bind_of_failsWith hperform f⟩
  | ok a =>
      obtain ⟨outcome, hnext⟩ := hf a
      refine ⟨outcome, fun m hm hbefore => ?_⟩
      obtain ⟨clock, log, hperform⟩ := hx m hm hbefore
      have hlooked := (Touches.looked G n m clock log).carries htakes hm
      obtain ⟨clock', log', hlast⟩ := hnext _ hlooked hbefore
      exact ⟨clock', log', (perform_bind_of_gives hperform f).trans hlast⟩

/-- An action that the machine does not matter to only looks. -/
theorem Looks.of_fixed {x : Action α} {outcome : Except Failure α}
    (h : ∀ m, x.perform m = (outcome, m)) : G.Looks n before x :=
  ⟨outcome, fun m _ _ => ⟨m.clock, m.log, h m⟩⟩

theorem Looks.pure (a : α) : G.Looks n before (Pure.pure a) := .of_fixed fun _ => rfl

theorem Looks.throw (e : Failure) : G.Looks n before (throwThe Failure e : Action α) :=
  .of_fixed fun _ => rfl

theorem Looks.ofExcept {ε : Type} (failure : ε → Failure) (x : Except ε α) :
    G.Looks n before (Action.ofExcept failure x) := .of_fixed fun m => perform_ofExcept failure x m

theorem Looks.attempt {x : Action α} (h : G.Looks n before x) : G.Looks n before (attempt x) := by
  obtain ⟨outcome, hx⟩ := h
  refine ⟨.ok outcome, fun m hm hbefore => ?_⟩
  obtain ⟨clock, log, hperform⟩ := hx m hm hbefore
  exact ⟨clock, log, by rw [perform_attempt, hperform]⟩

/-! ## Staging -/

def bundleName : Text := "index.bundle"

def bundleMapName : Text := "index.bundle.map"

def bytecodeName : Text := "index.hbc"

def bytecodeMapName : Text := "index.hbc.map"

/-- Whether a text is the name of a file that a build can have in its
    workspace. -/
structure IsFileName (file : Text) : Prop where
  component : IsComponent file
  not_dotDot : file ≠ dotDot
  fits : byteCount file ≤ nameLimit
  usable : isUsable file = true
  settled : Utf8.settledName file = file

theorem isFileName_bundle : IsFileName bundleName :=
  ⟨⟨by decide, by decide, by decide⟩, by decide, by decide, by decide, by decide⟩

theorem isFileName_bundleMap : IsFileName bundleMapName :=
  ⟨⟨by decide, by decide, by decide⟩, by decide, by decide, by decide, by decide⟩

theorem isFileName_bytecode : IsFileName bytecodeName :=
  ⟨⟨by decide, by decide, by decide⟩, by decide, by decide, by decide, by decide⟩

theorem isFileName_bytecodeMap : IsFileName bytecodeMapName :=
  ⟨⟨by decide, by decide, by decide⟩, by decide, by decide, by decide, by decide⟩

/-- What stands under the name of a file in a workspace. -/
theorem entry?_file {fs : FileSystem} {file : Text} (hfile : IsFileName file) :
    fs.entry? (child (G.lot n) file) = fs.contents (G.lot n) [file] := by
  unfold child contents
  rw [hfile.settled]

theorem entry?_lot {fs : FileSystem} (hbefore : fs.contents (G.lot n) = before)
    (hdirectory : before [] = some .directory) : fs.entry? (G.lot n) = some .directory := by
  rw [← contents_nil, hbefore, hdirectory]

/-- A file is not written if its path is too long. -/
theorem writeFile_of_long (htakes : G.Takes n) {file : Text} (hfile : IsFileName file)
    (hlong : byteCount ((G.workspaceAt n).path.child file).toText > pathLimit) {fs : FileSystem}
    (hkeeps : G.Keeps fs) (hentry : fs.entry? (G.lot n) = some .directory) (content : Bytes) :
    fs.writeFile G.machine.here ((G.workspaceAt n).path.child file).toText content
      = .error (.about .nameTooLong ((G.workspaceAt n).path.child file).toText) := by
  obtain ⟨left, hlocate⟩ := exists_locate_file htakes
  unfold writeFile
  rw [hlocate fs hkeeps.extends hentry .writing file hfile.component, if_pos hlong]

/-- A free name in a workspace is given to the file that is written
    there. -/
theorem exists_written (htakes : G.Takes n) {file : Text} (hfile : IsFileName file)
    (hshort : byteCount ((G.workspaceAt n).path.child file).toText ≤ pathLimit)
    {fs : FileSystem} (hkeeps : G.Keeps fs) (hbefore : fs.contents (G.lot n) = before)
    (hdirectory : before [] = some .directory) (hfree : before [file] = none) (content : Bytes) :
    ∃ files, fs.writeFile G.machine.here ((G.workspaceAt n).path.child file).toText content
        = .ok files
      ∧ (∀ l, ¬G.lot n <+: l → files.entry? l = fs.entry? l)
      ∧ files.contents (G.lot n)
        = Function.update before [file] (some (.file content false)) := by
  obtain ⟨left, hlocate⟩ := exists_locate_file htakes
  have hentry := entry?_lot hbefore hdirectory
  have hopens := opens_file htakes hkeeps.extends hentry hfile.component hfile.not_dotDot
    hfile.fits
  have hname : fs.entry? (child (G.lot n) file) = none := by
    rw [entry?_file hfile, hbefore, hfree]
  refine ⟨fs.put (child (G.lot n) file) (.file content false), ?_, fun l hl => ?_, ?_⟩
  · unfold writeFile
    rw [hlocate fs hkeeps.extends hentry .writing file hfile.component,
      if_neg (not_lt.mpr hshort), walk_eq_ok_iff.mpr (.misses hopens hname)]
  · rw [entry?_put (child_ne_nil _ _), if_neg]
    rintro rfl
    exact hl (List.prefix_append _ _)
  · rw [contents_put_child, hbefore, hfile.settled]

/-- What stands under a name in a workspace is all that matters to whoever
    reads it, unless it is a link. -/
theorem exists_readFile (htakes : G.Takes n) {file : Text} (hfile : IsFileName file)
    (hdirectory : before [] = some .directory)
    (hlink : ∀ target, before [file] ≠ some (.link target)) :
    ∃ read, ∀ m, G.Carries m → m.files.contents (G.lot n) = before →
      m.files.readFile m.here ((G.workspaceAt n).path.child file).toText = read := by
  obtain ⟨left, hlocate⟩ := exists_locate_file htakes
  have hstatus : ∃ status, ∀ m, G.Carries m → m.files.contents (G.lot n) = before →
      m.files.status? m.here ((G.workspaceAt n).path.child file).toText = status := by
    by_cases hlong : byteCount ((G.workspaceAt n).path.child file).toText > pathLimit
    · refine ⟨.error .nameTooLong, fun m hm hbefore => ?_⟩
      unfold status?
      rw [hm.here, hlocate _ hm.keeps.extends (entry?_lot hbefore hdirectory) .target file
        hfile.component, if_pos hlong]
    · refine ⟨(before [file]).elim (.error .noEntry) .ok, fun m hm hbefore => ?_⟩
      have hentry := entry?_lot hbefore hdirectory
      have hopens := opens_file htakes hm.keeps.extends hentry hfile.component hfile.not_dotDot
        hfile.fits
      have hname : m.files.entry? (child (G.lot n) file) = before [file] :=
        (entry?_file hfile).trans (congrFun hbefore [file])
      unfold status?
      rw [hm.here, hlocate _ hm.keeps.extends hentry .target file hfile.component, if_neg hlong]
      cases hown : before [file] with
      | none => rw [walk_eq_ok_iff.mpr (.misses hopens (hname.trans hown))]; rfl
      | some e =>
          rw [walk_eq_ok_iff.mpr (.arrives hopens (hname.trans hown) fun target htarget =>
            absurd (htarget ▸ hown) (hlink target))]
          rfl
  obtain ⟨status, hstatus⟩ := hstatus
  exact ⟨_, fun m hm hbefore => by unfold readFile; rw [hstatus m hm hbefore]⟩

/-- A file with a free name is written, unless its path is too long. -/
theorem does_writeBytes (htakes : G.Takes n) {file : Text} (hfile : IsFileName file)
    (hdirectory : before [] = some .directory) (hfree : before [file] = none) (content : Bytes) :
    (∃ e, G.Does n before (writeBytes ((G.workspaceAt n).path.child file).toText content)
        (.error e) before)
      ∨ G.Does n before (writeBytes ((G.workspaceAt n).path.child file).toText content) (.ok ())
        (Function.update before [file] (some (.file content false))) := by
  have husable := isUsable_child (isUsable_workspaceAt (G := G) n) hfile.usable
  by_cases hlong : byteCount ((G.workspaceAt n).path.child file).toText > pathLimit
  · refine .inl ⟨.system (.about .nameTooLong ((G.workspaceAt n).path.child file).toText),
      .of_same fun m hm hbefore => ?_⟩
    rw [perform_writeBytes husable, hm.here, writeFile_of_long htakes hfile hlong hm.keeps
      (entry?_lot hbefore hdirectory)]
  · refine .inr fun m hm hbefore => ?_
    obtain ⟨files, hwritten, hbeside, hleft⟩ :=
      exists_written htakes hfile (not_lt.mp hlong) hm.keeps hbefore hdirectory hfree content
    refine ⟨{ m with files := files }, ?_, ⟨rfl, hbeside⟩, hleft⟩
    rw [perform_writeBytes husable, hm.here, hwritten]

/-- A text is written as a file is, if it can be encoded. -/
theorem does_writeText (htakes : G.Takes n) {file : Text} (hfile : IsFileName file)
    (hdirectory : before [] = some .directory) (hfree : before [file] = none) (text : Text) :
    ∃ outcome left,
      G.Does n before (writeText ((G.workspaceAt n).path.child file).toText text) outcome left
        ∧ (left = before
          ∨ ∃ content, left = Function.update before [file] (some (.file content false))) := by
  unfold writeText
  cases Utf8.encode? text with
  | some bytes =>
      rcases does_writeBytes htakes hfile hdirectory hfree bytes with ⟨e, hfails⟩ | hwrites
      · exact ⟨_, _, hfails, .inl rfl⟩
      · exact ⟨_, _, hwrites, .inr ⟨bytes, rfl⟩⟩
  | none =>
      rcases does_writeBytes htakes hfile hdirectory hfree [] with ⟨e, hfails⟩ | hwrites
      · exact ⟨_, _, hfails.bind_error _, .inl rfl⟩
      · exact ⟨_, _, hwrites.bind htakes (.throw _), .inr ⟨[], rfl⟩⟩

/-- Whether a workspace holds nothing but inputs of a compilation. -/
structure HoldsInputs (c : List Text → Option Entry) : Prop where
  directory : c [] = some .directory
  free : ∀ rest, rest ≠ [] → rest ≠ [bundleName] → rest ≠ [bundleMapName] →
    c rest = none

theorem holdsInputs_bare : HoldsInputs bare := ⟨rfl, fun _ hrest _ _ => if_neg hrest⟩

/-- With one more input a workspace still holds nothing else. -/
theorem HoldsInputs.update {c : List Text → Option Entry} (h : HoldsInputs c) {file : Text}
    (hfile : file = bundleName ∨ file = bundleMapName) (e : Option Entry) :
    HoldsInputs (Function.update c [file] e) where
  directory := by
    rw [Function.update_of_ne (List.cons_ne_nil _ _).symm, h.directory]
  free := fun rest hrest hbundle hmap => by
    rw [Function.update_of_ne, h.free rest hrest hbundle hmap]
    rintro rfl
    rcases hfile with rfl | rfl
    · exact hbundle rfl
    · exact hmap rfl

/-- **Staging is confined**, and leaves inputs in the workspace. -/
theorem does_stageInputs (htakes : G.Takes n) (request : Request) :
    ∃ outcome left, G.Does n bare (stageInputs (G.workspaceAt n) request) outcome left
      ∧ HoldsInputs left := by
  have hcode : ∃ outcome, ∀ m, (codeBytes request.code).perform m = (outcome, m) := by
    cases request.code with
    | text t =>
        unfold codeBytes
        dsimp only
        cases Utf8.encode? t with
        | some bytes => exact ⟨_, fun _ => rfl⟩
        | none => exact ⟨_, fun _ => rfl⟩
    | bytes b => exact ⟨_, fun _ => rfl⟩
  obtain ⟨outcome, hcode⟩ := hcode
  have hcode : G.Does n bare (codeBytes request.code) outcome bare :=
    .of_same fun m _ _ => hcode m
  cases outcome with
  | error e => exact ⟨_, _, hcode.bind_error _, holdsInputs_bare⟩
  | ok code =>
      rcases does_writeBytes htakes isFileName_bundle
        holdsInputs_bare.directory rfl code with ⟨e, hfails⟩ | hwrites
      · exact ⟨_, _, hcode.bind htakes (hfails.bind_error _), holdsInputs_bare⟩
      · have hstaged := holdsInputs_bare.update (.inl rfl) (some (.file code false))
        obtain ⟨outcome, left, hmap, hleft⟩ :=
          does_writeText htakes isFileName_bundleMap hstaged.directory rfl request.sourceMap
        refine ⟨_, _, hcode.bind htakes (hwrites.bind htakes hmap), ?_⟩
        rcases hleft with rfl | ⟨content, rfl⟩
        · exact hstaged
        · exact hstaged.update (.inr rfl) _

/-! ## Compiling -/

/-- Whether the two outputs of a compilation can be read from some contents
    alone. -/
def Readable (G : Ground) (n : Nat) (c : List Text → Option Entry) : Prop :=
  ∃ bytecode sourceMap, ∀ m, G.Carries m → m.files.contents (G.lot n) = c →
    m.files.readFile m.here (G.workspaceAt n).bytecode.toText = bytecode
      ∧ m.files.readFile m.here (G.workspaceAt n).bytecodeMap.toText = sourceMap

/-- Outputs that are no links can be read. -/
theorem readable_of_not_link {c : List Text → Option Entry} (htakes : G.Takes n)
    (hdirectory : c [] = some .directory)
    (hbytecode : ∀ target, c [bytecodeName] ≠ some (.link target))
    (hmap : ∀ target, c [bytecodeMapName] ≠ some (.link target)) : G.Readable n c := by
  obtain ⟨bytecode, hreads⟩ := exists_readFile htakes isFileName_bytecode hdirectory hbytecode
  obtain ⟨sourceMap, hreadsMap⟩ := exists_readFile htakes isFileName_bytecodeMap hdirectory hmap
  exact ⟨bytecode, sourceMap, fun m hm hc => ⟨hreads m hm hc, hreadsMap m hm hc⟩⟩

/-- Whether a compiler works inside the workspace that it is given: what is
    there decides how it ends and what it leaves there, it changes nothing
    else, and what it leaves there is all that its outputs depend on. -/
def Confines (G : Ground) (programs : Programs) (job : Job) (compiler : Path) : Prop :=
  ∀ n c, G.Takes n → HoldsInputs c → ∃ conclusion left, left [] = some .directory
    ∧ (∀ out err time, conclusion = .ended 0 out err time → G.Readable n left)
    ∧ ∀ m, G.Carries m → m.files.contents (G.lot n) = c →
      ∃ files, programs m.files m.here (compilerCall job compiler (G.workspaceAt n) m)
          = (files, m.here, conclusion)
        ∧ (∀ l, ¬G.lot n <+: l → files.entry? l = m.files.entry? l)
        ∧ files.contents (G.lot n) = left

/-- Whether a composer makes of a chain the same on all machines that
    builds share, and writes nothing. -/
def HasQuiet (G : Ground) (programs : Programs) (composer : Composer) : Prop :=
  ∀ maps, ∃ outcome, ∀ m, G.Carries m → ∃ clock log,
    (composer programs maps).perform m = (outcome, { m with clock := clock, log := log })

variable {programs : Programs} {job : Job} {composer : Composer} {compiler : Path}

theorem compile_perform (hdeadline : job.deadline = none) (ws : Workspace) (m : Machine) :
    (compile programs job compiler ws).perform m
      = (compileWithin programs job compiler ws none).perform m := by
  unfold compile
  rw [hdeadline]
  rfl

/-- **A compilation is confined if the compiler is.** -/
theorem does_compile (hdeadline : job.deadline = none) (htakes : G.Takes n)
    (hinputs : HoldsInputs before) (hconfined : G.Confines programs job compiler) :
    ∃ outcome left,
      G.Does n before (compile programs job compiler (G.workspaceAt n)) outcome left
        ∧ left [] = some .directory ∧ (outcome = .ok () → G.Readable n left) := by
  have hws := isUsable_workspaceAt (G := G) n
  cases husable : isUsable compiler.toText with
  | false =>
      obtain ⟨f, hf⟩ := exists_checkName_failsWith husable
      refine ⟨.error f, before, fun m _ hbefore => ⟨announced job (G.workspaceAt n) m, ?_,
        .looked G n m _ _, hbefore⟩, hinputs.directory, fun h => nomatch h⟩
      rw [compile_perform hdeadline]
      exact (compileWithin_iff hws).mpr (.unnamed husable (hf _))
  | true =>
      obtain ⟨conclusion, left, hdirectory, hreadable, hrun⟩ := hconfined n before htakes hinputs
      refine ⟨compilerOutcome (compilerCommand compiler (G.workspaceAt n) job.request.optimize)
        (some (G.workspaceAt n).path.toText) conclusion, left, fun m hm hbefore => ?_, hdirectory,
        fun hok => ?_⟩
      · obtain ⟨files, hfiles, hbeside, hleft⟩ := hrun m hm hbefore
        have hcompiled := compileWithin_of_concludes hws ⟨husable, hfiles⟩
        exact ⟨_, (compile_perform hdeadline _ m).trans hcompiled,
          .settled hm htakes hbeside _ _, hleft⟩
      · obtain ⟨out, err, time, hended⟩ := compilerOutcome_eq_ok hok
        exact hreadable out err time hended

/-! ## Reading and composing -/

theorem looks_readBytecode (hreadable : G.Readable n before) :
    G.Looks n before (readBytecode (G.workspaceAt n).bytecode) := by
  obtain ⟨bytecode, sourceMap, hread⟩ := hreadable
  refine ⟨bytecode.mapError (unreadable (G.workspaceAt n)), fun m hm hbefore => ?_⟩
  refine ⟨m.clock, m.log, ?_⟩
  rw [readBytecode_perform (isUsable_workspaceAt n) m, (hread m hm hbefore).1]

theorem looks_readMap (which : MapText) (text : Text) : G.Looks n before (readMap which text) := by
  unfold readMap
  split
  · exact .pure _
  · exact .throw _
  · exact .throw _

/-- Composing the maps only looks, if the composer writes nothing. -/
theorem looks_composedMap (htakes : G.Takes n) (hreadable : G.Readable n before)
    (hquiet : G.HasQuiet programs composer) (bundlerMap : Text) :
    G.Looks n before
      (composedMap (composer programs) bundlerMap (G.workspaceAt n).bytecodeMap) := by
  have hmap : isUsable (G.workspaceAt n).bytecodeMap.toText = true :=
    isUsable_child (isUsable_workspaceAt n) isFileName_bytecodeMap.usable
  have hbytes : G.Looks n before (readBytes (G.workspaceAt n).bytecodeMap.toText) := by
    obtain ⟨bytecode, sourceMap, hread⟩ := hreadable
    refine ⟨sourceMap.mapError .system, fun m hm hbefore => ⟨m.clock, m.log, ?_⟩⟩
    rw [perform_readBytes hmap, (hread m hm hbefore).2]
  have htext : G.Looks n before (readText (G.workspaceAt n).bytecodeMap.toText) := by
    refine hbytes.bind htakes fun bytes => ?_
    split
    · exact .pure _
    · exact .throw _
  have hmaps : G.Looks n before (readMaps bundlerMap (G.workspaceAt n).bytecodeMap) := by
    refine (looks_readMap _ _).bind htakes fun _ => htext.attempt.bind htakes fun outcome => ?_
    split
    · exact (looks_readMap _ _).bind htakes fun _ => .pure _
    · split
      · exact .throw _
      · exact .throw _
    · exact .throw _
  have hcompose : ∀ maps, G.Looks n before (composer programs maps) := by
    intro maps
    obtain ⟨outcome, hsame⟩ := hquiet maps
    exact ⟨outcome, fun m hm _ => hsame m hm⟩
  exact hmaps.bind htakes fun maps => (hcompose maps).bind htakes fun _ => .ofExcept _ _

/-! ## Removing -/

/-- **The removal is confined, always succeeds and leaves nothing.** -/
theorem does_close (htakes : G.Takes n) (hdirectory : before [] = some .directory)
    (outcome : Except Failure α) :
    G.Does n before (Workspace.close (G.workspaceAt n) outcome) outcome fun _ => none := by
  intro m hm hbefore
  have hremoved := removeDirectory_workspaceAt htakes hm.keeps.extends
    (entry?_lot hbefore hdirectory)
  rw [← hm.here] at hremoved
  have hremovable : Workspace.removalFailure (G.workspaceAt n) m = none := by
    unfold Workspace.removalFailure
    rw [hremoved]
    rfl
  have hbeside : ∀ l, ¬G.lot n <+: l →
      entry? (m.files.removeDirectory m.here (G.workspaceAt n).path).1 l = m.files.entry? l := by
    intro l hl
    rw [hremoved]
    exact entry?_removed (lot_ne_nil n) m.files hl
  have hempty : contents (m.files.removeDirectory m.here (G.workspaceAt n).path).1 (G.lot n)
      = fun _ => none := by
    rw [hremoved]
    exact contents_removed (lot_ne_nil n) m.files
  exact ⟨_, (Workspace.close_iff (isUsable_workspaceAt n)).mpr (.clean outcome hremovable),
    .settled hm htakes hbeside _ _, hempty⟩

/-! ## Steps of a build -/

/-- Where a build can stand in its workspace, with the contents that are
    there then. -/
inductive Fits (G : Ground) (programs : Programs) (job : Job) (n : Nat) :
    Stage → (List Text → Option Entry) → Prop where
  | acquired {composer : Composer} {compiler : Path} :
      G.HasQuiet programs composer → G.Confines programs job compiler →
      Fits G programs job n (.acquired composer compiler (G.workspaceAt n)) bare
  | staged {composer : Composer} {compiler : Path} {c : List Text → Option Entry} :
      G.HasQuiet programs composer → G.Confines programs job compiler → HoldsInputs c →
      Fits G programs job n (.staged composer compiler (G.workspaceAt n)) c
  | compiled {composer : Composer} {c : List Text → Option Entry} :
      G.HasQuiet programs composer → c [] = some .directory → G.Readable n c →
      Fits G programs job n (.compiled composer (G.workspaceAt n)) c
  | read {composer : Composer} {bytecode : Except Failure Bytes}
      {c : List Text → Option Entry} :
      G.HasQuiet programs composer → c [] = some .directory → G.Readable n c →
      Fits G programs job n (.read composer (G.workspaceAt n) bytecode) c
  | closing {outcome : Except Failure Result} {c : List Text → Option Entry} :
      c [] = some .directory →
      Fits G programs job n (.closing (G.workspaceAt n) outcome) c

variable {stage : Stage}

/-- While a build has its workspace, that is a directory. -/
theorem Fits.directory (h : G.Fits programs job n stage before) : before [] = some .directory := by
  cases h with
  | acquired _ _ => rfl
  | staged _ _ hinputs => exact hinputs.directory
  | compiled _ hdirectory _ => exact hdirectory
  | read _ hdirectory _ => exact hdirectory
  | closing hdirectory => exact hdirectory

/-- After an action inside the workspace a build goes on, or closes its
    workspace. -/
theorem does_stageAfter (htakes : G.Takes n) {x : Action α} {outcome : Except Failure α}
    (hx : G.Does n before x outcome left) (next : α → Stage) :
    G.Does n before (do
        let outcome ← Action.attempt x
        return stageAfter (G.workspaceAt n) next outcome)
      (.ok (stageAfter (G.workspaceAt n) next outcome)) left :=
  hx.attempt.bind htakes (.pure _)

/-- **Every step of a build that has a workspace is confined**, and leaves
    it in the workspace, or the workspace gone. -/
theorem Fits.advance (h : G.Fits programs job n stage before) (hdeadline : job.deadline = none)
    (htakes : G.Takes n) :
    ∃ next left, G.Does n before (advance programs job stage) (.ok next) left
      ∧ (G.Fits programs job n next left
        ∨ (∃ outcome, next = .ended outcome) ∧ left = fun _ => none) := by
  cases h with
  | acquired hquiet hconfined =>
      obtain ⟨outcome, left, hstaged, hinputs⟩ := does_stageInputs htakes job.request
      refine ⟨_, left, does_stageAfter htakes hstaged _, .inl ?_⟩
      cases outcome with
      | ok _ => exact .staged hquiet hconfined hinputs
      | error f => exact .closing hinputs.directory
  | staged hquiet hconfined hinputs =>
      obtain ⟨outcome, left, hcompiled, hdirectory, hreadable⟩ :=
        does_compile hdeadline htakes hinputs hconfined
      refine ⟨_, left, does_stageAfter htakes hcompiled _, .inl ?_⟩
      cases outcome with
      | ok _ => exact .compiled hquiet hdirectory (hreadable rfl)
      | error f => exact .closing hdirectory
  | compiled hquiet hdirectory hreadable =>
      obtain ⟨bytecode, hread⟩ := (looks_readBytecode hreadable).does
      exact ⟨_, _, hread.attempt.bind htakes (.pure _), .inl (.read hquiet hdirectory hreadable)⟩
  | @read composer bytecode _ hquiet hdirectory hreadable =>
      obtain ⟨sourceMap, hcomposed⟩ :=
        (looks_composedMap htakes hreadable hquiet job.request.sourceMap).does
      refine ⟨.closing (G.workspaceAt n) (joinResults bytecode sourceMap), _,
        hcomposed.attempt.bind htakes (.of_same fun m _ _ => ?_), .inl (.closing hdirectory)⟩
      rw [perform_bind, perform_get]
      unfold isOverdue
      simp only [hdeadline]
      rfl
  | @closing outcome _ hdirectory =>
      have hclosed := (does_close htakes hdirectory outcome).attempt
      cases outcome with
      | ok result =>
          exact ⟨_, _, hclosed.bind htakes fun m _ hbefore =>
            ⟨_, rfl, .looked G n m m.clock _, hbefore⟩, .inr ⟨⟨_, rfl⟩, rfl⟩⟩
      | error f => exact ⟨_, _, hclosed.bind htakes (.pure _), .inr ⟨⟨_, rfl⟩, rfl⟩⟩

end HermesBundle.Build.Ground
