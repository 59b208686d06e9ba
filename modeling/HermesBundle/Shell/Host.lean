import HermesBundle.Build.Program
import HermesBundle.Shell.Scheduler

/-! # The host — programs that are shell scripts

    On this host every program is a tool of the system or a script.  An
    invocation enters its directory, finds its program and runs it with
    streams of its own; the conclusion is what the caller can see when the
    program has ended and no other process can write to its streams. -/

namespace HermesBundle.Shell

/-- The process that the caller starts. -/
def mainProcess : Nat := 2

/-- The image of the first candidate that can be started, and its path.  If
    there is none, the first failure other than absence is reported. -/
def firstProgram (w : World) (here : Location) (called : String) (arguments : List String)
    (failure : Option Errno) (last : Errno) : List String → Except Errno (String × Image)
  | [] => .error (failure.getD last)
  | path :: rest =>
      match w.imageOf here interpreterLimit called path arguments with
      | .ok image => .ok (path, image)
      | .error e =>
          let kept :=
            if failure.isNone && e != .noEntry && e != .notDirectory then some e else failure
          firstProgram w here called arguments kept e rest

/-- The directory an invocation runs in. -/
def directoryOf (fs : FileSystem) (here : Location) (directory : Option Text) :
    Except Errno Location :=
  match directory with
  | none => .ok here
  | some path =>
      match fs.locate here .target path with
      | .ok (.found l .directory) => .ok l
      | .ok (.found _ _) => .error .notDirectory
      | .ok (.free _) => .error .noEntry
      | .error e => .error e

/-- The pipes that the caller reads, by the descriptors of the program. -/
def capturedPipe (descriptor : Nat) : Nat := descriptor

/-- A world with files and the streams of a program: its input, which
    descriptor 0 leads to, and the pipes that its output goes to. -/
def startWorld (fs : FileSystem) (input : Octets) : World :=
  let open_ := fun (stream : Stream) (reads : Bool) => Opening.mk stream 0 reads (!reads) false 1
  let pipe := fun (t : Octets) => Pipe.mk t [] t.length none
  World.touchTwins
  { files := fs, shifts := [], places := [], nodes := []
    openings :=
      [(10, open_ (if input.isEmpty then .nothing else .pipe 0) true),
       (11, open_ (.pipe (capturedPipe 1)) false), (12, open_ (.pipe (capturedPipe 2)) false),
       -- The caller's ends.
       (13, open_ (.pipe (capturedPipe 1)) true), (14, open_ (.pipe (capturedPipe 2)) true)]
    pipes := [(0, pipe input), (capturedPipe 1, pipe []), (capturedPipe 2, pipe [])]
    accounts := [(mainProcess, ⟨1, none, [], false⟩)]
    newborn := [], next := 20, nextProcess := mainProcess + 1, clock := 0, ticks := 0 }

/-- What the main process has at its start. -/
def startContext (here : Location) : Context :=
  { process := mainProcess, parent := 1, shell := mainProcess, here := here, followed := 0
    directory := pathOf here, lookedUp := none
    bindings := [], name := "", parameters := [], called := "", functions := [], aliases := []
    options := [], status := 0, background := none, jobs := [], traps := [], deaf := [], pending := []
    descriptors := [(0, 10), (1, 11), (2, 12)], line := 0, nextLine := 0, running := none, loops := 0
    scopes := [], depth := 0, optionIndex := 1, optionOffset := 0, located := []
    statusBefore := none, outputStatus := 0, isTracing := false, mask := 0o022, niceness := 0
    limits := [], used := 0
    documents := [], nextDocument := 0, unwritten := [], unwrittenSize := 0, lost := none, hasTaken := false, unread := []
    isCopy := false }

/-- Whether the main process has ended and its output can not grow. -/
def isOver (w : World) : Bool :=
  ((w.accounts.lookup mainProcess).any fun a => a.ended.isSome)
    && !w.hasEnd (capturedPipe 1) true && !w.hasEnd (capturedPipe 2) true

/-- What was written to a captured pipe. -/
def writtenTo (w : World) (descriptor : Nat) : Bytes :=
  Octets.toBytes (((w.pipes.lookup (capturedPipe descriptor)).map Pipe.content).getD [])

/-- How many turns the processes have that outlive the main one. -/
def leftoverTurns : Nat := 100000

/-- What programs do on this host. -/
def programs : Build.Programs := fun fs here invocation =>
  match directoryOf fs here invocation.directory with
  | .error e => (fs, here, .notEntered e)
  | .ok inside =>
      let argv := invocation.argv.map octetString
      let program := argv.head?.getD ""
      let environment := invocation.environment.map fun (n, v) => (octetString n, octetString v)
      let world := startWorld fs (Octets.ofBytes invocation.input)
      let paths :=
        if isPath program then [program]
        else candidates (((environment.lookup "PATH")).getD standardPath) program
      match firstProgram world inside program (argv.drop 1) none .noEntry paths with
      | .error e => (fs, here, .notStarted e)
      | .ok (_, found) =>
        match { found with environment := environment }.fitting (some stackSize) with
        | .error e => (fs, here, .notStarted e)
        | .ok image =>
          let main : Sleeper :=
            ⟨startContext inside, [.turn], fun s => (runImage image).start s⟩
          let sched := Schedule.runUntil isOver invocation.allowed true Schedule.turnLimit
            ⟨world, [main]⟩
          let w := sched.world
          let after := Schedule.runUntil (fun _ => false) none false leftoverTurns sched
          let files := after.world.stored
          let here := Shift.followAll after.world.shifts here
          match (w.accounts.lookup mainProcess).bind (·.ended) with
          | some ending =>
              if isOver w then
                let status : Int :=
                  match ending with
                  | .exited status => status
                  | .killed signal => -(signal : Int)
                (files, here, .ended status (writtenTo w 1) (writtenTo w 2) w.clock)
              else (files, here, .killed)
          | none => (files, here, .killed)

/-- The directories of the system. -/
def systemDirectories : List String :=
  ["boot", "dev", "etc", "home", "media", "mnt", "opt", "proc", "root", "run", "srv", "sys", "tmp",
   "usr", "usr/bin", "usr/games", "usr/include", "usr/lib", "usr/lib64", "usr/local", "usr/local/bin",
   "usr/local/lib", "usr/local/sbin", "usr/local/share", "usr/sbin", "usr/share", "usr/src", "var",
   "var/cache", "var/lib", "var/log", "var/tmp"]

/-- The links of the system and where they lead. -/
def systemLinks : List (String × String) :=
  [("bin", "usr/bin"), ("lib", "usr/lib"), ("lib64", "usr/lib64"), ("sbin", "usr/sbin"),
   ("usr/bin/sh", "dash"), ("var/run", "/run"), ("var/lock", "/run/lock")]

/-- The devices of the system.  A source of random octets gives no octet that
    a program could rely on; here it gives zeros. -/
def systemDevices : List (String × Device) :=
  [("null", .nothing), ("zero", .zeros), ("random", .zeros), ("urandom", .zeros), ("full", .full),
   ("tty", .terminal)]

/-- The files of the system: directories, links, devices and tools. -/
def systemFiles : FileSystem :=
  let location := fun path : String => ((path.splitOn "/").map Text.ofString : Location)
  let shell := (location "usr/bin/dash", Entry.file (Octets.toBytes (toolContent "sh")) true)
  .ofEntries (systemDirectories.map (fun path => (location path, .directory))
    ++ systemLinks.map (fun (path, target) => (location path, .link (Text.ofString target)))
    ++ systemDevices.map (fun (name, device) => (location s!"dev/{name}", .device device))
    ++ shell :: tools.map fun (name, _) =>
      (location s!"usr/bin/{name}", .file (Octets.toBytes (toolContent name)) true))

end HermesBundle.Shell
