import HermesBundle.Shell.Script
import HermesBundle.Storage.Shift

/-! # The world of scripts — what processes share

    Files, pipes, open files and the clock are common to all processes.
    The content of a file that is touched is kept under a number of its
    own, so that it can have several names, or be read on when it has
    none.  Time passes only while every process waits for it. -/

namespace HermesBundle.Shell

/-- What an open file leads to. -/
inductive Stream where
  /-- The content of a file, by its number. -/
  | node (number : Nat)
  | directory (l : Location)
  | pipe (number : Nat)
  /-- The device that swallows everything and yields nothing. -/
  | nothing
  /-- The device that yields zeros. -/
  | zeros
  /-- The device that has no room, and yields zeros. -/
  | full
deriving DecidableEq

/-- An open file.  Descriptors that were copied share its offset. -/
structure Opening where
  stream : Stream
  offset : Nat
  reads : Bool
  writes : Bool
  appends : Bool
  /-- How many descriptors lead to it. -/
  holders : Nat

/-- A pipe with what was written to it and not yet read. -/
structure Pipe where
  front : Octets
  /-- Later pieces, the latest one first. -/
  back : List Octets
  size : Nat
  /-- How much it holds, if it is bounded. -/
  limit : Option Nat

namespace Pipe

/-- What is left to read. -/
def content (p : Pipe) : Octets := p.front ++ p.back.reverse.flatten

/-- Adds a piece. -/
def push (p : Pipe) (t : Octets) : Pipe :=
  { p with back := t :: p.back, size := p.size + t.length }

/-- Takes at most some number of octets. -/
def take (p : Pipe) (count : Nat) : Octets × Pipe :=
  let front := if p.front.length < count then p.content else p.front
  let back := if p.front.length < count then [] else p.back
  let taken := front.take count
  (taken, { p with front := front.drop count, back := back, size := p.size - taken.length })

end Pipe

/-- What is known of a file besides its names. -/
structure Node where
  content : ByteArray
  mode : Nat
  /-- The milliseconds from the epoch to the last change. -/
  modified : Int
  /-- The pipe that the file is, if it is one. -/
  pipe : Option Nat

/-- How a process ended. -/
inductive Ending where
  | exited (status : Nat)
  | killed (signal : Nat)
deriving DecidableEq

/-- The status of an ending. -/
def Ending.status : Ending → Nat
  | .exited status => status
  | .killed signal => 128 + signal

/-- What others can know of a process. -/
structure Account where
  parent : Nat
  ended : Option Ending
  /-- The signals that were sent and have not arrived. -/
  signals : List Nat
  isStopped : Bool

/-- A program with the name by which it is called, its arguments and the
    variables that it is given. -/
structure Image where
  program : String
  called : String
  arguments : List String
  environment : Table String

/-- What a new process does. -/
inductive Job where
  /-- It runs commands under redirections as a copy of the shell. -/
  | commands (isTested isBackground : Bool) (body : List Command) (redirects : List Redirect)
  | image (image : Image)

/-- A variable of a shell. -/
structure Variable where
  value : Option String
  isExported : Bool
  isConstant : Bool

/-- A command that the shell started without waiting for it. -/
structure BackgroundJob where
  number : Nat
  processes : List Nat
  /-- Whether its end has been waited for. -/
  isKnown : Bool

/-- A limit of a process: the one that holds, and how far it can be moved. -/
structure Limit where
  soft : Option Nat
  hard : Option Nat

/-- How much a stack may hold if nothing else was said. -/
def stackSize : Nat := 8388608

/-- What a process has for itself. -/
structure Context where
  process : Nat
  parent : Nat
  /-- The process of the shell that the script belongs to. -/
  shell : Nat
  here : Location
  /-- How many shifts of directories the process has followed. -/
  followed : Nat
  /-- The directory as the shell names it. -/
  directory : String
  /-- The path of the directory when it was last looked up, if it was. -/
  lookedUp : Option String
  bindings : Table Variable
  /-- The name of the script. -/
  name : String
  parameters : List String
  /-- The name by which the running program was called. -/
  called : String
  functions : Table Command
  aliases : Table String
  /-- The letters of the options that are on. -/
  options : List Char
  status : Nat
  /-- The process that was last started in the background. -/
  background : Option Nat
  /-- What runs in the background, the latest first. -/
  jobs : List BackgroundJob
  /-- What is to be run when a signal comes, or at the end, which counts as
      signal 0. -/
  traps : List (Nat × String)
  /-- The signals that are ignored whatever their action. -/
  deaf : List Nat
  /-- The signals that have come and have an action. -/
  pending : List Nat
  descriptors : List (Nat × Nat)
  /-- The line of the command that is run, and the one that is read next. -/
  line : Nat
  nextLine : Nat
  /-- What complaints of the shell begin with, if it runs a command. -/
  running : Option String
  /-- How many loops are being run inside each other. -/
  loops : Nat
  /-- The variables that running functions have made their own, with the
      values to be restored. -/
  scopes : List (List (String × Option Variable))
  /-- How many functions are being run inside each other. -/
  depth : Nat
  /-- Which argument is read next for options, and how far the options of
      the one before it have been read. -/
  optionIndex : Nat
  optionOffset : Nat
  /-- Where programs have been found. -/
  located : Table String
  /-- The status before the action of a trap that is being run. -/
  statusBefore : Option Nat
  /-- The status of the last commands whose output was taken. -/
  outputStatus : Nat
  /-- Whether commands are being shown before they are run. -/
  isTracing : Bool
  mask : Nat
  /-- How much the process gives way to others. -/
  niceness : Int
  /-- The limits that were set, by their letters. -/
  limits : List (Char × Limit)
  /-- How many commands the process has run. -/
  used : Nat
  /-- Input that the script holds for its commands. -/
  documents : List (Nat × Word)
  nextDocument : Nat
  /-- What a program has not yet written to its output, the latest first. -/
  unwritten : List Octets
  unwrittenSize : Nat
  /-- Why some of the output of a builtin or a program could not be written. -/
  lost : Option Errno
  /-- Whether a program has read what it was given as its input. -/
  hasTaken : Bool
  /-- What a program has read from descriptors and not yet used. -/
  unread : List (Nat × Octets)
  /-- Whether the process is a copy of the shell. -/
  isCopy : Bool

/-- A process that is to begin. -/
structure Newborn where
  job : Job
  context : Context

/-- What all processes share. -/
structure World where
  files : FileSystem
  /-- What happened to directories, the latest first. -/
  shifts : List Shift
  /-- The numbers of the files that have been touched. -/
  places : List (Location × Nat)
  nodes : List (Nat × Node)
  openings : List (Nat × Opening)
  pipes : List (Nat × Pipe)
  accounts : List (Nat × Account)
  newborn : List Newborn
  /-- The next number for a node, an opening or a pipe. -/
  next : Nat
  nextProcess : Nat
  clock : Nat
  /-- How many commands have been run. -/
  ticks : Nat

/-- The milliseconds from the epoch to the start of the clock. -/
def startOfClock : Int := 1767225600000

/-- A value in a list under a number, changed. -/
def changeAt {β : Type} (t : List (Nat × β)) (number : Nat) (change : β → β) : List (Nat × β) :=
  t.map fun (n, v) => if n == number then (n, change v) else (n, v)

namespace World

/-- Something happens to a directory. -/
def shift (w : World) (s : Shift) : World :=
  let openings := w.openings.map fun (n, o) =>
    match o.stream with
    | .directory l => (n, { o with stream := .directory (s.follow l) })
    | _ => (n, o)
  { w with shifts := s :: w.shifts, openings := openings }

/-- What a process has for itself once it has followed all shifts. -/
def carry (w : World) (c : Context) : Context :=
  let count := w.shifts.length
  { c with
    here := Shift.followAll (w.shifts.take (count - c.followed)) c.here, followed := count }

/-- The present in milliseconds from the epoch. -/
def now (w : World) : Int := startOfClock + w.clock

/-- Whether some opening of a pipe is for writing, or for reading. -/
def hasEnd (w : World) (pipe : Nat) (writing : Bool) : Bool :=
  w.openings.any fun (_, o) => o.stream = .pipe pipe && (if writing then o.writes else o.reads)

/-- One more descriptor leads to an opening. -/
def retain (w : World) (opening : Nat) : World :=
  { w with openings := changeAt w.openings opening fun o => { o with holders := o.holders + 1 } }

/-- One descriptor less leads to an opening. -/
def release (w : World) (opening : Nat) : World :=
  match w.openings.lookup opening with
  | none => w
  | some o =>
      if o.holders ≤ 1 then { w with openings := w.openings.filter fun (n, _) => n != opening }
      else
        { w with openings := changeAt w.openings opening fun o => { o with holders := o.holders - 1 } }

/-- Every one of some descriptors leads to its opening once more. -/
def retainAll (w : World) (descriptors : List (Nat × Nat)) : World :=
  descriptors.foldl (fun w (_, opening) => w.retain opening) w

/-- Every one of some descriptors is closed. -/
def releaseAll (w : World) (descriptors : List (Nat × Nat)) : World :=
  descriptors.foldl (fun w (_, opening) => w.release opening) w

end World

end HermesBundle.Shell
