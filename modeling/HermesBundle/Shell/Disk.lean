import HermesBundle.Shell.Streams
import HermesBundle.Storage.Resolve

/-! # Disks — the files of the world

    A file gets a node when it is first touched; from then on its content,
    its mode and the time of its last change are kept there, whatever
    names it has.  At the end of a run the contents go back under the
    names that are left. -/

namespace HermesBundle.Shell

/-- The kinds of files. -/
inductive FileKind where
  | regular
  | directory
  | link (target : String)
  | device
  | pipe
deriving DecidableEq

/-- What can be asked of a file. -/
structure FileStatus where
  location : Location
  kind : FileKind
  size : Nat
  mode : Nat
  modified : Int
  links : Nat
  /-- The number of its content, if it has been touched. -/
  node : Option Nat

/-- How a file is opened. -/
inductive OpenMode where
  | read
  /-- For writing from its start; what it held is lost. -/
  | write
  | append
  | readWrite
  /-- For writing, and only if it is new. -/
  | create
  /-- For writing over what it holds. -/
  | update
deriving DecidableEq

namespace OpenMode

/-- Whether a file that is missing is made. -/
def makes : OpenMode → Bool
  | .read => false
  | _ => true

/-- Whether the file can be read. -/
def reads : OpenMode → Bool
  | .read => true
  | .readWrite => true
  | _ => false

end OpenMode

/-- The time of the last change of files that have not been touched. -/
def untouchedTime : Int := startOfClock - 60000

/-- The mode of a file that can be executed, or cannot. -/
def plainMode (executable : Bool) : Nat := if executable then 0o755 else 0o644

/-- Whether someone may execute a file of some mode. -/
def mayExecute (mode : Nat) : Bool := mode &&& 0o111 != 0

/-- A mode without what a mask takes away. -/
def masked (mode mask : Nat) : Nat := mode - (mode &&& mask)

namespace World

/-- Where a path leads. -/
def spot (w : World) (here : Location) (follows : Bool) (path : String) :
    Except Errno FileSystem.Spot :=
  w.files.locate here (if follows then .target else .itself) (fileName path)

/-- The node that stands for an entry that has not been touched. -/
def nodeOfEntry : Entry → Node
  | .file content executable =>
      ⟨⟨content.toArray⟩, plainMode executable, untouchedTime, none⟩
  | .directory => ⟨ByteArray.empty, 0o755, untouchedTime, none⟩
  | .link _ => ⟨ByteArray.empty, 0o777, untouchedTime, none⟩
  | .device _ => ⟨ByteArray.empty, 0o666, untouchedTime, none⟩

/-- The number of the node of a file, which it gets if it has none. -/
def touch (w : World) (l : Location) (e : Entry) : World × Nat :=
  match w.places.lookup l with
  | some n => (w, n)
  | none =>
      ({ w with
         places := (l, w.next) :: w.places, nodes := (w.next, nodeOfEntry e) :: w.nodes
         next := w.next + 1 }, w.next)

/-- The node of a file. -/
def nodeAt (w : World) (l : Location) (e : Entry) : Node :=
  ((w.places.lookup l).bind fun n => w.nodes.lookup n).getD (nodeOfEntry e)

/-- What can be asked of the file at a location. -/
def statusAt (w : World) (l : Location) (e : Entry) : FileStatus :=
  let number := w.places.lookup l
  let node := w.nodeAt l e
  let links := (number.map fun n => w.places.countP fun (_, m) => m == n).getD 1
  match e with
  | .file _ _ =>
      ⟨l, if node.pipe.isSome then .pipe else .regular, node.content.size, node.mode,
        node.modified, links, number⟩
  | .directory =>
      let inner := (w.files.names l).countP fun name => w.files.entry? (l ++ [name]) == some .directory
      ⟨l, .directory, 4096, node.mode, node.modified, 2 + inner, number⟩
  | .link target =>
      ⟨l, .link (octetString target), (Octets.ofText target).length, 0o777, node.modified, 1,
        number⟩
  | .device _ => ⟨l, .device, 0, 0o666, node.modified, 1, number⟩

/-- What can be asked of the file that a path leads to. -/
def status (w : World) (here : Location) (follows : Bool) (path : String) :
    Except Errno FileStatus :=
  match w.spot here follows path with
  | .ok (.found l e) => .ok (w.statusAt l e)
  | .ok (.free _) => .error .noEntry
  | .error e => .error e

/-- Whether a path leads to a directory. -/
def isDirectory (w : World) (here : Location) (path : String) : Bool :=
  w.files.isDirectory here (fileName path)

/-- The names in a directory in the order of their octets. -/
def namesIn (w : World) (l : Location) : List String :=
  ((w.files.names l).map octetString).mergeSort fun a b => !(precedes b.toList a.toList)

/-- A directory has been changed. -/
def markChanged (w : World) (l : Location) : World :=
  match w.places.lookup l with
  | some n => { w with nodes := changeAt w.nodes n fun node => { node with modified := w.now } }
  | none =>
      match w.files.entry? l with
      | some e =>
          let (w, n) := w.touch l e
          { w with nodes := changeAt w.nodes n fun node => { node with modified := w.now } }
      | none => w

/-- Puts an entry at a free location, with its node. -/
def make (w : World) (l : Location) (e : Entry) (mode : Nat) : World × Nat :=
  let node := { nodeOfEntry e with mode := mode, modified := w.now }
  let w : World :=
    { w with
      files := w.files.put l e, places := (l, w.next) :: w.places
      nodes := (w.next, node) :: w.nodes, next := w.next + 1 }
  (w.markChanged l.dropLast, w.next - 1)

/-- Takes away a location and everything below it. -/
def erase (w : World) (l : Location) : World :=
  let w : World :=
    { w with
      files := w.files.removeTree l
      places := w.places.filter fun (k, _) => !l.isPrefixOf k }
  w.markChanged l.dropLast

/-- Removes a location and everything below it. -/
def remove (w : World) (l : Location) : World :=
  match w.files.entry? l with
  | some .directory => (w.erase l).shift (.removed l)
  | _ => w.erase l

/-- Gives what is at and below a location another name, in place of what
    has it. -/
def move (w : World) (source target : Location) : World :=
  let moved := fun l : Location => target ++ l.drop source.length
  let entries := w.files.entries.filterMap fun (l, e) =>
    if source.isPrefixOf l then some (moved l, e) else none
  let places := w.places.filterMap fun (l, n) =>
    if source.isPrefixOf l then some (moved l, n) else none
  let w := (w.remove target).erase source
  let files := { w.files with entries := w.files.entries ++ entries }
  let w : World := { w with files := files, places := places ++ w.places }
  (w.markChanged target.dropLast).shift (.moved source target)

/-- Gives a file a further name. -/
def link (w : World) (source target : Location) (e : Entry) : World :=
  let (w, n) := w.touch source e
  let w : World := { w with files := w.files.put target e, places := (target, n) :: w.places }
  w.markChanged target.dropLast

/-- Changes what is known of a file. -/
def change (w : World) (l : Location) (e : Entry) (f : Node → Node) : World :=
  let (w, n) := w.touch l e
  { w with nodes := changeAt w.nodes n f }

/-- The locations of a node. -/
def locationsOf (w : World) (number : Nat) : List Location :=
  w.places.filterMap fun (l, n) => if n == number then some l else none

/-- The files with the contents that they have now. -/
def stored (w : World) : FileSystem :=
  let files := w.places.foldl
    (fun fs (l, n) =>
      match fs.entry? l, w.nodes.lookup n with
      | some (.file _ _), some node => fs.put l (.file node.content.toList (mayExecute node.mode))
      | _, _ => fs)
    w.files
  let groups := (w.places.map (·.2)).eraseDups.map w.locationsOf
  { files with twins := groups.filter fun group => 1 < group.length }

/-- Gives a node to every file that has several names. -/
def touchTwins (w : World) : World :=
  w.files.twins.foldl
    (fun w group =>
      match group.head?.bind fun l => (w.files.entry? l).map fun e => (l, e) with
      | none => w
      | some (l, e) =>
          let (w, n) := w.touch l e
          { w with places := (group.drop 1).map (fun k => (k, n)) ++ w.places })
    w

/-- What an open device leads to; there is no terminal to lead to. -/
def deviceStream : Device → Except Errno Stream
  | .nothing => .ok .nothing
  | .zeros => .ok .zeros
  | .full => .ok .full
  | .terminal => .error .noDevice

end World

/-- The descriptor that the name of a device stands for. -/
def descriptorOf (path : String) : Option Nat :=
  if path == "/dev/stdin" then some 0
  else if path == "/dev/stdout" then some 1
  else if path == "/dev/stderr" then some 2
  else
    let t := path.toList
    if "/dev/fd/".toList.isPrefixOf t then decimal? (t.drop 8)
    else if "/proc/self/fd/".toList.isPrefixOf t then decimal? (t.drop 14)
    else none

namespace Run

/-- Where a path leads. -/
def spot (follows : Bool) (path : String) : Run (Except Errno FileSystem.Spot) := do
  let s ← get
  return s.toWorld.spot s.here follows path

/-- What can be asked of the file that a descriptor leads to. -/
def descriptorStatus (descriptor : Nat) : Run (Except Errno FileStatus) := do
  let s ← get
  let name := [fileName (String.ofList (decimal descriptor))]
  match (s.descriptors.lookup descriptor).bind fun number => s.openings.lookup number with
  | none => return .error .badDescriptor
  | some o =>
      match o.stream with
      | .node n =>
          match s.nodes.lookup n with
          | some node =>
              let places := s.places.filter fun (_, m) => m == n
              return .ok
                ⟨(places.head?.map (·.1)).getD name, .regular, node.content.size, node.mode,
                  node.modified, places.length, some n⟩
          | none => return .error .noEntry
      | .directory l =>
          match s.files.entry? l with
          | some e => return .ok (s.toWorld.statusAt l e)
          | none => return .error .noEntry
      | .pipe _ => return .ok ⟨name, .pipe, 0, 0o600, s.toWorld.now, 1, none⟩
      | _ => return .ok ⟨name, .device, 0, 0o666, untouchedTime, 1, none⟩

/-- What can be asked of the file that a path leads to. -/
def status (follows : Bool) (path : String) : Run (Except Errno FileStatus) := do
  match descriptorOf path with
  | some descriptor =>
      match ← descriptorStatus descriptor with
      | .error .badDescriptor => return .error .noEntry
      | r => return r
  | none => do
      let s ← get
      return s.toWorld.status s.here follows path

/-- Changes the world. -/
def changeWorld (f : World → World) : Run Unit :=
  modify fun s =>
    let w := f s.toWorld
    { s with toWorld := w, toContext := w.carry s.toContext }

/-- Opens the content of a node. -/
def openNode (number : Nat) (mode : OpenMode) : Run Nat := do
  if mode = .write then
    modify fun s => { s with
      nodes := changeAt s.nodes number fun node =>
        { node with content := ByteArray.empty, modified := s.toWorld.now } }
  makeOpening (.node number) mode.reads (mode != .read) (mode = .append)

/-- Opens a pipe that has a name, and waits for the other end. -/
def openPipe (pipe : Nat) (mode : OpenMode) : Run Nat := do
  let number ← makeOpening (.pipe pipe) mode.reads (mode != .read) false
  if mode = .read then
    await [.writer pipe]
  else if mode != .readWrite then
    await [.reader pipe]
  return number

/-- Opens what a descriptor leads to once more. -/
def reopen (descriptor : Nat) (mode : OpenMode) : Run (Except Errno Nat) := do
  match ← opening descriptor with
  | none => return .error .noEntry
  | some (number, o) =>
      match o.stream with
      | .node n => return .ok (← openNode n mode)
      | .pipe p => return .ok (← makeOpening (.pipe p) mode.reads (mode != .read) false)
      | _ => return .ok number

/-- Opens a file. -/
def openFile (path : String) (mode : OpenMode) : Run (Except Errno Nat) := do
  match descriptorOf path with
  | some descriptor => reopen descriptor mode
  | none => do
      let s ← get
      match s.files.locate s.here (if mode.makes then .writing else .target) (fileName path) with
      | .error e => return .error e
      | .ok (.free l) =>
          if !mode.makes then return .error .noEntry
          else do
            let (w, number) := s.toWorld.make l (.file [] false) (masked 0o666 s.mask)
            set { s with toWorld := w }
            return .ok (← openNode number mode)
      | .ok (.found l .directory) =>
          if mode = .create then return .error .occupied
          else if mode != .read then return .error .isDirectory
          else return .ok (← makeOpening (.directory l) true false false)
      | .ok (.found l (.file content executable)) => do
          let (w, number) := s.toWorld.touch l (.file content executable)
          set { s with toWorld := w }
          match (w.nodes.lookup number).bind (·.pipe) with
          | some pipe => return .ok (← openPipe pipe mode)
          | none =>
              if mode = .create then return .error .occupied
              else return .ok (← openNode number mode)
      | .ok (.found _ (.device d)) =>
          match World.deviceStream d with
          | .ok stream => return .ok (← makeOpening stream true true false)
          | .error e => return .error e
      | .ok (.found _ (.link _)) => return .error .tooManyLinks

/-- The lowest descriptor from some number on that leads nowhere. -/
def freeDescriptor (lowest : Nat) : Run Nat := do
  let s ← get
  let candidates := (List.range (s.descriptors.length + 1)).map (· + lowest)
  return (candidates.find? fun d => (s.descriptors.lookup d).isNone).getD lowest

/-- Opens a file for a descriptor of a program. -/
def openAs (path : String) (mode : OpenMode) : Run (Except Errno Nat) := do
  match ← openFile path mode with
  | .error e => return .error e
  | .ok number => do
      let descriptor ← freeDescriptor 3
      connect descriptor number
      return .ok descriptor

/-- Everything in a file. -/
def readFile (path : String) : Run (Except Errno Octets) := do
  match ← openAs path .read with
  | .error e => return .error e
  | .ok descriptor => do
      let t ← readAll descriptor
      close descriptor
      return t

end Run

end HermesBundle.Shell
