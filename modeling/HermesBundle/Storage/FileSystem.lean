import HermesBundle.Storage.Path
import HermesBundle.Storage.SystemError

/-! # File systems — trees of files, directories and links as values

    A file system is a list of entries under their locations, the names
    from the root down.  The root is always there.  Operations return the
    changed file system or the cause of the failure, so what a program
    leaves on disk is a value that can be compared.

    Entries are known by the bytes of their names, whatever code points a
    name was given by.  A file can have several names; what is written
    under one of them is found under the others.

    A directory can be removed while a program runs in it.  The program
    then stands in a directory that is empty for ever and has no name;
    the way up still leads out of it. -/

namespace HermesBundle

/-- The names that lead from the root to an entry. -/
abbrev Location := List Text

/-- What a device does with what is written, and what it yields. -/
inductive Device where
  /-- It swallows everything and yields nothing. -/
  | nothing
  /-- It swallows everything and yields zeros without end. -/
  | zeros
  /-- It has no room for anything and yields zeros without end. -/
  | full
  /-- It stands for a terminal that is not there. -/
  | terminal
deriving DecidableEq

/-- What stands at a location. -/
inductive Entry where
  | directory
  | file (content : Bytes) (executable : Bool)
  | link (target : Text)
  | device (d : Device)
deriving DecidableEq

/-- A file system. -/
structure FileSystem where
  entries : List (Location × Entry)
  /-- The locations of each file that has several. -/
  twins : List (List Location)

namespace FileSystem

/-- A file system of which every file has one name. -/
def ofEntries (entries : List (Location × Entry)) : FileSystem := ⟨entries, []⟩

/-- Nothing but the root. -/
def empty : FileSystem := ofEntries []

/-- What stands at a location. -/
def entry? (fs : FileSystem) (l : Location) : Option Entry :=
  if l.isEmpty then some .directory else fs.entries.lookup l

/-- Puts an entry at a location in place of what is there. -/
def put (fs : FileSystem) (l : Location) (e : Entry) : FileSystem :=
  if fs.entries.any fun (k, _) => k == l then
    { fs with entries := fs.entries.map fun (k, old) => if k == l then (k, e) else (k, old) }
  else { fs with entries := fs.entries ++ [(l, e)] }

/-- The locations of the file at a location. -/
def locationsOf (fs : FileSystem) (l : Location) : List Location :=
  (fs.twins.find? fun group => group.contains l).getD [l]

/-- Changes the file at a location, under all its names. -/
def putFile (fs : FileSystem) (l : Location) (e : Entry) : FileSystem :=
  (fs.locationsOf l).foldl (fun fs l => fs.put l e) fs

/-- Keeps the locations that meet a condition, with what stands there. -/
def keep (fs : FileSystem) (isKept : Location → Bool) : FileSystem :=
  ⟨fs.entries.filter fun (k, _) => isKept k, fs.twins.map fun group => group.filter isKept⟩

/-- Removes a location and everything below it. -/
def removeTree (fs : FileSystem) (l : Location) : FileSystem :=
  fs.keep fun k => !l.isPrefixOf k

/-- The entries below a location, with the names that lead to them from
    there. -/
def below (fs : FileSystem) (l : Location) : List (Location × Entry) :=
  fs.entries.filterMap fun (k, e) =>
    if l.isPrefixOf k && l.length < k.length then some (k.drop l.length, e) else none

/-- The names in a directory. -/
def names (fs : FileSystem) (l : Location) : List Text :=
  (fs.below l).filterMap fun (k, _) =>
    match k with
    | [name] => some name
    | _ => none

/-- The name of a directory that has been removed: no entry has it. -/
def lostName : Text := []

/-- Whether a location is that of a removed directory. -/
def isLost (l : Location) : Bool := l.elem lostName

/-- What a program that stands at a location finds there. -/
def standing? (fs : FileSystem) (l : Location) : Option Entry :=
  if isLost l then some .directory else fs.entry? l

/-- A directory below one that is there, by its names, as it is after
    changes: the names from the first one that is gone on are lost. -/
def settleFrom (fs : FileSystem) (l : Location) : Location → Location
  | [] => l
  | name :: rest =>
      match fs.entry? (l ++ [name]) with
      | some .directory => settleFrom fs (l ++ [name]) rest
      | _ => l ++ (name :: rest).map fun _ => lostName

/-- Where a program stands after changes. -/
def settle (fs : FileSystem) (here : Location) : Location := settleFrom fs [] here

/-- Where a path leads. -/
inductive Spot where
  /-- To an entry. -/
  | found (l : Location) (e : Entry)
  /-- To a free name in a directory. -/
  | free (l : Location)

/-- The longest name of an entry, in bytes. -/
def nameLimit : Nat := 255

/-- The longest path, in bytes. -/
def pathLimit : Nat := 4095

/-- How many links are followed on the way. -/
def linkLimit : Nat := 40

/-- How many bytes a name or a path takes. -/
def byteCount (t : Text) : Nat := ((Utf8.encodeName? t).getD t.bytes).length

/-- What a path is followed for. -/
inductive Aim where
  /-- For the entry it names, which may be a link. -/
  | itself
  /-- For what the entry leads to, if that is a link. -/
  | target
  /-- For a file to write, which may be new.  A name that has to be that
      of a directory is not the name of one. -/
  | writing
deriving DecidableEq

/-- The names the system walks along.  A final slash asks for a directory;
    it counts as an empty name. -/
def steps (t : Text) : List Text :=
  let parts := (t.splitOn slash).filter fun name => !name.isEmpty
  if t.getLast? == some slash then parts ++ [[]] else parts

/-- Walks along names from a directory.  `links` is the number of links
    that may still be followed. -/
def walk (fs : FileSystem) (aim : Aim) (links : Nat) (l : Location) :
    List Text → Except Errno Spot
  | [] =>
      match fs.standing? l with
      | some e => .ok (.found l e)
      | none => .error .noEntry
  | name :: rest =>
      match fs.standing? l with
      | some .directory =>
          if name.isEmpty || name = dot then walk fs aim links l rest
          else if name = dotDot then walk fs aim links l.dropLast rest
          else if aim = .writing && rest = [[]] then .error .isDirectory
          else if isLost l then .error .noEntry
          else if byteCount name > nameLimit then .error .nameTooLong
          else
            let next := l ++ [Utf8.settledName name]
            match fs.entry? next with
            | none => if rest.isEmpty then .ok (.free next) else .error .noEntry
            | some (.link target) =>
                if rest.isEmpty && aim = .itself then .ok (.found next (.link target))
                else
                  match links with
                  | 0 => .error .tooManyLinks
                  | links + 1 =>
                      let start := if target.head? == some slash then [] else l
                      walk fs aim links start (steps target ++ rest)
            | some e =>
                if rest.isEmpty then .ok (.found next e)
                else walk fs aim links next rest
      | some _ => .error .notDirectory
      | none => .error .noEntry
termination_by names => (links, names.length)

/-- Where the text of a path leads, seen from a directory. -/
def locate (fs : FileSystem) (here : Location) (aim : Aim) (path : Text) :
    Except Errno Spot :=
  if path.isEmpty then .error .noEntry
  else if byteCount path > pathLimit then .error .nameTooLong
  else walk fs aim linkLimit (if path.head? == some slash then [] else here) (steps path)

/-- What a path leads to, links followed. -/
def status? (fs : FileSystem) (here : Location) (path : Text) : Except Errno Entry :=
  match fs.locate here .target path with
  | .ok (.found _ e) => .ok e
  | .ok (.free _) => .error .noEntry
  | .error e => .error e

/-- Whether a path leads to anything. -/
def pathExists (fs : FileSystem) (here : Location) (path : Text) : Bool :=
  match fs.status? here path with
  | .ok _ => true
  | .error _ => false

/-- Whether a path leads to a regular file. -/
def isFile (fs : FileSystem) (here : Location) (path : Text) : Bool :=
  match fs.status? here path with
  | .ok (.file _ _) => true
  | _ => false

/-- Whether a path leads to a directory. -/
def isDirectory (fs : FileSystem) (here : Location) (path : Text) : Bool :=
  match fs.status? here path with
  | .ok .directory => true
  | _ => false

/-- The content of a file.  A device is not read to its end, and yields
    nothing. -/
def readFile (fs : FileSystem) (here : Location) (path : Text) : Except SystemError Bytes :=
  match fs.status? here path with
  | .ok (.file content _) => .ok content
  | .ok .directory => .error (.about .isDirectory path)
  | .ok (.device .terminal) => .error (.about .noDevice path)
  | .ok _ => .ok []
  | .error e => .error (.about e path)

/-- The first bytes of a file, as many as there are up to a number. -/
def readStart (fs : FileSystem) (here : Location) (path : Text) (count : Nat) :
    Except SystemError Bytes :=
  match fs.status? here path with
  | .ok (.device .zeros) => .ok (List.replicate count 0)
  | .ok (.device .full) => .ok (List.replicate count 0)
  | _ => (fs.readFile here path).map fun content => content.take count

/-- Writes a file, which is created if its name is free. -/
def writeFile (fs : FileSystem) (here : Location) (path : Text) (content : Bytes) :
    Except SystemError FileSystem :=
  match fs.locate here .writing path with
  | .ok (.found l (.file _ executable)) => .ok (fs.putFile l (.file content executable))
  | .ok (.found _ .directory) => .error (.about .isDirectory path)
  | .ok (.found _ (.device .full)) =>
      if content.isEmpty then .ok fs else .error (.bare .noSpace)
  | .ok (.found _ (.device .terminal)) => .error (.about .noDevice path)
  | .ok (.found _ _) => .ok fs
  | .ok (.free l) => .ok (fs.put l (.file content false))
  | .error e => .error (.about e path)

/-- Makes a directory at a free name. -/
def makeDirectory (fs : FileSystem) (here : Location) (path : Text) :
    Except SystemError FileSystem :=
  match fs.locate here .itself path with
  | .ok (.found _ _) => .error (.about .occupied path)
  | .ok (.free l) => .ok (fs.put l .directory)
  | .error e => .error (.about e path)

/-- Makes a directory unless it is there. -/
def ensureOne (fs : FileSystem) (here : Location) (path : Text) : Except SystemError FileSystem :=
  match fs.makeDirectory here path with
  | .ok fs => .ok fs
  | .error e =>
      if e.isNoEntry then .error e
      else if fs.isDirectory here path then .ok fs
      else .error e

/-- Makes one directory unless it is there; the files stay as they are if
    that fails. -/
def attemptOne (fs : FileSystem) (here : Location) (path : Text) :
    FileSystem × Option SystemError :=
  match fs.ensureOne here path with
  | .ok fs => (fs, none)
  | .error e => (fs, some e)

/-- Makes a directory given by its components in reverse, and those above
    it, unless they are there. -/
def ensureReversed (fs : FileSystem) (here : Location) (anchor : Anchor) :
    List Text → FileSystem × Option SystemError
  | [] => fs.attemptOne here (Path.toText ⟨anchor, []⟩)
  | name :: above =>
      let path := Path.toText ⟨anchor, (name :: above).reverse⟩
      match fs.ensureOne here path with
      | .ok fs => (fs, none)
      | .error e =>
          if e.isNoEntry then
            match ensureReversed fs here anchor above with
            | (fs, none) => fs.attemptOne here path
            | (fs, some e) => (fs, some e)
          else (fs, some e)

/-- Makes a directory and those above it unless they are there.  If that
    fails, the directories made so far stay. -/
def ensureDirectory (fs : FileSystem) (here : Location) (path : Path) :
    FileSystem × Option SystemError :=
  ensureReversed fs here path.anchor path.parts.reverse

/-- Makes a link at a free name. -/
def makeLink (fs : FileSystem) (here : Location) (target path : Text) :
    Except SystemError FileSystem :=
  match fs.locate here .itself path with
  | .ok (.found _ _) => .error (.about .occupied path)
  | .ok (.free l) => .ok (fs.put l (.link (Utf8.settledName target)))
  | .error e => .error (.about e path)

/-- Removes everything below a location. -/
def clear (fs : FileSystem) (l : Location) : FileSystem :=
  fs.keep fun k => !(l.isPrefixOf k && l.length < k.length)

/-- Removes an empty directory.  It cannot be named by dots. -/
def removeEmpty (fs : FileSystem) (here : Location) (path : Text) : Except Errno FileSystem :=
  let names := (path.splitOn slash).filter fun name => !name.isEmpty
  match names.getLast? with
  | none => .error .busy
  | some last =>
      let start := if path.head? == some slash then [] else here
      match fs.walk .target linkLimit start names.dropLast with
      | .error e => .error e
      | .ok (.free _) => .error .noEntry
      | .ok (.found l .directory) =>
          if last = dot then .error .invalid
          else if last = dotDot then .error .notEmpty
          else
            let place := l ++ [Utf8.settledName last]
            match fs.entry? place with
            | none => .error .noEntry
            | some .directory =>
                if (fs.below place).isEmpty then .ok (fs.removeTree place)
                else .error .notEmpty
            | some _ => .error .notDirectory
      | .ok (.found _ _) => .error .notDirectory

/-- Removes a directory with everything in it, which comes first.  Links
    inside are removed and not followed; in place of the directory itself
    neither a file nor a link is removed. -/
def removeDirectory (fs : FileSystem) (here : Location) (path : Path) :
    FileSystem × Option SystemError :=
  let text := path.toText
  match fs.locate here .itself text with
  | .error e => (fs, some (.about e text))
  | .ok (.free _) => (fs, some (.about .noEntry text))
  | .ok (.found l .directory) =>
      let emptied := fs.clear l
      match emptied.removeEmpty (emptied.settle here) text with
      | .ok fs => (fs, none)
      | .error e => (emptied, some (.about e text))
  | .ok (.found _ (.link _)) =>
      match fs.status? here text with
      | .error e => (fs, some (.about e text))
      | .ok _ => (fs, some .linkInPlace)
  | .ok (.found _ _) => (fs, some (.onPath .notDirectory path.shown))

/-- Removes whatever stands at a path; a link itself and not its target. -/
def removeAny (fs : FileSystem) (here : Location) (path : Text) : FileSystem :=
  match fs.locate here .itself path with
  | .ok (.found l _) => fs.removeTree l
  | _ => fs

end FileSystem

end HermesBundle
