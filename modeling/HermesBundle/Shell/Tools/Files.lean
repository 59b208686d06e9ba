import HermesBundle.Shell.Modes
import HermesBundle.Shell.Tools.Paths
import HermesBundle.Shell.Tools.Quantity

/-! # Files — programs that make, remove and mark files -/

namespace HermesBundle.Shell.Tool

/-- A complaint about something that cannot be done, with its cause. -/
def cannot (what : String) (e : Errno) : Run Nat := do
  Run.objection (what ++ ": " ++ e.text)
  return 1

/-! ## Directories -/

/-- The mode that a description gives, or the end of the program. -/
def modeArgument (hints : Bool) (t : String) : Run (Bool → Nat → Nat → Nat) := do
  match modeOf t.toList with
  | some f => return f
  | none => do
      let complaint := "invalid mode" ++ (if hints then ": " else " ") ++ (← Run.inQuotes t)
      if hints then Run.misuse 1 complaint else Run.quit 1 complaint

/-- Makes one directory. -/
def makeDirectory (path : String) (mode : Nat) : Run (Option Errno) := do
  match ← Run.spot false (String.ofList (withoutSlashes path.toList)) with
  | .error e => return some e
  | .ok (.found _ _) => return some .occupied
  | .ok (.free l) => do
      Run.changeWorld fun w => (w.make l .directory mode).1
      return none

/-- The prefixes of a path that end before a slash or at its end. -/
def pathPrefixes (path : Octets) : List Octets :=
  let found := (List.range (path.length + 1)).filterMap fun n =>
    let here := path.take n
    let ends := n > 0 && here.getLast? != some '/'
      && (path[n]? == some '/' || n == path.length)
    if ends then some here else none
  found.dropLast ++ [path]

/-- Makes a directory and those above it that are missing. -/
def makeParents (path : String) (mode : Nat) (tell : String → Run Unit) :
    List Octets → Run (Option (String × Errno))
  | [] => return none
  | here :: rest => do
      let name := String.ofList here
      match ← Run.status true name with
      | .ok f =>
          if f.kind = .directory then makeParents path mode tell rest
          else return some (name, if rest.isEmpty then .occupied else .notDirectory)
      | .error .noEntry => do
          let s ← get
          let isLast := rest.isEmpty
          match ← makeDirectory name (if isLast then mode else masked 0o777 s.mask) with
          | none => do
              tell name
              makeParents path mode tell rest
          | some e => return some (name, e)
      | .error e => return some (name, e)

/-- Makes directories. -/
def mkdir : Tool := fun arguments => do
  let g ← given [valued 'm' "mode", flag 'p' "parents", flag 'v' "verbose", flag 'Z' ""] 1 arguments
  if g.operands.isEmpty then Run.missing 1 "operand"
  let s ← get
  let mode ← match g.value? "m" with
    | none => pure (masked 0o777 s.mask)
    | some t => do
        let f ← modeArgument false t
        pure (f true s.mask 0o777)
  let tell := fun (path : String) => do
    if g.has "v" then
      Run.printString (s.called ++ ": created directory " ++ (← Run.quoted path) ++ "\n")
  let failure := fun (path : String) (e : Errno) => do
    cannot ("cannot create directory " ++ (← Run.inQuotes path)) e
  overall
    (fun path => do
      if g.has "p" then
        if path.isEmpty then failure path .noEntry
        else
          match ← makeParents path mode tell (pathPrefixes path.toList) with
          | none => return 0
          | some (name, e) => failure name e
      else
        match ← makeDirectory path mode with
        | none => do
            tell path
            return 0
        | some e => failure path e)
    g.operands 0

/-- Whether a path is that of a link with a slash behind it. -/
def isLinkWithSlash (path : String) : Run Bool := do
  let bare := withoutSlashes path.toList
  if bare == path.toList then return false
  match ← Run.spot false (String.ofList bare) with
  | .ok (.found _ (.link _)) => return true
  | _ => return false

/-- Removes one empty directory. -/
def removeDirectory (path : String) : Run (Option Errno) := do
  let bare := withoutSlashes path.toList
  match ← Run.spot false (String.ofList bare) with
  | .error e => return some e
  | .ok (.free _) => return some .noEntry
  | .ok (.found l .directory) => do
      let s ← get
      let last := lastComponent bare
      if last == ['.'] then return some .invalid
      else if l.isEmpty then return some .busy
      else if last == "..".toList || !(s.files.below l).isEmpty then return some .notEmpty
      else do
        Run.changeWorld fun w => w.remove l
        return none
  | .ok (.found _ _) => return some .notDirectory

/-- Removes empty directories and, if asked to, those above them. -/
def removeChain (g : Given) (isParent : Bool) (path : String) : Nat → Run Nat
  | 0 => return 0
  | fuel + 1 => do
      let s ← get
      if g.has "v" then
        Run.printString (s.called ++ ": removing directory, " ++ (← Run.quoted path) ++ "\n")
      match ← removeDirectory path with
      | some e =>
          if g.has "ignore-fail-on-non-empty" && e = .notEmpty then return 0
          else do
            let complaint := "failed to remove " ++ (if isParent then "directory " else "")
              ++ (← Run.quoted path)
            if ← isLinkWithSlash path then
              Run.objection (complaint ++ ": Symbolic link not followed")
              return 1
            else cannot complaint e
      | none =>
          let above := directoryPart path.toList
          if g.has "p" && above != ['.'] && above != ['/'] then
            removeChain g true (String.ofList above) fuel
          else return 0

/-- Removes empty directories. -/
def rmdir : Tool := fun arguments => do
  let g ← given [flag 'p' "parents", flag 'v' "verbose", long "ignore-fail-on-non-empty" .none] 1
    arguments
  if g.operands.isEmpty then Run.missing 1 "operand"
  overall (fun path => removeChain g false path (path.length + 1)) g.operands 0

/-! ## Removal -/

/-- Whether the answer to a question is yes. -/
def agrees : Run Bool := do
  match ← Run.readRecord 0 '\n' with
  | .ok (c :: _) => return lowered c == 'y'
  | _ => return false

/-- Asks about something on the error output. -/
def asks (question : String) : Run Bool := do
  let _ ← Run.flush
  Run.report ((← get).called ++ ": " ++ question ++ "? ").toList
  agrees

/-- What a file is called in a question. -/
def kindName (f : FileStatus) : String :=
  match f.kind with
  | .regular => if f.size = 0 then "regular empty file" else "regular file"
  | .directory => "directory"
  | .link _ => "symbolic link"
  | .device => "character special file"
  | .pipe => "fifo"

/-- Removes a file or, if asked to, a directory with everything in it; the
    result tells whether all of it is gone. -/
def removePath (g : Given) : Nat → String → Run Bool
  | 0, _ => return true
  | fuel + 1, path => do
      let recursive := g.has "r" || g.has "R"
      let isForced := g.last? ["f", "i"] == some "f"
      let isAsked := g.last? ["f", "i"] == some "i"
      let failure := fun (e : Errno) => do
        if isForced && (e = .noEntry || e = .notDirectory) then return true
        else do
          let _ ← cannot ("cannot remove " ++ (← Run.quoted path)) e
          return false
      match ← Run.status false path with
      | .error e => do
          let cause := if ← isLinkWithSlash path then Errno.notDirectory else e
          failure cause
      | .ok f => do
          let shown ← Run.quoted path
          match f.kind with
          | .directory => do
              let s ← get
              let names := s.toWorld.namesIn f.location
              if !recursive && !(g.has "d") then failure .isDirectory
              else if !recursive && !names.isEmpty then failure .notEmpty
              else do
                let enters ←
                  if isAsked && !names.isEmpty then asks ("descend into directory " ++ shown)
                  else pure true
                if !enters then return true
                else do
                  let mut isClear := true
                  for name in names do
                    let gone ← removePath g fuel (inDirectory path name.toList)
                    isClear := isClear && gone
                  let leaves ←
                    if isAsked then asks ("remove directory " ++ shown) else pure true
                  let left := (← get).toWorld.namesIn f.location
                  if !leaves then return isClear
                  else if ← isLinkWithSlash path then failure .notDirectory
                  else if !left.isEmpty then
                    if isClear then failure .notEmpty else return false
                  else do
                    Run.changeWorld fun w => w.remove f.location
                    if g.has "v" then Run.printString ("removed directory " ++ shown ++ "\n")
                    return isClear
          | _ => do
              let goes ← if isAsked then asks ("remove " ++ kindName f ++ " " ++ shown) else pure true
              if goes then
                Run.changeWorld fun w => w.remove f.location
                if g.has "v" then Run.printString ("removed " ++ shown ++ "\n")
              return true

/-- Removes files and, if asked to, directories. -/
def rm : Tool := fun arguments => do
  let g ← given
    [flag 'f' "force", flag 'i' "", flag 'I' "", long "interactive" .optional, flag 'r' "recursive",
     flag 'R' "", flag 'd' "dir", flag 'v' "verbose", long "one-file-system" .none,
     long "no-preserve-root" .none, long "preserve-root" .optional] 1 arguments
  if g.operands.isEmpty && !g.has "f" then Run.missing 1 "operand"
  let recursive := g.has "r" || g.has "R"
  overall
    (fun path => do
      let last := lastComponent path.toList
      let isThere ← match ← Run.status false path with
        | .ok _ => pure true
        | .error _ => pure false
      let s ← get
      let isDirectory := s.toWorld.isDirectory s.here path
      let isEmpty := match s.toWorld.spot s.here true path with
        | .ok (.found l _) => (s.files.below l).isEmpty
        | _ => false
      let isRefused := recursive || (g.has "d" && isDirectory && isEmpty)
      if isThere && isRefused && (last == ['.'] || last == "..".toList) then
        Run.objection ("refusing to remove \x27.\x27 or \x27..\x27 directory: skipping "
          ++ (← Run.quoted path))
        return 1
      else if recursive && last == ['/'] then
        Run.objection "it is dangerous to operate recursively on \x27/\x27"
        Run.objection "use --no-preserve-root to override this failsafe"
        return 1
      else return if ← removePath g 1000 path then 0 else 1)
    g.operands 0

/-- Removes one file. -/
def unlink : Tool := fun arguments => do
  let g ← given [] 1 arguments
  match g.operands with
  | [] => Run.missing 1 "operand"
  | [path] => do
      let failure := fun (e : Errno) => do cannot ("cannot unlink " ++ (← Run.quoted path)) e
      match ← Run.status false path with
      | .error e => failure e
      | .ok f =>
          if f.kind = .directory then failure .isDirectory
          else do
            Run.changeWorld fun w => w.remove f.location
            return 0
  | _ :: second :: _ => Run.extra 1 second

/-- Makes pipes with names. -/
def mkfifo : Tool := fun arguments => do
  let g ← given [valued 'm' "mode", flag 'Z' ""] 1 arguments
  if g.operands.isEmpty then Run.missing 1 "operand"
  overall
    (fun path => do
      let failure := fun (e : Errno) => do cannot ("cannot create fifo " ++ (← Run.quoted path)) e
      match ← Run.spot false path with
      | .error e => failure e
      | .ok (.found _ _) => failure .occupied
      | .ok (.free l) => do
          let s ← get
          let (w, number) := s.toWorld.make l (.file [] false) (masked 0o666 s.mask)
          set { s with toWorld := w }
          let pipe ← Run.makePipe [] (some pipeLimit)
          modify fun s => { s with
            nodes := changeAt s.nodes number fun node => { node with pipe := some pipe } }
          return 0)
    g.operands 0

/-! ## Modes -/

/-- Whether an argument describes a mode although it looks like options. -/
def looksLikeMode (t : String) : Bool :=
  match t.toList with
  | '-' :: c :: rest => "rwxXstugoa".toList.contains c && rest.all fun d => "rwxXstugoa,+-=".toList.contains d
  | _ => false

/-- The files at and below a path, the directory first. -/
def filesBelow : Nat → String → Run (List String)
  | 0, path => return [path]
  | fuel + 1, path => do
      match ← Run.status false path with
      | .ok f =>
          if f.kind = .directory then do
            let names := (← get).toWorld.namesIn f.location
            let inner ← names.mapM fun name => filesBelow fuel (inDirectory path name.toList)
            return path :: inner.flatten
          else return [path]
      | .error _ => return [path]

/-- A mode as it is told of. -/
def modeText (mode : Nat) : String :=
  String.ofList (zeroPadded 8 4 mode ++ " (".toList ++ modeLetters mode ++ [')'])

/-- Changes the mode of one file. -/
def changeMode (g : Given) (f : Bool → Nat → Nat → Nat) (isInner : Bool) (path : String) :
    Run Nat := do
  let s ← get
  match ← Run.status true path with
  | .error e =>
      let isLink := match s.toWorld.status s.here false path with
        | .ok _ => true
        | .error _ => false
      if isLink && isInner then return 0
      else do
      if g.has "v" then Run.printString ((← Run.quoted path) ++ " could not be accessed\n")
      if g.has "f" then return 1
      else if isLink && e = .noEntry then do
        Run.objection ("cannot operate on dangling symlink " ++ (← Run.quoted path))
        return 1
      else cannot ("cannot access " ++ (← Run.quoted path)) e
  | .ok status =>
      match s.files.entry? status.location with
      | none => return 1
      | some e => do
          let before := status.mode
          let after := f (status.kind = .directory) s.mask before
          Run.changeWorld fun w => w.change status.location e fun node => { node with mode := after }
          let shown ← Run.quoted path
          if before != after && (g.has "v" || g.has "c") then
            Run.printString ("mode of " ++ shown ++ " changed from " ++ modeText before ++ " to "
              ++ modeText after ++ "\n")
          else if g.has "v" then
            Run.printString ("mode of " ++ shown ++ " retained as " ++ modeText after ++ "\n")
          return 0

/-- Changes the modes of files. -/
def chmod : Tool := fun arguments => do
  let modes := arguments.filter looksLikeMode
  let g ← given
    [flag 'c' "changes", flag 'f' "silent", long "quiet" .none, flag 'R' "recursive",
     flag 'v' "verbose", long "reference" .required, long "preserve-root" .none,
     long "no-preserve-root" .none] 1 (arguments.filter fun t => !looksLikeMode t)
  let words := if modes.isEmpty then g.operands else String.intercalate "," modes :: g.operands
  let (f, operands) : (Bool → Nat → Nat → Nat) × List String ← match g.value? "reference", words with
    | some path, words => do
        match ← Run.status true path with
        | .ok status => pure ((fun _ _ _ => status.mode), words)
        | .error e =>
            Run.quit 1 ("failed to get attributes of " ++ (← Run.quoted path) ++ ": " ++ e.text)
    | none, [] => Run.missing 1 "operand"
    | none, [mode] =>
        if modes.isEmpty then do Run.missing 1 ("operand after " ++ (← Run.inQuotes mode))
        else Run.missing 1 "operand"
    | none, mode :: operands => do pure (← modeArgument true mode, operands)
  if operands.isEmpty then Run.missing 1 "operand"
  overall
    (fun path => do
      if g.has "R" then
        match ← filesBelow 1000 path with
        | first :: rest => do
            let status ← changeMode g f false first
            overall (changeMode g f true) rest status
        | [] => return 0
      else changeMode g f false path)
    operands 0

/-- Gives files to users, which has no effect here but on those that are
    missing. -/
def chown (name : String) : Tool := fun arguments => do
  let g ← given
    [flag 'R' "recursive", flag 'h' "no-dereference", flag 'v' "verbose", flag 'c' "changes",
     flag 'f' "silent", long "reference" .required] 1 arguments
  match g.operands with
  | [] => Run.missing 1 "operand"
  | owner :: operands => do
      let _ := name
      if operands.isEmpty then Run.missing 1 ("operand after " ++ (← Run.inQuotes owner))
      overall
        (fun path => do
          match ← Run.status true path with
          | .ok _ => return 0
          | .error e => cannot ("cannot access " ++ (← Run.quoted path)) e)
        operands 0

/-! ## Sizes -/

/-- How a size is given: as it is, or in relation to the one there is. -/
def newSize (relation : Option Char) (n before : Nat) : Nat :=
  match relation with
  | some '+' => before + n
  | some '-' => before - n
  | some '<' => min before n
  | some '>' => max before n
  | some '/' => if n = 0 then before else before / n * n
  | some '%' => if n = 0 then before else (before + n - 1) / n * n
  | _ => n

/-- Cuts files or fills them up to a size. -/
def truncate : Tool := fun arguments => do
  let g ← given
    [flag 'c' "no-create", flag 'o' "io-blocks", valued 'r' "reference", valued 's' "size"] 1 arguments
  if !g.has "s" && !g.has "r" then
    Run.misuse 1 ("you must specify either " ++ (← Run.inQuotes "--size") ++ " or "
      ++ (← Run.inQuotes "--reference"))
  if g.operands.isEmpty then Run.missing 1 "file operand"
  let t := ((g.value? "s").getD "0").toList.dropWhile isSpace
  let relation := t.head?.filter fun c => "+-<>/%".toList.contains c
  let digits := if relation.isSome then t.drop 1 else t
  let n ← match quantityOf "EGKkMmPQRTYZ" digits with
    | .ok n => pure n
    | .error e => do
        Run.quit 1 ("Invalid number: " ++ (← Run.inQuotes (String.ofList t)) ++ faultText e)
  if (relation == some '/' || relation == some '%') && n = 0 then Run.quit 1 "division by zero"
  let base ← match g.value? "r" with
    | none => pure none
    | some path => do
        match ← Run.status true path with
        | .ok f => pure (some f.size)
        | .error e => Run.quit 1 ("cannot stat " ++ (← Run.quoted path) ++ ": " ++ e.text)
  overall
    (fun path => do
      let exists_ ← Run.status true path
      match exists_ with
      | .error .noEntry => if g.has "c" then return 0 else resize path base relation n (g.has "s")
      | _ => resize path base relation n (g.has "s"))
    g.operands 0
where
  /-- Gives a file its new size. -/
  resize (path : String) (base : Option Nat) (relation : Option Char) (n : Nat) (hasSize : Bool) :
      Run Nat := do
    match ← Run.openFile path .update with
    | .error e => cannot ("cannot open " ++ (← Run.quoted path) ++ " for writing") e
    | .ok number => do
        let s ← get
        match (s.openings.lookup number).map (·.stream) with
        | some (Stream.node node) => do
            let before := ((s.nodes.lookup node).map (·.content.size)).getD 0
            let size :=
              match base with
              | some b => if hasSize then newSize relation n b else b
              | none => newSize relation n before
            set { s with
              nodes := changeAt s.nodes node fun x =>
                { x with
                  modified := s.toWorld.now
                  content :=
                    if size ≤ x.content.size then x.content.extract 0 size
                    else Octets.appendTo x.content (List.replicate (size - x.content.size) '\x00') } }
            return 0
        | _ => return 0

end HermesBundle.Shell.Tool
