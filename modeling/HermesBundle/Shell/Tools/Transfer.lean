import HermesBundle.Shell.Tools.Files

/-! # Transfer — programs that copy, move and link files

    A transfer goes from a source to a target.  What stands at the target
    decides whether it is written over, removed, kept aside under another
    name or left alone.  Directories are transferred with everything in
    them. -/

namespace HermesBundle.Shell.Tool

/-! ## Plans -/

/-- Whether links among the sources are followed. -/
inductive Following where
  | always
  | never
  | arguments
deriving DecidableEq

/-- What happens to a target that is there. -/
inductive Clash where
  | replaces
  | asks
  /-- It is kept, and nothing is said. -/
  | keeps
  /-- It is kept, which is a failure. -/
  | refuses
deriving DecidableEq

/-- How targets are kept aside. -/
inductive Backup where
  | simple
  | numbered
  /-- With a number if there are such ones already. -/
  | existing
deriving DecidableEq

/-- What is to be done with sources. -/
structure Plan where
  isMove : Bool
  recursive : Bool
  following : Following
  makesHardLinks : Bool
  makesSymbolicLinks : Bool
  /-- Whether a target that cannot be opened is removed. -/
  isForced : Bool
  removesTarget : Bool
  clash : Clash
  onlyNewer : Bool
  isVerbose : Bool
  backup : Option Backup
  suffix : String
  keepsMode : Bool
  keepsTime : Bool
  keepsLinks : Bool
  /-- Whether pipes and devices are read rather than made anew. -/
  readsSpecial : Bool

/-- What has been transferred so far. -/
structure Progress where
  sources : List Location
  /-- The locations that were made for sources that were given. -/
  made : List Location
  /-- Files with several names, and the copies made of them. -/
  copies : List (Nat × String)
  /-- The first directory that was made for the current source. -/
  firstDirectory : Option Location
  /-- Whether a directory was met that was itself being copied. -/
  entersItself : Bool

/-- Nothing has been transferred. -/
def Progress.start : Progress := ⟨[], [], [], none, false⟩

/-- Whether a file is a symbolic link. -/
def isLink (f : FileStatus) : Bool :=
  match f.kind with
  | .link _ => true
  | _ => false

/-- Whether a file is a directory. -/
def isDirectory (f : FileStatus) : Bool := f.kind == .directory

/-- Whether two names belong to one file. -/
def isSame (x y : FileStatus) : Bool :=
  x.location == y.location || (x.node.isSome && x.node == y.node)

/-- The status of a file, if there is one. -/
def statusOrNone (follows : Bool) (path : String) : Run (Option FileStatus) := do
  match ← Run.status follows path with
  | .ok f => return some f
  | .error _ => return none

/-! ## Backups -/

/-- The number of a numbered backup of a name. -/
def backupNumber (name : Octets) (other : Octets) : Option Nat :=
  let lead := name ++ ".~".toList
  if lead.isPrefixOf other && other.getLast? == some '~' then
    decimal? ((other.drop lead.length).dropLast)
  else none

/-- The name under which a target is kept aside. -/
def backupName (p : Plan) (target : String) : Run String := do
  let s ← get
  let name := lastComponent target.toList
  let directory := String.ofList (directoryPart target.toList)
  let others ← match ← Run.status true directory with
    | .ok f => pure (s.toWorld.namesIn f.location)
    | .error _ => pure []
  let highest := others.foldl (fun n other => max n ((backupNumber name other.toList).getD 0)) 0
  let numbered := target ++ ".~" ++ String.ofList (decimal (highest + 1)) ++ "~"
  match p.backup with
  | some .numbered => return numbered
  | some .existing => return if highest = 0 then target ++ p.suffix else numbered
  | _ => return target ++ p.suffix

/-- Renames what stands at a path, whatever has the other name. -/
def renamePath (source target : String) : Run (Option Errno) := do
  match ← Run.spot false source, ← Run.spot false target with
  | .error e, _ => return some e
  | .ok (.free _), _ => return some .noEntry
  | _, .error e => return some e
  | .ok (.found l _), .ok (.free m) => do
      Run.changeWorld fun w => w.move l m
      return none
  | .ok (.found l _), .ok (.found m _) => do
      if l != m then Run.changeWorld fun w => w.move l m
      return none

/-- Keeps a target aside; the name that it gets is returned. -/
def keepAside (p : Plan) (target : String) : Run String := do
  let name ← backupName p target
  let _ ← renamePath target name
  return name

/-! ## Renaming -/

/-- Whether a path ends in a slash. -/
def endsInSlash (path : String) : Bool := path.toList.getLast? == some '/'

/-- Renames as the system does; the cause is returned if that fails.  The
    target may be required to be new. -/
def systemRename (source target : String) (isNew : Bool) : Run (Option Errno) := do
  let bare := fun (path : String) => String.ofList (withoutSlashes path.toList)
  let isDots := fun (path : String) =>
    let last := lastComponent path.toList
    last == ['.'] || last == "..".toList || last == ['/']
  let s ← get
  match ← Run.spot false (bare source) with
  | .error e => return some e
  | .ok (.free _) => return some .noEntry
  | .ok (.found l e) => do
        match ← Run.spot false (bare target) with
        | .error e => return some e
        | .ok spot => do
            let there := match spot with
              | .found _ x => some x
              | .free _ => none
            let m := match spot with
              | .found m _ => m
              | .free m => m
            if isDots source then return some .busy
            else if isDots target then return some (if isNew then .occupied else .busy)
            else if isNew && there.isSome then return some .occupied
            else if e != .directory && (endsInSlash source || endsInSlash target) then
              return some .notDirectory
            else if l == m then return none
            else if l.isPrefixOf m then return some .invalid
            else if m.isPrefixOf l then return some .notEmpty
            else
              match there with
              | none => do
                  Run.changeWorld fun w => w.move l m
                  return none
              | some x => do
                  let number := fun k => s.places.lookup k
                  if (number l).isSome && number l == number m then return none
                  else if e == .directory && x != .directory then return some .notDirectory
                  else if e != .directory && x == .directory then return some .isDirectory
                  else if x == .directory && !(s.files.below m).isEmpty then return some .notEmpty
                  else do
                    Run.changeWorld fun w => w.move l m
                    return none

/-! ## Making copies -/

/-- Makes a further name for a file; the cause is returned if that
    fails. -/
def makeHardLink (source target : String) (follows : Bool) : Run (Option Errno) := do
  match ← Run.spot follows source with
  | .error e => return some e
  | .ok (.free _) => return some .noEntry
  | .ok (.found l e) =>
      if e == .directory then
        match ← Run.spot false (String.ofList (withoutSlashes target.toList)) with
        | .error e => return some e
        | .ok (.found _ _) => return some .occupied
        | .ok (.free _) => return some .notPermitted
      else
        match ← Run.spot false (String.ofList (withoutSlashes target.toList)) with
        | .error e => return some e
        | .ok (.found _ _) => return some .occupied
        | .ok (.free m) =>
            if endsInSlash target then return some .noEntry
            else do
              Run.changeWorld fun w => w.link l m e
              return none

/-- Makes a symbolic link; the cause is returned if that fails. -/
def makeSymbolicLink (value target : String) : Run (Option Errno) := do
  if value.isEmpty then return some .noEntry
  else
    match ← Run.spot false (String.ofList (withoutSlashes target.toList)) with
    | .error e => return some e
    | .ok (.found _ _) => return some .occupied
    | .ok (.free l) =>
        if endsInSlash target then return some .noEntry
        else do
          Run.changeWorld fun w => (w.make l (.link (fileName value)) 0o777).1
          return none

/-- Removes what a path leads to. -/
def removeName (path : String) : Run Unit := do
  match ← Run.spot false path with
  | .ok (.found l _) => Run.changeWorld fun w => w.remove l
  | _ => return ()

/-- A transfer as it is told of. -/
def tellTransfer (source target : String) (backup : Option String) : Run Unit := do
  let aside ← match backup with
    | some name => do pure (" (backup: " ++ (← Run.quoted name) ++ ")")
    | none => pure ""
  Run.printString ((← Run.quoted source) ++ " -> " ++ (← Run.quoted target) ++ aside ++ "\n")

/-- Writes octets to an opening that no descriptor leads to. -/
def fillOpening (number : Nat) (t : Octets) : Run (Option Errno) := do
  modify fun s => { s with toWorld := s.toWorld.retain number }
  let r ← Run.writeTo number t
  modify fun s => { s with toWorld := s.toWorld.release number }
  return r

/-- Copies the content of a file; the result tells whether that worked. -/
def copyContent (source target : String) (isNew : Bool) (f : FileStatus) : Run Bool := do
  let s ← get
  match ← Run.readFile source with
  | .error e => do
      let what := if e = .isDirectory then "error reading " else "cannot open "
      let rest := if e = .isDirectory then "" else " for reading"
      Run.objection (what ++ (← Run.quoted source) ++ rest ++ ": " ++ e.text)
      return false
  | .ok t => do
      let failure := fun (e : Errno) => do
        Run.objection ("cannot create regular file " ++ (← Run.quoted target) ++ ": " ++ e.text)
        return false
      if isNew && descriptorOf target == none then
        match ← Run.spot false target with
        | .error e => failure e
        | .ok (.found _ (.link _)) => do
            Run.objection ("not writing through dangling symlink " ++ (← Run.quoted target))
            return false
        | .ok (.found _ _) => failure .occupied
        | .ok (.free l) =>
            if endsInSlash target then failure .notDirectory
            else do
              let (w, number) := s.toWorld.make l (.file [] false) (masked (f.mode &&& 0o777) s.mask)
              set { s with toWorld := { w with
                nodes := changeAt w.nodes number fun node => { node with content := Octets.toArray t } } }
              return true
      else
        match ← Run.openFile target .write with
        | .error e => failure e
        | .ok number =>
            match ← fillOpening number t with
            | none => return true
            | some e => do
                Run.objection ("error writing " ++ (← Run.quoted target) ++ ": " ++ e.text)
                return false

/-- Gives a copy the time and the mode of what it was made from. -/
def finishCopy (p : Plan) (target : String) (f : FileStatus) : Run Unit := do
  match ← Run.spot false target with
  | .ok (.found l e) =>
      Run.changeWorld fun w => w.change l e fun node =>
        { node with
          modified := if p.keepsTime then f.modified else node.modified
          mode := if p.keepsMode then f.mode else node.mode }
  | _ => return ()

/-! ## One source -/

/-- Whether source and target may be transferred although they may be one
    file; none if nothing is left to be done. -/
def mayTransfer (p : Plan) (source target : String) (src dst : FileStatus) : Run (Option Bool) := do
  let same := isSame src dst
  if same && p.makesHardLinks then return none
  else do
    let srcLink := (← statusOrNone false source).getD src
    let dstLink := (← statusOrNone false target).getD dst
    let sameLink := isSame srcLink dstLink
    let sameName := srcLink.location == dstLink.location
    let atBoth :=
      if p.following = .never then
        if isLink srcLink && isLink dstLink then some (!sameName) else none
      else if !same then some true
      else if isLink srcLink && isLink dstLink && p.removesTarget then some true
      else none
    match atBoth with
    | some b => return some b
    | none => do
        if p.backup.isSome then
          if !sameLink then
            return some (p.isMove || p.following = .never || !isLink srcLink || isLink dstLink)
          else return some (!sameName)
        else if (p.isMove || p.removesTarget) && isLink dstLink then return some true
        else if (p.isMove || p.removesTarget) && sameLink && 1 < dstLink.links && !sameName then
          return some (!p.isMove)
        else if !isLink srcLink && !isLink dstLink && !sameLink then return some true
        else if p.makesSymbolicLinks && isLink dstLink then return some true
        else if p.following = .never then
          match ← statusOrNone true source, ← statusOrNone true target with
          | some a, some b => return some (!isSame a b)
          | _, _ => return some true
        else return some false

/-- A complaint about a source and a target. -/
def complainOfBoth (lead source middle target : String) : Run Unit := do
  Run.objection (lead ++ (← Run.quoted source) ++ middle ++ (← Run.quoted target))

/-- A complaint about names that belong to one file. -/
def complainSame (source target : String) : Run Unit := do
  Run.objection ((← Run.quoted source) ++ " and " ++ (← Run.quoted target) ++ " are the same file")

/-- What a source meets at its target. -/
inductive Meeting where
  /-- The source can be transferred; its target is new or not, and may have
      been kept aside. -/
  | goesOn (isNew : Bool) (backup : Option String)
  | over (isFine : Bool)

/-- Deals with what stands at a target. -/
def meetTarget (p : Plan) (isTop : Bool) (source target : String) (src : FileStatus)
    (progress : Progress) : Run Meeting := do
  let notRegular := src.kind != .regular && !(p.readsSpecial && !isDirectory src && !isLink src)
  let leavesLink := notRegular || p.isMove || p.makesSymbolicLinks || p.makesHardLinks
    || p.backup.isSome || p.removesTarget
  if descriptorOf target != none then return .goesOn false none
  else
  match ← Run.status (!leavesLink) target with
  | .error .noEntry => return .goesOn true none
  | .error e => do
      let _ ← cannot ("cannot stat " ++ (← Run.quoted target)) e
      return .over false
  | .ok dst => do
      match ← mayTransfer p source target src dst with
      | some false => do
          complainSame source target
          return .over false
      | verdict => do
          if p.onlyNewer && !isDirectory src && src.modified ≤ dst.modified then return .over true
          else do
            let isAsked := p.clash = .asks && (p.isMove || !isDirectory src)
            let goes ←
              if isAsked then asks ("overwrite " ++ (← Run.quoted target)) else pure true
            if !goes then return .over false
            else if p.clash = .keeps && (p.isMove || !isDirectory src) then return .over true
            else if p.clash = .refuses && (p.isMove || !isDirectory src) then do
              Run.objection ("not replacing " ++ (← Run.quoted target))
              return .over false
            else if verdict.isNone then return .over true
            else do
              let keepsBoth := p.isMove && p.backup.isSome
              if !isDirectory dst && isDirectory src && !keepsBoth then
                complainOfBoth "cannot overwrite non-directory " target " with directory " source
                return .over false
              else if !isDirectory dst && isTop && progress.made.contains dst.location then
                complainOfBoth "will not overwrite just-created " target " with " source
                return .over false
              else if isDirectory dst && !isDirectory src && !keepsBoth then
                Run.objection ("cannot overwrite directory " ++ (← Run.quoted target)
                  ++ " with non-directory")
                return .over false
              else
                let last := lastComponent target.toList
                if p.backup.isSome && last != ['.'] && last != "..".toList
                    && (p.isMove || !isDirectory dst) then do
                  let name ← keepAside p target
                  return .goesOn true (some name)
                else if !isDirectory dst && !p.isMove
                    && (p.removesTarget || (p.keepsLinks && 1 < dst.links)
                      || (p.following = .never && src.kind != .regular)) then do
                  removeName target
                  if p.isVerbose then Run.printString ("removed " ++ (← Run.quoted target) ++ "\n")
                  return .goesOn true none
                else return .goesOn false none

/-- Notes that a target was made for a source that was given. -/
def noteMade (isTop : Bool) (target : String) (progress : Progress) : Run Progress := do
  if isTop then
    match ← statusOrNone false target with
    | some f => return { progress with made := f.location :: progress.made }
    | none => return progress
  else return progress

/-- Transfers one source; the result tells whether that worked. -/
def transfer (p : Plan) (top : String × String) (isTop : Bool) (ancestors : List Location) :
    Nat → String → String → Progress → Run (Bool × Progress)
  | 0, _, _, progress => return (true, progress)
  | fuel + 1, source, target, progress => do
      let follows := p.following = .always || (p.following = .arguments && isTop)
      match ← Run.status follows source with
      | .error e => do
          let _ ← cannot ("cannot stat " ++ (← Run.quoted source)) e
          return (false, progress)
      | .ok src =>
          if isDirectory src && !p.recursive && !p.isMove then do
            Run.objection ("-r not specified; omitting directory " ++ (← Run.quoted source))
            return (false, progress)
          else if isTop && !isDirectory src && p.backup.isNone && !p.isMove
              && progress.sources.contains src.location then do
            Run.objection ("warning: source file " ++ (← Run.quoted source)
              ++ " specified more than once")
            return (true, progress)
          else if !isTop && progress.firstDirectory == some src.location then do
            complainOfBoth "cannot copy a directory, " top.1 ", into itself, " top.2
            return (false, { progress with entersItself := true })
          else do
            let progress :=
              if isTop then { progress with sources := src.location :: progress.sources } else progress
            match ← meetTarget p isTop source target src progress with
            | .over isFine => return (isFine, progress)
            | .goesOn isNew backup => do
                if p.isVerbose && !isDirectory src then tellTransfer source target backup
                let shared := if p.keepsLinks && !isDirectory src && 1 < src.links then src.node else none
                match shared.bind fun n => progress.copies.lookup n with
                | some earlier => do
                    match ← makeHardLink earlier target false with
                    | none => return (true, progress)
                    | some e => do
                        let _ ← cannot ("cannot create hard link " ++ (← Run.quoted target) ++ " to "
                          ++ (← Run.quoted earlier)) e
                        return (false, progress)
                | none => do
                    let progress :=
                      match shared with
                      | some n => { progress with copies := (n, target) :: progress.copies }
                      | none => progress
                    if isDirectory src then
                      if ancestors.contains src.location then
                        Run.objection ("cannot copy cyclic symbolic link " ++ (← Run.quoted source))
                        return (false, progress)
                      else do
                        let mask := (← get).mask
                        let bare := String.ofList (withoutSlashes target.toList)
                        let mode := masked (src.mode &&& 0o777) mask ||| 0o700
                        let failed ← if isNew then makeDirectory bare mode else pure none
                        match failed with
                        | some e => do
                            let _ ← cannot ("cannot create directory " ++ (← Run.quoted target)) e
                            return (false, progress)
                        | none => do
                            if isNew && p.isVerbose then tellTransfer source target none
                            let made ← statusOrNone true target
                            let progress :=
                              if isNew && progress.firstDirectory.isNone then
                                { progress with firstDirectory := made.map (·.location) }
                              else progress
                            let names := (← get).toWorld.namesIn src.location
                            let (isFine, progress) ← names.foldlM
                              (fun ((isFine, progress) : Bool × Progress) name => do
                                if progress.entersItself then return (isFine, progress)
                                else do
                                  let (here, progress) ←
                                    transfer p top false (src.location :: ancestors) fuel
                                      (inDirectory source name.toList)
                                      (inDirectory target name.toList) progress
                                  return (isFine && here, progress))
                              (true, progress)
                            if p.keepsTime || p.keepsMode then finishCopy p target src
                            return (isFine, ← noteMade isTop target progress)
                    else if p.makesSymbolicLinks then do
                      let isHere := source.toList.head? == some '/'
                        || !target.toList.contains '/' || directoryPart target.toList == ['.']
                      if !isHere then
                        Run.objection ((← Run.shownName target)
                          ++ ": can make relative symbolic links only in current directory")
                        return (false, progress)
                      else do
                        if p.isForced && !isNew then removeName target
                        match ← makeSymbolicLink source target with
                        | none => return (true, ← noteMade isTop target progress)
                        | some e => do
                            let _ ← cannot ("cannot create symbolic link " ++ (← Run.quoted target)
                              ++ " to " ++ (← Run.quoted source)) e
                            return (false, progress)
                    else if p.makesHardLinks then do
                      if (p.isForced || p.clash = .asks) && !isNew then removeName target
                      match ← makeHardLink source target follows with
                      | none => return (true, ← noteMade isTop target progress)
                      | some e => do
                          let _ ← cannot ("cannot create hard link " ++ (← Run.quoted target)
                            ++ " to " ++ (← Run.quoted source)) e
                          return (false, progress)
                    else
                      match src.kind with
                      | .link value => do
                          if p.isForced && !isNew then removeName target
                          match ← makeSymbolicLink value target with
                          | none => do
                              if p.keepsTime then finishCopy { p with keepsMode := false } target src
                              return (true, ← noteMade isTop target progress)
                          | some e => do
                              let _ ← cannot ("cannot create symbolic link " ++ (← Run.quoted target)) e
                              return (false, progress)
                      | _ => do
                          let isFine ← copyContent source target isNew src
                          if isFine && (p.keepsTime || p.keepsMode) then finishCopy p target src
                          return (isFine, ← noteMade isTop target progress)

/-- Moves one source; the result tells whether that worked.  `first` is
    what came of trying to rename it to a new name. -/
def moveOne (p : Plan) (source target : String) (first : Option Errno) (progress : Progress) :
    Run (Bool × Progress) := do
  let renamed := fun (backup : Option String) (progress : Progress) => do
    if p.isVerbose then
      Run.printString "renamed "
      tellTransfer source target backup
    return (true, ← noteMade true target progress)
  match first with
  | none => renamed none progress
  | some _ =>
      match ← Run.status false source with
      | .error e => do
          let _ ← cannot ("cannot stat " ++ (← Run.quoted source)) e
          return (false, progress)
      | .ok src =>
          match ← meetTarget p true source target src progress with
          | .over isFine => return (isFine, progress)
          | .goesOn _ backup =>
              match ← systemRename source target false with
              | none => renamed backup progress
              | some .invalid => do
                  complainOfBoth "cannot move " source " to a subdirectory of itself, " target
                  return (false, progress)
              | some e => do
                  if e = .occupied || e = .isDirectory || e = .notEmpty || e = .noSpace then
                    let _ ← cannot ("cannot overwrite " ++ (← Run.quoted target)) e
                  else
                    let _ ← cannot ("cannot move " ++ (← Run.quoted source) ++ " to "
                      ++ (← Run.quoted target)) e
                  return (false, progress)

/-! ## Operands -/

/-- Where sources go. -/
inductive Destination where
  | directory (path : String)
  | path (path : String)

/-- A directory that a path leads to, or why it leads to none. -/
def directoryFailure (follows : Bool) (path : String) : Run (Option Errno) := do
  match ← Run.status follows path with
  | .error e => return some e
  | .ok f => return if isDirectory f then none else some .notDirectory

/-- The sources and the destination among the operands; misuse ends the
    program. -/
def destinationOf (g : Given) : Run (List String × Destination) := do
  let files := g.operands
  let fewest := if g.has "t" then 1 else 2
  if files.length < fewest then
    match files with
    | [] => Run.missing 1 "file operand"
    | file :: _ => Run.missing 1 ("destination file operand after " ++ (← Run.quoted file))
  if g.has "T" then
    if g.has "t" then
      Run.quit 1 "cannot combine --target-directory (-t) and --no-target-directory (-T)"
    else
      match files with
      | [source, target] => return ([source], .path target)
      | _ => do Run.misuse 1 ("extra operand " ++ (← Run.quoted ((files[2]?).getD "")))
  else
    match g.value? "t" with
    | some directory => do
        match ← directoryFailure true directory with
        | none => return (files, .directory directory)
        | some e => Run.quit 1 ("target directory " ++ (← Run.quoted directory) ++ ": " ++ e.text)
    | none => do
        let last := files.getLastD ""
        match ← directoryFailure true last with
        | none => return (files.dropLast, .directory last)
        | some e =>
            if files.length > 2 then
              Run.quit 1 ("target " ++ (← Run.quoted last) ++ ": " ++ e.text)
            else return (files.dropLast, .path last)

/-- The backup that options ask for. -/
def backupOf (g : Given) : Run (Option Backup × String) := do
  let s ← get
  let control := (g.value? "backup").getD ((s.valueOf "VERSION_CONTROL").getD "existing")
  let kind : Option Backup :=
    if ["none", "off"].contains control then none
    else if ["simple", "never"].contains control then some .simple
    else if ["numbered", "t"].contains control then some .numbered
    else some .existing
  let suffix := (g.value? "S").getD ((s.valueOf "SIMPLE_BACKUP_SUFFIX").getD "~")
  if g.has "b" || g.has "backup" || g.has "S" then return (kind, suffix)
  else return (none, suffix)

/-- The options about targets. -/
def targetOptions : List OptionSpec :=
  [flag 'b' "", long "backup" .optional, flag 'f' "force", flag 'i' "interactive",
   valued 'S' "suffix", valued 't' "target-directory", flag 'T' "no-target-directory",
   flag 'v' "verbose"]

/-- What the options say of targets that are there. -/
def clashOf (g : Given) (quiet : Clash) (forces : Bool) : Clash × Bool :=
  let keys := if forces then ["i", "n", "f"] else ["i", "n"]
  let byLetter :=
    match g.last? keys with
    | some "i" => Clash.asks
    | some "n" => quiet
    | _ => .replaces
  match g.value? "update" with
  | some "none" => (.keeps, false)
  | some "none-fail" => (.refuses, false)
  | some "all" => (byLetter, false)
  | some _ => (byLetter, true)
  | none => (byLetter, g.has "u" || g.has "update")

/-- Copies the directories that lead to a source into a directory. -/
def makeLeading (directory : String) (components : List Octets) (status : Bool) : Nat → Octets →
    Run Bool
  | 0, _ => return status
  | fuel + 1, path =>
      match components with
      | [] => return status
      | name :: rest => do
          let path := if path.isEmpty then name else path ++ ['/'] ++ name
          let target := inDirectory directory path
          match ← Run.status true target with
          | .ok f =>
              if isDirectory f then makeLeading directory rest status fuel path
              else do
                Run.objection ((← Run.quoted target) ++ " exists but is not a directory")
                return false
          | .error _ => do
              match ← makeDirectory target 0o755 with
              | none => makeLeading directory rest status fuel path
              | some e => do
                  let _ ← cannot ("cannot make directory " ++ (← Run.quoted target)) e
                  return false

/-- Copies files. -/
def cp : Tool := fun arguments => do
  let g ← given
    (targetOptions ++
      [flag 'a' "archive", flag 'd' "", flag 'H' "", flag 'l' "link", flag 'L' "dereference",
       flag 'n' "no-clobber", flag 'P' "no-dereference", flag 'p' "", long "preserve" .optional,
       long "no-preserve" .required, long "parents" .none, flag 'R' "", flag 'r' "recursive",
       long "remove-destination" .none, long "strip-trailing-slashes" .none,
       flag 's' "symbolic-link", flag 'u' "", long "update" .optional, flag 'x' "one-file-system",
       long "sparse" .required, long "reflink" .optional, long "attributes-only" .none,
       long "copy-contents" .none, flag 'Z' "", long "context" .optional]) 1 arguments
  for _ in g.options.filter fun (key, _) => key == "n" do
    Run.objection ("warning: behavior of -n is non-portable and may change in future; "
      ++ "use --update=none instead")
  let recursive := g.has "r" || g.has "R" || g.has "a"
  let following :=
    match g.last? ["a", "d", "H", "L", "P"] with
    | some "H" => Following.arguments
    | some "L" => .always
    | some _ => .never
    | none => if recursive && !g.has "l" then .never else if g.has "l" then .never else .always
  let (backup, suffix) ← backupOf g
  let (clash, onlyNewer) := clashOf g .keeps false
  let kept := fun what : String => g.has "a" || (what != "links" && g.has "p" ) || (what == "links" && g.has "d")
    || (g.values "preserve").any fun t =>
      (splitOn ',' t.toList).any fun w => w == what.toList || w == "all".toList
    || (what != "links" && g.options.any fun (k, v) => k == "preserve" && v.isNone)
  let dropped := fun what : String =>
    (g.values "no-preserve").any fun t =>
      (splitOn ',' t.toList).any fun w => w == what.toList || w == "all".toList
  let p : Plan :=
    { isMove := false, recursive := recursive, following := following
      makesHardLinks := g.has "l", makesSymbolicLinks := g.has "s", isForced := g.has "f"
      removesTarget := g.has "remove-destination", clash := clash, onlyNewer := onlyNewer
      isVerbose := g.has "v", backup := backup, suffix := suffix
      keepsMode := kept "mode" && !dropped "mode"
      keepsTime := kept "timestamps" && !dropped "timestamps"
      keepsLinks := kept "links" && !dropped "links"
      readsSpecial := !recursive || g.has "copy-contents" }
  let bare := fun path : String =>
    if g.has "strip-trailing-slashes" then String.ofList (withoutSlashes path.toList) else path
  match ← destinationOf g with
  | (sources, .path target) => do
      if g.has "parents" then Run.misuse 1 "with --parents, the destination must be a directory"
      let source := bare (sources.headD "")
      let (isFine, _) ← transfer p (source, target) true [] 500 source target .start
      return if isFine then 0 else 1
  | (sources, .directory directory) => do
      let (isFine, _) ← sources.foldlM
        (fun ((isFine, progress) : Bool × Progress) source => do
          let source := bare source
          let progress := { progress with firstDirectory := none, entersItself := false }
          if g.has "parents" then do
            let path := withoutSlashes source.toList
            let leading := (splitOn '/' path).filter fun name => !name.isEmpty
            let ready ← makeLeading directory leading.dropLast true (leading.length + 1) []
            if ready then do
              let target := inDirectory (String.ofList (withoutSlashes directory.toList)) (path.dropWhile (· == '/'))
              let (here, progress) ← transfer p (source, target) true [] 500 source target progress
              return (isFine && here, progress)
            else return (false, progress)
          else do
            let last := lastComponent source.toList
            let target :=
              if last == "..".toList then inDirectory directory ['.'] else underTarget directory source
            let (here, progress) ← transfer p (source, target) true [] 500 source target progress
            return (isFine && here, progress))
        (true, Progress.start)
      return if isFine then 0 else 1

/-- Moves files. -/
def mv : Tool := fun arguments => do
  let g ← given
    (targetOptions ++
      [flag 'n' "no-clobber", long "strip-trailing-slashes" .none, flag 'u' "",
       long "update" .optional, flag 'Z' "context", long "no-copy" .none]) 1 arguments
  let (backup, suffix) ← backupOf g
  let (clash, onlyNewer) := clashOf g .refuses true
  if backup.isSome && clash = .refuses then
    Run.misuse 1 "options --backup and --no-clobber are mutually exclusive"
  let p : Plan :=
    { isMove := true, recursive := true, following := .never
      makesHardLinks := false, makesSymbolicLinks := false, isForced := g.has "f"
      removesTarget := false, clash := clash, onlyNewer := onlyNewer
      isVerbose := g.has "v", backup := backup, suffix := suffix
      keepsMode := true, keepsTime := true, keepsLinks := true, readsSpecial := false }
  let bare := fun path : String =>
    if g.has "strip-trailing-slashes" then String.ofList (withoutSlashes path.toList) else path
  let isPair := g.operands.length = 2 && !g.has "t"
  let tried ←
    if isPair && !g.has "T" then
      systemRename (bare (g.operands.headD "")) (g.operands.getLastD "") true
    else pure (some .occupied)
  let (sources, destination) ←
    if isPair && tried.isNone then
      pure (g.operands.dropLast, Destination.path (g.operands.getLastD ""))
    else destinationOf g
  match destination with
  | .path target => do
      let source := bare (sources.headD "")
      let first ← if g.has "T" then systemRename source target true else pure tried
      let (isFine, _) ← moveOne p source target first .start
      return if isFine then 0 else 1
  | .directory directory => do
      let (isFine, _) ← sources.foldlM
        (fun ((isFine, progress) : Bool × Progress) source => do
          let source := bare source
          let target := underTarget directory source
          let first ← systemRename source target true
          let (here, progress) ← moveOne p source target first progress
          return (isFine && here, progress))
        (true, Progress.start)
      return if isFine then 0 else 1

/-! ## Links -/

/-- How links are made. -/
structure Linking where
  isSymbolic : Bool
  isForced : Bool
  isAsked : Bool
  isRelative : Bool
  follows : Bool
  isVerbose : Bool
  plan : Plan

/-- A source as it is seen from the directory of a target. -/
def relativeSource (source target : String) : Run String := do
  let directory := String.ofList (directoryPart target.toList)
  match ← resolvePath .nothing false directory, ← resolvePath .nothing false source with
  | .ok base, .ok l => return relativePath base l
  | _, _ => return source

/-- Makes one link. -/
def linkOne (k : Linking) (source target : String) : Run Nat := do
  let attempt := fun (source : String) =>
    if k.isSymbolic then makeSymbolicLink source target
    else makeHardLink source target k.follows
  let src ← Run.status k.follows source
  match k.isSymbolic, src with
  | false, .error e => cannot ("failed to access " ++ (← Run.quoted source)) e
  | _, _ => do
      let isDirectory_ := match src with
        | .ok f => isDirectory f
        | .error _ => false
      if !k.isSymbolic && isDirectory_ then
        Run.objection ((← Run.shownName source) ++ ": hard link not allowed for directory")
        return 1
      else do
        let given := source
        let source ← if k.isRelative then relativeSource given target else pure given
        let failed ← attempt source
        let isForcing := k.isForced || k.isAsked || k.plan.backup.isSome
        let told := fun (backup : Option String) => do
          if k.isVerbose then
            let aside ← match backup with
              | some name => do pure ((← Run.quoted name) ++ " ~ ")
              | none => pure ""
            Run.printString (aside ++ (← Run.quoted target)
              ++ (if k.isSymbolic then " -> " else " => ") ++ (← Run.quoted source) ++ "\n")
          return 0
        let failure := fun (e : Errno) => do
          let shown ← Run.quoted target
          let from_ ← Run.quoted source
          let what :=
            if k.isSymbolic then
              if e != .nameTooLong && !source.isEmpty then "failed to create symbolic link " ++ shown
              else "failed to create symbolic link " ++ shown ++ " -> " ++ from_
            else if e = .occupied || e = .noSpace then "failed to create hard link " ++ shown
            else "failed to create hard link " ++ shown ++ " => " ++ from_
          cannot what e
        match failed with
        | none => told none
        | some e =>
            if !isForcing || e != .occupied then failure e
            else
              match ← statusOrNone false target with
              | none => failure e
              | some dst => do
                  let seen ← if k.isSymbolic then statusOrNone true given else pure src.toOption
                  let isSameFile := match seen with
                    | some f => isSame f dst && (f.links ≤ 1 || f.location == dst.location)
                    | none => false
                  let checks := (k.isForced || (!k.isSymbolic && k.plan.backup.isSome))
                    && (k.plan.backup.isNone || !k.isSymbolic)
                  if checks && isSameFile then
                    complainSame given target
                    return 1
                  else if isDirectory dst then
                    Run.objection ((← Run.shownName target) ++ ": cannot overwrite directory")
                    return 1
                  else do
                    let goes ←
                      if k.isAsked then asks ("replace " ++ (← Run.quoted target)) else pure true
                    if !goes then return 1
                    else do
                      let backup ←
                        if k.plan.backup.isSome then do pure (some (← keepAside k.plan target))
                        else do
                          removeName target
                          pure none
                      match ← attempt source with
                      | none => told backup
                      | some e => failure e

/-- Makes links. -/
def ln : Tool := fun arguments => do
  let g ← given
    (targetOptions ++
      [flag 's' "symbolic", flag 'n' "no-dereference", flag 'r' "relative", flag 'L' "logical",
       flag 'P' "physical", flag 'd' "directory", flag 'F' ""]) 1 arguments
  let files := g.operands
  if files.isEmpty then Run.missing 1 "file operand"
  if g.has "r" && !g.has "s" then Run.quit 1 "cannot do --relative without --symbolic"
  let (backup, suffix) ← backupOf g
  let plan : Plan :=
    { isMove := true, recursive := true, following := .never
      makesHardLinks := false, makesSymbolicLinks := false, isForced := false
      removesTarget := false, clash := .replaces, onlyNewer := false
      isVerbose := false, backup := backup, suffix := suffix
      keepsMode := true, keepsTime := true, keepsLinks := true, readsSpecial := false }
  let last := g.last? ["f", "i"]
  let k : Linking :=
    ⟨g.has "s", last == some "f", last == some "i", g.has "r", g.last? ["L", "P"] == some "L",
      g.has "v", plan⟩
  let inside := fun (directory source : String) => underTarget directory source
  if g.has "T" then
    match files with
    | [source, target] =>
        if g.has "t" then
          Run.quit 1 "cannot combine --target-directory and --no-target-directory"
        else linkOne k source target
    | [file] => Run.missing 1 ("destination file operand after " ++ (← Run.quoted file))
    | _ => Run.misuse 1 ("extra operand " ++ (← Run.quoted ((files[2]?).getD "")))
  else
    match g.value? "t", files with
    | none, [source] => linkOne k source (inside "." source)
    | some directory, files => do
        match ← directoryFailure (!g.has "n") directory with
        | none => overall (fun source => linkOne k source (inside directory source)) files 0
        | some e => Run.quit 1 ("target " ++ (← Run.quoted directory) ++ ": " ++ e.text)
    | none, files => do
        let last := files.getLastD ""
        match ← directoryFailure (!g.has "n") last with
        | none => overall (fun source => linkOne k source (inside last source)) files.dropLast 0
        | some e =>
            if files.length = 2 then linkOne k (files.headD "") last
            else Run.quit 1 ("target " ++ (← Run.quoted last) ++ ": " ++ e.text)

/-- Makes one further name for a file. -/
def link : Tool := fun arguments => do
  let g ← given [] 1 arguments
  match g.operands with
  | [] => Run.missing 1 "operand"
  | [one] => do Run.missing 1 ("operand after " ++ (← Run.inQuotes one))
  | [source, target] => do
      match ← makeHardLink source target false with
      | none => return 0
      | some e =>
          cannot ("cannot create link " ++ (← Run.quoted target) ++ " to " ++ (← Run.quoted source)) e
  | _ :: _ :: third :: _ => do Run.extra 1 third

/-! ## Installation -/

/-- Copies files and gives them a mode. -/
def install : Tool := fun arguments => do
  let g ← given
    (targetOptions ++
      [flag 'c' "", flag 'C' "compare", flag 'd' "directory", flag 'D' "", valued 'g' "group",
       valued 'm' "mode", valued 'o' "owner", flag 'p' "preserve-timestamps", flag 's' "strip"])
    1 arguments
  let mode ← match g.value? "m" with
    | none => pure 0o755
    | some t => do
        let f ← modeArgument false t
        pure (f false 0 0)
  let setMode := fun (path : String) => do
    match ← Run.spot true path with
    | .ok (.found l e) => Run.changeWorld fun w => w.change l e fun node => { node with mode := mode }
    | _ => pure ()
  let tellMade := fun (path : String) => do
    if g.has "v" then
      Run.printString ((← Run.called) ++ ": creating directory " ++ (← Run.quoted path) ++ "\n")
  let makeAll := fun (path : String) => makeParents path 0o755 tellMade (pathPrefixes path.toList)
  if g.has "d" then
    if g.has "t" then Run.quit 1 "target directory not allowed when installing a directory"
    if g.operands.isEmpty then Run.missing 1 "file operand"
    overall
      (fun path => do
        match ← makeAll path with
        | none => do
            setMode path
            return 0
        | some (name, e) => cannot ("cannot create directory " ++ (← Run.inQuotes name)) e)
      g.operands 0
  else do
    let (backup, suffix) ← backupOf g
    let p : Plan :=
      { isMove := false, recursive := false, following := .always
        makesHardLinks := false, makesSymbolicLinks := false, isForced := true
        removesTarget := true, clash := .replaces, onlyNewer := false
        isVerbose := g.has "v", backup := backup, suffix := suffix
        keepsMode := false, keepsTime := g.has "p", keepsLinks := false, readsSpecial := true }
    if g.has "D" && g.operands.length ≥ 2 then
      let last := g.operands.getLastD ""
      let above := if g.has "t" then "" else String.ofList (directoryPart last.toList)
      if !above.isEmpty then
        let _ ← makeAll above
    let one := fun (source target : String) => do
      match ← Run.status true source with
      | .ok f =>
          if isDirectory f then
            Run.objection ("omitting directory " ++ (← Run.quoted source))
            return 1
          else do
            let (isFine, _) ← transfer p (source, target) true [] 500 source target .start
            if isFine then setMode target
            return if isFine then 0 else 1
      | .error e => cannot ("cannot stat " ++ (← Run.quoted source)) e
    match ← destinationOf g with
    | (sources, .path target) => one (sources.headD "") target
    | (sources, .directory directory) =>
        overall (fun source => one source (underTarget directory source)) sources 0

end HermesBundle.Shell.Tool
