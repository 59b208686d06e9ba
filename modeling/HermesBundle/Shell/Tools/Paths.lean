import HermesBundle.Shell.Builtins.Directory
import HermesBundle.Shell.Tools.Invocation

/-! # Paths — programs that work on names

    Some only cut paths into their parts; others follow links and write
    where a path leads. -/

namespace HermesBundle.Shell

/-- A path without the slashes at its end. -/
def withoutSlashes (t : Octets) : Octets :=
  let bare := (t.reverse.dropWhile (· == '/')).reverse
  if bare.isEmpty then t.take 1 else bare

/-- The last component of a path. -/
def lastComponent (t : Octets) : Octets :=
  let bare := withoutSlashes t
  if bare == ['/'] then bare else (bare.reverse.takeWhile (· != '/')).reverse

/-- A path without its last component. -/
def directoryPart (t : Octets) : Octets :=
  let bare := withoutSlashes t
  if bare.isEmpty then ['.']
  else if bare == ['/'] then bare
  else
    let before := bare.take (bare.length - (lastComponent bare).length)
    if before.isEmpty then ['.'] else withoutSlashes before

/-- A name in a directory. -/
def inDirectory (directory : String) (name : Octets) : String :=
  let d := directory.toList
  String.ofList (if d.getLast? == some '/' then d ++ name else d ++ ['/'] ++ name)

/-- The name a source has in a target directory. -/
def underTarget (directory source : String) : String :=
  let d := withoutSlashes directory.toList
  inDirectory (String.ofList d) (lastComponent source.toList)

namespace Tool

/-- A name without a suffix, unless nothing else would be left. -/
def withoutSuffix (name suffix : Octets) : Octets :=
  if !suffix.isEmpty && endsWith name suffix && name != suffix then
    name.take (name.length - suffix.length)
  else name

/-- Writes the last components of paths, without a suffix if one is
    given. -/
def basename : Tool := fun arguments => do
  let g ← givenBefore [flag 'a' "multiple", valued 's' "suffix", flag 'z' "zero"] 1 arguments
  let ending := if g.has "z" then '\x00' else '\n'
  let write := fun (suffix : Octets) (path : String) => do
    Run.print (withoutSuffix (lastComponent path.toList) suffix ++ [ending])
    return 0
  if g.has "a" || g.has "s" then
    if g.operands.isEmpty then Run.missing 1 "operand"
    else overall (write ((g.value? "s").getD "").toList) g.operands 0
  else
    match g.operands with
    | [] => Run.missing 1 "operand"
    | [path] => write [] path
    | [path, suffix] => write suffix.toList path
    | _ :: _ :: third :: _ => Run.extra 1 third

/-- Writes paths without their last components. -/
def dirname : Tool := fun arguments => do
  let g ← given [flag 'z' "zero"] 1 arguments
  if g.operands.isEmpty then Run.missing 1 "operand"
  else
    for path in g.operands do
      Run.print (directoryPart path.toList ++ [if g.has "z" then '\x00' else '\n'])
    return 0

/-- How much of a path has to be there. -/
inductive PathNeed where
  | allButLast
  | all
  | nothing
deriving DecidableEq

/-- Goes along names from a location; names that are missing are kept if
    that is allowed.  Links are followed unless they are to be left. -/
def followNames (fs : FileSystem) (need : PathNeed) (leavesLinks : Bool) :
    Nat → Location → List Octets → Except Errno Location
  | 0, _, _ => .error .tooManyLinks
  | _, l, [] => .ok l
  | fuel + 1, l, name :: rest =>
      if name.isEmpty || name == ['.'] then
        -- A final slash or dot asks for a directory.
        match fs.standing? l with
        | some .directory => followNames fs need leavesLinks fuel l rest
        | none => if need = .all then .error .noEntry else followNames fs need leavesLinks fuel l rest
        | some _ =>
            if need = .nothing then followNames fs need leavesLinks fuel l rest
            else .error .notDirectory
      else if name == "..".toList then followNames fs need leavesLinks fuel l.dropLast rest
      else
        let next := l ++ [fileName (String.ofList name)]
        match fs.standing? l with
        | some .directory =>
            match fs.entry? next with
            | none =>
                match need with
                | .nothing => followNames fs need leavesLinks fuel next rest
                | .all => .error .noEntry
                | .allButLast =>
                    if rest.all (·.isEmpty) then .ok next else .error .noEntry
            | some (.link target) =>
                if leavesLinks then followNames fs need leavesLinks fuel next rest
                else
                  let t := Octets.ofText target
                  let start := if t.head? == some '/' then [] else l
                  followNames fs need leavesLinks fuel start (splitOn '/' t ++ rest)
            | some _ => followNames fs need leavesLinks fuel next rest
        | some _ =>
            if need = .nothing then followNames fs need leavesLinks fuel next rest
            else .error .notDirectory
        | none =>
            if need = .nothing then followNames fs need leavesLinks fuel next rest
            else .error .noEntry

/-- Where a path leads, links followed. -/
def resolvePath (need : PathNeed) (leavesLinks : Bool) (path : String) :
    Run (Except Errno Location) := do
  let s ← get
  let t := path.toList
  if t.isEmpty || (t.head? != some '/' && FileSystem.isLost s.here) then return .error .noEntry
  else
    let start := if t.head? == some '/' then [] else s.here
    let fuel := 200 * (t.length + 10)
    match followNames s.files need leavesLinks fuel start (splitOn '/' t) with
    | .error .tooManyLinks =>
        return if need = .nothing then .ok (start ++ [fileName path]) else .error .tooManyLinks
    | r => return r

/-- Writes where symbolic links lead. -/
def readlink : Tool := fun arguments => do
  let g ← given
    [flag 'f' "canonicalize", flag 'e' "canonicalize-existing", flag 'm' "canonicalize-missing",
     flag 'n' "no-newline", flag 'q' "quiet", flag 's' "silent", flag 'v' "verbose", flag 'z' "zero"]
    1 arguments
  if g.operands.isEmpty then Run.missing 1 "operand"
  let isOpen := g.has "n" && g.operands.length = 1
  if g.has "n" && g.operands.length > 1 then
    Run.objection "ignoring --no-newline with multiple arguments"
  let ending : Octets := if isOpen then [] else if g.has "z" then ['\x00'] else ['\n']
  let isVerbose := g.last? ["q", "s", "v"] == some "v"
  let failure := fun (path : String) (e : Errno) => do
    if isVerbose then fileFailure path e
    return 1
  overall
    (fun path => do
      match g.last? ["f", "e", "m"] with
      | some key => do
          let need := if key == "f" then PathNeed.allButLast else if key == "e" then .all else .nothing
          match ← resolvePath need false path with
          | .ok l => do
              Run.print ((pathOf l).toList ++ ending)
              return 0
          | .error e => failure path e
      | none => do
          match ← Run.spot false path with
          | .ok (.found _ (.link target)) => do
              Run.print (Octets.ofText target ++ ending)
              return 0
          | .ok (.found _ _) => failure path .invalid
          | .ok (.free _) => failure path .noEntry
          | .error e => failure path e)
    g.operands 0

/-- A location as it is seen from another one. -/
def relativePath (base l : Location) : String :=
  let shared := ((List.zip base l).takeWhile fun (a, b) => a == b).length
  let ups := List.replicate (base.length - shared) "..".toList
  let downs := (l.drop shared).map Octets.ofText
  if ups.isEmpty && downs.isEmpty then "." else String.ofList (joinWith ['/'] (ups ++ downs))

/-- Writes where paths lead. -/
def realpath : Tool := fun arguments => do
  let g ← given
    [flag 'e' "canonicalize-existing", flag 'm' "canonicalize-missing", flag 'L' "logical",
     flag 'P' "physical", flag 'q' "quiet", flag 's' "strip", long "no-symlinks" .none,
     flag 'z' "zero", long "relative-to" .required, long "relative-base" .required] 1 arguments
  if g.operands.isEmpty then Run.missing 1 "operand"
  let need := match g.last? ["e", "m"] with
    | some "e" => PathNeed.all
    | some _ => .nothing
    | none => .allButLast
  let leavesLinks := g.has "s" || g.has "no-symlinks"
  let ending : Octets := [if g.has "z" then '\x00' else '\n']
  let base ← match g.value? "relative-to" with
    | none => pure none
    | some path =>
        match ← resolvePath need leavesLinks path with
        | .ok l => pure (some l)
        | .error e => Run.quit 1 ((← Run.shownName path) ++ ": " ++ e.text)
  overall
    (fun path => do
      match ← resolvePath need leavesLinks path with
      | .ok l => do
          Run.print ((match base with
            | some b => relativePath b l
            | none => pathOf l).toList ++ ending)
          return 0
      | .error e => do
          if !g.has "q" then fileFailure path e
          return 1)
    g.operands 0

/-- Writes the directory in which the program runs. -/
def pwd : Tool := fun arguments => do
  let g ← given [flag 'L' "logical", flag 'P' "physical"] 1 arguments
  let s ← get
  let given := (s.valueOf "PWD").getD ""
  let isName := given.toList.head? == some '/' &&
    match s.toWorld.spot s.here true given with
    | .ok (.found l _) => l == s.here
    | _ => false
  if FileSystem.isLost s.here then
    Run.quit 1 ("couldn\x27t find directory entry in " ++ (← Run.inQuotes "..")
      ++ " with matching i-node")
  else if g.last? ["L", "P"] == some "L" && isName then Run.printString (given ++ "\n")
  else Run.printString (pathOf s.here ++ "\n")
  return 0

/-! ## Names that are not yet used -/

/-- The letters of random names. -/
def randomLetters : Octets :=
  "abcdefghijklmnopqrstuvwxyzABCDEFGHIJKLMNOPQRSTUVWXYZ0123456789".toList

/-- Letters in place of the marks of a template, from a number. -/
def randomName : Nat → Nat → Octets
  | 0, _ => []
  | count + 1, n =>
      (randomLetters[n % 62]?).getD 'a' :: randomName count ((n * 6364136223 + 1442695040) / 62)

/-- Makes a file or a directory with a name that is not yet used. -/
def mktemp : Tool := fun arguments => do
  let g ← given
    [flag 'd' "directory", flag 'u' "dry-run", flag 'q' "quiet", ⟨some 'p', "tmpdir", .required⟩,
     flag 't' "", long "suffix" .required] 1 arguments
  match g.operands with
  | _ :: second :: _ => do
      let _ := second
      Run.misuse 1 "too many templates"
  | operands => do
      let template := (operands.head?.getD "tmp.XXXXXXXXXX").toList
      let usesDirectory := g.has "p" || g.has "t" || operands.isEmpty
      let s ← get
      let fallback := ((s.valueOf "TMPDIR").filter fun t => !t.isEmpty).getD "/tmp"
      let directory :=
        match g.value? "p" with
        | some t => if t.isEmpty then fallback else t
        | none => fallback
      let directory := if g.has "t" then ((s.valueOf "TMPDIR").filter fun t => !t.isEmpty).getD directory else directory
      let suffix : Octets :=
        match g.value? "suffix" with
        | some t => t.toList
        | none => (template.reverse.takeWhile (· != 'X')).reverse
      let head := if (g.value? "suffix").isSome then template
        else template.take (template.length - suffix.length)
      let marks := (head.reverse.takeWhile (· == 'X')).length
      let shown ← Run.inQuotes (String.ofList template)
      if (g.value? "suffix").isSome && template.getLast? != some 'X' then
        Run.quit 1 ("with --suffix, template " ++ shown ++ " must end in X")
      else if marks < 3 then Run.quit 1 ("too few X\x27s in template " ++ shown)
      else if suffix.contains '/' then
        Run.quit 1 ("invalid suffix " ++ (← Run.inQuotes (String.ofList suffix))
          ++ ", contains directory separator")
      else do
        let seed := s.process * 7919 + s.clock * 104729 + s.next * 15485863 + 982451653 * (s.next + 1)
        let name := head.take (head.length - marks) ++ randomName marks seed ++ suffix
        let path := if usesDirectory then inDirectory directory name else String.ofList name
        let shownTemplate :=
          if usesDirectory then inDirectory directory template else String.ofList template
        let failure := fun (e : Errno) => do
          if !g.has "q" then
            Run.objection ("failed to create " ++ (if g.has "d" then "directory" else "file")
              ++ " via template " ++ (← Run.inQuotes shownTemplate) ++ ": " ++ e.text)
          return 1
        match ← Run.spot false path with
        | .error e => failure e
        | .ok (.found _ _) => failure .occupied
        | .ok (.free l) => do
            if !g.has "u" then
              Run.changeWorld fun w =>
                (w.make l (if g.has "d" then .directory else .file [] false)
                  (if g.has "d" then 0o700 else 0o600)).1
            Run.printString (path ++ "\n")
            return 0

end Tool

end HermesBundle.Shell
