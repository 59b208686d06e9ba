import HermesBundle.Storage.FileSystem

/-! # Resolved paths — without links and dots

    Resolving replaces every link on the way by what it points to and
    takes double dots back to the directory above.  Components that do
    not exist are allowed and kept.  A link that leads back to itself
    ends the resolution: what follows it is kept unresolved, as the text
    it was written as.  Where that text starts with a slash, because one
    slash too many stood behind the link, it is an absolute path and all
    before it counts for nothing.

    A relative path stays relative while it is resolved, so a link is
    known again only under the path it was met by. -/

namespace HermesBundle.FileSystem

/-- Links met so far and, once known, where they lead. -/
abbrev Visited := List (Path × Option Path)

/-- Double dots taken back by the names alone. -/
def collapse (names : List Text) : Location :=
  names.foldl (fun l name => if name = dotDot then l.dropLast else l ++ [name]) []

/-- The absolute form of a path, seen from a directory: double dots are
    taken back by the names alone. -/
def absoluteForm (here : Location) (p : Path) : Path :=
  ⟨if p.isAbsolute then p.anchor else .root,
    collapse ((if p.isAbsolute then [] else here) ++ p.parts)⟩

/-- The location of a path without links, seen from a directory. -/
def locationOf (here : Location) (p : Path) : Location :=
  (absoluteForm here p).parts.map Utf8.settledName

/-- The path one level up from a path without links. -/
def above (p : Path) : Path :=
  match p.parts.getLast? with
  | none => if p.isAbsolute then p else ⟨p.anchor, [dotDot]⟩
  | some name => if name = dotDot then ⟨p.anchor, p.parts ++ [dotDot]⟩ else p.parent

/-- How a resolution ends. -/
inductive Ending where
  | complete
  /-- A link leads back to itself. -/
  | loop
  /-- A name cannot be that of an entry. -/
  | unusable (name : Text)
deriving DecidableEq

/-- The outcome of a partial resolution: the path, how it has ended, and
    the links met. -/
structure Resolution where
  path : Path
  ending : Ending
  visited : Visited

/-- Whether a name can be handed to the system. -/
def isUsable (name : Text) : Bool :=
  (name.all fun c => c.val != 0) && (Utf8.encodeName? name).isSome

/-- A path continued by names that are not resolved. -/
def continued (p : Path) (names : List Text) : Path := p.child (Text.join [slash] names)

/-- Resolves names from a resolved path.  Names may be empty or a dot, as
    they stand between the slashes of a text.  `links` bounds the nesting
    of links inside links. -/
def resolveNames (fs : FileSystem) (here : Location) (links : Nat) (visited : Visited)
    (p : Path) : List Text → Resolution
  | [] => ⟨p, .complete, visited⟩
  | name :: rest =>
      if name.isEmpty || name = dot then resolveNames fs here links visited p rest
      else if name = dotDot then resolveNames fs here links visited (above p) rest
      else if !isUsable name then ⟨p, .unusable name, visited⟩
      else
        let next : Path := ⟨p.anchor, p.parts ++ [name]⟩
        match fs.entry? (locationOf here next) with
        | some (.link target) =>
            match visited.lookup next with
            | some (some known) => resolveNames fs here links visited known rest
            | some none => ⟨continued next rest, .loop, visited⟩
            | none =>
                match links with
                | 0 => ⟨continued next rest, .loop, visited⟩
                | links + 1 =>
                    let start := if target.head? == some slash then ⟨.root, []⟩ else p
                    let inner := resolveNames fs here links ((next, none) :: visited) start
                      (target.splitOn slash)
                    match inner.ending with
                    | .complete =>
                        resolveNames fs here links ((next, some inner.path) :: inner.visited)
                          inner.path rest
                    | ending => ⟨continued inner.path rest, ending, inner.visited⟩
        | _ => resolveNames fs here links visited next rest
termination_by names => (links, names.length)

/-- How deep links can be nested before one is met again: every link has
    few paths it can be met by. -/
def nestingLimit (fs : FileSystem) : Nat := 4 * fs.entries.length + 4

/-- How the resolution of a path ends, seen from a directory. -/
def resolution (fs : FileSystem) (here : Location) (path : Path) : Resolution :=
  let start : Path := if path.isAbsolute then ⟨.root, []⟩ else ⟨.here, []⟩
  resolveNames fs here fs.nestingLimit [] start path.parts

/-- The absolute path of a location. -/
def absolute (l : Location) : Path := ⟨.root, l⟩

/-- Whether a link that leads back to itself keeps a path from being
    followed. -/
def isLoop (fs : FileSystem) (here : Location) (p : Path) : Bool :=
  match fs.status? here p.toText with
  | .error .tooManyLinks => true
  | _ => false

end HermesBundle.FileSystem
