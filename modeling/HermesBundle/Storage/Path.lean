import HermesBundle.Text.Utf8
import HermesBundle.Text.Quoted

/-! # Paths — names of files, in a normal form

    A path is read component by component: empty components and single
    dots vanish, double dots stay, for a link may stand before them.  A
    path that starts with exactly two slashes is kept apart from one that
    starts with one or with more than two. -/

namespace HermesBundle

/-- Where a path starts. -/
inductive Anchor where
  /-- At the current directory. -/
  | here
  /-- At the root. -/
  | root
  /-- At the root, written with two slashes. -/
  | doubleRoot
deriving DecidableEq

/-- A path: where it starts and the names that follow. -/
structure Path where
  anchor : Anchor
  parts : List Text
deriving DecidableEq

/-- The separator of path components. -/
def slash : CodePoint := .ofNat 0x2F

/-- The name of the directory itself. -/
def dot : Text := [.ofNat 0x2E]

/-- The name of the directory above. -/
def dotDot : Text := [.ofNat 0x2E, .ofNat 0x2E]

/-- The components that count in the text of a path. -/
def components (t : Text) : List Text :=
  (t.splitOn slash).filter fun name => !name.isEmpty && name != dot

namespace Path

/-- How the text of a path starts. -/
def anchorOf (t : Text) : Anchor :=
  match (t.takeWhile (· == slash)).length with
  | 0 => .here
  | 2 => .doubleRoot
  | _ => .root

/-- The path with a text. -/
def ofText (t : Text) : Path := ⟨anchorOf t, components t⟩

/-- The path with the text of a string. -/
def ofString (s : String) : Path := ofText (Text.ofString s)

/-- The text of an anchor. -/
def anchorText : Anchor → Text
  | .here => []
  | .root => [slash]
  | .doubleRoot => [slash, slash]

/-- The text of a path; the empty path is a dot. -/
def toText (p : Path) : Text :=
  match p.anchor, p.parts with
  | .here, [] => dot
  | anchor, parts => anchorText anchor ++ Text.join [slash] parts

/-- Whether a path starts at the root. -/
def isAbsolute (p : Path) : Bool := p.anchor != .here

/-- A path continued by another; an absolute one stands for itself. -/
def join (p q : Path) : Path := if q.isAbsolute then q else ⟨p.anchor, p.parts ++ q.parts⟩

/-- A path continued by the components of a text. -/
def child (p : Path) (t : Text) : Path := p.join (ofText t)

/-- A path continued by the components of a string. -/
def childNamed (p : Path) (s : String) : Path := p.child (Text.ofString s)

/-- The last component, empty if there is none. -/
def name (p : Path) : Text := p.parts.getLast?.getD []

/-- The path without its last component. -/
def parent (p : Path) : Path := ⟨p.anchor, p.parts.dropLast⟩

/-- The path with its last component exchanged, if it has one. -/
def withName? (p : Path) (name : Text) : Option Path :=
  if p.parts.isEmpty then none else some ⟨p.anchor, p.parts.dropLast ++ [name]⟩

/-- A name without its suffix: the part before the last dot, unless that
    dot is its first or its last code point. -/
def stem (name : Text) : Text :=
  let tail := (name.reverse.takeWhile (· != .ofNat 0x2E)).length
  if 0 < tail && tail + 1 < name.length then name.take (name.length - tail - 1) else name

/-- The path with the suffix of its last component exchanged, if it has a
    last component. -/
def withSuffix? (p : Path) (suffix : Text) : Option Path := p.withName? (stem p.name ++ suffix)

/-- A path shown as an object in a message. -/
def shown (p : Path) : Text :=
  Text.ofString "PosixPath(" ++ p.toText.quoted ++ Text.ofString ")"

end Path

end HermesBundle
