import HermesBundle.Project.Root

/-! # Project-relative paths — how files are shown to the user

    A file inside the project is shown relative to the project root, any
    other one by its absolute path.  Inside is a matter of whole
    components, after both paths have been resolved. -/

namespace HermesBundle.Project

/-- A resolved path seen from a resolved root. -/
def relativeTo (root p : Path) : Text :=
  if root.anchor = p.anchor && root.parts.isPrefixOf p.parts then
    (Path.mk .here (p.parts.drop root.parts.length)).toText
  else p.toText

/-- A path relative to a project root, by default that of the current
    directory. -/
def relative (path : Path) (root : Option Path) : Action Text := do
  let resolved ← Action.resolve path
  let start ←
    match root with
    | some root => pure root
    | none => findRoot none
  let base ← Action.resolve start
  return relativeTo base resolved

end HermesBundle.Project
