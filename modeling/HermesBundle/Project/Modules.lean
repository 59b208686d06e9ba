import HermesBundle.Project.Root

/-! # Installed modules — files below `node_modules`

    A request is looked up in the `node_modules` directories of a project
    directory and of those above it.  Within each, the exact name comes
    before the name with a script suffix. -/

namespace HermesBundle.Project

/-- The directory modules are installed in. -/
def modulesDirectory : String := "node_modules"

/-- The suffix of scripts. -/
def scriptSuffix : String := ".js"

/-- The path a request has below a directory. -/
def requestPath (directory : Path) (request : Text) : Path :=
  (directory.childNamed modulesDirectory).child request

/-- The two candidates for a request below a directory, if the request
    ends in a name. -/
def candidates (directory : Path) (request : Text) : Option (Path × Path) :=
  let exact := requestPath directory request
  (exact.withName? (exact.name ++ Text.ofString scriptSuffix)).map fun script => (exact, script)

/-- Searches directories in order. -/
def searchModule (request : Text) : List Path → Action (Option Path)
  | [] => return none
  | directory :: rest =>
      match candidates directory request with
      | none =>
          throw (.invalidValue ((requestPath directory request).shown
            ++ Text.ofString " has an empty name"))
      | some (exact, script) => do
          if ← Action.isFile exact then return some exact
          else if ← Action.isFile script then return some script
          else searchModule request rest

/-- The file a request resolves to from a project directory. -/
def resolveModule (project : Path) (request : Text) : Action (Option Path) := do
  let resolved ← Action.resolve project
  searchModule request (ancestors resolved)

end HermesBundle.Project
