import HermesBundle.Storage.FileSystem

/-! # Shifts — directories that move or go

    A program stands in a directory, not at a name.  When the directory
    gets another name the program is found there; when it is removed the
    program stands in a directory without a name.  A shift says what
    became of a location, and shifts are followed one after another. -/

namespace HermesBundle

/-- What happens to a directory. -/
inductive Shift where
  | moved (source target : Location)
  | removed (l : Location)
deriving DecidableEq

namespace Shift

/-- Where something is afterwards that was at or below a location. -/
def follow (shift : Shift) (here : Location) : Location :=
  match shift with
  | .moved source target =>
      if source.isPrefixOf here then target ++ here.drop source.length else here
  | .removed l =>
      if l.isPrefixOf here then
        l.dropLast ++ (here.drop (l.length - 1)).map fun _ => FileSystem.lostName
      else here

/-- Where something is after several shifts, the last of which comes
    first. -/
def followAll (shifts : List Shift) (here : Location) : Location :=
  shifts.foldr (fun shift l => shift.follow l) here

end Shift

end HermesBundle
