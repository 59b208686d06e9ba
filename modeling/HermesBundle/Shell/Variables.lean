import HermesBundle.Shell.Arithmetic
import HermesBundle.Shell.Streams

/-! # Variables — the names that scripts give values

    A variable has a value or none, may be handed to programs and may be
    fixed.  What the shell says of itself starts with the name of the
    script and a line. -/

namespace HermesBundle.Shell

/-- The letters and the names of options. -/
def optionNames : List (Char × String) :=
  [('e', "errexit"), ('f', "noglob"), ('I', "ignoreeof"), ('i', "interactive"), ('m', "monitor"),
   ('n', "noexec"), ('s', "stdin"), ('x', "xtrace"), ('v', "verbose"), ('V', "vi"),
   ('E', "emacs"), ('C', "noclobber"), ('a', "allexport"), ('b', "notify"), ('u', "nounset"),
   ('p', "privileged")]

namespace Context

/-- Whether an option is on. -/
def isOn (s : Context) (letter : Char) : Bool := s.options.contains letter

/-- The letters of the options that are on, in the order in which they are
    shown. -/
def shownOptions (s : Context) : Octets :=
  (optionNames.reverse.filter fun (letter, _) => s.isOn letter).map (·.1)

/-- The value of a variable. -/
def valueOf (s : Context) (name : String) : Option String :=
  (s.bindings.find? name).bind (·.value)

/-- The buckets in which a shell keeps its variables. -/
def bucketCount : Nat := 39

/-- The bucket of a name among some number of buckets. -/
def bucketIn (count : Nat) (name : String) : Nat :=
  match name.toList with
  | [] => 0
  | c :: rest => (rest.foldl (fun n d => n + d.toNat) (c.toNat * 16 + c.toNat)) % count

/-- The bucket of a variable. -/
def bucketOf (name : String) : Nat := bucketIn bucketCount name

/-- The variables that programs are given, in the order of the buckets. -/
def environment (s : Context) : Table String :=
  let given := s.bindings.filterMap fun (name, v) =>
    if v.isExported then v.value.map fun t => (name, t) else none
  (List.range bucketCount).flatMap fun n => given.filter fun (name, _) => bucketOf name == n

/-- The characters that divide fields. -/
def dividers (s : Context) : Octets :=
  match s.valueOf "IFS" with
  | some t => t.toList
  | none => [' ', '\t', '\n']

end Context

namespace Run

/-- The value of a variable. -/
def valueOf (name : String) : Run (Option String) := do
  let s ← get
  return s.valueOf name

/-- Complains in the name of the shell. -/
def shellComplaint (t : String) : Run Unit := do
  let s ← get
  report (s.name ++ ": " ++ toString s.line ++ ": " ++ t ++ "\n").toList

/-- A complaint of the shell about the command that is running. -/
def complain (t : String) : Run Unit := do
  let s ← get
  match s.running with
  | some command => shellComplaint (command ++ ": " ++ t)
  | none => shellComplaint t

/-- A complaint that ends the script. -/
def fail {α : Type} (t : String) : Run α := do
  complain t
  throw (.failed 2)

/-- Changes what is known of a variable. -/
def changeVariable (name : String) (f : Variable → Variable) : Run Unit :=
  modify fun s => { s with
    bindings := s.bindings.set name (f ((s.bindings.find? name).getD ⟨none, false, false⟩)) }

/-- Some variables have a meaning for the shell, which follows them when
    they are set. -/
def notice (name : String) (value : Option String) : Run Unit := do
  if name == "PATH" then modify fun s => { s with located := [] }
  else if name == "OPTIND" then
    match decimalInteger (value.getD "1").toList with
    | some i =>
        if i < 0 then fail ("Illegal number: " ++ value.getD "")
        else modify fun s => { s with optionIndex := max 1 i.toNat, optionOffset := 0 }
    | none => fail ("Illegal number: " ++ value.getD "")
  else return ()

/-- Sets a variable. -/
def assign (name value : String) : Run Unit := do
  let s ← get
  let v := (s.bindings.find? name).getD ⟨none, false, false⟩
  if v.isConstant then fail (name ++ ": is read only")
  else do
    notice name (some value)
    modify fun s => { s with
      bindings := s.bindings.set name
        { v with value := some value, isExported := v.isExported || s.isOn 'a' } }

/-- Removes a variable. -/
def unassign (name : String) : Run Unit := do
  let s ← get
  match s.bindings.find? name with
  | none => return ()
  | some v =>
      if v.isConstant then fail (name ++ ": is read only")
      else do
        notice name none
        modify fun s => { s with bindings := s.bindings.erase name }

/-- Opens a scope for variables. -/
def openScope : Run Unit := modify fun s => { s with scopes := [] :: s.scopes }

/-- Closes a scope and gives its variables back what they had before. -/
def closeScope : Run Unit :=
  modify fun s =>
    match s.scopes with
    | [] => s
    | scope :: rest =>
        let bindings := scope.foldl
          (fun (t : Table Variable) (name, saved) =>
            match saved with
            | some v => t.set name v
            | none => t.erase name)
          s.bindings
        { s with scopes := rest, bindings := bindings }

/-- A variable belongs to the scope from here on. -/
def makeLocal (name : String) : Run Unit :=
  modify fun s =>
    match s.scopes with
    | [] => s
    | scope :: rest =>
        if scope.any fun (n, _) => n == name then s
        else { s with scopes := ((name, s.bindings.find? name) :: scope) :: rest }

end Run

end HermesBundle.Shell
