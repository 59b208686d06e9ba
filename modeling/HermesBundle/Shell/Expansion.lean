import HermesBundle.Shell.Arithmetic
import HermesBundle.Shell.Division
import HermesBundle.Shell.Variables

/-! # Expansion — from the words of a script to fields

    Parameters, the output of commands and arithmetic are put in place,
    the result is divided into fields at characters that were not quoted,
    and fields with wildcards become the paths they match.  What commands
    print is given as a function, for only the runner can tell. -/

namespace HermesBundle.Shell

/-- How the pieces of a word are expanded. -/
structure WordUse where
  /-- Whether the word becomes fields. -/
  hasFields : Bool
  /-- Whether bare text can be divided as well, as in the words inside
      parameter expansions. -/
  isLoose : Bool

/-- What stands between all parameters if they are taken together. -/
def separatorFor (s : Context) (name : String) (hasFields isQuoted : Bool) : Octets :=
  if hasFields && isQuoted && name == "@" then [parameterMark]
  else if hasFields && !isQuoted && (s.valueOf "IFS").isSome then [parameterMark]
  else s.dividers.take 1

/-- The value of a parameter, if it is set.  All parameters together are
    always set. -/
def parameterValue (s : Context) (separator : Octets) (name : String) : Option Octets :=
  match name with
  | "#" => some (decimal s.parameters.length)
  | "?" => some (decimal s.status)
  | "$" => some (decimal s.shell)
  | "!" => s.background.map decimal
  | "-" => some s.shownOptions
  | "@" => some (joinWith separator (s.parameters.map String.toList))
  | "*" => some (joinWith separator (s.parameters.map String.toList))
  | _ =>
      match decimal? name.toList with
      | some 0 => some s.name.toList
      | some n => s.parameters[n - 1]?.map String.toList
      | none => (s.valueOf name).map String.toList

/-- Octets without the head that a pattern matches.  The pattern does not
    reach over a mark. -/
def withoutHead (longest : Bool) (pattern : List Wildcard) (t : Octets) : Octets :=
  let seen := fun (n : Nat) => (t.take n).takeWhile (· != parameterMark)
  let ways :=
    if longest then (List.range (t.length + 1)).reverse
    else List.range ((t.takeWhile (· != parameterMark)).length + 1)
  match ways.find? fun n => isMatch pattern (seen n) with
  | some n => t.drop n
  | none => t

/-- Octets without the tail that a pattern matches. -/
def withoutTail (longest : Bool) (pattern : List Wildcard) (t : Octets) : Octets :=
  let seen := fun (n : Nat) => (t.drop n).takeWhile (· != parameterMark)
  let ways :=
    if longest then List.range ((t.takeWhile (· != parameterMark)).length + 1)
    else (List.range (t.length + 1)).reverse
  match ways.find? fun n => isMatch pattern (seen n) with
  | some n => t.take n
  | none => t

/-- The fragment that octets become, which can be divided if they are not
    quoted. -/
def fragmentOf (isQuoted : Bool) (t : Octets) : Fragment :=
  if isQuoted then .text (glyphs true t) else .loose (glyphs false t)

/-- The home directories of the users of the system. -/
def homes : List (String × String) :=
  [("root", "/root"), ("daemon", "/usr/sbin"), ("bin", "/bin"), ("sys", "/dev"),
   ("sync", "/bin"), ("games", "/usr/games"), ("man", "/var/cache/man"),
   ("lp", "/var/spool/lpd"), ("mail", "/var/mail"), ("news", "/var/spool/news"),
   ("uucp", "/var/spool/uucp"), ("proxy", "/bin"), ("www-data", "/var/www"),
   ("backup", "/var/backups"), ("list", "/var/list"), ("irc", "/run/ircd"),
   ("_apt", "/nonexistent"), ("nobody", "/nonexistent")]

/-- The directory that a tilde with a name stands for. -/
def homeOf (s : Context) (name : String) : Option String :=
  if name.isEmpty then s.valueOf "HOME" else homes.lookup name

/-- A word whose start stands for a home directory if there is a tilde.  In
    an assignment the name after it also ends at a colon. -/
def withHome (s : Context) (inAssignment : Bool) (word : Word) : Word :=
  match word with
  | .literal text false :: rest =>
      match text.toList with
      | '~' :: t =>
          let name := t.takeWhile fun c => c != '/' && !(inAssignment && c == ':')
          let after := t.drop name.length
          if after.isEmpty && !rest.isEmpty then word
          else
            match homeOf s (String.ofList name) with
            | some home =>
                .literal home true
                  :: (if after.isEmpty then rest
                    else .literal (String.ofList after) false :: rest)
            | none => word
      | _ => word
  | _ => word

/-- The parts of a literal between its colons. -/
def colonParts (text : String) : List Word :=
  (splitOn ':' text.toList).map fun t =>
    if t.isEmpty then [] else [.literal (String.ofList t) false]

/-- A word divided at the colons that are not quoted. -/
def splitAtColons : Word → List Word
  | [] => [[]]
  | .literal text false :: rest =>
      let following := splitAtColons rest
      match (colonParts text).reverse with
      | [] => following
      | last :: earlier => earlier.reverse ++ (last ++ following.headD []) :: following.tail
  | piece :: rest =>
      let following := splitAtColons rest
      (piece :: following.headD []) :: following.tail

/-- The value of an assignment with home directories in place of tildes at
    its start and after colons. -/
def withHomes (s : Context) (word : Word) : Word :=
  ((splitAtColons word).map (withHome s true)).intersperse [.literal ":" false] |>.flatten

/-- What a program prints without the line ends at its end, and without
    octets that no value can hold. -/
def withoutFinalLines (t : Octets) : Octets :=
  ((t.filter (· != '\x00')).reverse.dropWhile (· == '\n')).reverse

/-- The value of an arithmetic expression, whose assignments are made. -/
def evaluateFor (expression : Octets) : Run Octets := do
  let s ← get
  match calculate s.valueOf expression with
  | .ok (value, assigned) => do
      for (name, i) in assigned do
        Run.assign name (String.ofList (signedDecimal i))
      return signedDecimal value
  | .error .overflow => throw (.killed 8)
  | .error fault => Run.fail (fault.message (String.ofList expression))

mutual

/-- Expands the pieces of a word, of which some may have stood in quotes. -/
def expandPieces (output : List Command → Run Octets) :
    Nat → WordUse → Bool → List Piece → Run (List Fragment)
  | 0, _, _, _ => throw .stuck
  | _, _, _, [] => return []
  | fuel + 1, m, isInside, piece :: rest =>
      match isInside, piece, rest with
      -- Quotes around all parameters and nothing else are as good as none.
      | false, .mark, .parameter "@" .keep true :: .mark :: rest => do
          let first ← expandPiece output fuel m (.parameter "@" .keep true)
          return first ++ (← expandPieces output fuel m false rest)
      | _, .mark, rest => do
          return .mark :: (← expandPieces output fuel m (!isInside) rest)
      | _, piece, rest => do
          let first ← expandPiece output fuel m piece
          return first ++ (← expandPieces output fuel m isInside rest)

/-- Expands a piece of a word. -/
def expandPiece (output : List Command → Run Octets) :
    Nat → WordUse → Piece → Run (List Fragment)
  | 0, _, _ => throw .stuck
  | _, _, .mark => return [.mark]
  | _, m, .literal text isQuoted =>
      if m.isLoose && !isQuoted then return [.loose (glyphs false text.toList)]
      else return [.text (glyphs isQuoted text.toList)]
  | _, _, .unknown => Run.fail "Bad substitution"
  | _, _, .output body isQuoted => do
      let t ← output body
      return [fragmentOf isQuoted (withoutFinalLines t)]
  | fuel + 1, _, .arithmetic expression isQuoted => do
      let fragments ← expandPieces output fuel ⟨false, false⟩ false expression
      let t ← evaluateFor (glyphOctets (undivided fragments))
      return [fragmentOf isQuoted t]
  | fuel + 1, m, .parameter name change isQuoted => do
      let s ← get
      let hasFields := m.hasFields && !change.dropsValue
      let value := parameterValue s.toContext (separatorFor s.toContext name hasFields isQuoted) name
      let shown : Octets → List Fragment := fun t =>
        if isQuoted && name == "@" && !s.parameters.isEmpty then [.parameters (glyphs true t)]
        else [fragmentOf isQuoted t]
      let current : List Fragment := (value.map shown).getD []
      let holds := fun alsoEmpty : Bool => value.any fun t => !(alsoEmpty && t.isEmpty)
      let expand := fun (m : WordUse) (word : Word) =>
        expandPieces output fuel m false
          (if isQuoted then word else withHome s.toContext false word)
      let inner : WordUse := ⟨m.hasFields, !isQuoted⟩
      let single : WordUse := ⟨false, false⟩
      let pattern := fun word : Word => do
        let fragments ← expandPieces output fuel single false (withHome s.toContext false word)
        return patternOf (undivided fragments)
      if change.needsValue && value.isNone && s.isOn 'u' then
        Run.fail (name ++ ": parameter not set")
      match change with
      | .keep => return current
      | .length => return shown (decimal (value.getD []).length)
      | .orElse alsoEmpty word => if holds alsoEmpty then return current else expand inner word
      | .ifSet alsoEmpty word => if holds alsoEmpty then expand inner word else return shown []
      | .orSet alsoEmpty word =>
          if holds alsoEmpty then return current
          else do
            let t := glyphOctets (undivided (← expand single word))
            if !isName name then Run.fail (name ++ ": bad variable name")
            Run.assign name (String.ofList t)
            return shown t
      | .orFail alsoEmpty word =>
          if holds alsoEmpty then return current
          else do
            let t := glyphString (undivided (← expand single word))
            let reason :=
              if !word.isEmpty then t
              else if alsoEmpty then "parameter not set or null"
              else "parameter not set"
            Run.fail (name ++ ": " ++ reason)
      | .dropHead longest word =>
          match value with
          | none => do
              let _ ← pattern word
              return []
          | some t => do
              let p ← pattern word
              return shown (withoutHead longest p t)
      | .dropTail longest word =>
          match value with
          | none => do
              let _ ← pattern word
              return []
          | some t => do
              let p ← pattern word
              return shown (withoutTail longest p t)

end

/-- The glyphs of a word that is not divided. -/
def expandWhole (output : List Command → Run Octets) (fuel : Nat) (word : Word) :
    Run (List Glyph) := do
  let s ← get
  let fragments ← expandPieces output fuel ⟨false, false⟩ false (withHome s.toContext false word)
  return undivided fragments

/-- The string of a word that is not divided. -/
def expandString (output : List Command → Run Octets) (fuel : Nat) (word : Word) :
    Run String := do
  return glyphString (← expandWhole output fuel word)

/-- The value of an assignment. -/
def expandValue (output : List Command → Run Octets) (fuel : Nat) (word : Word) :
    Run String := do
  let s ← get
  let fragments ← expandPieces output fuel ⟨false, false⟩ false (withHomes s.toContext word)
  return glyphString (undivided fragments)

/-- The text of input that a script holds. -/
def expandDocument (output : List Command → Run Octets) (fuel : Nat) (word : Word) :
    Run Octets := do
  let fragments ← expandPieces output fuel ⟨false, false⟩ false word
  return glyphOctets (undivided fragments)

/-- The fields that a word expands to. -/
def expandWord (output : List Command → Run Octets) (fuel : Nat) (word : Word) :
    Run (List String) := do
  let s ← get
  let fragments ← expandPieces output fuel ⟨true, false⟩ false (withHome s.toContext false word)
  let s ← get
  let fields := fieldsOf s.toContext.dividers fragments
  if s.isOn 'f' then return fields.map glyphString
  else return fields.flatMap (expandPaths s.toWorld s.here)

/-- The fields that words expand to. -/
def expandWords (output : List Command → Run Octets) (fuel : Nat) :
    List Word → Run (List String)
  | [] => return []
  | word :: rest => do
      let first ← expandWord output fuel word
      let more ← expandWords output fuel rest
      return first ++ more

end HermesBundle.Shell
