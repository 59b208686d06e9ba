import HermesBundle.Shell.Disk

/-! # Patterns — file names and branches chosen by wildcards

    A star stands for any octets, a question mark for one octet and
    brackets for one of a set.  Quoted octets stand for themselves.  A
    pattern of a path is matched component by component. -/

namespace HermesBundle.Shell

/-- An octet of an expanded word. -/
structure Glyph where
  char : Char
  isQuoted : Bool

/-- The octets of glyphs. -/
def glyphOctets (gs : List Glyph) : Octets := gs.map (·.char)

/-- The string of glyphs. -/
def glyphString (gs : List Glyph) : String := String.ofList (glyphOctets gs)

/-- The glyphs of octets. -/
def glyphs (isQuoted : Bool) (t : Octets) : List Glyph := t.map fun c => ⟨c, isQuoted⟩

/-- A member of a set in brackets. -/
inductive SetMember where
  | range (low high : Char)
  | kind (holds : Char → Bool)

/-- Whether a character is a member. -/
def SetMember.holds (m : SetMember) (c : Char) : Bool :=
  match m with
  | .range low high => low ≤ c && c ≤ high
  | .kind holds => holds c

/-- One position of a pattern. -/
inductive Wildcard where
  | exact (c : Char)
  | one
  | many
  | oneOf (negated : Bool) (members : List SetMember)

/-- The kinds of characters that a set can name. -/
def characterKind : String → Option (Char → Bool)
  | "alnum" => some isAlphanumeric
  | "alpha" => some isLetter
  | "blank" => some isBlank
  | "cntrl" => some isControl
  | "digit" => some isDigit
  | "graph" => some fun c => isPrintable c && c != ' '
  | "lower" => some fun c => 'a' ≤ c && c ≤ 'z'
  | "print" => some isPrintable
  | "punct" => some isPunctuation
  | "space" => some isSpace
  | "upper" => some fun c => 'A' ≤ c && c ≤ 'Z'
  | "xdigit" => some isHexadecimal
  | _ => none

/-- Whether a glyph is a character that has its meaning. -/
def Glyph.means (g : Glyph) (c : Char) : Bool := g.char == c && !g.isQuoted

/-- The kind of characters named at the start of glyphs, after its opening
    bracket, and the glyphs after its end. -/
def namedKind (gs : List Glyph) : Option ((Char → Bool) × List Glyph) :=
  match gs with
  | g :: rest =>
      if g.means ':' then
        let name := rest.takeWhile fun h => isLetter h.char
        match characterKind (glyphString name), rest.drop name.length with
        | some kind, a :: b :: after =>
            if a.means ':' && b.means ']' then some (kind, after) else none
        | _, _ => none
      else none
  | [] => none

/-- The members of a set up to its closing bracket, and the glyphs after
    that; none if the set is not closed.  A bracket in the first place
    belongs to the set, and so does any character after a backslash. -/
def setMembers : Nat → Bool → List SetMember → List Glyph →
    Option (List SetMember × List Glyph)
  | 0, _, _, _ => none
  | _, _, _, [] => none
  | fuel + 1, isFirst, found, g :: rest =>
      if g.means ']' && !isFirst then some (found.reverse, rest)
      else
        match if g.means '[' then namedKind rest else none with
        | some (kind, after) => setMembers fuel false (.kind kind :: found) after
        | none =>
            let (low, rest) := member g rest
            match rest with
            | dash :: high :: after =>
                if dash.means '-' && !high.means ']' then
                  let (high, after) := member high after
                  setMembers fuel false (.range low high :: found) after
                else setMembers fuel false (.range low low :: found) rest
            | _ => setMembers fuel false (.range low low :: found) rest
where
  /-- The character that a glyph stands for, and the glyphs after it. -/
  member (g : Glyph) (rest : List Glyph) : Char × List Glyph :=
    match rest with
    | h :: after => if g.means '\\' then (h.char, after) else (g.char, rest)
    | [] => (g.char, rest)

/-- The pattern that glyphs spell; `fuel` is at least their number.  A
    backslash takes the meaning from what follows. -/
def wildcards : Nat → List Glyph → List Wildcard
  | 0, _ => []
  | _, [] => []
  | fuel + 1, g :: rest =>
      if g.isQuoted then .exact g.char :: wildcards fuel rest
      else if g.char == '\\' then
        match rest with
        | [] => [.exact g.char]
        | h :: rest => .exact h.char :: wildcards fuel rest
      else if g.char == '*' then .many :: wildcards fuel rest
      else if g.char == '?' then .one :: wildcards fuel rest
      else if g.char == '[' then
        let negated := (rest.head?.map fun h => h.means '!').getD false
        let body := if negated then rest.drop 1 else rest
        match setMembers (body.length + 1) true [] body with
        | some (members, after) => .oneOf negated members :: wildcards fuel after
        | none => .exact g.char :: wildcards fuel rest
      else .exact g.char :: wildcards fuel rest

/-- The pattern that glyphs spell. -/
def patternOf (gs : List Glyph) : List Wildcard := wildcards gs.length gs

/-- Whether octets match a pattern. -/
def isMatch (pattern : List Wildcard) (t : Octets) : Bool :=
  match pattern, t with
  | [], [] => true
  | [], _ :: _ => false
  | .many :: ps, [] => isMatch ps []
  | .many :: ps, c :: rest => isMatch ps (c :: rest) || isMatch (.many :: ps) rest
  | .exact _ :: _, [] => false
  | .exact d :: ps, c :: rest => d == c && isMatch ps rest
  | .one :: _, [] => false
  | .one :: ps, _ :: rest => isMatch ps rest
  | .oneOf _ _ :: _, [] => false
  | .oneOf negated members :: ps, c :: rest =>
      (members.any fun m => m.holds c) != negated && isMatch ps rest
termination_by pattern.length + t.length

/-- Whether glyphs spell a pattern that is not a mere text. -/
def hasWildcard (gs : List Glyph) : Bool :=
  (patternOf gs).any fun
    | .exact _ => false
    | _ => true

/-- The text that glyphs spell if they spell no pattern. -/
def spelledText (gs : List Glyph) : String :=
  String.ofList ((patternOf gs).filterMap fun
    | .exact c => some c
    | _ => none)

/-- The glyphs of octets among which a backslash quotes; a caret can negate
    a set as well. -/
def quotableGlyphs : Octets → List Glyph
  | [] => []
  | '\\' :: c :: rest => ⟨c, true⟩ :: quotableGlyphs rest
  | '[' :: '\x5e' :: rest => ⟨'[', false⟩ :: ⟨'!', false⟩ :: quotableGlyphs rest
  | c :: rest => ⟨c, false⟩ :: quotableGlyphs rest

/-- Whether a name matches a pattern in which a backslash quotes. -/
def matchesName (pattern name : Octets) : Bool := isMatch (patternOf (quotableGlyphs pattern)) name

/-- Splits glyphs at slashes.  A backslash before a slash is dropped. -/
def splitGlyphs : List Glyph → List (List Glyph)
  | [] => [[]]
  | g :: rest =>
      if g.char == '/' then [] :: splitGlyphs rest
      else if g.means '\\' && (rest.head?.any fun h => h.char == '/') then splitGlyphs rest
      else
        match splitGlyphs rest with
        | [] => [[g]]
        | piece :: pieces => (g :: piece) :: pieces

/-- The paths that match components, continued from a path. -/
def matchingPaths (w : World) (here : Location) (soFar : String) : List (List Glyph) → List String
  | [] => [soFar]
  | part :: rest =>
      let next := fun name : String =>
        if rest.isEmpty then soFar ++ name else soFar ++ name ++ "/"
      if hasWildcard part then
        match w.spot here true (if soFar.isEmpty then "." else soFar) with
        | .ok (.found l .directory) =>
            let names := "." :: ".." :: w.namesIn l
            let showsHidden := (part.head?.map fun g => g.char == '.').getD false
            let pattern := patternOf part
            (names.filter fun name =>
              (showsHidden || name.toList.head? != some '.') && isMatch pattern name.toList).flatMap
                fun name => matchingPaths w here (next name) rest
        | _ => []
      else if rest.isEmpty then
        let path := soFar ++ spelledText part
        match w.spot here false path with
        | .ok (.found _ _) => [path]
        | _ => []
      else matchingPaths w here (next (spelledText part)) rest

/-- The paths that match an expanded word, in order, or the word itself. -/
def expandPaths (w : World) (here : Location) (gs : List Glyph) : List String :=
  let parts := splitGlyphs gs
  if parts.any hasWildcard then
    match matchingPaths w here "" parts with
    | [] => [glyphString gs]
    | paths => paths.mergeSort fun a b => !(precedes b.toList a.toList)
  else [glyphString gs]

end HermesBundle.Shell
