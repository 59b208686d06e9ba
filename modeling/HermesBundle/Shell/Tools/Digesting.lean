import HermesBundle.Shell.Digest
import HermesBundle.Shell.Tools.Encoding

/-! # Digesting — digests of files, written and checked

    A line for a file has its digest in digits and its name, or it is
    tagged with the kind of the digest.  Such lines can be read again to
    find out whether files have changed. -/

namespace HermesBundle.Shell.Tool

/-- A kind of digests. -/
structure DigestKind where
  /-- What lines are tagged with. -/
  tag : String
  /-- How many octets a digest has. -/
  size : Nat
  digest : Octets → Octets

namespace DigestKind

/-- The message digest. -/
def md5 : DigestKind := ⟨"MD5", 16, Digest.message⟩

/-- The first secure hash. -/
def sha1 : DigestKind := ⟨"SHA1", 20, Digest.first⟩

/-- The second secure hash of 224 bits. -/
def sha224 : DigestKind := ⟨"SHA224", 28, Digest.secure224.hash⟩

/-- The second secure hash of 256 bits. -/
def sha256 : DigestKind := ⟨"SHA256", 32, Digest.secure256.hash⟩

/-- The second secure hash of 384 bits. -/
def sha384 : DigestKind := ⟨"SHA384", 48, Digest.secure384.hash⟩

/-- The second secure hash of 512 bits. -/
def sha512 : DigestKind := ⟨"SHA512", 64, Digest.secure512.hash⟩

/-- The hash with two schedules. -/
def sm3 : DigestKind := ⟨"SM3", 32, Digest.twofold⟩

/-- The tag of hashes of any length. -/
def blakeTag : String := "BLAKE2b"

/-- The greatest length of such a hash in octets. -/
def blakeLimit : Nat := 64

/-- A hash of some number of octets. -/
def blake (size : Nat) : DigestKind :=
  ⟨if size = blakeLimit then blakeTag else blakeTag ++ "-" ++ toString (8 * size), size, Digest.blake size⟩

/-- Whether a digest is a hash of any length. -/
def isBlake (k : DigestKind) : Bool := blakeTag.toList.isPrefixOf k.tag.toList

end DigestKind

/-- A way to look at files, by the name it is chosen by. -/
inductive SumKind where
  | turning
  | folded
  | remainder
  | digest (k : DigestKind)

/-- Whether files are looked at by a hash of any length. -/
def SumKind.isBlake : SumKind → Bool
  | .digest k => k.isBlake
  | _ => false

/-- The ways to look at files by their names. -/
def sumKinds : List (String × SumKind) :=
  [("bsd", .turning), ("sysv", .folded), ("crc", .remainder), ("md5", .digest .md5),
   ("sha1", .digest .sha1), ("sha224", .digest .sha224), ("sha256", .digest .sha256),
   ("sha384", .digest .sha384), ("sha512", .digest .sha512), ("blake2b", .digest (.blake DigestKind.blakeLimit)),
   ("sm3", .digest .sm3)]

/-- How a line is written. -/
structure LineStyle where
  isTagged : Bool
  isBinary : Bool
  /-- Whether lines end with a null octet, and names are written as they
      are. -/
  endsWithNull : Bool
  encoding : Octets → Octets

/-- A name with escapes, if it needs them. -/
def escapedName (name : Octets) : Option Octets :=
  if name.any fun c => c == '\\' || c == '\n' || c == '\r' then
    some (name.flatMap fun c =>
      match c with
      | '\\' => "\\\\".toList
      | '\n' => "\\n".toList
      | '\r' => "\\r".toList
      | c => [c])
  else none

/-- A name without its escapes; none if there is something wrong with
    them. -/
def unescapedName : Octets → Option Octets
  | [] => some []
  | '\\' :: 'n' :: rest => (unescapedName rest).map ('\n' :: ·)
  | '\\' :: 'r' :: rest => (unescapedName rest).map ('\r' :: ·)
  | '\\' :: '\\' :: rest => (unescapedName rest).map ('\\' :: ·)
  | '\\' :: _ => none
  | c :: rest => (unescapedName rest).map (c :: ·)

/-- The line of a digest. -/
def digestLine (style : LineStyle) (k : DigestKind) (name digest : Octets) : Octets :=
  let escaped := if style.endsWithNull then none else escapedName name
  let shown := escaped.getD name
  let lead := if escaped.isSome then ['\\'] else []
  let ending := if style.endsWithNull then '\x00' else '\n'
  let body :=
    if style.isTagged then k.tag.toList ++ " (".toList ++ shown ++ ") = ".toList ++ style.encoding digest
    else style.encoding digest ++ [' ', if style.isBinary then '*' else ' '] ++ shown
  lead ++ body ++ [ending]

/-- The content of a file; what is wrong is told. -/
def toldContent (name : String) : Run (Option Octets) := do
  match ← inputContent name with
  | .ok t => return some t
  | .error e => do
      fileFailure name e
      return none

/-- Writes the line of the digest of a file. -/
def printDigest (style : LineStyle) (k : DigestKind) (name : String) : Run Nat := do
  match ← toldContent name with
  | none => return 1
  | some t => do
      Run.print (digestLine style k name.toList (k.digest t))
      return 0

/-! ## Checking -/

/-- What a line asks for. -/
structure DigestClaim where
  kind : DigestKind
  digits : Octets
  name : Octets

/-- How lines have been taken so far: whether one blank stands before a
    name. -/
abbrev BlankUse := Option Bool

/-- Whether a text has the digits of a digest. -/
def isDigestOf (k : DigestKind) (t : Octets) : Bool := t.length = 2 * k.size && t.all isHexadecimal

/-- The kind that a tag names: one of some kinds, or a hash with its length
    in the tag. -/
def taggedKind (kinds : List DigestKind) (t : Octets) : Option (DigestKind × Octets) :=
  kinds.findSome? fun k =>
    let base := if k.isBlake then DigestKind.blakeTag.toList else k.tag.toList
    if !base.isPrefixOf t then none
    else
      let rest := t.drop base.length
      match k.isBlake, rest with
      | true, '-' :: rest =>
          let digits := rest.takeWhile isDigit
          let bits := valueOfDigits 10 digits
          if digits.isEmpty || bits = 0 || bits % 8 != 0 || 8 * DigestKind.blakeLimit < bits then none
          else some (.blake (bits / 8), rest.drop digits.length)
      | true, rest => some (.blake DigestKind.blakeLimit, rest)
      | false, rest => some (k, rest)

/-- A tagged line after its tag. -/
def taggedClaim (k : DigestKind) (isEscaped : Bool) (t : Octets) : Option DigestClaim :=
  let t := if t.head? == some ' ' then t.drop 1 else t
  match t with
  | '(' :: t =>
      let tail := t.reverse.takeWhile (· != ')')
      if tail.length = t.length then none
      else
        let name := t.take (t.length - tail.length - 1)
        match (tail.reverse.dropWhile isBlank) with
        | '=' :: rest =>
            let digits := rest.dropWhile isBlank
            if isDigestOf k digits then
              (if isEscaped then unescapedName name else some name).map fun name => ⟨k, digits, name⟩
            else none
        | _ => none
  | _ => none

/-- What a line asks for, and how blanks are used from then on. -/
def digestClaim (kinds : List DigestKind) (plain : Option DigestKind) (blanks : BlankUse)
    (line : Octets) : Option DigestClaim × BlankUse :=
  let t := line.dropWhile isBlank
  let isEscaped := t.head? == some '\\'
  let t := if isEscaped then t.drop 1 else t
  match taggedKind kinds t with
  | some (k, rest) => (taggedClaim k isEscaped rest, blanks)
  | none =>
      match plain with
      | none => (none, blanks)
      | some k =>
          let digits := t.takeWhile isHexadecimal
          let k := if k.isBlake && digits.length % 2 = 0 then .blake (digits.length / 2) else k
          let rest := t.drop digits.length
          if !isDigestOf k digits || digits.isEmpty || (k.isBlake && DigestKind.blakeLimit < k.size) then
            (none, blanks)
          else
            let claim := fun (name : Octets) =>
              if name.isEmpty then none
              else (if isEscaped then unescapedName name else some name).map fun name =>
                (⟨k, digits, name⟩ : DigestClaim)
            match rest with
            | c :: rest =>
                if !isBlank c then (none, blanks)
                else
                  let isDouble := 1 < rest.length && (rest.head? == some ' ' || rest.head? == some '*')
                  if !isDouble then
                    if blanks == some false then (none, blanks) else (claim rest, some true)
                  else if blanks == some true then (claim rest, blanks)
                  else (claim (rest.drop 1), some false)
            | [] => (none, blanks)

/-- How checking is done. -/
structure CheckPlan where
  kinds : List DigestKind
  /-- The kind of lines without a tag. -/
  plain : Option DigestKind
  /-- What lines are called of which no tag is known. -/
  name : String
  isSilent : Bool
  warns : Bool
  isQuiet : Bool
  isStrict : Bool
  skipsMissing : Bool

/-- How checking has gone. -/
structure CheckTally where
  proper : Nat
  improper : Nat
  failed : Nat
  different : Nat
  same : Nat
  blanks : BlankUse
  /-- What lines are called now. -/
  name : String

/-- Checks a file against what a line asks for. -/
def checkClaim (p : CheckPlan) (c : DigestClaim) (s : CheckTally) : Run CheckTally := do
  let s := { s with proper := s.proper + 1 }
  let shown := match escapedName c.name with
    | some t => '\\' :: t
    | none => c.name
  let say := fun (t : String) => Run.printLine (shown ++ (": " ++ t).toList)
  let name := String.ofList c.name
  match ← inputContent name with
  | .ok t =>
      if (Digest.shown (c.kind.digest t)) == c.digits.map lowered then do
        if !p.isSilent && !p.isQuiet then say "OK"
        return { s with same := s.same + 1 }
      else do
        if !p.isSilent then say "FAILED"
        return { s with different := s.different + 1 }
  | .error e =>
      if e = .noEntry && p.skipsMissing then return s
      else do
        fileFailure name e
        if !p.isSilent then say "FAILED open or read"
        return { s with failed := s.failed + 1 }

/-- Checks what lines ask for. -/
def checkLines (p : CheckPlan) (source : String) : List (Nat × Octets) → CheckTally → Run CheckTally
  | [], s => return s
  | (number, line) :: rest, s => do
      let bare := if line.getLast? == some '\r' then line.dropLast else line
      if line.head? == some '#' || bare.isEmpty then checkLines p source rest s
      else
        match digestClaim p.kinds p.plain s.blanks bare with
        | (none, blanks) => do
            if p.warns then
              Run.objection (source ++ ": " ++ toString number ++ ": improperly formatted " ++ s.name
                ++ " checksum line")
            checkLines p source rest { s with improper := s.improper + 1, blanks := blanks }
        | (some c, blanks) => do
            let name := if c.kind.isBlake then DigestKind.blakeTag else c.kind.tag
            let s ← checkClaim p c { s with blanks := blanks, name := name }
            checkLines p source rest s

/-- Says how many of something there were. -/
def warnOf (count : Nat) (one many : String) : Run Unit := do
  if count = 1 then Run.objection ("WARNING: 1 " ++ one)
  else if 1 < count then Run.objection ("WARNING: " ++ toString count ++ " " ++ many)

/-- Checks the files that the lines of a file name. -/
def checkFile (p : CheckPlan) (name : String) : Run Nat := do
  let source ← if name == "-" then Run.quoted "standard input" else Run.shownName name
  match ← inputContent name with
  | .error e => do
      Run.objection (source ++ ": " ++ (if e = .noEntry then e.text else "read error"))
      return 1
  | .ok t => do
      let lines := splitOn '\n' t
      let lines := if lines.getLast? == some [] then lines.dropLast else lines
      let s ← checkLines p source (lines.zipIdx.map fun (l, i) => (i + 1, l)) ⟨0, 0, 0, 0, 0, none, p.name⟩
      if s.proper = 0 then do
        Run.objection (source ++ ": no properly formatted checksum lines found")
        return 1
      else do
        if !p.isSilent then
          warnOf s.improper "line is improperly formatted" "lines are improperly formatted"
          warnOf s.failed "listed file could not be read" "listed files could not be read"
          warnOf s.different "computed checksum did NOT match" "computed checksums did NOT match"
          if p.skipsMissing && s.same = 0 then
            Run.objection (source ++ ": no file was verified")
        let isGood := 0 < s.same && s.different = 0 && s.failed = 0 && (!p.isStrict || s.improper = 0)
        return if isGood then 0 else 1

/-! ## Programs -/

/-- The options for checking. -/
def checkOptions : List OptionSpec :=
  [flag 'b' "binary", flag 'c' "check", long "ignore-missing" .none, long "quiet" .none, long "status" .none,
   long "strict" .none, long "tag" .none, flag 't' "text", flag 'w' "warn", flag 'z' "zero"]

/-- Refuses options that do not go together. -/
def refuseMixtures (g : Given) (isTextTagged : Bool) : Run Unit := do
  let checks := g.has "c"
  if isTextTagged then Run.misuse 1 "--tag does not support --text mode"
  if g.has "z" && checks then
    Run.misuse 1 "the --zero option is not supported when verifying checksums"
  if g.has "tag" && checks then
    Run.misuse 1 "the --tag option is meaningless when verifying checksums"
  if (g.has "b" || g.has "t") && checks then
    Run.misuse 1 "the --binary and --text options are meaningless when verifying checksums"
  for (key, name) in [("ignore-missing", "ignore-missing"), ("status", "status"), ("w", "warn"),
      ("quiet", "quiet"), ("strict", "strict")] do
    -- Of three ways to be more or less silent only the last one counts.
    let isMeant := g.has key
      && (!(["status", "w", "quiet"].contains key) || g.last? ["status", "w", "quiet"] == some key)
    if isMeant && !checks then
      Run.misuse 1 ("the --" ++ name ++ " option is meaningful only when verifying checksums")

/-- How checking is done with some options. -/
def checkPlan (g : Given) (kinds : List DigestKind) (plain : Option DigestKind) (name : String) : CheckPlan :=
  let tone := g.last? ["status", "w", "quiet"]
  ⟨kinds, plain, name, tone == some "status", tone == some "w", tone == some "quiet", g.has "strict",
    g.has "ignore-missing"⟩

/-- The length of a hash in octets that an option asks for. -/
def blakeLength (g : Given) : Run (Option Nat) := do
  match g.value? "l" with
  | none => return none
  | some v => do
      let refuse := do Run.objection ("invalid length: " ++ (← Run.inQuotes v))
      match plainQuantity v.toList with
      | .error e => do
          Run.quit 1 ("invalid length: " ++ (← Run.inQuotes v) ++ faultText e)
      | .ok n =>
          if 8 * DigestKind.blakeLimit < n then do
            refuse
            Run.quit 1 ("maximum digest length for " ++ (← Run.inQuotes DigestKind.blakeTag) ++ " is 512 bits")
          else if n % 8 != 0 then do
            refuse
            Run.quit 1 "length is not a multiple of 8"
          else return some (if n = 0 then DigestKind.blakeLimit else n / 8)

/-- Writes and checks digests of one kind. -/
def digestTool (k : DigestKind) : Tool := fun arguments => do
  let specs := if k.isBlake then valued 'l' "length" :: checkOptions else checkOptions
  let g ← given specs 1 arguments
  let size ← if k.isBlake then blakeLength g else pure none
  let k := match size with
    | some n => DigestKind.blake n
    | none => k
  refuseMixtures g (g.has "tag" && g.last? ["tag", "b", "t"] == some "t")
  let names := if g.operands.isEmpty then ["-"] else g.operands
  if g.has "c" then
    let name := if k.isBlake then DigestKind.blakeTag else k.tag
    overall (checkFile (checkPlan g [k] (some k) name)) names 0
  else
    let style : LineStyle := ⟨g.has "tag", g.last? ["b", "t"] == some "b", g.has "z", Digest.shown⟩
    overall (printDigest style k) names 0

/-- Writes the line of a sum. -/
def printSum (named : Bool) (ending : Char) (raw : Bool) (k : SumKind) (name : String) : Run Nat := do
  match ← toldContent name with
  | none => return 1
  | some t => do
      let (sum, line) : Nat × Octets := match k with
        | .turning =>
            let sum := Digest.turningSum t
            (sum, zeroPadded 10 5 sum ++ ' ' :: padLeft ' ' 5 (decimal ((t.length + 1023) / 1024)))
        | .folded =>
            let sum := Digest.foldedSum t
            (sum, decimal sum ++ ' ' :: decimal ((t.length + 511) / 512))
        | _ =>
            let sum := Digest.remainder t
            (sum, decimal sum ++ ' ' :: decimal t.length)
      if raw then
        let size := match k with
          | .remainder => 4
          | _ => 2
        Run.print (Digest.greatFirst size sum)
      else Run.print (line ++ (if named then ' ' :: name.toList else []) ++ [ending])
      return 0

/-- Writes sums of files. -/
def sum : Tool := fun arguments => do
  let g ← given [flag 'r' "", flag 's' "sysv"] 1 arguments
  let k : SumKind := if g.last? ["r", "s"] == some "s" then .folded else .turning
  let names := if g.operands.isEmpty then ["-"] else g.operands
  overall (printSum (!g.operands.isEmpty) '\n' false k) names 0

/-- The way to look at files that an argument names. -/
def sumKindArgument (v : String) : Run SumKind := do
  match sumKinds.lookup v with
  | some k => return k
  | none => refuseWord "--algorithm" (sumKinds.map (·.1)) v

/-- Writes and checks sums and digests of all kinds. -/
def cksum : Tool := fun arguments => do
  let g ← given
    (valued 'a' "algorithm" :: valued 'l' "length" :: long "base64" .none :: long "debug" .none
      :: long "raw" .none :: long "untagged" .none :: checkOptions) 1 arguments
  let kind : SumKind ← match g.value? "a" with
    | some v => sumKindArgument v
    | none => pure .remainder
  if (g.value? "l").isSome && !kind.isBlake then
    Run.quit 1 "--length is only supported with --algorithm=blake2b"
  let size ← if kind.isBlake then blakeLength g else pure none
  let kind := match size with
    | some n => SumKind.digest (.blake n)
    | none => kind
  let isSum := match kind with
    | .digest _ => false
    | _ => true
  let checks := g.has "c"
  if checks && isSum && (g.value? "a").isSome then
    Run.quit 1 "--check is not supported with --algorithm=\x7bbsd,sysv,crc\x7d"
  if g.has "base64" && g.has "raw" then Run.misuse 1 "--base64 and --raw are mutually exclusive"
  let isTagged := g.last? ["tag", "untagged"] != some "untagged"
  let isText := g.last? ["tag", "b", "t"] == some "t"
  if isTagged && isText then Run.misuse 1 "--text mode is only supported with --untagged"
  refuseMixtures g false
  let names := if g.operands.isEmpty then ["-"] else g.operands
  if checks then
    let kinds := sumKinds.filterMap fun (_, k) =>
      match k with
      | .digest k => some k
      | _ => none
    let plan := match kind with
      | .digest k => checkPlan g [k] (some k) (if k.isBlake then DigestKind.blakeTag else k.tag)
      | _ => checkPlan g kinds none "CRC"
    overall (checkFile plan) names 0
  else do
    if g.has "raw" && 1 < g.operands.length then
      Run.quit 1 "the --raw option is not supported with multiple files"
    match kind with
    | .digest k =>
        if g.has "raw" then
          overall (fun name => do
            match ← toldContent name with
            | none => return 1
            | some t => do
                Run.print (k.digest t)
                return 0) names 0
        else
          let encoding : Octets → Octets :=
            if g.has "base64" then fun t => LetterCode.usual.encode (t.length + 1) t [] else Digest.shown
          let style : LineStyle := ⟨isTagged, g.last? ["b", "t"] == some "b", g.has "z", encoding⟩
          overall (printDigest style k) names 0
    | k =>
        overall (printSum (!g.operands.isEmpty) (if g.has "z" then '\x00' else '\n') (g.has "raw") k) names 0

end HermesBundle.Shell.Tool
