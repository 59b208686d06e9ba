import HermesBundle.Json.Writer

/-! # Faults of source maps — what can be wrong with a document

    A document that breaks a rule of the format is malformed.  Where the
    format leaves a member unchecked, a value of an unsuitable kind is
    misused instead, a value beyond a limit cannot be shown, and a line
    that is never reached is waited for without end; these are kept apart
    because callers report them differently. -/

namespace HermesBundle.SourceMap

/-- The tables of a document that segments refer to by index. -/
inductive IndexTable where
  | sources
  | names
deriving DecidableEq

/-- What one entry of a table is called. -/
def IndexTable.entry : IndexTable → String
  | .sources => "source"
  | .names => "name"

/-- A use of a value that its kind does not allow. -/
inductive Misuse where
  /-- The value takes no part in such an operation. -/
  | unsuitedKind
  /-- The value has no members. -/
  | noMembers
  /-- A sequence has no such element. -/
  | noElement
  /-- An object has no such member. -/
  | noEntry
  /-- An integer is too large to be added to a fraction. -/
  | tooLarge
deriving DecidableEq

/-- What is wrong with a source map. -/
inductive Fault where
  | invalidDigit (c : CodePoint)
  | truncatedSegment (piece : Text)
  | fieldCount (piece : Text) (count : Nat)
  | notAnObject
  | unsupportedVersion (version : Json)
  | indexOutOfRange (table : IndexTable) (index : Int)
  | unexpectedKinds
  | sectionsNotObjects
  | sectionWithoutMap
  | nestedSections
  | emptyChain
  /-- An integer has more digits than can be shown. -/
  | tooManyDigits
  /-- A value is nested deeper than can be shown. -/
  | tooDeep
  | misuse (misuse : Misuse)
  /-- The work does not end. -/
  | endless

/-- The wording of a fault. -/
def Fault.message : Fault → Text
  | .invalidDigit c => Text.ofString "invalid base64 VLQ character " ++ Text.quoted [c]
  | .truncatedSegment piece => Text.ofString "truncated VLQ segment " ++ piece.quoted
  | .fieldCount piece count =>
      Text.ofString "segment " ++ piece.quoted ++ Text.ofString " has " ++ Text.ofNat count
        ++ Text.ofString " fields"
  | .notAnObject => "source map must be a JSON object"
  | .unsupportedVersion version =>
      Text.ofString "unsupported source map version: " ++ version.display
  | .indexOutOfRange table index =>
      Text.ofString table.entry ++ Text.ofString " index " ++ Text.ofInt index
        ++ Text.ofString " out of range"
  | .unexpectedKinds => "source map fields have unexpected types"
  | .sectionsNotObjects => "`sections` must be a list of objects"
  | .sectionWithoutMap => "indexed source map sections must embed a `map`"
  | .nestedSections => "nested indexed source maps are not supported"
  | .emptyChain => "compose_source_maps needs at least one map"
  | .tooManyDigits => Json.WriteError.message .tooManyDigits
  | .tooDeep => Json.WriteError.message .tooDeep
  | .misuse _ => []
  | .endless => []

/-- The fault of showing a value that exceeds a limit. -/
def Fault.ofWriteError : Json.WriteError → Fault
  | .tooManyDigits => .tooManyDigits
  | .tooDeep => .tooDeep

/-- The items a value yields one by one: the code points of a text, the
    names of an object. -/
def elements : Json → Except Fault (List Json)
  | .arr items => .ok items
  | .str t => .ok (t.map fun c => .str [c])
  | .obj members => .ok (members.map fun (name, _) => .str name)
  | _ => .error (.misuse .unsuitedKind)

end HermesBundle.SourceMap
