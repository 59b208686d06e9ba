import HermesBundle.Shell.Octets
import HermesBundle.Text.Letters

/-! # Expressions — what regular expressions describe

    A text is a row of characters, each with a number: its code point, its
    byte where bytes are characters, or a number beyond all code points
    for an octet that is part of no character.  An expression describes
    texts in their surroundings, so that it can ask for the edge of a word
    or a line. -/

namespace HermesBundle.Shell

/-- A text that is searched. -/
structure Subject where
  codes : Array Nat
  texts : Array Octets

namespace Subject

/-- The number of a character of UTF-8. -/
def codeOf (character : Octets) : Nat :=
  if isWellFormed character then codePointOf character
  else 0x110000 + (character.map Char.toNat).foldl (fun n c => n * 256 + c) 0

/-- Octets as a text that is searched. -/
def ofOctets (isUtf8 : Bool) (t : Octets) : Subject :=
  if isUtf8 then
    let units := characters t
    ⟨(units.map codeOf).toArray, units.toArray⟩
  else ⟨(t.map Char.toNat).toArray, (t.map fun c => [c]).toArray⟩

/-- The number of characters. -/
def size (s : Subject) : Nat := s.codes.size

/-- The octets between two places. -/
def slice (s : Subject) (i j : Nat) : Octets := (s.texts.extract i j).toList.flatten

/-- The character at a place. -/
def code? (s : Subject) (i : Nat) : Option Nat := s.codes[i]?

end Subject

/-! ## Kinds of characters -/

/-- Whether a number is that of a character of ASCII of some kind. -/
def asciiIs (kind : Char → Bool) (code : Nat) : Bool := code < 128 && kind (Char.ofNat code)

/-- Whether a code point beyond ASCII is a letter. -/
def isFurtherLetter (code : Nat) : Bool :=
  (127 < code && code < 0x110000 && inRanges casedRanges code) || (0x5D0 ≤ code && code ≤ 0x5EA)
    || (0x620 ≤ code && code ≤ 0x64A) || (0x904 ≤ code && code ≤ 0xE3A)
    || (0x3041 ≤ code && code ≤ 0x30FA) || (0x3400 ≤ code && code ≤ 0x4DBF)
    || (0x4E00 ≤ code && code ≤ 0x9FFF) || (0xAC00 ≤ code && code ≤ 0xD7A3)

/-- Whether a code point beyond ASCII can be printed. -/
def isFurtherPrintable (code : Nat) : Bool := 0xA0 ≤ code && code < 0x110000 && !(0xD800 ≤ code && code < 0xE000)

/-- The image of a number under a mapping of letters. -/
def mapCode (runs : List (Nat × Nat × Nat × Nat)) (code : Nat) : Nat :=
  match runs.find? fun (first, last, stride, _) =>
      first ≤ code && code ≤ last && (code - first) % stride == 0 with
  | some (first, _, _, image) => image + (code - first)
  | none => code

/-- The number of a character without its case. -/
def foldCode (code : Nat) : Nat :=
  if code < 128 then (lowered (Char.ofNat code)).toNat
  else if code < 0x110000 then mapCode lowerRuns code else code

/-- The kinds that a set can name. -/
def codeKind : String → Option (Nat → Bool)
  | "alpha" => some fun c => asciiIs isLetter c || isFurtherLetter c
  | "digit" => some (asciiIs isDigit)
  | "alnum" => some fun c => asciiIs isAlphanumeric c || isFurtherLetter c
  | "upper" => some fun c =>
      asciiIs (fun d => 'A' ≤ d && d ≤ 'Z') c || (127 < c && isFurtherLetter c && mapCode lowerRuns c != c)
  | "lower" => some fun c =>
      asciiIs (fun d => 'a' ≤ d && d ≤ 'z') c || (127 < c && isFurtherLetter c && mapCode upperRuns c != c)
  | "space" => some fun c => asciiIs isSpace c || c == 0x1680 || (0x2000 ≤ c && c ≤ 0x200A && c != 0x2007) || c == 0x2028 || c == 0x2029 || c == 0x205F || c == 0x3000
  | "blank" => some fun c => asciiIs isBlank c || c == 0x3000
  | "punct" => some fun c => asciiIs isPunctuation c || (isFurtherPrintable c && !isFurtherLetter c && c != 0x3000)
  | "print" => some fun c => asciiIs isPrintable c || isFurtherPrintable c
  | "graph" => some fun c => asciiIs (fun d => isPrintable d && d != ' ') c || (isFurtherPrintable c && c != 0x3000)
  | "cntrl" => some fun c => asciiIs isControl c || (127 < c && c < 0xA0)
  | "xdigit" => some (asciiIs isHexadecimal)
  | _ => none

/-- Whether a number is that of a character of words. -/
def isWordCode (code : Nat) : Bool := asciiIs isNameInside code || isFurtherLetter code

/-! ## Expressions -/

/-- A member of a set of characters. -/
inductive SetPart where
  | range (low high : Nat)
  | kind (holds : Nat → Bool)

/-- Whether a character is a member. -/
def SetPart.holds (p : SetPart) (code : Nat) : Bool :=
  match p with
  | .range low high => low ≤ code && code ≤ high
  | .kind holds => holds code

/-- Something that holds between two characters. -/
inductive Edge where
  | lineStart
  | lineEnd
  | textStart
  | textEnd
  | wordStart
  | wordEnd
  | wordEdge
  | wordInside
deriving DecidableEq

/-- A regular expression. -/
inductive Regex where
  | empty
  | char (code : Nat)
  | any
  | set (negated : Bool) (parts : List SetPart)
  | edge (e : Edge)
  | seq (a b : Regex)
  | either (a b : Regex)
  | repeated (r : Regex) (least : Nat) (most : Option Nat)
  | group (number : Nat) (r : Regex)
  /-- What a group matched. -/
  | again (number : Nat)

namespace Regex

/-- Whether an expression asks for what a group matched. -/
def hasAgain : Regex → Bool
  | .again _ => true
  | .seq a b => a.hasAgain || b.hasAgain
  | .either a b => a.hasAgain || b.hasAgain
  | .repeated r _ _ => r.hasAgain
  | .group _ r => r.hasAgain
  | _ => false

/-- The greatest number of a group. -/
def groups : Regex → Nat
  | .seq a b => max a.groups b.groups
  | .either a b => max a.groups b.groups
  | .repeated r _ _ => r.groups
  | .group n r => max n r.groups
  | _ => 0

/-- The texts that an expression without choices stands for. -/
def literal? : Regex → Option (List Nat)
  | .empty => some []
  | .char c => some [c]
  | .seq a b => do return (← a.literal?) ++ (← b.literal?)
  | _ => none

end Regex

/-- How a text is searched. -/
structure SearchMode where
  ignoresCase : Bool
  /-- Whether lines inside of the text have edges of their own. -/
  byLine : Bool

/-- A regular expression and how it is used. -/
structure Search where
  regex : Regex
  mode : SearchMode
  groups : Nat

end HermesBundle.Shell
