import HermesBundle.Text.LetterTable
import HermesBundle.Text.Quoted

/-! # Letters — full case mapping of texts

    Upper and lower case follow the full mappings of Unicode: one letter
    may become several, and a capital sigma at the end of a word becomes
    the final form of its small letter. -/

namespace HermesBundle

/-- The image of a code point under a table of runs. -/
def mapByRuns (runs : List (Nat × Nat × Nat × Nat)) (n : Nat) : Nat :=
  match runs with
  | [] => n
  | (first, last, stride, image) :: rest =>
      if n < first then n
      else if n ≤ last && (n - first) % stride == 0 then image + (n - first)
      else mapByRuns rest n

/-- The image of a code point under a mapping with expansions. -/
def mapLetter (runs : List (Nat × Nat × Nat × Nat)) (expansions : List (Nat × List Nat))
    (c : CodePoint) : Text :=
  match expansions.lookup c.val with
  | some several => several.map CodePoint.ofNat
  | none => [.ofNat (mapByRuns runs c.val)]

namespace Text

/-- The upper-case form of a text. -/
def toUpper (t : Text) : Text := t.flatMap (mapLetter upperRuns upperExpansions)

/-- Whether the nearest letter that counts has case. -/
def meetsCased (t : Text) : Bool :=
  match t.dropWhile fun c => inRanges caseIgnorableRanges c.val with
  | [] => false
  | c :: _ => inRanges casedRanges c.val

/-- Lower case of the rest of a text, given what stands before it in
    reverse. -/
def toLowerAfter (before : Text) : Text → Text
  | [] => []
  | c :: rest =>
      let image : Text :=
        if c.val = 0x3A3 then
          if meetsCased before && !meetsCased rest then [.ofNat 0x3C2] else [.ofNat 0x3C3]
        else mapLetter lowerRuns lowerExpansions c
      image ++ toLowerAfter (c :: before) rest

/-- The lower-case form of a text. -/
def toLower (t : Text) : Text := toLowerAfter [] t

end Text

end HermesBundle
