import HermesBundle.Text.CodePoint

/-! # Blanks — trimming and splitting at white space

    The set is that of all Unicode spaces, the ASCII controls that
    separate lines or records, and the next-line control.  Zero-width
    characters are not blank. -/

namespace HermesBundle

/-- White space. -/
def CodePoint.isBlank (c : CodePoint) : Bool :=
  (0x09 ≤ c.val && c.val ≤ 0x0D) || (0x1C ≤ c.val && c.val ≤ 0x20)
    || c.val == 0x85 || c.val == 0xA0 || c.val == 0x1680
    || (0x2000 ≤ c.val && c.val ≤ 0x200A) || c.val == 0x2028 || c.val == 0x2029
    || c.val == 0x202F || c.val == 0x205F || c.val == 0x3000

namespace Text

/-- A text without the blanks at its end. -/
def trimRight (t : Text) : Text :=
  (t.reverse.dropWhile CodePoint.isBlank).reverse

/-- A text without the blanks at its two ends. -/
def trim (t : Text) : Text := trimRight (t.dropWhile CodePoint.isBlank)

/-- A text without the given code point at its end. -/
def trimRightOf (c : CodePoint) (t : Text) : Text :=
  (t.reverse.dropWhile (· == c)).reverse

/-- The words of a text that begins inside the word `current`. -/
def wordsFrom (current : Text) : Text → List Text
  | [] => if current.isEmpty then [] else [current]
  | c :: rest =>
      if c.isBlank then
        if current.isEmpty then wordsFrom [] rest
        else current :: wordsFrom [] rest
      else wordsFrom (current ++ [c]) rest

/-- The maximal runs without blanks. -/
def words (t : Text) : List Text := wordsFrom [] t

/-- Words with a single space between neighbours: line breaks and
    indentation are gone. -/
def squeeze (t : Text) : Text := join (ofString " ") (words t)

end Text

end HermesBundle
