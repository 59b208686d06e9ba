import HermesBundle.Text.PrintableTable
import HermesBundle.Text.CodePoint

/-! # Quoted texts — how messages show a text

    A quoted text stands between single quotes, or between double quotes
    when it holds single quotes and no double ones.  What cannot be
    printed is written as an escape, so a message is always one line. -/

namespace HermesBundle

/-- Whether a number lies in one of some closed ranges in ascending
    order. -/
def inRanges (ranges : List (Nat × Nat)) (n : Nat) : Bool :=
  match ranges with
  | [] => false
  | (low, high) :: rest => if n < low then false else n ≤ high || inRanges rest n

/-- Whether a code point is shown as it is. -/
def CodePoint.isPrintable (c : CodePoint) : Bool :=
  if c.val < 0x7F then 0x20 ≤ c.val else !inRanges unprintableRanges c.val

namespace Text

/-- The escape of a code point that is not shown as it is. -/
def escapePoint (c : CodePoint) : Text :=
  if c = .ofChar '\n' then "\\n"
  else if c = .ofChar '\r' then "\\r"
  else if c = .ofChar '\t' then "\\t"
  else if c.val < 0x100 then ofString "\\x" ++ hex 2 c.val
  else if c.val < 0x10000 then ofString "\\u" ++ hex 4 c.val
  else ofString "\\U" ++ hex 8 c.val

/-- The quote a text is put in. -/
def quoteFor (t : Text) : CodePoint :=
  if t.contains [.ofChar '\x27'] && !t.contains [.ofChar '\x22'] then .ofChar '\x22'
  else .ofChar '\x27'

/-- A text between quotes. -/
def quoted (t : Text) : Text :=
  let quote := quoteFor t
  let inner : Text := t.flatMap fun c =>
    if c = quote || c = .ofChar '\\' then [.ofChar '\\', c]
    else if c.isPrintable then [c]
    else escapePoint c
  [quote] ++ inner ++ [quote]

end Text

end HermesBundle
