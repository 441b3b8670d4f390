import JavaText.Text.Basic

/-!
# Lines of a text

A line ends after a line break: a line feed, a carriage return (alone or before a line feed), or
one of the other characters that separate lines, records or paragraphs. A line keeps its break, so
the lines of a text add up to the text.
-/

namespace JavaText

namespace CodePoint

/-- A character that ends a line on its own. -/
def isLineBreak (c : CodePoint) : Bool :=
  (0x0a ≤ c.val && c.val ≤ 0x0d) || (0x1c ≤ c.val && c.val ≤ 0x1e)
    || c.val == 0x85 || c.val == 0x2028 || c.val == 0x2029

end CodePoint

namespace Text

/-- Put a code point before the first line, or open a first line for it. -/
def extendFirst (c : CodePoint) : List Text → List Text
  | [] => [[c]]
  | line :: rest => (c :: line) :: rest

/-- The lines of a text, each with its line break. -/
def lines : Text → List Text
  | [] => []
  | [c] => [[c]]
  | c :: d :: t =>
    if c.isLineBreak && !(c.val == 0x0d && d.val == 0x0a) then [c] :: lines (d :: t)
    else extendFirst c (lines (d :: t))

/-- A carriage return and the line feed after it end one line. -/
example : lines (ofString "a\r\nb") = [ofString "a\r\n", ofString "b"] := by decide

/-- The lines of a text add up to the text. -/
theorem flatten_lines (t : Text) : (lines t).flatten = t := by
  have flatten_extendFirst (c : CodePoint) (ls : List Text) :
      (extendFirst c ls).flatten = c :: ls.flatten := by
    cases ls <;> simp [extendFirst]
  fun_induction lines t with
  | case1 => rfl
  | case2 c => rfl
  | case3 c d t h ih => simp [ih]
  | case4 c d t h ih => rw [flatten_extendFirst, ih]

end Text

end JavaText
