import SpecFinder.Text.Basic

/-!
# Lines

A text falls into lines at every vertical separator.  A carriage return with a
line feed directly after it is one separator.  Lines keep their separators, so
that writing them one after the other gives the text back.
-/

namespace SpecFinder.Text

def isLineBreak (char : Char) : Bool :=
  inRanges [(0x0A, 0x0D), (0x1C, 0x1E), (0x85, 0x85), (0x2028, 0x2029)] char.toNat

/-- The lines of a text, each with the separator that ends it. -/
def lines : Text → List Text
  | [] => []
  | '\r' :: '\n' :: rest => ['\r', '\n'] :: lines rest
  | char :: rest =>
      if isLineBreak char then
        [char] :: lines rest
      else
        match lines rest with
        | [] => [[char]]
        | line :: more => (char :: line) :: more

def withoutBreak (line : Text) : Text :=
  line.takeWhile (!isLineBreak ·)

/-- Write every line break as a line feed, as text files are read. -/
def unifyBreaks : Text → Text
  | [] => []
  | '\r' :: '\n' :: rest => '\n' :: unifyBreaks rest
  | '\r' :: rest => '\n' :: unifyBreaks rest
  | char :: rest => char :: unifyBreaks rest

@[simp] theorem flatten_lines (text : Text) : (lines text).flatten = text := by
  fun_induction lines text with
  | case1 => rfl
  | case2 rest ih => simp [ih]
  | case3 char rest _ isBreak ih => simp [ih]
  | case4 char rest _ notBreak empty ih => rw [empty] at ih; simpa using ih
  | case5 char rest _ notBreak line more found ih => rw [found] at ih; simpa using ih

end SpecFinder.Text
