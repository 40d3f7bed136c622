/-!
# Blank characters

The characters that count as white space at the ends of a typed answer: the
ASCII controls from tab to carriage return, the four separators `0x1C` to
`0x1F`, the next-line control, and every space, line and paragraph separator
of Unicode. The zero-width space and the byte order mark are not among them.
-/

namespace Parley.Text

/-- `c` is white space. -/
def isBlank (c : Char) : Bool :=
  let n := c.toNat
  (9 ≤ n && n ≤ 13) || (28 ≤ n && n ≤ 32) || n == 0x85 || n == 0xa0 || n == 0x1680
    || (0x2000 ≤ n && n ≤ 0x200a) || n == 0x2028 || n == 0x2029 || n == 0x202f
    || n == 0x205f || n == 0x3000

/-- The characters without the blanks they begin with. -/
def trimLeft (cs : List Char) : List Char :=
  cs.dropWhile isBlank

/-- The characters without the blanks they end with. -/
def trimRight (cs : List Char) : List Char :=
  (cs.reverse.dropWhile isBlank).reverse

/-- The characters without the blanks at either end. -/
def trim (cs : List Char) : List Char :=
  trimRight (trimLeft cs)

theorem trim_subset (cs : List Char) : trim cs ⊆ cs := by
  intro c hc
  have hright := (List.dropWhile_suffix _).subset (List.mem_reverse.1 hc)
  exact (List.dropWhile_suffix _).subset (List.mem_reverse.1 hright)

/-- The text without the blanks at either end. -/
def stripped (s : String) : String :=
  String.ofList (trim s.toList)

end Parley.Text
