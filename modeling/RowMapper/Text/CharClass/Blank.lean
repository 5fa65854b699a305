import RowMapper.Text.CharClass

/-!
# White space

The characters with the Unicode property `White_Space`.
-/

namespace RowMapper

/-- White space: the tab, line and page controls, the space and the separators of other scripts. -/
def CharClass.blank : CharClass where ranges := [
  (0x9, 0xd), (0x20, 0x20), (0x85, 0x85), (0xa0, 0xa0), (0x1680, 0x1680), (0x2000, 0x200a),
  (0x2028, 0x2029), (0x202f, 0x202f), (0x205f, 0x205f), (0x3000, 0x3000)]

/-- Drops the white space on both sides of a text. -/
def trimBlank (s : List Char) : List Char :=
  ((s.dropWhile CharClass.blank.contains).reverse.dropWhile CharClass.blank.contains).reverse

example : trimBlank [' ', '\t', 'a', ' ', 'b', '\n'] = ['a', ' ', 'b'] := by decide

end RowMapper
