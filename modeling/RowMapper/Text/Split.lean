/-!
# Splitting

A text cut into pieces at every occurrence of a character.
-/

namespace RowMapper.Split

/-- The pieces between the occurrences of a character; there is always at least one. -/
def split (mark : Char) : List Char → List (List Char)
  | [] => [[]]
  | c :: rest =>
    if c = mark then [] :: split mark rest
    else
      match split mark rest with
      | [] => [[c]]
      | piece :: pieces => (c :: piece) :: pieces

end RowMapper.Split
