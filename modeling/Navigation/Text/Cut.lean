/-! Texts cut at every occurrence of one character. -/

namespace Navigation

/-- The parts of a text between the occurrences of a mark; a text without marks is one part. -/
def cutAt (mark : Char) : List Char → List (List Char)
  | [] => [[]]
  | c :: rest =>
    if c = mark then [] :: cutAt mark rest
    else
      match cutAt mark rest with
      | first :: more => (c :: first) :: more
      | [] => [[c]]

end Navigation
