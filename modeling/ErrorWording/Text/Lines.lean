set_option autoImplicit false

namespace ErrorWording

namespace Line

def dropReturn (line : List Char) : List Char :=
  if line.getLast? = some '\r' then line.dropLast else line

def dropReturns (line : List Char) : List Char :=
  (line.reverse.dropWhile (· == '\r')).reverse

end Line

def linesOf (text : List Char) : List (List Char) :=
  let pieces := text.splitOn '\n'
  -- What follows the last feed keeps its return, and is no line if it is empty.
  pieces.dropLast.map Line.dropReturn ++ pieces.getLast?.toList.filter (· != [])

end ErrorWording
