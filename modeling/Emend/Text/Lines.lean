/-!
# Lines of a text

A line ends at a line feed, and a carriage return right before the feed belongs to the line end.
A feed that ends the text starts no further line, and a lone carriage return ends none.
-/

namespace Emend.Text

def chomp (line : List Char) : List Char :=
  if line.getLast? = some '\r' then line.dropLast else line

/-- The lines of a text, with `current` the characters of the line under way, last one first. -/
def linesFrom (current : List Char) : List Char → List (List Char)
  | [] => if current.isEmpty then [] else [current.reverse]
  | c :: rest =>
    if c = '\n' then chomp current.reverse :: linesFrom [] rest
    else linesFrom (c :: current) rest

def lines (text : List Char) : List (List Char) := linesFrom [] text

end Emend.Text

namespace Emend

def lineCount (text : String) : Nat := (Text.lines text.toList).length

end Emend
