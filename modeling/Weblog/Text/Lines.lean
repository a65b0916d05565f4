namespace Weblog.Text

/-- A line given in reverse, without the carriage return at its end. -/
def endLine : List Char → List Char
  | '\r' :: line => line.reverse
  | line => line.reverse

/-- Lines of the text that follows `line`, which is given in reverse. -/
def linesFrom (line : List Char) : List Char → List (List Char)
  | [] => if line.isEmpty then [] else [line.reverse]
  | c :: rest =>
    if c = '\n' then endLine line :: linesFrom [] rest else linesFrom (c :: line) rest

def lines (cs : List Char) : List (List Char) :=
  linesFrom [] cs

/-- The lines with line feeds between them. -/
def joinLines (ls : List (List Char)) : List Char :=
  List.intercalate ['\n'] ls

end Weblog.Text
