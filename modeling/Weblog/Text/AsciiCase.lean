import Weblog.Text.Pattern
import Weblog.Text.Utf8

namespace Weblog.Text

/-- The characters before the first one with the code 0. -/
def untilNul (cs : List Char) : List Char :=
  cs.takeWhile (· != '\x00')

/-- The texts have the same length in bytes and, in lowercase, the same characters. -/
def equalFold (a b : String) : Bool :=
  a.utf8ByteSize == b.utf8ByteSize &&
    (untilNul a.toList).map Char.toLower == (untilNul b.toList).map Char.toLower

/-- What a character of a search pattern stands for. -/
def likeItem (c : Char) : Item :=
  if c = '%' then .many fun _ => true
  else if c = '_' then .one fun _ => true
  else .one fun d => d.toLower == c.toLower

/-- The text begins with the search pattern, in which an underscore stands for any character
and a percent sign for any number of characters. -/
def startsLike (base text : String) : Bool :=
  Pattern.fits ((untilNul (base.toList ++ ['%'])).map likeItem) (untilNul text.toList)

end Weblog.Text
