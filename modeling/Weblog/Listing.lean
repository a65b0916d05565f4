namespace Weblog

/-- What a client asks for; a part without a value takes its default. -/
structure ListQuery where
  limit : Option Int
  offset : Option Int
  author : Option String
deriving Repr, DecidableEq

namespace ListQuery

def defaultLimit : Int := 20
def greatestLimit : Int := 100

def pageSize (q : ListQuery) : Int :=
  match q.limit with
  | some limit => if 0 < limit then min limit greatestLimit else defaultLimit
  | none => defaultLimit

/-- How many articles come before the page. -/
def skipped (q : ListQuery) : Int :=
  max (q.offset.getD 0) 0

/-- The username of the author, where only that author's articles are asked for. -/
def onlyBy (q : ListQuery) : Option String :=
  q.author.filter fun name => !name.isEmpty

end ListQuery

end Weblog
