namespace Weblog

/-- A kind of thing that has an author. -/
inductive Owned where
  | article
  | comment
deriving Repr, DecidableEq

/-- Why a thing may not be changed. -/
inductive OwnershipError where
  | missing (kind : Owned)
  | foreign (kind : Owned)
deriving Repr, DecidableEq

def OwnershipError.message : OwnershipError → String
  | .missing .article => "Article not found"
  | .missing .comment => "Comment not found"
  | .foreign .article => "You can only modify your own articles"
  | .foreign .comment => "You can only delete your own comments"

/-- The thing, if there is one and the user is its author. -/
def requireOwner (kind : Owned) (authorId : α → Int) (thing : Option α) (userId : Int) :
    Except OwnershipError α :=
  match thing with
  | none => .error (.missing kind)
  | some a => if authorId a = userId then .ok a else .error (.foreign kind)

end Weblog
