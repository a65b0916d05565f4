import Weblog.Slug
import Weblog.Store.Session

/-!
What the service does with the store: each piece of work is one statement or a few. A slug is
chosen by one statement and used by the next, so another writer may take it in between; the
store then refuses it.
-/

namespace Weblog

/-- Work on the store that may be refused. -/
abbrev Work := ExceptT StoreError Session

namespace Work

open Session

/-- The value, or the refusal for what is not there. -/
def found : Option α → Work α
  | some a => pure a
  | none => throw .notFound

def ping : Work Unit := ask .ping

def user (id : Int) : Work (Option User) := ask (.user id)

def userByEmail (email : String) : Work (Option User) := ask (.userByEmail email)

def userByName (username : String) : Work (Option User) := ask (.userByName username)

/-- The column that another user than `except` already has the value for, where one of them must
be it. -/
def conflictingField (email : Option String) (except : Option Int) : Work UniqueField := do
  match email with
  | none => return .username
  | some email =>
    match ← userByEmail email with
    | some u => return if except = some u.id then .username else .email
    | none => return .username

def createUser (username email passwordHash : String) (now : Instant) : Work User := do
  match ← attempt (.insertUser username email passwordHash now) with
  | .ok u => return u
  | .error (.repeated _) => throw (.conflict (← conflictingField (some email) none))
  | .error e => throw (.database e)

def updateUser (id : Int) (changes : UserChanges) (now : Instant) : Work User := do
  match ← attempt (.updateUser id changes now) with
  | .ok u => found u
  | .error (.repeated _) => throw (.conflict (← conflictingField changes.email (some id)))
  | .error e => throw (.database e)

/-- A slug for the title that no article but `except` has. -/
def allocateSlug (title : String) (except : Option Int) (now : Instant) : Work String := do
  let base := Slug.ofTitle title
  if base.isEmpty then throw .emptySlug
  let taken ← ask (.slugsLike base except)
  return Slug.firstFree base taken now.seconds.toNat

def article (id : Int) : Work (Option (Authored Article)) := ask (.article id)

def articleBySlug (slug : String) : Work (Option (Authored Article)) := ask (.articleBySlug slug)

/-- What a refused article or change of an article means: only a slug can repeat. -/
def articleRefusal : DatabaseError → StoreError
  | .repeated _ => .conflict .slug
  | e => .database e

def createArticle (authorId : Int) (draft : ArticleDraft) (now : Instant) :
    Work (Authored Article) := do
  let slug ← allocateSlug draft.title none now
  match ← attempt (.insertArticle slug draft authorId now) with
  | .ok id => found (← article id)
  | .error e => throw (articleRefusal e)

/-- Changes the article with the number of `current`, a row that has been read before. Its slug
follows a new title; without one, the slug of `current` is written. -/
def updateArticle (current : Article) (changes : ArticleChanges) (now : Instant) :
    Work (Authored Article) := do
  if changes.isEmpty then
    found (← article current.id)
  else
    let slug ← match changes.title with
      | some title => allocateSlug title (some current.id) now
      | none => pure current.slug
    match ← attempt (.updateArticle current.id slug changes now) with
    | .ok true => found (← article current.id)
    | .ok false => throw .notFound
    | .error e => throw (articleRefusal e)

def deleteArticle (id : Int) : Work Unit := do
  if ← ask (.deleteArticle id) then return () else throw .notFound

/-- A page of the listing, and the number of articles in the whole of it. -/
def listArticles (q : ListQuery) : Work (List (Authored Article) × Nat) := do
  let total ← ask (.countArticles q.onlyBy)
  let page ← ask (.listArticles q.onlyBy q.pageSize q.skipped)
  return (page, total)

def createComment (articleId authorId : Int) (body : String) (now : Instant) :
    Work (Authored Comment) := do
  let id ← ask (.insertComment articleId authorId body now)
  found (← ask (.authoredComment id))

def listComments (articleId : Int) : Work (List (Authored Comment)) :=
  ask (.listComments articleId)

def comment (id : Int) : Work (Option Comment) := ask (.comment id)

def deleteComment (id : Int) : Work Unit := do
  if ← ask (.deleteComment id) then return () else throw .notFound

end Work

end Weblog
