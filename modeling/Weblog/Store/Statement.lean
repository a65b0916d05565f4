import Weblog.Listing
import Weblog.Payload
import Weblog.Store
import Weblog.Store.Error
import Weblog.Text.AsciiCase

/-!
Statements on the store, each of which is carried out as a whole or refused as a whole. A
statement that would repeat a unique value or leave a row without the rows that it names is
refused; what depends on a deleted row goes with it.
-/

namespace Weblog

open Weblog.Text

namespace Store

def user? (s : Store) (id : Int) : Option User :=
  s.users.find? (·.id == id)

/-- The user with the email address, whatever the case of its letters. -/
def userByEmail? (s : Store) (email : String) : Option User :=
  s.users.find? fun u => equalFold u.email email

/-- The user with exactly the name. -/
def userByName? (s : Store) (username : String) : Option User :=
  s.users.find? (·.username == username)

/-- The row beside its author, if there is one. -/
def withAuthor (s : Store) (authorId : α → Int) (row : α) : Option (Authored α) :=
  (s.user? (authorId row)).map fun u => ⟨row, u.profile⟩

def authoredArticles (s : Store) : List (Authored Article) :=
  s.articles.filterMap (s.withAuthor Article.authorId)

def authoredComments (s : Store) : List (Authored Comment) :=
  s.comments.filterMap (s.withAuthor Comment.authorId)

/-- The articles of the author with the name, or of all authors. -/
def articlesBy (s : Store) (author : Option String) : List (Authored Article) :=
  s.authoredArticles.filter fun a => author.all (a.author.username == ·)

/-- The row with the key `a` comes no later than the one with the key `b`; keys are the text of
a time, and a number. -/
def notAfter (a b : String × Int) : Bool :=
  a.1 < b.1 || (a.1 == b.1 && a.2 ≤ b.2)

/-- Where an article stands among articles in the order of their creation. -/
def articleKey (a : Authored Article) : String × Int :=
  (a.thing.createdAt.storedText, a.thing.id)

/-- Where a comment stands among comments in the order of their creation. -/
def commentKey (c : Authored Comment) : String × Int :=
  (c.thing.createdAt.storedText, c.thing.id)

/-- The articles of the author, the newest first. -/
def listing (s : Store) (author : Option String) : List (Authored Article) :=
  ((s.articlesBy author).map fun a => (articleKey a, a)).mergeSort
    (fun a b => notAfter b.1 a.1) |>.map (·.2)

/-- The comments on the article, the oldest first. -/
def discussion (s : Store) (articleId : Int) : List (Authored Comment) :=
  ((s.authoredComments.filter (·.thing.articleId == articleId)).map
    fun c => (commentKey c, c)).mergeSort (fun a b => notAfter a.1 b.1) |>.map (·.2)

/-- Slugs that begin like `base`, in order, without that of the article `except`. -/
def slugsLike (s : Store) (base : String) (except : Option Int) : List String :=
  ((s.articles.filter fun a => startsLike base a.slug && except != some a.id).map
    (·.slug)).mergeSort (fun a b => a ≤ b)

/-- The unique column of users in which one of the `others` has the value of `u`. -/
def userConflict? (others : List User) (u : User) : Option UniqueField :=
  if others.any (·.username == u.username) then some .username
  else if others.any (fun o => equalFold o.email u.email) then some .email
  else none

def insertUser (s : Store) (username email passwordHash : String) (now : Instant) :
    Except DatabaseError (User × Store) :=
  let id := s.lastUser + 1
  let u : User := ⟨id, username, email, passwordHash, "", "", now, now⟩
  match userConflict? s.users u with
  | some field => .error (.repeated field)
  | none => .ok (u, { s with users := s.users ++ [u], lastUser := id })

def changeUser (u : User) (changes : UserChanges) (now : Instant) : User :=
  { u with
    username := changes.username.getD u.username
    email := changes.email.getD u.email
    passwordHash := changes.passwordHash.getD u.passwordHash
    bio := changes.bio.getD u.bio
    image := changes.image.getD u.image
    updatedAt := now }

def updateUser (s : Store) (id : Int) (changes : UserChanges) (now : Instant) :
    Except DatabaseError (Option User × Store) :=
  match s.user? id with
  | none => .ok (none, s)
  | some u =>
    let changed := changeUser u changes now
    -- the row does not repeat its own values
    match userConflict? (s.users.filter (·.id != id)) changed with
    | some field => .error (.repeated field)
    | none =>
      .ok (some changed,
        { s with users := s.users.map fun u => if u.id = id then changed else u })

def insertArticle (s : Store) (slug : String) (draft : ArticleDraft) (authorId : Int)
    (now : Instant) : Except DatabaseError (Int × Store) :=
  let id := s.lastArticle + 1
  let a : Article := ⟨id, slug, draft.title, draft.description, draft.body, authorId, 0, now, now⟩
  if s.articles.any (·.slug == slug) then .error (.repeated .slug)
  else if (s.user? authorId).isNone then .error .dangling
  else .ok (id, { s with articles := s.articles ++ [a], lastArticle := id })

def changeArticle (a : Article) (slug : String) (changes : ArticleChanges) (now : Instant) :
    Article :=
  { a with
    slug := slug
    title := changes.title.getD a.title
    description := changes.description.getD a.description
    body := changes.body.getD a.body
    updatedAt := now }

/-- Changes the article with the number; says whether there is one. -/
def updateArticle (s : Store) (id : Int) (slug : String) (changes : ArticleChanges)
    (now : Instant) : Except DatabaseError (Bool × Store) :=
  if !s.articles.any (·.id == id) then .ok (false, s)
  else if s.articles.any (fun a => a.id != id && a.slug == slug) then .error (.repeated .slug)
  else
    .ok (true,
      { s with
        articles := s.articles.map fun a =>
          if a.id = id then changeArticle a slug changes now else a })

/-- Without the article and the comments on it; says whether there was one. -/
def deleteArticle (s : Store) (id : Int) : Bool × Store :=
  (s.articles.any (·.id == id),
    { s with
      articles := s.articles.filter (·.id != id)
      comments := s.comments.filter (·.articleId != id) })

def insertComment (s : Store) (articleId authorId : Int) (body : String) (now : Instant) :
    Except DatabaseError (Int × Store) :=
  let id := s.lastComment + 1
  let c : Comment := ⟨id, body, authorId, articleId, now, now⟩
  if (s.user? authorId).isNone || !s.articles.any (·.id == articleId) then .error .dangling
  else .ok (id, { s with comments := s.comments ++ [c], lastComment := id })

/-- Without the comment; says whether there was one. -/
def deleteComment (s : Store) (id : Int) : Bool × Store :=
  (s.comments.any (·.id == id), { s with comments := s.comments.filter (·.id != id) })

/-- Without the user, the user's articles with the comments on them, and the user's comments;
says whether there was such a user. -/
def deleteUser (s : Store) (id : Int) : Bool × Store :=
  let lost := (s.articles.filter (·.authorId == id)).map (·.id)
  (s.users.any (·.id == id),
    { s with
      users := s.users.filter (·.id != id)
      articles := s.articles.filter (·.authorId != id)
      comments := s.comments.filter fun c => c.authorId != id && !lost.contains c.articleId })

end Store

/-- A statement on the store. -/
inductive Statement where
  | ping
  | user (id : Int)
  | userByEmail (email : String)
  | userByName (username : String)
  | insertUser (username email passwordHash : String) (now : Instant)
  | updateUser (id : Int) (changes : UserChanges) (now : Instant)
  | slugsLike (base : String) (except : Option Int)
  | article (id : Int)
  | articleBySlug (slug : String)
  | countArticles (author : Option String)
  | listArticles (author : Option String) (limit offset : Int)
  | insertArticle (slug : String) (draft : ArticleDraft) (authorId : Int) (now : Instant)
  | updateArticle (id : Int) (slug : String) (changes : ArticleChanges) (now : Instant)
  | deleteArticle (id : Int)
  | comment (id : Int)
  | authoredComment (id : Int)
  | listComments (articleId : Int)
  | insertComment (articleId authorId : Int) (body : String) (now : Instant)
  | deleteComment (id : Int)

abbrev Statement.Answer : Statement → Type
  | ping => Unit
  | user _ => Option User
  | userByEmail _ => Option User
  | userByName _ => Option User
  | insertUser .. => User
  | updateUser .. => Option User
  | slugsLike .. => List String
  | article _ => Option (Authored Article)
  | articleBySlug _ => Option (Authored Article)
  | countArticles _ => Nat
  | listArticles .. => List (Authored Article)
  | insertArticle .. => Int
  | updateArticle .. => Bool
  | deleteArticle _ => Bool
  | comment _ => Option Comment
  | authoredComment _ => Option (Authored Comment)
  | listComments _ => List (Authored Comment)
  | insertComment .. => Int
  | deleteComment _ => Bool

/-- Carries out a statement: its answer, and the store after it. -/
def Statement.exec : (q : Statement) → Store → Except DatabaseError (q.Answer × Store)
  | ping, s => .ok ((), s)
  | user id, s => .ok (s.user? id, s)
  | userByEmail email, s => .ok (s.userByEmail? email, s)
  | userByName username, s => .ok (s.userByName? username, s)
  | insertUser username email passwordHash now, s => s.insertUser username email passwordHash now
  | updateUser id changes now, s => s.updateUser id changes now
  | slugsLike base except, s => .ok (s.slugsLike base except, s)
  | article id, s => .ok (s.authoredArticles.find? (·.thing.id == id), s)
  | articleBySlug slug, s => .ok (s.authoredArticles.find? (·.thing.slug == slug), s)
  | countArticles author, s => .ok ((s.articlesBy author).length, s)
  | listArticles author limit offset, s =>
    .ok (((s.listing author).drop offset.toNat).take limit.toNat, s)
  | insertArticle slug draft authorId now, s => s.insertArticle slug draft authorId now
  | updateArticle id slug changes now, s => s.updateArticle id slug changes now
  | deleteArticle id, s => .ok (s.deleteArticle id)
  | comment id, s => .ok (s.comments.find? (·.id == id), s)
  | authoredComment id, s => .ok (s.authoredComments.find? (·.thing.id == id), s)
  | listComments articleId, s => .ok (s.discussion articleId, s)
  | insertComment articleId authorId body now, s => s.insertComment articleId authorId body now
  | deleteComment id, s => .ok (s.deleteComment id)

end Weblog
