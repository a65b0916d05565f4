import Weblog.Reply

namespace Weblog

structure User where
  id : Int
  username : String
  email : String
  passwordHash : String
  bio : String
  image : String
  createdAt : Instant
  updatedAt : Instant
deriving Repr, DecidableEq

structure Article where
  id : Int
  slug : String
  title : String
  description : String
  body : String
  authorId : Int
  favoritesCount : Int
  createdAt : Instant
  updatedAt : Instant
deriving Repr, DecidableEq

structure Comment where
  id : Int
  body : String
  authorId : Int
  articleId : Int
  createdAt : Instant
  updatedAt : Instant
deriving Repr, DecidableEq

structure Store where
  users : List User
  articles : List Article
  comments : List Comment
  lastUser : Int
  lastArticle : Int
  lastComment : Int
deriving Repr, DecidableEq

def Store.empty : Store := ⟨[], [], [], 0, 0, 0⟩

/-- A thing beside what is shown of its author. -/
structure Authored (α : Type) where
  thing : α
  author : Profile
deriving Repr, DecidableEq

/-- New values for the columns of a user; a column without one is left as it is. -/
structure UserChanges where
  username : Option String
  email : Option String
  passwordHash : Option String
  bio : Option String
  image : Option String
deriving Repr, DecidableEq

def User.profile (u : User) : Profile :=
  { username := u.username, bio := u.bio, image := u.image, following := false }

def Authored.articleView (a : Authored Article) : ArticleView :=
  { slug := a.thing.slug, title := a.thing.title, description := a.thing.description,
    body := a.thing.body, createdAt := a.thing.createdAt, updatedAt := a.thing.updatedAt,
    favorited := false, favoritesCount := a.thing.favoritesCount, author := a.author }

def Authored.commentView (c : Authored Comment) : CommentView :=
  { id := c.thing.id, body := c.thing.body, createdAt := c.thing.createdAt,
    updatedAt := c.thing.updatedAt, author := c.author }

/-- The account of a user, with a token for it. -/
def User.accountView (u : User) (token : String) : AccountView :=
  { email := u.email, token := token, username := u.username, bio := u.bio, image := u.image }

end Weblog
