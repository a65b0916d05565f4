import Weblog.Time.Instant

namespace Weblog

/-- A user as other users see one. Nobody follows anybody yet. -/
structure Profile where
  username : String
  bio : String
  image : String
  following : Bool
deriving Repr, DecidableEq

/-- An account as its owner sees it, with a token. -/
structure AccountView where
  email : String
  token : String
  username : String
  bio : String
  image : String
deriving Repr, DecidableEq

/-- An article with its author. -/
structure ArticleView where
  slug : String
  title : String
  description : String
  body : String
  createdAt : Instant
  updatedAt : Instant
  favorited : Bool
  favoritesCount : Int
  author : Profile
deriving Repr, DecidableEq

/-- A page of a listing, with the number of articles in the whole listing. -/
structure ArticlePage where
  articles : List ArticleView
  articlesCount : Int
deriving Repr, DecidableEq

/-- A comment with its author. -/
structure CommentView where
  id : Int
  body : String
  createdAt : Instant
  updatedAt : Instant
  author : Profile
deriving Repr, DecidableEq

/-- What the registered and the private claims of a token say. -/
structure Claims where
  userId : Int
  username : String
  issuedAt : Int
  notBefore : Int
  expiresAt : Int
  issuer : String
  subject : String
deriving Repr, DecidableEq

end Weblog
