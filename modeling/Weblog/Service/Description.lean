import Weblog.Service.Application

namespace Weblog.Description

/-- A group of operations. -/
inductive Topic where
  | users
  | profiles
  | articles
  | comments
  | health
deriving Repr, DecidableEq

namespace Topic

def all : List Topic :=
  [users, profiles, articles, comments, health]

def name : Topic → String
  | users => "users"
  | profiles => "profiles"
  | articles => "articles"
  | comments => "comments"
  | health => "health"

def text : Topic → String
  | users => "Registration, login and the current user"
  | profiles => "Public user profiles"
  | articles => "Articles addressed by slug"
  | comments => "Comments on an article"
  | health => "Service and database status"

end Topic

/-- Where a parameter stands in the target of a request. -/
inductive Place where
  | path
  | query
deriving Repr, DecidableEq

structure Parameter where
  place : Place
  name : String
deriving Repr, DecidableEq

/-- What is part of a path cannot be left out. -/
def Parameter.isRequired (p : Parameter) : Bool :=
  p.place == .path

/-- A request that the service takes. The parameters of its route are their names in braces. -/
structure Operation where
  topic : Topic
  name : String
  method : Method
  route : Route
  /-- The parameters after the question mark. -/
  query : List String
  needsToken : Bool
  /-- The form of the body, if there is one. -/
  body : Option String
  /-- What each status of the answer tells. -/
  outcomes : List (Nat × String)
deriving Repr, DecidableEq

namespace Operation

/-- The names in braces among the parts of the path, then those after the question mark. -/
def parameters (o : Operation) : List Parameter :=
  (o.route.parts.filterMap fun part =>
    match part.toList with
    | '\x7b' :: name => some ⟨.path, String.ofList name.dropLast⟩
    | _ => none) ++
  o.query.map (⟨.query, ·⟩)

end Operation

def slugPart : String := "\x7bslug\x7d"
def idPart : String := "\x7bid\x7d"
def usernamePart : String := "\x7busername\x7d"

def badBody : Nat × String := (400, "Validation failed or malformed JSON")
def badToken : Nat × String := (401, "Missing, malformed or expired token")
def noArticle : Nat × String := (404, "No article has this slug")
def noUser : Nat × String := (404, "The token's user no longer exists")
def notAuthor : Nat × String := (403, "The caller did not write this article")
def slugClaimed : Nat × String := (409, "Another request claimed the same slug")

def accounts : List Operation :=
  [⟨.users, "register", .post, .users, [], false, some "RegisterRequest",
      [(201, "User registered"),
        (400, "Validation failed, malformed JSON or duplicate email/username")]⟩,
    ⟨.users, "login", .post, .login, [], false, some "LoginRequest",
      [(200, "Credentials accepted"), badBody, (401, "Invalid email or password")]⟩,
    ⟨.users, "current_user", .get, .user, [], true, none,
      [(200, "The authenticated user"), badToken, noUser]⟩,
    ⟨.users, "update_current_user", .put, .user, [], true, some "UpdateUserRequest",
      [(200, "Updated user with a fresh token"),
        (400, "Validation failed, malformed JSON or email/username taken"), badToken, noUser]⟩,
    ⟨.profiles, "get_profile", .get, .profile usernamePart, [], false, none,
      [(200, "Public profile; following is always false"), (404, "No user has this username")]⟩]

def articles : List Operation :=
  [⟨.articles, "list", .get, .articles, ["limit", "offset", "author"], false, none,
      [(200, "Newest articles first"), (400, "Malformed query string")]⟩,
    ⟨.articles, "create", .post, .articles, [], true, some "NewArticleRequest",
      [(201, "Article created with a unique slug"), badBody, badToken, slugClaimed]⟩,
    ⟨.articles, "get_article", .get, .article slugPart, [], false, none,
      [(200, "The article"), noArticle]⟩,
    ⟨.articles, "update", .put, .article slugPart, [], true, some "UpdateArticleRequest",
      [(200, "Updated article; a new title yields a new slug"), badBody, badToken, notAuthor,
        noArticle, slugClaimed]⟩,
    ⟨.articles, "delete", .delete, .article slugPart, [], true, none,
      [(204, "Article and its comments deleted"), badToken, notAuthor, noArticle]⟩]

def comments : List Operation :=
  [⟨.comments, "list", .get, .comments slugPart, [], false, none,
      [(200, "Comments, oldest first"), noArticle]⟩,
    ⟨.comments, "create", .post, .comments slugPart, [], true, some "NewCommentRequest",
      [(201, "Comment created"), badBody, badToken, noArticle]⟩,
    ⟨.comments, "delete", .delete, .comment slugPart idPart, [], true, none,
      [(204, "Comment deleted"), (400, "Comment id is not a number"), badToken,
        (403, "The caller did not write this comment"),
        (404, "Article or comment not found, or the comment belongs elsewhere")]⟩]

def health : Operation :=
  ⟨.health, "health", .get, .health, [], false, none,
    [(200, "Database is reachable"), (503, "Database is unreachable")]⟩

def operations : List Operation :=
  accounts ++ articles ++ comments ++ [health]

/-- The forms of bodies and of their parts, by name. -/
def forms : List String :=
  ["ArticleBody", "ArticleResponse", "ArticlesBody", "CommentBody", "CommentResponse",
    "CommentsBody", "ErrorBody", "Health", "LoginRequest", "LoginUser", "NewArticle",
    "NewArticleRequest", "NewComment", "NewCommentRequest", "NewUser", "Profile", "ProfileBody",
    "RegisterRequest", "UpdateArticle", "UpdateArticleRequest", "UpdateUser",
    "UpdateUserRequest", "UserBody", "UserResponse", "ValidationError", "ValidationErrors"]

def title : String := "conduit"
def purpose : String := "RealWorld blogging platform API"
def contactName : String := "Team Conduit"
def contactAddress : String := "team@conduit.dev"
/-- The terms of use, by their usual name. -/
def terms : String := "BSD-3-Clause"

/-- The header in which a token is sent, and its form. -/
def tokenHeader : String := "Authorization"
def tokenForm : String := "\x60Token <jwt>\x60 as returned by register or login"

end Weblog.Description
