import Weblog.Json.Value
import Weblog.Reply

namespace Weblog

open Weblog.Json

def Profile.toJson (p : Profile) : Value :=
  .object [("username", .string p.username), ("bio", .string p.bio), ("image", .string p.image),
    ("following", .bool p.following)]

def AccountView.toJson (a : AccountView) : Value :=
  .object [("email", .string a.email), ("token", .string a.token),
    ("username", .string a.username), ("bio", .string a.bio), ("image", .string a.image)]

def ArticleView.toJson (a : ArticleView) : Value :=
  .object [("slug", .string a.slug), ("title", .string a.title),
    ("description", .string a.description), ("body", .string a.body),
    ("createdAt", .string a.createdAt.text), ("updatedAt", .string a.updatedAt.text),
    ("favorited", .bool a.favorited), ("favoritesCount", .int a.favoritesCount),
    ("author", a.author.toJson)]

def CommentView.toJson (c : CommentView) : Value :=
  .object [("id", .int c.id), ("body", .string c.body), ("createdAt", .string c.createdAt.text),
    ("updatedAt", .string c.updatedAt.text), ("author", c.author.toJson)]

def Profile.reply (p : Profile) : Value := .object [("profile", p.toJson)]

def AccountView.reply (a : AccountView) : Value := .object [("user", a.toJson)]

def ArticleView.reply (a : ArticleView) : Value := .object [("article", a.toJson)]

def ArticlePage.reply (page : ArticlePage) : Value :=
  .object [("articles", .array (page.articles.map ArticleView.toJson)),
    ("articlesCount", .int page.articlesCount)]

def CommentView.reply (c : CommentView) : Value := .object [("comment", c.toJson)]

def commentsReply (comments : List CommentView) : Value :=
  .object [("comments", .array (comments.map CommentView.toJson))]

/-- The claims as a token carries them. -/
def Claims.toJson (c : Claims) : Value :=
  .object [("user_id", .int c.userId), ("username", .string c.username),
    ("iat", .int c.issuedAt), ("nbf", .int c.notBefore), ("exp", .int c.expiresAt),
    ("iss", .string c.issuer), ("sub", .string c.subject)]

end Weblog
