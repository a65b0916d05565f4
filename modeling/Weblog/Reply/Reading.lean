import Weblog.Json.Record
import Weblog.Reply

namespace Weblog

open Weblog.Json

/-- The point in time that a string gives. -/
def Instant.read? (bytes : Bytes) : Option Instant := do
  Instant.ofText? (← string? bytes)

def Profile.read? (bytes : Bytes) : Option Profile := do
  match ← fields? ["username", "bio", "image", "following"] false bytes with
  | [some username, some bio, some image, some following] =>
    return ⟨← string? username, ← string? bio, ← string? image, ← bool? following⟩
  | _ => none

def AccountView.read? (bytes : Bytes) : Option AccountView := do
  match ← fields? ["email", "token", "username", "bio", "image"] false bytes with
  | [some email, some token, some username, some bio, some image] =>
    return ⟨← string? email, ← string? token, ← string? username, ← string? bio,
      ← string? image⟩
  | _ => none

def ArticleView.read? (bytes : Bytes) : Option ArticleView := do
  match ← fields? ["slug", "title", "description", "body", "createdAt", "updatedAt", "favorited",
      "favoritesCount", "author"] false bytes with
  | [some slug, some title, some description, some body, some createdAt, some updatedAt,
      some favorited, some favoritesCount, some author] =>
    return ⟨← string? slug, ← string? title, ← string? description, ← string? body,
      ← Instant.read? createdAt, ← Instant.read? updatedAt, ← bool? favorited,
      ← int? favoritesCount, ← Profile.read? author⟩
  | _ => none

def ArticlePage.read? (bytes : Bytes) : Option ArticlePage := do
  match ← fields? ["articles", "articlesCount"] false bytes with
  | [some articles, some count] => return ⟨← list? ArticleView.read? articles, ← int? count⟩
  | _ => none

def CommentView.read? (bytes : Bytes) : Option CommentView := do
  match ← fields? ["id", "body", "createdAt", "updatedAt", "author"] false bytes with
  | [some id, some body, some createdAt, some updatedAt, some author] =>
    return ⟨← int? id, ← string? body, ← Instant.read? createdAt, ← Instant.read? updatedAt,
      ← Profile.read? author⟩
  | _ => none

def Claims.read? (bytes : Bytes) : Option Claims := do
  match ← fields? ["user_id", "username", "iat", "nbf", "exp", "iss", "sub"] false bytes with
  | [some userId, some username, some iat, some nbf, some exp, some iss, some sub] =>
    return ⟨← int? userId, ← string? username, ← int? iat, ← int? nbf, ← int? exp,
      ← string? iss, ← string? sub⟩
  | _ => none

end Weblog
