import Weblog.Service.Handler

namespace Weblog.Articles

open Handler

/-- The answer that shows an article. -/
def answer (status : Nat) (a : Authored Article) : Response :=
  .json status a.articleView.reply

def load (slug : String) : ExceptT RequestError Session (Authored Article) := do
  found "Article not found" (← work (Work.articleBySlug slug))

/-- The article with the slug, for a request of its author. -/
def loadOwn (p : Principal) (slug : String) : ExceptT RequestError Session (Authored Article) := do
  let row ← work (Work.articleBySlug slug)
  ofExcept OwnershipError.toRequestError (requireOwner .article (·.thing.authorId) row p.userId)

def list (r : Request) : Handler := do
  match listQuery? r.query with
  | none => throw (.badRequest "Invalid query parameters")
  | some q =>
    let (page, total) ← work (Work.listArticles q)
    return .json 200 (ArticlePage.reply ⟨page.map Authored.articleView, total⟩)

def get (slug : String) : Handler := do
  let slug ← parameter "slug" slug
  return answer 200 (← load slug)

def create (shared : Shared) (m : Moment) (r : Request) : Handler := do
  let p ← principal shared m r
  let draft ← payload articleDraft r
  return answer 201 (← work (Work.createArticle p.userId draft m.now))

/-- Changes an article; its author is known before the payload is looked at. -/
def update (shared : Shared) (m : Moment) (r : Request) (slug : String) : Handler := do
  let p ← principal shared m r
  let slug ← parameter "slug" slug
  let own ← loadOwn p slug
  let changes ← payload articleChanges r
  return answer 200 (← work (Work.updateArticle own.thing changes m.now))

def delete (shared : Shared) (m : Moment) (r : Request) (slug : String) : Handler := do
  let p ← principal shared m r
  let slug ← parameter "slug" slug
  let own ← loadOwn p slug
  work (Work.deleteArticle own.thing.id)
  return .bare 204

def comments (slug : String) : Handler := do
  let slug ← parameter "slug" slug
  let a ← load slug
  let cs ← work (Work.listComments a.thing.id)
  return .json 200 (commentsReply (cs.map Authored.commentView))

def comment (shared : Shared) (m : Moment) (r : Request) (slug : String) : Handler := do
  let p ← principal shared m r
  let slug ← parameter "slug" slug
  let draft ← payload commentDraft r
  let a ← load slug
  let c ← work (Work.createComment a.thing.id p.userId draft.body m.now)
  return .json 201 c.commentView.reply

/-- The parameters of the path of a comment. -/
def commentParameters? (slug id : String) : Option (String × Int) := do
  return (← parameter? slug, ← Text.signed? 64 (← parameter? id))

/-- Deletes a comment, which is sought among the comments on the article of its path. -/
def deleteComment (shared : Shared) (m : Moment) (r : Request) (slug id : String) : Handler := do
  let p ← principal shared m r
  match commentParameters? slug id with
  | none => throw (.badRequest "Invalid path parameters")
  | some (slug, id) =>
    let a ← load slug
    let row := (← work (Work.comment id)).filter (·.articleId == a.thing.id)
    let own ← ofExcept OwnershipError.toRequestError
      (requireOwner .comment Comment.authorId row p.userId)
    work (Work.deleteComment own.id)
    return .bare 204

end Weblog.Articles
