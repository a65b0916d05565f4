import Mathlib.Data.List.Basic
import Weblog.Proofs.Session

/-!
Columns of users that are hidden from clients. A statement that does not compare what is hidden
finds the same in two stores that differ in nothing else, and leaves such stores behind.
-/

namespace Weblog

/-- The columns of users that are hidden. -/
inductive Hidden where
  | hashes
  | hashesAndEmails
deriving DecidableEq

/-- The user without the values that are hidden. -/
def User.veil (h : Hidden) (u : User) : User :=
  match h with
  | .hashes => { u with passwordHash := "" }
  | .hashesAndEmails => { u with passwordHash := "", email := "" }

def Store.veil (h : Hidden) (s : Store) : Store :=
  { s with users := s.users.map (·.veil h) }

namespace Statement

/-- What is found apart from what is hidden. -/
def seen (h : Hidden) : (q : Statement) → q.Answer → q.Answer
  | .user _, row | .userByEmail _, row | .userByName _, row | .updateUser .., row =>
    row.map (·.veil h)
  | .insertUser .., u => u.veil h
  | _, answer => answer

/-- The statement compares email addresses. -/
def comparesEmails : Statement → Bool
  | .userByEmail _ | .insertUser .. | .updateUser .. => true
  | _ => false

/-- The statement does not compare what is hidden. -/
def Spares (h : Hidden) (q : Statement) : Prop :=
  h = .hashesAndEmails → q.comparesEmails = false

theorem spares_hashes (q : Statement) : q.Spares .hashes :=
  nofun

/-- What a statement finds and leaves behind, apart from what is hidden. -/
def view (h : Hidden) (q : Statement) (s : Store) : Except DatabaseError (q.Answer × Store) :=
  (q.exec s).map fun found => (q.seen h found.1, found.2.veil h)

end Statement

variable {h : Hidden}

namespace User

@[simp] theorem id_veil (u : User) : (u.veil h).id = u.id := by
  cases h <;> rfl

@[simp] theorem username_veil (u : User) : (u.veil h).username = u.username := by
  cases h <;> rfl

@[simp] theorem profile_veil (u : User) : (u.veil h).profile = u.profile := by
  cases h <;> rfl

@[simp] theorem email_veil_hashes (u : User) : (u.veil .hashes).email = u.email := rfl

@[simp] theorem veil_veil (u : User) : (u.veil h).veil h = u.veil h := by
  cases h <;> rfl

theorem profile_eq_of_veil_eq {u u' : User} (hu : u.veil h = u'.veil h) :
    u.profile = u'.profile := by
  rw [← u.profile_veil (h := h), hu, profile_veil]

end User

namespace Store

theorem veil_changeUser (u : User) (changes : UserChanges) (now : Instant) :
    (changeUser (u.veil h) changes now).veil h = (changeUser u changes now).veil h := by
  cases h <;> cases hhash : changes.passwordHash <;> cases hemail : changes.email <;>
    simp [changeUser, User.veil, hhash, hemail]

section

variable (s : Store)

@[simp] theorem users_veil : (s.veil h).users = s.users.map (·.veil h) := rfl

@[simp] theorem articles_veil : (s.veil h).articles = s.articles := rfl

@[simp] theorem comments_veil : (s.veil h).comments = s.comments := rfl

@[simp] theorem veil_veil : (s.veil h).veil h = s.veil h := by
  simp [veil, Function.comp_def]

end

end Store

theorem Statement.view_view (q : Statement) (s : Store) :
    ((q.view h s).map fun found => (q.seen h found.1, found.2.veil h)) = q.view h s := by
  rw [view]
  cases q.exec s with
  | error e => rfl
  | ok found =>
      obtain ⟨answer, s'⟩ := found
      simp only [Except.map, Store.veil_veil]
      cases q <;> simp [seen, Function.comp_def]

namespace Store

variable (s : Store)

theorem find?_veil {p : User → Bool} (hp : ∀ u : User, p (u.veil h) = p u) :
    (s.veil h).users.find? p = (s.users.find? p).map (·.veil h) := by
  rw [users_veil, List.find?_map]
  congr 2
  funext u
  exact hp u

@[simp] theorem user?_veil (id : Int) :
    (s.veil h).user? id = (s.user? id).map (·.veil h) :=
  s.find?_veil fun u => by rw [u.id_veil]

@[simp] theorem userByName?_veil (username : String) :
    (s.veil h).userByName? username = (s.userByName? username).map (·.veil h) :=
  s.find?_veil fun u => by rw [u.username_veil]

@[simp] theorem userByEmail?_veil (email : String) :
    (s.veil .hashes).userByEmail? email = (s.userByEmail? email).map (·.veil .hashes) :=
  s.find?_veil fun u => by rw [u.email_veil_hashes]

@[simp] theorem withAuthor_veil (authorId : α → Int) :
    (s.veil h).withAuthor authorId = s.withAuthor authorId := by
  funext row
  simp only [withAuthor, user?_veil, Option.map_map, Function.comp_def, User.profile_veil]

@[simp] theorem authoredArticles_veil :
    (s.veil h).authoredArticles = s.authoredArticles := by
  rw [authoredArticles, withAuthor_veil, articles_veil, authoredArticles]

@[simp] theorem authoredComments_veil :
    (s.veil h).authoredComments = s.authoredComments := by
  rw [authoredComments, withAuthor_veil, comments_veil, authoredComments]

@[simp] theorem articlesBy_veil (author : Option String) :
    (s.veil h).articlesBy author = s.articlesBy author := by
  rw [articlesBy, authoredArticles_veil, articlesBy]

@[simp] theorem listing_veil (author : Option String) :
    (s.veil h).listing author = s.listing author := by
  rw [listing, articlesBy_veil, listing]

@[simp] theorem discussion_veil (articleId : Int) :
    (s.veil h).discussion articleId = s.discussion articleId := by
  rw [discussion, authoredComments_veil, discussion]

theorem userConflict?_veil (others : List User) {u u' : User} (hname : u'.username = u.username)
    (hemail : u'.email = u.email) :
    userConflict? (others.map (·.veil .hashes)) u' = userConflict? others u := by
  simp only [userConflict?, List.any_map, Function.comp_def, User.username_veil,
    User.email_veil_hashes, hname, hemail]

theorem view_insertUser (username email passwordHash : String) (now : Instant) :
    (Statement.insertUser username email passwordHash now).view .hashes (s.veil .hashes) =
      (Statement.insertUser username email passwordHash now).view .hashes s := by
  have hconflict := userConflict?_veil s.users (u := ⟨s.lastUser + 1, username, email,
    passwordHash, "", "", now, now⟩) rfl rfl
  simp only [Statement.view, Statement.exec, insertUser, users_veil]
  rw [show (s.veil .hashes).lastUser = s.lastUser from rfl, hconflict]
  cases userConflict? s.users ⟨s.lastUser + 1, username, email, passwordHash, "", "", now, now⟩ with
  | some field => rfl
  | none => simp [Except.map, veil, Function.comp_def]

theorem view_updateUser (id : Int) (changes : UserChanges) (now : Instant) :
    (Statement.updateUser id changes now).view .hashes (s.veil .hashes) =
      (Statement.updateUser id changes now).view .hashes s := by
  simp only [Statement.view, Statement.exec, updateUser, users_veil, user?_veil]
  cases s.user? id with
  | none => simp [Except.map, Statement.seen]
  | some u =>
      have hothers : (s.users.map (·.veil .hashes)).filter (·.id != id) =
          (s.users.filter (·.id != id)).map (·.veil .hashes) := by
        rw [List.filter_map]
        rfl
      have hconflict : userConflict? ((s.users.map (·.veil .hashes)).filter (·.id != id))
          (changeUser (u.veil .hashes) changes now) =
            userConflict? (s.users.filter (·.id != id)) (changeUser u changes now) := by
        rw [hothers]
        exact userConflict?_veil _ rfl rfl
      simp only [Option.map_some, hconflict]
      cases userConflict? (s.users.filter (·.id != id)) (changeUser u changes now) with
      | some field => rfl
      | none =>
          simp only [Except.map, Statement.seen, Option.map_some, veil_changeUser, veil,
            List.map_map]
          congr 4
          funext v
          simp only [Function.comp_apply, User.id_veil, apply_ite (User.veil .hashes),
            veil_changeUser, User.veil_veil]

theorem updateArticle_veil (id : Int) (slug : String) (changes : ArticleChanges) (now : Instant) :
    (s.veil h).updateArticle id slug changes now =
      (s.updateArticle id slug changes now).map fun found => (found.1, found.2.veil h) := by
  rw [updateArticle, updateArticle, apply_ite (Except.map _), apply_ite (Except.map _)]
  rfl

/-- A statement that neither compares email addresses nor writes them is carried out on what is not
hidden. -/
theorem exec_veil {q : Statement} (hq : q.comparesEmails = false) :
    q.exec (s.veil h) = q.view h s := by
  cases q with
  | userByEmail | insertUser | updateUser => exact nomatch hq
  | insertArticle =>
      simp only [Statement.view, Statement.exec, insertArticle, articles_veil, user?_veil,
        Option.isNone_map]
      split_ifs <;> rfl
  | updateArticle => exact s.updateArticle_veil _ _ _ _
  | insertComment =>
      simp only [Statement.view, Statement.exec, insertComment, articles_veil, user?_veil,
        Option.isNone_map]
      split_ifs <;> rfl
  | ping | slugsLike | deleteArticle | deleteComment | comment => rfl
  | _ => simp [Statement.view, Statement.exec, Statement.seen, Except.map]

theorem view_veil {q : Statement} (hq : q.Spares h) : q.view h (s.veil h) = q.view h s := by
  cases hcompares : q.comparesEmails with
  | false => rw [Statement.view, s.exec_veil hcompares, Statement.view_view]
  | true =>
      obtain rfl : h = .hashes := by
        cases h with
        | hashes => rfl
        | hashesAndEmails => exact nomatch (hq rfl).symm.trans hcompares
      cases q with
      | userByEmail email =>
          simp [Statement.view, Statement.exec, Except.map, Statement.seen, Function.comp_def]
      | insertUser => exact s.view_insertUser _ _ _ _
      | updateUser => exact s.view_updateUser _ _ _
      | _ => exact nomatch hcompares

end Store

/-- Two stores that differ only in what is hidden are asked the same and left so. -/
theorem Statement.answer_and_after_eq {q : Statement} (hq : q.Spares h) {s s' : Store}
    (hs : s.veil h = s'.veil h) :
    (q.answer s).map (q.seen h) = (q.answer s').map (q.seen h) ∧
      (q.after s).veil h = (q.after s').veil h := by
  have hview : q.view h s = q.view h s' := by
    rw [← s.view_veil hq, hs, s'.view_veil hq]
  simp only [view] at hview
  simp only [answer, after]
  cases hexec : q.exec s with
  | error e =>
      cases hexec' : q.exec s' with
      | error e' =>
          rw [hexec, hexec'] at hview
          obtain rfl := Except.error.inj hview
          exact ⟨rfl, hs⟩
      | ok found' =>
          rw [hexec, hexec'] at hview
          cases hview
  | ok found =>
      cases hexec' : q.exec s' with
      | error e' =>
          rw [hexec, hexec'] at hview
          cases hview
      | ok found' =>
          rw [hexec, hexec'] at hview
          obtain ⟨hseen, hveil⟩ := Prod.mk.inj (Except.ok.inj hview)
          exact ⟨congrArg Except.ok hseen, hveil⟩

end Weblog
