import Weblog.Proofs.Account.Warrant
import Weblog.Proofs.Service.StaleOwnership

namespace Weblog

open Handler

structure User.Valid (u : User) : Prop where
  username : ValidUsername u.username
  email : isEmail u.email = true
  bio : u.bio.length ≤ 500

structure Article.Valid (a : Article) : Prop where
  title : ValidText 200 a.title
  description : ValidText 500 a.description
  body : ValidText 10000 a.body

structure Comment.Valid (c : Comment) : Prop where
  body : ValidText 10000 c.body

structure Store.Valid (s : Store) : Prop where
  users : ∀ u ∈ s.users, u.Valid
  articles : ∀ a ∈ s.articles, a.Valid
  comments : ∀ c ∈ s.comments, c.Valid

/-- Every value that the statement writes obeys the rule of its column. -/
def Statement.WritesValid : Statement → Prop
  | .insertUser username email _ _ => ValidUsername username ∧ isEmail email = true
  | .updateUser _ changes _ =>
    (∀ username ∈ changes.username, ValidUsername username) ∧
      (∀ email ∈ changes.email, isEmail email = true) ∧ ∀ bio ∈ changes.bio, bio.length ≤ 500
  | .insertArticle _ draft _ _ =>
    ValidText 200 draft.title ∧ ValidText 500 draft.description ∧ ValidText 10000 draft.body
  | .updateArticle _ _ changes _ =>
    (∀ title ∈ changes.title, ValidText 200 title) ∧
      (∀ description ∈ changes.description, ValidText 500 description) ∧
      ∀ body ∈ changes.body, ValidText 10000 body
  | .insertComment _ _ body _ => ValidText 10000 body
  | _ => True

theorem Visit.CallsFor.writesValid {v : Visit} {q : Statement} (h : v.CallsFor q) :
    q.WritesValid := by
  cases h with
  | read hq => cases q <;> trivial
  | register hmethod hroute hdraft =>
      obtain ⟨husername, hemail, -⟩ := Registration.violations_eq_nil_iff.mp hdraft.2
      exact ⟨husername, hemail⟩
  | changeAccount hmethod hroute hchanges =>
      obtain ⟨husername, hemail, -, hbio⟩ := AccountChanges.violations_eq_nil_iff.mp hchanges.2
      exact ⟨husername, hemail, hbio⟩
  | publish hdraft => exact ArticleDraft.violations_eq_nil_iff.mp hdraft.2
  | revise hchanges => exact ArticleChanges.violations_eq_nil_iff.mp hchanges.2
  | remark hdraft => exact CommentDraft.violations_eq_nil_iff.mp hdraft.2
  | retract | withdraw => trivial

theorem getD_of_forall {P : α → Prop} {new : Option α} {old : α} (hnew : ∀ a ∈ new, P a)
    (hold : P old) : P (new.getD old) := by
  cases new with
  | none => exact hold
  | some a => exact hnew a rfl

theorem User.Valid.change {u : User} (hu : u.Valid) {id : Int} {changes : UserChanges}
    {now : Instant} (hq : (Statement.updateUser id changes now).WritesValid) :
    (Store.changeUser u changes now).Valid := by
  obtain ⟨husername, hemail, hbio⟩ := hq
  constructor
  · exact getD_of_forall husername hu.username
  · exact getD_of_forall (P := fun email => isEmail email = true) hemail hu.email
  · exact getD_of_forall (P := fun bio : String => bio.length ≤ 500) hbio hu.bio

theorem Article.Valid.change {a : Article} (ha : a.Valid) {id : Int} {slug : String}
    {changes : ArticleChanges} {now : Instant}
    (hq : (Statement.updateArticle id slug changes now).WritesValid) :
    (Store.changeArticle a slug changes now).Valid := by
  obtain ⟨htitle, hdescription, hbody⟩ := hq
  constructor
  · exact getD_of_forall htitle ha.title
  · exact getD_of_forall hdescription ha.description
  · exact getD_of_forall hbody ha.body

theorem forall_mem_concat {P : α → Prop} {l : List α} {a : α} (hl : ∀ b ∈ l, P b) (ha : P a) :
    ∀ b ∈ l ++ [a], P b :=
  List.forall_mem_append.mpr ⟨hl, List.forall_mem_singleton.mpr ha⟩

namespace Store

theorem valid_empty : Store.empty.Valid :=
  ⟨List.forall_mem_nil _, List.forall_mem_nil _, List.forall_mem_nil _⟩

theorem Valid.after {q : Statement} {s : Store} (hs : s.Valid) (hq : q.WritesValid) :
    (q.after s).Valid := by
  rw [Statement.after]
  split
  · rename_i hexec
    cases q with
    | insertUser =>
        obtain ⟨rfl, -, rfl⟩ := insertUser_eq_ok hexec
        exact { hs with users := forall_mem_concat hs.users ⟨hq.1, hq.2, Nat.zero_le _⟩ }
    | updateUser =>
        rcases updateUser_eq_ok hexec with ⟨-, -, rfl⟩ | ⟨u, hu, -, -, rfl⟩
        · exact hs
        · refine { hs with users := List.forall_mem_map.mpr fun v hv => ?_ }
          split
          · exact (hs.users u (List.mem_of_find?_eq_some hu)).change hq
          · exact hs.users v hv
    | insertArticle =>
        obtain ⟨-, -, -, rfl⟩ := insertArticle_eq_ok hexec
        exact { hs with articles := forall_mem_concat hs.articles ⟨hq.1, hq.2.1, hq.2.2⟩ }
    | updateArticle =>
        rcases updateArticle_eq_ok hexec with ⟨-, -, rfl⟩ | ⟨-, -, -, rfl⟩
        · exact hs
        · refine { hs with articles := List.forall_mem_map.mpr fun a ha => ?_ }
          split
          · exact (hs.articles a ha).change hq
          · exact hs.articles a ha
    | insertComment =>
        obtain ⟨-, -, -, rfl⟩ := insertComment_eq_ok hexec
        exact { hs with comments := forall_mem_concat hs.comments ⟨hq⟩ }
    | deleteArticle =>
        cases hexec
        exact { hs with
          articles := fun a ha => hs.articles a (List.mem_of_mem_filter ha)
          comments := fun c hc => hs.comments c (List.mem_of_mem_filter hc) }
    | deleteComment =>
        cases hexec
        exact { hs with comments := fun c hc => hs.comments c (List.mem_of_mem_filter hc) }
    | _ =>
        cases hexec
        exact hs
  · exact hs

end Store

/-- In every store that the service can come to, every row obeys the rules of its columns. -/
theorem rows_valid_of_reachable {s : Store} (hs : Reachable s) : s.Valid :=
  hs.of_calls Store.valid_empty fun _ _ _ hq h => h.after hq.writesValid

open Sample in
theorem rows_valid_renamed : (remarked "new" "New").Valid :=
  rows_valid_of_reachable ⟨[], served_remarked.traffic.steps steps_remarked_renamed⟩

end Weblog
