import Weblog.Proofs.Service.Confinement
import Weblog.Proofs.Service.Success
import Weblog.Proofs.Validation

namespace Weblog

open Session Handler

/-- The row `new` is the article after the change: its slug is chosen again if it has a new title,
and kept if not. -/
structure Article.IsRevised (s : Store) (a : Article) (changes : ArticleChanges) (now : Instant)
    (new : Article) : Prop where
  id : new.id = a.id
  authorId : new.authorId = a.authorId
  favoritesCount : new.favoritesCount = a.favoritesCount
  createdAt : new.createdAt = a.createdAt
  title : new.title = changes.title.getD a.title
  description : new.description = changes.description.getD a.description
  body : new.body = changes.body.getD a.body
  updatedAt : new.updatedAt = now
  slugKept : changes.title = none → new.slug = a.slug
  slugChosen : ∀ title ∈ changes.title, Slug.ofTitle title ≠ "" ∧
    Slug.choice? (Slug.ofTitle title) now.seconds.toNat (s.slugsBut (some a.id)) = some new.slug

/-- The row `new` is the user after the change. -/
structure User.IsRevised (u : User) (changes : UserChanges) (now : Instant) (new : User) :
    Prop where
  id : new.id = u.id
  createdAt : new.createdAt = u.createdAt
  username : new.username = changes.username.getD u.username
  email : new.email = changes.email.getD u.email
  passwordHash : new.passwordHash = changes.passwordHash.getD u.passwordHash
  bio : new.bio = changes.bio.getD u.bio
  image : new.image = changes.image.getD u.image
  updatedAt : new.updatedAt = now

section

variable {s s' : Store} {now : Instant}

theorem Store.isRevised_changeArticle {a : Article} {changes : ArticleChanges} {slug : String}
    (hslug : s.IsNewSlug a changes now slug) :
    a.IsRevised s changes now (changeArticle a slug changes now) := by
  refine ⟨rfl, rfl, rfl, rfl, rfl, rfl, rfl, rfl, fun hnone => ?_, fun title htitle => ?_⟩
  · rwa [IsNewSlug, hnone] at hslug
  · rwa [IsNewSlug, Option.mem_def.mp htitle] at hslug

theorem Store.isRevised_changeUser (u : User) (changes : UserChanges) (now : Instant) :
    u.IsRevised changes now (changeUser u changes now) :=
  ⟨rfl, rfl, rfl, rfl, rfl, rfl, rfl, rfl⟩

namespace Work

theorem updateArticle_eq_ok (hs : s.Sound) {a : Article} (ha : a ∈ s.articles)
    {changes : ArticleChanges} (hsome : changes ≠ ⟨none, none, none⟩) {row : Authored Article}
    (h : outcome (updateArticle a changes now) s = (.ok row, s')) :
    a.IsRevised s changes now row.thing ∧
      (∃ u ∈ s.users, u.id = a.authorId ∧ row.author = u.profile) ∧
      s' = { s with articles := s.articles.map fun b => if b = a then row.thing else b } := by
  rcases outcome_updateArticle_cases hs a changes now with
    ⟨e, hrefused⟩ | ⟨b, hb, hid, u, hu, hua, hcases⟩
  · rw [hrefused] at h
    exact nomatch congrArg Prod.fst h
  obtain rfl := hs.article_eq hb ha hid
  rcases hcases with ⟨hempty, -⟩ | ⟨-, slug, hslug, hwork⟩
  · exact absurd (ArticleChanges.isEmpty_iff.mp hempty) hsome
  rw [hwork] at h
  obtain ⟨hrow, rfl⟩ := Prod.mk.inj h
  obtain rfl := Except.ok.inj hrow
  refine ⟨Store.isRevised_changeArticle hslug, ⟨u, hu, hua, rfl⟩, ?_⟩
  rw [Store.withRevision, map_key_eq hs.articleIds hb]

theorem outcome_updateArticle_of_empty (hs : s.Sound) (a : Article) (now : Instant) :
    (outcome (updateArticle a ⟨none, none, none⟩ now) s).2 = s ∧
      (a ∈ s.articles → ∃ u ∈ s.users, u.id = a.authorId ∧
        (outcome (updateArticle a ⟨none, none, none⟩ now) s).1 = .ok ⟨a, u.profile⟩) := by
  rw [updateArticle_of_isEmpty a rfl now]
  refine ⟨(reads_article a.id).outcome s, fun ha => ?_⟩
  obtain ⟨u, hu, hua⟩ := hs.articleAuthors a ha
  exact ⟨u, hu, hua, congrArg Prod.fst (outcome_read_article hs ha hu hua)⟩

theorem updateUser_eq_ok (hs : s.Sound) {id : Int} {changes : UserChanges} {u : User}
    (h : outcome (updateUser id changes now) s = (.ok u, s')) :
    ∃ old ∈ s.users, old.id = id ∧ old.IsRevised changes now u ∧
      s' = { s with users := s.users.map fun v => if v = old then u else v } := by
  rw [outcome_updateUser] at h
  cases hupdate : s.updateUser id changes now with
  | error e => cases e <;> rw [hupdate] at h <;> exact nomatch congrArg Prod.fst h
  | ok written =>
      obtain ⟨row, t⟩ := written
      rw [hupdate] at h
      rcases Store.updateUser_eq_ok hupdate with ⟨-, rfl, -⟩ | ⟨old, hold, rfl, -, rfl⟩
      · exact nomatch congrArg Prod.fst h
      obtain ⟨hu, rfl⟩ := Prod.mk.inj h
      obtain rfl := Except.ok.inj hu
      have hmem : old ∈ s.users := List.mem_of_find?_eq_some hold
      obtain rfl : old.id = id := by simpa using List.find?_some hold
      refine ⟨old, hmem, rfl, Store.isRevised_changeUser old changes now, ?_⟩
      rw [map_key_eq hs.userIds hmem fun _ => Store.changeUser old changes now]

end Work

namespace Accounts

variable {shared : Shared} {m : Moment} {r : Request}

theorem outcome_update_of_empty {p : Principal} (hp : IsFor shared m r p)
    (hchanges : IsPayload accountChanges r ⟨none, none, none, none, none⟩) (s : Store) :
    outcome (update shared m r) s =
      (match s.user? p.userId with
        | some u => .ok (answer shared m 200 u)
        | none => .error (.notFound "User not found"), s) := by
  rw [update, outcome_bind_of_ok (outcome_principal hp s),
    outcome_bind_of_ok (outcome_payload hchanges s)]
  refine (outcome_bind_of_ok (outcome_user p.userId s)).trans ?_
  cases s.user? p.userId <;> rfl

theorem update_of_empty (hchanges : IsPayload accountChanges r ⟨none, none, none, none, none⟩)
    (s : Store) : (outcome (update shared m r) s).2 = s := by
  rcases hx : Principal.ofHeaders shared.tokens (clock m) (r.values "authorization") with e | p
  · exact congrArg Prod.snd (outcome_bind_of_error (outcome_principal_of_error hx s))
  · rw [outcome_update_of_empty hx hchanges]

end Accounts

end

/-- A change to a row that succeeds replaces exactly the fields that it names, and the time of the
last change; no other row is touched. A change that names no field leaves the store as it is. -/
theorem partial_updates_exact {s : Store} (hs : Reachable s) :
    (∀ a ∈ s.articles, ∀ (changes : ArticleChanges) (now : Instant) (row : Authored Article) s',
      changes ≠ ⟨none, none, none⟩ →
      outcome (Work.updateArticle a changes now) s = (.ok row, s') →
        a.IsRevised s changes now row.thing ∧
        (∃ u ∈ s.users, u.id = a.authorId ∧ row.author = u.profile) ∧
        s' = { s with articles := s.articles.map fun b => if b = a then row.thing else b }) ∧
    (∀ (a : Article) (now : Instant),
      (outcome (Work.updateArticle a ⟨none, none, none⟩ now) s).2 = s ∧
      (a ∈ s.articles → ∃ u ∈ s.users, u.id = a.authorId ∧
        (outcome (Work.updateArticle a ⟨none, none, none⟩ now) s).1 = .ok ⟨a, u.profile⟩)) ∧
    (∀ (id : Int) (changes : UserChanges) (now : Instant) (u : User) s',
      outcome (Work.updateUser id changes now) s = (.ok u, s') →
        ∃ old ∈ s.users, old.id = id ∧ old.IsRevised changes now u ∧
          s' = { s with users := s.users.map fun v => if v = old then u else v }) ∧
    (∀ (app : Application) (m : Moment) (r : Request), r.method = .put →
      Route.ofPath? r.path = some .user →
      IsPayload accountChanges r ⟨none, none, none, none, none⟩ →
        ((app.respond m r).run s).2 = s ∧
        ∀ p, IsFor app.shared m r p → ∀ u ∈ s.users, u.id = p.userId →
          ((app.respond m r).run s).1 =
            Application.complete app.audience m r (Accounts.answer app.shared m 200 u)) := by
  refine ⟨fun a ha changes now row s' hsome hwork => ?article, fun a now => ?sameArticle,
    fun id changes now u s' hwork => ?user, fun app m r hmethod hroute hchanges => ?sameUser⟩
  case article => exact Work.updateArticle_eq_ok hs.sound ha hsome hwork
  case sameArticle => exact Work.outcome_updateArticle_of_empty hs.sound a now
  case user => exact Work.updateUser_eq_ok hs.sound hwork
  case sameUser =>
    rw [Application.run_respond app hroute (Application.handler?_changeAccount hmethod)]
    refine ⟨Accounts.update_of_empty hchanges s, fun p hp u hu hid => ?_⟩
    rw [Accounts.outcome_update_of_empty hp hchanges, ← hid, hs.sound.user?_eq hu]
    rfl

open Sample in
/-- A description is replaced by an empty one; a biography is written; and a change to the account
that says nothing is answered with the account as it is. -/
theorem partial_updates_exact_published :
    let s := store [article 1 "hello" "Hello"] 1
    let unsaid : Request := ⟨.put, "/api/user", "", asAlice, body "user" []⟩
    Reachable s ∧
    (∃ row, row.thing.description = "" ∧ row.thing.title = "Hello" ∧ row.thing.slug = "hello" ∧
      outcome (Work.updateArticle (article 1 "hello" "Hello") ⟨none, some "", none⟩ ⟨5, 0⟩) s =
        (.ok row, store [row.thing] 1)) ∧
    (∃ u, u.bio = "writer" ∧ u.email = alice.email ∧ u.updatedAt = ⟨5, 0⟩ ∧
      outcome (Work.updateUser 1 ⟨none, none, none, some "writer", none⟩ ⟨5, 0⟩) s =
        (.ok u, { s with users := [u] })) ∧
    ((app.respond moment unsaid).run s).2 = s := by
  intro s unsaid
  have hs : Reachable s := served_published.reachable
  obtain ⟨hrevised, -, hchanged, hunsaid⟩ := partial_updates_exact hs
  have hmem : article 1 "hello" "Hello" ∈ s.articles := List.mem_singleton_self _
  refine ⟨hs, ?_, ?_, ?_⟩
  · obtain ⟨row, s', hwork⟩ : ∃ row s', outcome (Work.updateArticle (article 1 "hello" "Hello")
        ⟨none, some "", none⟩ ⟨5, 0⟩) s = (.ok row, s') := ⟨_, _, rfl⟩
    obtain ⟨hrow, -, rfl⟩ := hrevised _ hmem _ _ row s' (by decide) hwork
    exact ⟨row, hrow.description, hrow.title, hrow.slugKept rfl, hwork⟩
  · obtain ⟨u, s', hwork⟩ : ∃ u s', outcome (Work.updateUser 1
        ⟨none, none, none, some "writer", none⟩ ⟨5, 0⟩) s = (.ok u, s') := ⟨_, _, rfl⟩
    obtain ⟨old, hold, -, hu, rfl⟩ := hchanged _ _ _ u s' hwork
    obtain rfl : old = alice := List.mem_singleton.mp hold
    exact ⟨u, hu.bio, hu.email, hu.updatedAt, hwork⟩
  · have hpayload : IsPayload accountChanges unsaid ⟨none, none, none, none, none⟩ :=
      ⟨by decide, rfl⟩
    exact (hunsaid app moment unsaid rfl (by decide) hpayload).1

end Weblog
