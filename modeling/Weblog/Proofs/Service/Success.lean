import Weblog.Proofs.Service.Effects
import Weblog.Proofs.Store.Listing

namespace Weblog

open Session Handler

section

variable {ε : Type} {w : ExceptT ε Session α} {f : α → ExceptT ε Session β} {s s' : Store}

theorem Session.bind_eq_ok_of_reads {b : β} (h : outcome (w >>= f) s = (.ok b, s'))
    (hw : Reads w) : ∃ a, outcome w s = (.ok a, s) ∧ outcome (f a) s = (.ok b, s') := by
  obtain ⟨a, t, ha, hb⟩ := outcome_bind_eq_ok h
  have ht := hw.outcome s
  rw [ha] at ht
  obtain rfl : t = s := ht
  exact ⟨a, ha, hb⟩

theorem Session.eq_of_outcome_pure {a b : α}
    (h : outcome (pure a : ExceptT ε Session α) s = (.ok b, s')) : b = a ∧ s' = s :=
  ⟨(Except.ok.inj (congrArg Prod.fst h)).symm, (congrArg Prod.snd h).symm⟩

end

section

variable {shared : Shared} {m : Moment} {r : Request} {s s' : Store} {response : Response}

theorem Effect.store_of_error {e : RequestError} (h : Effect shared m r s (.error e, s')) :
    s' = s := by
  cases h
  rfl

namespace Accounts

theorem register_eq_ok (h : outcome (register shared m r) s = (.ok response, s')) :
    ∃ draft passwordHash u, IsPayload registration r draft ∧
      s.insertUser draft.username draft.email passwordHash m.now = .ok (u, s') ∧
      response = answer shared m 201 u := by
  obtain ⟨draft, hdraft, h₁⟩ := bind_eq_ok_of_reads h (reads_payload _ _)
  obtain ⟨byEmail, -, h₂⟩ := bind_eq_ok_of_reads h₁ (reads_work (reads_ask rfl))
  obtain ⟨_, -, h₃⟩ := bind_eq_ok_of_reads h₂ (reads_refuseIf _ _)
  obtain ⟨byName, -, h₄⟩ := bind_eq_ok_of_reads h₃ (reads_work (reads_ask rfl))
  obtain ⟨_, -, h₅⟩ := bind_eq_ok_of_reads h₄ (reads_refuseIf _ _)
  obtain ⟨passwordHash, -, h₆⟩ := bind_eq_ok_of_reads h₅ (reads_ofExcept _ _)
  rw [outcome_bind, outcome_work, Work.outcome_createUser] at h₆
  cases hinsert : s.insertUser draft.username draft.email passwordHash m.now with
  | error e => cases e <;> rw [hinsert] at h₆ <;> exact nomatch congrArg Prod.fst h₆
  | ok written =>
      rw [hinsert] at h₆
      obtain ⟨rfl, rfl⟩ := eq_of_outcome_pure h₆
      exact ⟨draft, passwordHash, _, payload_eq_ok hdraft, hinsert, rfl⟩

theorem outcome_user (id : Int) (s : Store) :
    outcome (work (Work.user id)) s = (.ok (s.user? id), s) := by
  rw [outcome_work, Work.user, outcome_ask]
  rfl

theorem user_eq_ok {id : Int} {row : Option User} {message : String} {u : User}
    (hrow : outcome (work (Work.user id)) s = (.ok row, s))
    (hu : outcome (found message row) s = (.ok u, s)) : s.user? id = some u := by
  rw [outcome_user] at hrow
  exact (Except.ok.inj (congrArg Prod.fst hrow)).trans (found_eq_ok hu)

theorem current_eq_ok (h : outcome (current shared m r) s = (.ok response, s')) :
    ∃ p u, IsFor shared m r p ∧ s.user? p.userId = some u ∧
      response = .json 200 (u.accountView p.token).reply := by
  obtain ⟨p, hp, h₁⟩ := bind_eq_ok_of_reads h (reads_principal _ _ _)
  obtain ⟨row, hrow, h₂⟩ := bind_eq_ok_of_reads h₁ (reads_work (reads_ask rfl))
  obtain ⟨u, hu, h₃⟩ := bind_eq_ok_of_reads h₂ (reads_found _ _)
  obtain ⟨rfl, rfl⟩ := eq_of_outcome_pure h₃
  exact ⟨p, u, ofExcept_eq_ok hp, user_eq_ok hrow hu, rfl⟩

theorem update_eq_ok (h : outcome (update shared m r) s = (.ok response, s')) :
    ∃ p u, IsFor shared m r p ∧ response = answer shared m 200 u ∧
      (s.user? p.userId = some u ∧ s' = s ∨
        ∃ columns, s.updateUser p.userId columns m.now = .ok (some u, s')) := by
  obtain ⟨p, hp, h₁⟩ := bind_eq_ok_of_reads h (reads_principal _ _ _)
  obtain ⟨changes, -, h₂⟩ := bind_eq_ok_of_reads h₁ (reads_payload _ _)
  cases hempty : changes.isEmpty with
  | true =>
      simp only [hempty, if_true] at h₂
      obtain ⟨row, hrow, h₃⟩ := bind_eq_ok_of_reads h₂ (reads_work (reads_ask rfl))
      obtain ⟨u, hu, h₄⟩ := bind_eq_ok_of_reads h₃ (reads_found _ _)
      obtain ⟨rfl, rfl⟩ := eq_of_outcome_pure h₄
      exact ⟨p, u, ofExcept_eq_ok hp, rfl, .inl ⟨user_eq_ok hrow hu, rfl⟩⟩
  | false =>
      simp only [hempty, Bool.false_eq_true, if_false] at h₂
      obtain ⟨_, -, h₃⟩ := bind_eq_ok_of_reads h₂
        (reads_refuseForeign _ _ (fun _ => reads_ask rfl) _)
      obtain ⟨_, -, h₄⟩ := bind_eq_ok_of_reads h₃
        (reads_refuseForeign _ _ (fun _ => reads_ask rfl) _)
      obtain ⟨passwordHash, -, h₅⟩ := bind_eq_ok_of_reads h₄ (reads_hashes _)
      rw [outcome_bind, outcome_workWith, Work.outcome_updateUser] at h₅
      cases hupdate : s.updateUser p.userId
          ⟨changes.username, changes.email, passwordHash, changes.bio, changes.image⟩ m.now with
      | error e => cases e <;> rw [hupdate] at h₅ <;> exact nomatch congrArg Prod.fst h₅
      | ok written =>
          rw [hupdate] at h₅
          obtain ⟨_ | u, t⟩ := written
          · exact nomatch congrArg Prod.fst h₅
          · obtain ⟨rfl, rfl⟩ := eq_of_outcome_pure h₅
            exact ⟨p, u, ofExcept_eq_ok hp, rfl, .inr ⟨_, hupdate⟩⟩

end Accounts

namespace Articles

variable {raw : String}

theorem outcome_bySlug (hs : s.Sound) {a : Article} (ha : a ∈ s.articles) :
    ∃ author, outcome (work (Work.articleBySlug a.slug)) s = (.ok (some ⟨a, author⟩), s) := by
  obtain ⟨author, hfind⟩ := hs.find?_slug ha
  refine ⟨author, ?_⟩
  rw [outcome_work, Work.articleBySlug, outcome_ask, ← hfind]
  rfl

theorem outcome_load (hs : s.Sound) {a : Article} (ha : a ∈ s.articles) :
    ∃ author, outcome (load a.slug) s = (.ok ⟨a, author⟩, s) := by
  obtain ⟨author, hask⟩ := outcome_bySlug hs ha
  exact ⟨author, outcome_bind_of_ok hask⟩

theorem create_eq_ok (hs : s.Sound) (h : outcome (create shared m r) s = (.ok response, s')) :
    ∃ p slug draft, IsFor shared m r p ∧ ∃ u ∈ s.users, u.id = p.userId ∧
      response = answer 201 ⟨s.newArticle slug draft u.id m.now, u.profile⟩ ∧
      s' = s.withArticle (s.newArticle slug draft u.id m.now) := by
  obtain ⟨p, hp, h₁⟩ := bind_eq_ok_of_reads h (reads_principal _ _ _)
  obtain ⟨draft, -, h₂⟩ := bind_eq_ok_of_reads h₁ (reads_payload _ _)
  by_cases htitle : Slug.ofTitle draft.title = ""
  · rw [outcome_bind, outcome_work, Work.outcome_createArticle_of_no_slug htitle] at h₂
    exact nomatch congrArg Prod.fst h₂
  by_cases hauthor : ∃ u ∈ s.users, u.id = p.userId
  · obtain ⟨u, hu, hup⟩ := hauthor
    rw [outcome_bind, outcome_work, ← hup, Work.outcome_createArticle hs hu htitle] at h₂
    cases hslug : Slug.choice? (Slug.ofTitle draft.title) m.now.seconds.toNat
        (s.slugsBut none) with
    | none =>
        rw [hslug] at h₂
        exact nomatch congrArg Prod.fst h₂
    | some slug =>
        rw [hslug] at h₂
        obtain ⟨rfl, rfl⟩ := eq_of_outcome_pure h₂
        exact ⟨p, slug, draft, ofExcept_eq_ok hp, u, hu, hup, rfl, rfl⟩
  · rw [outcome_bind, outcome_work, Work.outcome_createArticle_of_no_author hauthor] at h₂
    exact nomatch congrArg Prod.fst h₂

theorem update_eq_ok (hs : s.Sound) (h : outcome (update shared m r raw) s = (.ok response, s')) :
    ∃ p, IsFor shared m r p ∧ ∃ a ∈ s.articles, a.authorId = p.userId ∧
      ∃ author, parameter? raw = some a.slug ∧
        (response = answer 200 ⟨a, author⟩ ∧ s' = s ∨
          ∃ slug changes, response =
              answer 200 ⟨Store.changeArticle a slug changes m.now, author⟩ ∧
            s' = s.withRevision a.id slug changes m.now) := by
  obtain ⟨p, hp, h₁⟩ := bind_eq_ok_of_reads h (reads_principal _ _ _)
  obtain ⟨slug, hraw, h₂⟩ := bind_eq_ok_of_reads h₁ (reads_parameter _ _)
  obtain ⟨own, hload, h₃⟩ := bind_eq_ok_of_reads h₂ (reads_loadOwn _ _)
  obtain ⟨changes, -, h₄⟩ := bind_eq_ok_of_reads h₃ (reads_payload _ _)
  obtain ⟨hmem, rfl, hauthor⟩ := loadOwn_eq_ok hload
  obtain ⟨ha, -⟩ := Store.of_mem_authoredArticles hmem
  rw [outcome_bind, outcome_work] at h₄
  rcases Work.outcome_updateArticle_cases hs own.thing changes m.now with
    ⟨e, houtcome⟩ | ⟨a, ha', hid, u, -, -, ⟨-, houtcome⟩ | ⟨-, newSlug, -, houtcome⟩⟩
  · rw [houtcome] at h₄
    exact nomatch congrArg Prod.fst h₄
  · obtain rfl := hs.article_eq ha' ha hid
    rw [houtcome] at h₄
    obtain ⟨rfl, rfl⟩ := eq_of_outcome_pure h₄
    exact ⟨p, ofExcept_eq_ok hp, own.thing, ha, hauthor, u.profile, parameter_eq_ok hraw,
      .inl ⟨rfl, rfl⟩⟩
  · obtain rfl := hs.article_eq ha' ha hid
    rw [houtcome] at h₄
    obtain ⟨rfl, rfl⟩ := eq_of_outcome_pure h₄
    exact ⟨p, ofExcept_eq_ok hp, own.thing, ha, hauthor, u.profile, parameter_eq_ok hraw,
      .inr ⟨newSlug, changes, rfl, rfl⟩⟩

theorem delete_eq_ok (h : outcome (delete shared m r raw) s = (.ok response, s')) :
    ∃ p, IsFor shared m r p ∧ ∃ a ∈ s.articles, a.authorId = p.userId ∧
      parameter? raw = some a.slug ∧ response = .bare 204 ∧ s' = (s.deleteArticle a.id).2 := by
  obtain ⟨p, hp, h₁⟩ := bind_eq_ok_of_reads h (reads_principal _ _ _)
  obtain ⟨slug, hraw, h₂⟩ := bind_eq_ok_of_reads h₁ (reads_parameter _ _)
  obtain ⟨own, hload, h₃⟩ := bind_eq_ok_of_reads h₂ (reads_loadOwn _ _)
  obtain ⟨hmem, rfl, hauthor⟩ := loadOwn_eq_ok hload
  obtain ⟨ha, -⟩ := Store.of_mem_authoredArticles hmem
  rw [outcome_bind, outcome_work, Work.outcome_deleteArticle_of_mem ha] at h₃
  obtain ⟨rfl, rfl⟩ := eq_of_outcome_pure h₃
  exact ⟨p, ofExcept_eq_ok hp, own.thing, ha, hauthor, parameter_eq_ok hraw, rfl, rfl⟩

theorem comment_eq_ok (hs : s.Sound) (h : outcome (comment shared m r raw) s = (.ok response, s')) :
    ∃ p, IsFor shared m r p ∧ ∃ a ∈ s.articles, ∃ u ∈ s.users, u.id = p.userId ∧
      ∃ body, parameter? raw = some a.slug ∧
        response = .json 201
          (Authored.commentView ⟨s.newComment a.id u.id body m.now, u.profile⟩).reply ∧
        s' = s.withComment (s.newComment a.id u.id body m.now) := by
  obtain ⟨p, hp, h₁⟩ := bind_eq_ok_of_reads h (reads_principal _ _ _)
  obtain ⟨slug, hraw, h₂⟩ := bind_eq_ok_of_reads h₁ (reads_parameter _ _)
  obtain ⟨draft, -, h₃⟩ := bind_eq_ok_of_reads h₂ (reads_payload _ _)
  obtain ⟨row, hload, h₄⟩ := bind_eq_ok_of_reads h₃ (reads_load _)
  obtain ⟨hmem, rfl⟩ := load_eq_ok hload
  obtain ⟨ha, -⟩ := Store.of_mem_authoredArticles hmem
  by_cases hauthor : ∃ u ∈ s.users, u.id = p.userId
  · obtain ⟨u, hu, hup⟩ := hauthor
    rw [outcome_bind, outcome_work, ← hup, Work.outcome_createComment hs ha hu] at h₄
    obtain ⟨rfl, rfl⟩ := eq_of_outcome_pure h₄
    exact ⟨p, ofExcept_eq_ok hp, row.thing, ha, u, hu, hup, draft.body, parameter_eq_ok hraw, rfl,
      rfl⟩
  · rw [outcome_bind, outcome_work,
      Work.outcome_createComment_of_missing fun h => hauthor h.1] at h₄
    exact nomatch congrArg Prod.fst h₄

theorem deleteComment_eq_ok {rawId : String}
    (h : outcome (deleteComment shared m r raw rawId) s = (.ok response, s')) :
    ∃ p, IsFor shared m r p ∧ ∃ a ∈ s.articles, ∃ c ∈ s.comments, c.authorId = p.userId ∧
      c.articleId = a.id ∧ commentParameters? raw rawId = some (a.slug, c.id) ∧
      response = .bare 204 ∧ s' = (s.deleteComment c.id).2 := by
  obtain ⟨p, hp, h₁⟩ := bind_eq_ok_of_reads h (reads_principal _ _ _)
  cases hraw : commentParameters? raw rawId with
  | none =>
      rw [hraw] at h₁
      exact nomatch congrArg Prod.fst h₁
  | some parameters =>
      obtain ⟨slug, id⟩ := parameters
      rw [hraw] at h₁
      obtain ⟨row, hload, h₂⟩ := bind_eq_ok_of_reads h₁ (reads_load _)
      obtain ⟨found, hfound, h₃⟩ := bind_eq_ok_of_reads h₂ (reads_work (reads_ask rfl))
      obtain ⟨own, hown, h₄⟩ := bind_eq_ok_of_reads h₃ (reads_ofExcept _ _)
      obtain ⟨hmem, rfl⟩ := load_eq_ok hload
      obtain ⟨ha, -⟩ := Store.of_mem_authoredArticles hmem
      obtain ⟨hc, rfl, hon, hauthor⟩ := ownComment_eq_ok hfound hown
      rw [outcome_bind, outcome_work, Work.outcome_deleteComment_of_mem hc] at h₄
      obtain ⟨rfl, rfl⟩ := eq_of_outcome_pure h₄
      exact ⟨p, ofExcept_eq_ok hp, row.thing, ha, own, hc, hauthor, hon, rfl, rfl, rfl⟩

end Articles

theorem RequestError.le_status (e : RequestError) : 400 ≤ e.status := by
  cases e <;> simp [status]

theorem RequestError.status_le (e : RequestError) : e.status ≤ 500 := by
  cases e <;> simp [status]

namespace Application

theorem run_respond {route : Route} {handler : Handler} (app : Application)
    (hroute : Route.ofPath? r.path = some route)
    (hhandler : handler? app.shared m r route = some handler) (s : Store) :
    (app.respond m r).run s =
      (complete app.audience m r (reply (outcome handler s).1), (outcome handler s).2) := by
  rw [respond, handle_of_handler? hroute hhandler, run_bind, run_finish]
  rfl

theorem ok_of_status {route : Route} {handler : Handler} (app : Application)
    (hroute : Route.ofPath? r.path = some route)
    (hhandler : handler? app.shared m r route = some handler)
    (hstatus : ((app.respond m r).run s).1.status < 400) :
    ∃ response s', outcome handler s = (.ok response, s') ∧
      (app.respond m r).run s = (complete app.audience m r response, s') := by
  have hrun := run_respond app hroute hhandler s
  rcases houtcome : outcome handler s with ⟨e | response, s'⟩
  · rw [hrun, houtcome] at hstatus
    exact absurd hstatus (Nat.not_lt.mpr e.le_status)
  · rw [houtcome] at hrun
    exact ⟨response, s', rfl, hrun⟩

end Application

end

end Weblog
