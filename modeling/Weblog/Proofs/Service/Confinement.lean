import Weblog.Proofs.Service.Effects
import Weblog.Proofs.Service.Reachability
import Weblog.Proofs.Service.Routing

namespace Weblog

open Session

/-- One thing that belongs to the user `u` is added, replaced or removed; with an article go the
comments on it. -/
inductive OwnChange (u : Int) (s : Store) : Store → Prop
  | account {old new : User} (hold : old ∈ s.users) (hid : old.id = u) (hnew : new.id = u) :
      OwnChange u s { s with users := s.users.map fun v => if v = old then new else v }
  | publish {a : Article} (hown : a.authorId = u) :
      OwnChange u s { s with articles := s.articles ++ [a], lastArticle := a.id }
  | revise {old new : Article} (hold : old ∈ s.articles) (hown : old.authorId = u)
      (hid : new.id = old.id) (hnew : new.authorId = u) :
      OwnChange u s { s with articles := s.articles.map fun a => if a = old then new else a }
  | retract {a : Article} (ha : a ∈ s.articles) (hown : a.authorId = u) :
      OwnChange u s { s with
        articles := s.articles.filter (· ≠ a)
        comments := s.comments.filter (·.articleId != a.id) }
  | remark {c : Comment} (hown : c.authorId = u) :
      OwnChange u s { s with comments := s.comments ++ [c], lastComment := c.id }
  | withdraw {c : Comment} (hc : c ∈ s.comments) (hown : c.authorId = u) :
      OwnChange u s { s with comments := s.comments.filter (· ≠ c) }

section

variable {α : Type} {l : List α} {p : α → Bool} {key : α → Int}

theorem filter_append_singleton {a : α} (ha : p a = false) :
    (l ++ [a]).filter p = l.filter p := by
  rw [List.filter_append, List.filter_singleton, ha]
  exact List.append_nil _

theorem filter_filter_of_imp {q : α → Bool} (h : ∀ a, p a = true → q a = true) :
    (l.filter q).filter p = l.filter p := by
  rw [List.filter_filter]
  apply List.filter_congr
  intro a _
  cases hp : p a with
  | false => rfl
  | true => rw [h a hp]; rfl

variable [DecidableEq α]

theorem filter_map_replace {old new : α} (hold : p old = false) (hnew : p new = false) :
    (l.map fun a => if a = old then new else a).filter p = l.filter p := by
  induction l with
  | nil => rfl
  | cons a rest ih =>
      rw [List.map_cons]
      by_cases ha : a = old
      · rw [if_pos ha, List.filter_cons_of_neg (by simp [hnew]),
          List.filter_cons_of_neg (by simp [ha, hold]), ih]
      · rw [if_neg ha, List.filter_cons, List.filter_cons, ih]

theorem map_key_eq (hl : (l.map key).Nodup) {a : α} (ha : a ∈ l) (g : α → α) :
    (l.map fun b => if key b = key a then g b else b) =
      l.map fun b => if b = a then g a else b := by
  apply List.map_congr_left
  intro b hb
  by_cases hid : key b = key a
  · rw [if_pos hid, eq_of_key_eq hl hb ha hid, if_pos rfl]
  · rw [if_neg hid, if_neg fun hba => hid (congrArg key hba)]

end

namespace OwnChange

variable {u : Int} {s s' : Store}

theorem users_others (h : OwnChange u s s') :
    s'.users.filter (·.id ≠ u) = s.users.filter (·.id ≠ u) := by
  cases h with
  | account _ hid hnew => exact filter_map_replace (by simp [hid]) (by simp [hnew])
  | _ => rfl

theorem articles_others (h : OwnChange u s s') :
    s'.articles.filter (·.authorId ≠ u) = s.articles.filter (·.authorId ≠ u) := by
  cases h with
  | publish hown => exact filter_append_singleton (by simp [hown])
  | revise _ hown _ hnew => exact filter_map_replace (by simp [hown]) (by simp [hnew])
  | retract _ hown =>
      refine filter_filter_of_imp fun b hb => ?_
      have hb : b.authorId ≠ u := by simpa using hb
      simpa using fun heq : b = _ => hb (heq ▸ hown)
  | _ => rfl

/-- Comments of others stay, but for those on articles of the user. -/
theorem comments_others (h : OwnChange u s s') :
    let isKept (c : Comment) : Bool :=
      c.authorId ≠ u && s.articles.all fun a => a.id ≠ c.articleId || a.authorId ≠ u
    s'.comments.filter isKept = s.comments.filter isKept := by
  intro isKept
  cases h with
  | retract ha hown =>
      refine filter_filter_of_imp fun c hc => ?_
      have hothers := List.all_eq_true.mp (Bool.and_eq_true_iff.mp hc).2 _ ha
      simp only [hown, ne_eq, not_true_eq_false, decide_false, Bool.or_false] at hothers
      simpa using fun heq : c.articleId = _ => of_decide_eq_true hothers heq.symm
  | remark hown => exact filter_append_singleton (by simp [isKept, hown])
  | withdraw _ hown =>
      refine filter_filter_of_imp fun b hb => ?_
      have hb : b.authorId ≠ u := by simpa using (Bool.and_eq_true_iff.mp hb).1
      simpa using fun heq : b = _ => hb (heq ▸ hown)
  | _ => rfl

end OwnChange

theorem Effect.confined {shared : Shared} {m : Moment} {r : Request} {s : Store}
    {x : Except RequestError Response × Store} (hs : s.Sound) (h : Effect shared m r s x) :
    x.2 = s ∨
      (r.method = .post ∧ Route.ofPath? r.path = some .users ∧
        ∃ u : User, x.2 = { s with users := s.users ++ [u], lastUser := u.id }) ∨
      ∃ p, Principal.ofHeaders shared.tokens (Handler.clock m) (r.values "authorization") = .ok p ∧
        OwnChange p.userId s x.2 := by
  cases h with
  | unchanged => exact .inl rfl
  | registered hmethod hroute hdraft hhash hinsert =>
      obtain ⟨hu, -, rfl⟩ := Store.insertUser_eq_ok hinsert
      exact .inr (.inl ⟨hmethod, hroute, _, by rw [hu]⟩)
  | @changedAccount p changes passwordHash u s' hmethod hroute hp hchanges hsome hhash hupdate =>
      refine .inr (.inr ⟨_, hp, ?_⟩)
      rcases Store.updateUser_eq_ok hupdate with ⟨-, hnone, -⟩ | ⟨old, hold, hnew, -, rfl⟩
      · exact nomatch hnone
      have hmem := List.mem_of_find?_eq_some hold
      have hid : old.id = p.userId := by simpa using List.find?_some hold
      rw [← hid, map_key_eq hs.userIds hmem fun _ => Store.changeUser old _ m.now]
      exact .account hmem rfl rfl
  | published hmethod hroute hp hu hup hdraft htitle hslug =>
      exact .inr (.inr ⟨_, hp, .publish hup⟩)
  | revised hmethod hroute hp hraw ha hu hua hown hchanges hsome hslug =>
      refine .inr (.inr ⟨_, hp, ?_⟩)
      simp only [Store.withRevision]
      rw [map_key_eq hs.articleIds ha]
      exact .revise ha hown rfl hown
  | retracted hmethod hroute hp hraw ha hown =>
      refine .inr (.inr ⟨_, hp, ?_⟩)
      simp only [Store.deleteArticle]
      rw [filter_key_ne hs.articleIds ha]
      exact .retract ha hown
  | remarked hmethod hroute hp hraw ha hu hup hdraft =>
      exact .inr (.inr ⟨_, hp, .remark hup⟩)
  | withdrawn hmethod hroute hp hraw ha hc hca hown =>
      refine .inr (.inr ⟨_, hp, ?_⟩)
      simp only [Store.deleteComment]
      rw [filter_key_ne hs.commentIds hc]
      exact .withdraw hc hown

/-- A request changes nothing; or it is a registration, and adds one user; or its first
authorization header shows a token that is accepted, and it changes one thing that belongs to the
user of that token. -/
theorem respond_confined {s : Store} (hs : Reachable s) (app : Application) (m : Moment)
    (r : Request) :
    ((app.respond m r).run s).2 = s ∨
      (r.method = .post ∧ r.path = "/api/users" ∧ ∃ u : User,
        ((app.respond m r).run s).2 = { s with users := s.users ++ [u], lastUser := u.id }) ∨
      ∃ value token claims, (r.values "authorization").head? = some value ∧
        Principal.token? value = .ok token ∧
        app.shared.tokens.verify (Handler.clock m) token = .ok claims ∧
        OwnChange claims.userId s ((app.respond m r).run s).2 := by
  obtain ⟨x, heffect, -⟩ := Application.effect_respond hs.sound app m r
  rcases heffect.confined hs.sound with hsame | ⟨hmethod, hroute, hadded⟩ | ⟨p, hp, hown⟩
  · exact .inl hsame
  · exact .inr (.inl ⟨hmethod, (Route.path_of_ofPath? hroute).symm, hadded⟩)
  · obtain ⟨value, token, claims, hvalue, htoken, hverify, rfl⟩ := Principal.ofHeaders_eq_ok hp
    exact .inr (.inr ⟨value, token, claims, hvalue, htoken, hverify, hown⟩)

open Sample in
theorem respond_confined_publish :
    ∃ value token claims, ((publish "Hello").values "authorization").head? = some value ∧
      Principal.token? value = .ok token ∧
      app.shared.tokens.verify (Handler.clock moment) token = .ok claims ∧
      OwnChange claims.userId (store [] 0) (store [article 1 "hello" "Hello"] 1) := by
  have h := respond_confined served_registered.reachable app moment (publish "Hello")
  rw [store_publish] at h
  rcases h with hsame | ⟨-, hpath, -⟩ | hown
  · exact absurd hsame (by decide)
  · exact absurd hpath (by decide)
  · exact hown

end Weblog
