import Weblog.Proofs.Service.Reachability
import Weblog.Proofs.Service.Success

/-!
What a client knows that sees all requests and their answers, and nothing else: which articles there
are, by the slugs under which they are found, and the numbers of the comments on each. The tables
hold just that, after every request.
-/

namespace Weblog

open Session Handler Application

namespace Json.Value

/-- The member with the key; nothing, where there is none. -/
def field (key : String) : Value → Value
  | .object members => (members.lookup key).getD .null
  | _ => .null

def items : Value → List Value
  | .array items => items
  | _ => []

def text : Value → String
  | .string s => s
  | _ => ""

def number : Value → Int
  | .int n => n
  | _ => 0

end Json.Value

namespace Response

def value (response : Response) : Json.Value :=
  match response.body with
  | .json value => value
  | _ => .null

/-- The slug of the article that the answer shows. -/
def slug (response : Response) : String :=
  ((response.value.field "article").field "slug").text

/-- The number of the comment that the answer shows. -/
def commentId (response : Response) : Int :=
  ((response.value.field "comment").field "id").number

/-- The slugs of the articles on the page that the answer shows, in order. -/
def slugs (response : Response) : List String :=
  (response.value.field "articles").items.map fun a => (a.field "slug").text

/-- The numbers of the comments that the answer shows, in order. -/
def commentIds (response : Response) : List Int :=
  (response.value.field "comments").items.map fun c => (c.field "id").number

theorem value_complete {r : Request} (hmethod : r.method ≠ .head) (audience : Audience) (m : Moment)
    (response : Response) : (complete audience m r response).value = response.value := by
  rw [value, complete]
  simp only [if_neg hmethod]
  rfl

end Response

/-- A request that is about to change what there is to read, with the parameters of its path. -/
inductive Deed where
  | publish
  | revise (raw : String)
  | retract (raw : String)
  | remark (raw : String)
  | withdraw (raw rawId : String)

/-- An article as it is known by its slug, and the numbers of the comments on it. -/
structure Holding where
  slug : String
  comments : List Int
deriving Repr, DecidableEq

namespace Deed

def method : Deed → Method
  | publish | remark _ => .post
  | revise _ => .put
  | retract _ | withdraw .. => .delete

def route : Deed → Route
  | publish => .articles
  | revise raw | retract raw => .article raw
  | remark raw => .comments raw
  | withdraw raw rawId => .comment raw rawId

/-- The status by which the deed is told to be done. -/
def status : Deed → Nat
  | publish | remark _ => 201
  | revise _ => 200
  | retract _ | withdraw .. => 204

/-- What becomes of the shelf by a deed that has been done. -/
def change (response : Response) (shelf : List Holding) : Deed → List Holding
  | publish => shelf ++ [⟨response.slug, []⟩]
  | revise raw =>
    shelf.map fun e => if parameter? raw = some e.slug then { e with slug := response.slug } else e
  | retract raw => shelf.filter fun e => parameter? raw ≠ some e.slug
  | remark raw =>
    shelf.map fun e =>
      if parameter? raw = some e.slug then { e with comments := e.comments ++ [response.commentId] }
      else e
  | withdraw raw rawId =>
    shelf.map fun e =>
      { e with
        comments := e.comments.filter fun id =>
          Articles.commentParameters? raw rawId ≠ some (e.slug, id) }

end Deed

/-- What the request does if it is granted, where it does anything to articles or comments. -/
def Request.deed? (r : Request) : Option Deed :=
  match Route.ofPath? r.path, r.method with
  | some .articles, .post => some .publish
  | some (.article raw), .put => some (.revise raw)
  | some (.article raw), .delete => some (.retract raw)
  | some (.comments raw), .post => some (.remark raw)
  | some (.comment raw rawId), .delete => some (.withdraw raw rawId)
  | _, _ => none

/-- What becomes of the shelf by a request and its answer. -/
def note (shelf : List Holding) (exchange : Request × Response) : List Holding :=
  match exchange.1.deed? with
  | none => shelf
  | some deed =>
    if exchange.2.status = deed.status then deed.change exchange.2 shelf else shelf

/-- What a client knows after the exchanges. -/
def shelf (history : List (Request × Response)) : List Holding :=
  history.foldl note []

/-- The requests of the visits and their answers, when one is answered after another. -/
def exchanges (s : Store) : List Visit → List (Request × Response)
  | [] => []
  | v :: visits => (v.request, (v.work.run s).1) :: exchanges (v.work.run s).2 visits

namespace Store

variable {s : Store} {a : Article}

def holding (s : Store) (a : Article) : Holding :=
  ⟨a.slug, (s.comments.filter (·.articleId == a.id)).map (·.id)⟩

def holdings (s : Store) : List Holding :=
  s.articles.map s.holding

theorem Sound.slug_eq_iff (hs : s.Sound) {b : Article} (ha : a ∈ s.articles) (hb : b ∈ s.articles) :
    b.slug = a.slug ↔ b.id = a.id := by
  constructor
  · intro hslug
    rw [List.inj_on_of_nodup_map hs.slugs hb ha hslug]
  · intro hid
    rw [hs.article_eq hb ha hid]

theorem Sound.holdings_withArticle (hs : s.Sound) (slug : String) (draft : ArticleDraft)
    (authorId : Int) (now : Instant) :
    (s.withArticle (s.newArticle slug draft authorId now)).holdings =
      s.holdings ++ [⟨slug, []⟩] := by
  have hnone : s.comments.filter (·.articleId == s.lastArticle + 1) = [] := by
    refine List.filter_eq_nil_iff.mpr fun c hc hnew => ?_
    obtain ⟨a, ha, hca⟩ := hs.commentArticles c hc
    have hle := hs.articleIds_le a ha
    have hid : c.articleId = s.lastArticle + 1 := by simpa using hnew
    omega
  have hholding : s.holding (s.newArticle slug draft authorId now) = ⟨slug, []⟩ := by
    rw [holding, newArticle, hnone]
    rfl
  rw [holdings, holdings, withArticle, List.map_append, ← hholding]
  rfl

theorem Sound.holdings_withRevision (hs : s.Sound) (ha : a ∈ s.articles) (slug : String)
    (changes : ArticleChanges) (now : Instant) :
    (s.withRevision a.id slug changes now).holdings =
      s.holdings.map fun e => if a.slug = e.slug then { e with slug } else e := by
  rw [holdings, holdings, withRevision, List.map_map, List.map_map]
  refine List.map_congr_left fun b hb => ?_
  have hiff : a.slug = b.slug ↔ b.id = a.id := eq_comm.trans (hs.slug_eq_iff ha hb)
  simp only [Function.comp_apply, holding, hiff]
  split
  · rfl
  · rfl

theorem Sound.holdings_deleteArticle (hs : s.Sound) (ha : a ∈ s.articles) :
    (s.deleteArticle a.id).2.holdings = s.holdings.filter fun e => a.slug ≠ e.slug := by
  rw [holdings, holdings, Store.deleteArticle, List.filter_map]
  have hfilter : s.articles.filter (·.id != a.id) =
      s.articles.filter ((fun e : Holding => decide (a.slug ≠ e.slug)) ∘ s.holding) := by
    refine List.filter_congr fun b hb => ?_
    have hiff : a.slug = b.slug ↔ b.id = a.id := eq_comm.trans (hs.slug_eq_iff ha hb)
    rw [Bool.eq_iff_iff]
    simp [holding, hiff]
  rw [← hfilter]
  refine List.map_congr_left fun b hb => ?_
  -- the comments on another article are on no article that goes
  have hother : b.id ≠ a.id := by simpa using (List.mem_filter.mp hb).2
  have hcomments : (s.comments.filter (·.articleId != a.id)).filter (·.articleId == b.id) =
      s.comments.filter (·.articleId == b.id) := by
    rw [List.filter_filter]
    refine List.filter_congr fun c _ => ?_
    rw [Bool.and_eq_left_iff_imp]
    intro hc
    simpa [show c.articleId = b.id by simpa using hc] using hother
  rw [holding, holding, hcomments]

theorem Sound.holdings_withComment (hs : s.Sound) (ha : a ∈ s.articles) (authorId : Int)
    (body : String) (now : Instant) :
    (s.withComment (s.newComment a.id authorId body now)).holdings =
      s.holdings.map fun e =>
        if a.slug = e.slug then { e with comments := e.comments ++ [s.lastComment + 1] }
        else e := by
  rw [holdings, holdings, withComment, List.map_map]
  refine List.map_congr_left fun b hb => ?_
  have hiff : a.slug = b.slug ↔ a.id = b.id :=
    eq_comm.trans ((hs.slug_eq_iff ha hb).trans eq_comm)
  simp only [Function.comp_apply, holding, hiff, newComment, List.filter_append, List.map_append]
  split
  · rename_i hid
    rw [List.filter_cons_of_pos (by simpa using hid)]
    rfl
  · rename_i hid
    rw [List.filter_cons_of_neg (by simpa using hid), List.filter_nil, List.map_nil,
      List.append_nil]

theorem Sound.holdings_deleteComment (hs : s.Sound) (ha : a ∈ s.articles) {c : Comment}
    (hc : c ∈ s.comments) (hca : c.articleId = a.id) :
    (s.deleteComment c.id).2.holdings =
      s.holdings.map fun e =>
        { e with comments := e.comments.filter fun id => (a.slug, c.id) ≠ (e.slug, id) } := by
  rw [holdings, holdings, Store.deleteComment, List.map_map]
  refine List.map_congr_left fun b hb => ?_
  have hiff : a.slug = b.slug ↔ b.id = a.id := eq_comm.trans (hs.slug_eq_iff ha hb)
  simp only [Function.comp_apply, holding, List.filter_map, List.filter_filter]
  refine congrArg (Holding.mk b.slug) (congrArg (List.map _) (List.filter_congr fun d hd => ?_))
  have hdc : d.id = c.id → d.articleId = a.id := fun hid =>
    eq_of_key_eq hs.commentIds hd hc hid ▸ hca
  rw [Bool.eq_iff_iff]
  simp only [Bool.and_eq_true, beq_iff_eq, bne_iff_ne, decide_eq_true_eq, ne_eq, Prod.mk.injEq,
    hiff]
  constructor
  · rintro ⟨hb, hne⟩
    exact ⟨fun h => hne h.2.symm, hb⟩
  · rintro ⟨hne, hb⟩
    exact ⟨hb, fun hid => hne ⟨hb ▸ hdc hid, hid.symm⟩⟩

end Store

section

variable {shared : Shared} {s s' : Store} {m : Moment} {r : Request} {response : Response}
  {deed : Deed}

theorem Request.of_deed? (h : r.deed? = some deed) :
    Route.ofPath? r.path = some deed.route ∧ r.method = deed.method := by
  rw [deed?] at h
  split at h
  case h_6 => exact nomatch h
  all_goals
    rename_i hroute hmethod
    obtain rfl := Option.some.inj h
    exact ⟨hroute, hmethod⟩

theorem Deed.method_eq_or (deed : Deed) :
    deed.method = .post ∨ deed.method = .put ∨ deed.method = .delete := by
  cases deed <;> simp [method]

theorem Deed.status_lt (deed : Deed) : deed.status < 400 := by
  cases deed <;> simp [status]

theorem Deed.change_congr {response' : Response} (h : response'.value = response.value)
    (shelf : List Holding) (deed : Deed) :
    deed.change response' shelf = deed.change response shelf := by
  cases deed <;> simp only [change, Response.slug, Response.commentId, h]

/-- The handler of the deed. -/
def Deed.handler (shared : Shared) (m : Moment) (r : Request) : Deed → Handler
  | publish => Articles.create shared m r
  | revise raw => Articles.update shared m r raw
  | retract raw => Articles.delete shared m r raw
  | remark raw => Articles.comment shared m r raw
  | withdraw raw rawId => Articles.deleteComment shared m r raw rawId

theorem Deed.handler?_eq (hmethod : r.method = deed.method) :
    handler? shared m r deed.route = some (deed.handler shared m r) := by
  cases deed <;> simp only [handler?, hmethod, Deed.method, Deed.route] <;> rfl

theorem Deed.holdings_of_ok (hs : s.Sound)
    (h : outcome (deed.handler shared m r) s = (.ok response, s')) :
    response.status = deed.status ∧ s'.holdings = deed.change response s.holdings := by
  cases deed with
  | publish =>
      obtain ⟨p, slug, draft, -, u, -, -, rfl, rfl⟩ := Articles.create_eq_ok hs h
      exact ⟨rfl, hs.holdings_withArticle slug draft u.id m.now⟩
  | revise raw =>
      obtain ⟨p, -, a, ha, -, author, hraw, hdone⟩ := Articles.update_eq_ok hs h
      simp only [change, hraw, Option.some.injEq]
      rcases hdone with ⟨rfl, rfl⟩ | ⟨slug, changes, rfl, rfl⟩
      · -- nothing was to change, and the slug is told again
        refine ⟨rfl, (List.map_id'' (fun e => ?_) _).symm⟩
        split
        · rename_i hslug
          exact congrArg (Holding.mk · e.comments) hslug
        · rfl
      · exact ⟨rfl, hs.holdings_withRevision ha slug changes m.now⟩
  | retract raw =>
      obtain ⟨p, -, a, ha, -, hraw, rfl, rfl⟩ := Articles.delete_eq_ok h
      simp only [change, hraw, ne_eq, Option.some.injEq]
      exact ⟨rfl, hs.holdings_deleteArticle ha⟩
  | remark raw =>
      obtain ⟨p, -, a, ha, u, -, -, body, hraw, rfl, rfl⟩ := Articles.comment_eq_ok hs h
      simp only [change, hraw, Option.some.injEq]
      exact ⟨rfl, hs.holdings_withComment ha u.id body m.now⟩
  | withdraw raw rawId =>
      obtain ⟨p, -, a, ha, c, hc, -, hca, hraw, rfl, rfl⟩ := Articles.deleteComment_eq_ok h
      simp only [change, hraw, ne_eq, Option.some.injEq]
      exact ⟨rfl, hs.holdings_deleteComment ha hc hca⟩

theorem Effect.holdings_eq {x : Except RequestError Response × Store}
    (h : Effect shared m r s x) (hdeed : r.deed? = none) : x.2.holdings = s.holdings := by
  cases h with
  | unchanged => rfl
  | registered _ _ _ _ hinsert =>
      obtain ⟨-, -, rfl⟩ := Store.insertUser_eq_ok hinsert
      rfl
  | changedAccount _ _ _ _ _ _ hupdate =>
      obtain ⟨users, rfl⟩ := Store.updateUser_others hupdate
      rfl
  | published hmethod hroute | revised hmethod hroute | retracted hmethod hroute
  | remarked hmethod hroute | withdrawn hmethod hroute =>
      rw [Request.deed?, hroute, hmethod] at hdeed
      exact nomatch hdeed

theorem Store.Sound.holdings_respond (hs : s.Sound) (app : Application) (m : Moment)
    (r : Request) :
    ((app.respond m r).run s).2.holdings =
      note s.holdings (r, ((app.respond m r).run s).1) := by
  rw [note]
  cases hdeed : r.deed? with
  | none =>
      obtain ⟨x, hx, -⟩ := effect_respond hs app m r
      exact hx.holdings_eq hdeed
  | some deed =>
      obtain ⟨hroute, hmethod⟩ := Request.of_deed? hdeed
      have hhandler : handler? app.shared m r deed.route = some (deed.handler app.shared m r) :=
        Deed.handler?_eq hmethod
      have hnothead : r.method ≠ .head := by
        rw [hmethod]
        rcases deed.method_eq_or with h | h | h <;> rw [h] <;> decide
      rw [run_respond app hroute hhandler]
      have heffect := effect_handler (m := m) hs hroute hhandler
      rcases houtcome : outcome (deed.handler app.shared m r) s with ⟨e | response, s'⟩
      · have hstatus : e.status ≠ deed.status := by
          have hless := deed.status_lt
          have hle := e.le_status
          omega
        rw [houtcome] at heffect
        simp only [heffect.store_of_error]
        exact (if_neg hstatus).symm
      · obtain ⟨hstatus, hholdings⟩ := Deed.holdings_of_ok hs houtcome
        have hvalue := response.value_complete hnothead app.audience m
        simp only [hholdings, reply]
        rw [deed.change_congr hvalue]
        exact (if_pos hstatus).symm

theorem exchanges_append (s : Store) (visits : List Visit) (v : Visit) :
    exchanges s (visits ++ [v]) = exchanges s visits ++
      [(v.request, (v.work.run (visits.foldl (fun s v => (v.work.run s).2) s)).1)] := by
  induction visits generalizing s with
  | nil => rfl
  | cons w visits ih =>
      rw [List.cons_append, exchanges, ih, exchanges, List.cons_append]
      rfl

/-- What a client knows is what the tables hold. -/
theorem Store.holdings_visited (visits : List Visit) :
    (visited visits).holdings = shelf (exchanges .empty visits) := by
  induction visits using List.reverseRecOn with
  | nil => rfl
  | append_singleton visits v ih =>
      have hsound := (served_visited visits).reachable.sound
      have hstep := hsound.holdings_respond v.app v.moment v.request
      rw [ih] at hstep
      rw [visited_append, exchanges_append, shelf, List.foldl_append]
      exact hstep

end

end Weblog
