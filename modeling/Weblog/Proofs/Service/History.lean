import Weblog.Proofs.Service.Chronology
import Weblog.Proofs.Service.Shelf
import Weblog.Proofs.Service.StaleOwnership

namespace Weblog

open Session Handler Application

/-- The request asks for the page of the listing of all articles before which there are `k` pages of
the same size. -/
def Request.AsksForPage (r : Request) (size k : Nat) : Prop :=
  r.method = .get ∧ Route.ofPath? r.path = some .articles ∧
    ∃ q, listQuery? r.query = some q ∧ q.onlyBy = none ∧ q.pageSize = size ∧ q.skipped = k * size

/-- The request asks for the comments on the article with the slug. -/
def Request.AsksForComments (r : Request) (slug : String) : Prop :=
  r.method = .get ∧ ∃ raw, Route.ofPath? r.path = some (.comments raw) ∧ parameter? raw = some slug

section

variable {s : Store} {m : Moment} {r : Request}

theorem Application.run_respond_json {route : Route} {handler : Handler} (app : Application)
    (hroute : Route.ofPath? r.path = some route) (hmethod : r.method = .get)
    (hhandler : handler? app.shared m r route = some handler) {value : Json.Value}
    (houtcome : outcome handler s = (.ok (.json 200 value), s)) :
    ((app.respond m r).run s).2 = s ∧ ((app.respond m r).run s).1.status = 200 ∧
      ((app.respond m r).run s).1.value = value := by
  have hnothead : r.method ≠ .head := by
    rw [hmethod]
    decide
  rw [run_respond app hroute hhandler, houtcome]
  exact ⟨rfl, rfl, Response.value_complete hnothead app.audience m (.json 200 value)⟩

theorem Articles.outcome_list {q : ListQuery} (hq : listQuery? r.query = some q) (s : Store) :
    outcome (list r) s =
      (.ok (.json 200 (ArticlePage.reply
        ⟨(((s.listing q.onlyBy).drop q.skipped.toNat).take q.pageSize.toNat).map
          Authored.articleView, (s.articlesBy q.onlyBy).length⟩)), s) := by
  rw [list, hq]
  rfl

theorem Articles.outcome_comments (hs : s.Sound) {a : Article} (ha : a ∈ s.articles) {raw : String}
    (hraw : parameter? raw = some a.slug) :
    outcome (comments raw) s =
      (.ok (.json 200 (commentsReply ((s.discussion a.id).map Authored.commentView))), s) := by
  obtain ⟨author, hload⟩ := outcome_load hs ha
  have hparameter : parameter "slug" raw = pure a.slug := by
    rw [parameter, hraw]
  rw [comments, hparameter]
  exact outcome_bind_of_ok hload

theorem ArticlePage.slugs_reply (page : ArticlePage) :
    ((page.reply.field "articles").items.map fun a => (a.field "slug").text) =
      page.articles.map (·.slug) :=
  List.map_map ..

theorem commentIds_reply (comments : List CommentView) :
    (((commentsReply comments).field "comments").items.map fun c => (c.field "id").number) =
      comments.map (·.id) :=
  List.map_map ..

theorem Request.AsksForPage.answer {size k : Nat} (hr : r.AsksForPage size k) (app : Application)
    (m : Moment) (s : Store) :
    ((app.respond m r).run s).2 = s ∧ ((app.respond m r).run s).1.status = 200 ∧
      ((app.respond m r).run s).1.slugs =
        (((s.listing none).map (·.thing.slug)).drop (k * size)).take size := by
  obtain ⟨hmethod, hroute, q, hq, honly, hsize, hskipped⟩ := hr
  obtain ⟨hstore, hstatus, hvalue⟩ :=
    run_respond_json app hroute hmethod (handler?_list (.inl hmethod)) (Articles.outcome_list hq s)
  refine ⟨hstore, hstatus, ?_⟩
  have hdrop : q.skipped.toNat = k * size := by
    rw [hskipped, ← Int.natCast_mul, Int.toNat_natCast]
  rw [Response.slugs, hvalue, ArticlePage.slugs_reply, honly, hsize, hdrop, Int.toNat_natCast,
    List.map_map, ← List.map_drop, ← List.map_take]
  rfl

theorem Request.AsksForComments.answer (hs : s.Sound) {a : Article} (ha : a ∈ s.articles)
    (hr : r.AsksForComments a.slug) (app : Application) (m : Moment) :
    ((app.respond m r).run s).2 = s ∧ ((app.respond m r).run s).1.status = 200 ∧
      ((app.respond m r).run s).1.commentIds = (s.discussion a.id).map (·.thing.id) := by
  obtain ⟨hmethod, raw, hroute, hraw⟩ := hr
  obtain ⟨hstore, hstatus, hvalue⟩ :=
    run_respond_json app hroute hmethod (handler?_comments (.inl hmethod) raw)
      (Articles.outcome_comments hs ha hraw)
  refine ⟨hstore, hstatus, ?_⟩
  rw [Response.commentIds, hvalue, commentIds_reply, List.map_map]
  rfl

theorem exchanges_of_reads {reads : List Visit} (h : ∀ v ∈ reads, (v.work.run s).2 = s) :
    exchanges s reads = reads.map fun v => (v.request, (v.work.run s).1) := by
  induction reads with
  | nil => rfl
  | cons v reads ih =>
      obtain ⟨hv, hreads⟩ := List.forall_mem_cons.mp h
      rw [exchanges, hv, ih hreads, List.map_cons]

theorem exchanges_pages {page : Nat → Visit} {size n : Nat}
    (hpage : ∀ k < n, (page k).request.AsksForPage size k)
    (henough : (s.listing none).length ≤ n * size) :
    (∀ exchange ∈ exchanges s ((List.range n).map page), exchange.2.status = 200) ∧
      (exchanges s ((List.range n).map page)).flatMap (·.2.slugs) =
        (s.listing none).map (·.thing.slug) := by
  have hanswer : ∀ k ∈ List.range n, ((page k).work.run s).2 = s ∧
      ((page k).work.run s).1.status = 200 ∧ ((page k).work.run s).1.slugs =
        (((s.listing none).map (·.thing.slug)).drop (k * size)).take size :=
    fun k hk => (hpage k (List.mem_range.mp hk)).answer (page k).app (page k).moment s
  rw [exchanges_of_reads (List.forall_mem_map.mpr fun k hk => (hanswer k hk).1), List.map_map]
  refine ⟨List.forall_mem_map.mpr fun k hk => (hanswer k hk).2.1, ?_⟩
  rw [List.flatMap_map]
  refine (List.flatMap_congr fun k hk => (hanswer k hk).2.2).trans (flatMap_pages _ ?_)
  rwa [List.length_map]

end

/-- Whatever has been requested, in whatever order and with whatever success, page after page shows
exactly the articles whose publication was granted and whose deletion was not, each once; and for
each of them the comments, likewise. As long as the clock does not go back, the articles come in the
reverse of the order in which they were published, and the comments in the order in which they were
made. -/
theorem reads_show_history (visits : List Visit) :
    ((shelf (exchanges .empty visits)).map Holding.slug).Nodup ∧
    (∀ (page : Nat → Visit) (size n : Nat),
      (∀ k < n, (page k).request.AsksForPage size k) →
      (shelf (exchanges .empty visits)).length ≤ n * size →
      (∀ exchange ∈ exchanges (.visited visits) ((List.range n).map page),
        exchange.2.status = 200) ∧
      ((exchanges (.visited visits) ((List.range n).map page)).flatMap (·.2.slugs)).Perm
        ((shelf (exchanges .empty visits)).map Holding.slug) ∧
      (KeepsTime visits →
        (exchanges (.visited visits) ((List.range n).map page)).flatMap (·.2.slugs) =
          ((shelf (exchanges .empty visits)).map Holding.slug).reverse)) ∧
    (∀ e ∈ shelf (exchanges .empty visits), e.comments.Nodup ∧
      ∀ v : Visit, v.request.AsksForComments e.slug →
        (v.work.run (.visited visits)).1.status = 200 ∧
        (v.work.run (.visited visits)).1.commentIds.Perm e.comments ∧
        (KeepsTime visits → (v.work.run (.visited visits)).1.commentIds = e.comments)) := by
  have hs := (Store.served_visited visits).reachable.sound
  have horder : KeepsTime visits → (Store.visited visits).InOrder := Store.inOrder_visited
  -- what is known is what the tables hold, so it is enough to look at one store
  rw [← Store.holdings_visited visits]
  generalize Store.visited visits = s at hs horder
  have hslugs : s.holdings.map Holding.slug = s.articles.map Article.slug := List.map_map ..
  have hlisting : (s.listing none).map (·.thing.slug) =
      ((s.listing none).map (·.thing)).map Article.slug := (List.map_map ..).symm
  rw [hslugs]
  refine ⟨hs.slugs, fun page size n hpage henough => ?_, fun e he => ?_⟩
  · have hlength : (s.listing none).length = s.holdings.length := by
      rw [Store.holdings, List.length_map, ← hs.listing_perm.length_eq, List.length_map]
    obtain ⟨hstatus, hshown⟩ := exchanges_pages (s := s) hpage (hlength ▸ henough)
    rw [hshown, hlisting]
    refine ⟨hstatus, hs.listing_perm.map _, fun hclock => ?_⟩
    rw [hs.listing_eq (horder hclock), List.map_reverse]
  · obtain ⟨a, ha, rfl⟩ := List.mem_map.mp he
    refine ⟨hs.commentIds.sublist (List.filter_sublist.map _), fun v hv => ?_⟩
    obtain ⟨-, hstatus, hshown⟩ := hv.answer hs ha v.app v.moment
    have hdiscussion : (s.discussion a.id).map (·.thing.id) =
        ((s.discussion a.id).map (·.thing)).map Comment.id := (List.map_map ..).symm
    rw [hdiscussion] at hshown
    refine ⟨hstatus, ?_, fun hclock => ?_⟩
    · exact hshown ▸ (hs.discussion_perm a.id).map _
    · exact hshown.trans (congrArg _ (hs.discussion_eq (horder hclock) a.id))

namespace Sample

/-- The listing is read one article at a time. -/
def page (k : Nat) : Visit :=
  ⟨app, moment, ⟨.get, "/api/articles", s!"limit=1&offset={k}", [], []⟩⟩

def readComments (slug : String) : Visit :=
  ⟨app, moment, ⟨.get, "/api/articles/" ++ slug ++ "/comments", "", [], []⟩⟩

/-- `alice` comments on her first article and gives it another title. -/
def renamed : List Visit :=
  [⟨app, moment, register⟩, ⟨app, moment, publish "Hello"⟩, ⟨app, moment, comment "hello" "c"⟩,
    ⟨app, moment, rename "hello" "New"⟩]

theorem visited_renamed : Store.visited renamed = remarked "new" "New" := by
  have hrenamed : renamed = [] ++ [⟨app, moment, register⟩] ++ [⟨app, moment, publish "Hello"⟩] ++
      [⟨app, moment, comment "hello" "c"⟩] ++ [⟨app, moment, rename "hello" "New"⟩] := rfl
  have hnone : Store.visited [] = .empty := rfl
  simp only [hrenamed, Store.visited_append, hnone, Visit.work, store_register, store_publish,
    store_comment, store_rename]

theorem keepsTime_renamed : KeepsTime renamed := by
  constructor <;> decide

end Sample

open Sample in
theorem reads_show_history_renamed :
    (exchanges (.visited renamed) ((List.range 1).map page)).flatMap (·.2.slugs) = ["new"] ∧
      ((readComments "new").work.run (.visited renamed)).1.commentIds = [1] := by
  obtain ⟨-, hpages, hcomments⟩ := reads_show_history renamed
  have hshelf : shelf (exchanges .empty renamed) = [⟨"new", [1]⟩] := by
    rw [← Store.holdings_visited, visited_renamed]
    rfl
  rw [hshelf] at hpages hcomments
  have hpage : ∀ k < 1, (page k).request.AsksForPage 1 k := by
    intro k hk
    obtain rfl : k = 0 := by omega
    exact ⟨rfl, by decide, ⟨some 1, some 0, none⟩, by decide, rfl, rfl, rfl⟩
  have hread : (readComments "new").request.AsksForComments "new" :=
    ⟨rfl, "new", by decide, by decide⟩
  refine ⟨(hpages page 1 1 hpage (by decide)).2.2 keepsTime_renamed, ?_⟩
  exact ((hcomments ⟨"new", [1]⟩ (List.mem_singleton_self _)).2 _ hread).2.2 keepsTime_renamed

end Weblog
