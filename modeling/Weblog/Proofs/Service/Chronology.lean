import Weblog.Proofs.Service.Reachability
import Weblog.Proofs.Store.Listing
import Weblog.Proofs.Time.Order

namespace Weblog

/-- The clock by which the visits are answered does not go back. It shows no leap seconds, and years
of four digits: rows are put in order by the texts of their times, where a longer year would come
first. -/
structure KeepsTime (visits : List Visit) : Prop where
  dated : ∀ v ∈ visits, v.moment.now.IsDated
  forward : visits.Pairwise fun v w => ¬ w.moment.now.Before v.moment.now

theorem Store.map_key_withRevision (s : Store) (id : Int) (slug : String)
    (changes : ArticleChanges) (now : Instant) :
    (s.withRevision id slug changes now).articles.map Article.key =
      s.articles.map Article.key := by
  rw [withRevision, List.map_map]
  refine List.map_congr_left fun a _ => ?_
  rw [Function.comp_apply]
  split
  · rfl
  · rfl

section

variable {shared : Shared} {m : Moment} {r : Request} {s : Store}
  {x : Except RequestError Response × Store}

/-- Of articles, there come none but one with the next number and the time of the request. -/
theorem Effect.articleKeys_sublist (h : Effect shared m r s x) :
    (x.2.articles.map Article.key).Sublist
      (s.articles.map Article.key ++ [(m.now.storedText, s.lastArticle + 1)]) := by
  have hsame : (s.articles.map Article.key).Sublist
      (s.articles.map Article.key ++ [(m.now.storedText, s.lastArticle + 1)]) :=
    List.sublist_append_left _ _
  cases h with
  | unchanged | remarked | withdrawn => exact hsame
  | registered _ _ _ _ hinsert =>
      obtain ⟨-, -, rfl⟩ := Store.insertUser_eq_ok hinsert
      exact hsame
  | changedAccount _ _ _ _ _ _ hupdate =>
      obtain ⟨users, rfl⟩ := Store.updateUser_others hupdate
      exact hsame
  | published =>
      rw [Store.withArticle, List.map_append]
      exact .refl _
  | revised =>
      rw [Store.map_key_withRevision]
      exact hsame
  | retracted => exact (List.filter_sublist.map _).trans hsame

theorem Effect.commentKeys_sublist (h : Effect shared m r s x) :
    (x.2.comments.map Comment.key).Sublist
      (s.comments.map Comment.key ++ [(m.now.storedText, s.lastComment + 1)]) := by
  have hsame : (s.comments.map Comment.key).Sublist
      (s.comments.map Comment.key ++ [(m.now.storedText, s.lastComment + 1)]) :=
    List.sublist_append_left _ _
  cases h with
  | unchanged | published | revised => exact hsame
  | registered _ _ _ _ hinsert =>
      obtain ⟨-, -, rfl⟩ := Store.insertUser_eq_ok hinsert
      exact hsame
  | changedAccount _ _ _ _ _ _ hupdate =>
      obtain ⟨users, rfl⟩ := Store.updateUser_others hupdate
      exact hsame
  | remarked =>
      rw [Store.withComment, List.map_append]
      exact .refl _
  | retracted | withdrawn => exact (List.filter_sublist.map _).trans hsame

end

section

variable {visits : List Visit} {v : Visit} {keys keys' : List (String × Int)} {last : Int}

/-- The keys are in order, and have the times of the visits. -/
structure DatedBy (visits : List Visit) (keys : List (String × Int)) : Prop where
  inOrder : keys.Pairwise fun a b => Store.notAfter a b = true
  times : ∀ key ∈ keys, ∃ v ∈ visits, key.1 = v.moment.now.storedText

theorem KeepsTime.of_append (h : KeepsTime (visits ++ [v])) : KeepsTime visits :=
  ⟨fun w hw => h.dated w (List.mem_append_left _ hw), (List.pairwise_append.mp h.forward).1⟩

theorem KeepsTime.not_lt (h : KeepsTime (visits ++ [v])) {w : Visit} (hw : w ∈ visits) :
    ¬ v.moment.now.storedText < w.moment.now.storedText := by
  have hv : v ∈ visits ++ [v] := List.mem_append_right _ (List.mem_singleton_self v)
  rw [Instant.storedText_lt_iff (h.dated v hv) (h.dated w (List.mem_append_left _ hw))]
  exact (List.pairwise_append.mp h.forward).2.2 w hw v (List.mem_singleton_self v)

theorem DatedBy.append (h : DatedBy visits keys) (hclock : KeepsTime (visits ++ [v]))
    (hlast : ∀ key ∈ keys, key.2 ≤ last)
    (hkeys : keys'.Sublist (keys ++ [(v.moment.now.storedText, last + 1)])) :
    DatedBy (visits ++ [v]) keys' where
  inOrder := by
    refine List.Pairwise.sublist hkeys (List.pairwise_append.mpr ⟨h.inOrder, by simp, ?_⟩)
    intro key hkey new hnew
    obtain ⟨w, hw, htime⟩ := h.times key hkey
    have hback := hclock.not_lt hw
    rw [List.mem_singleton.mp hnew, Store.notAfter_iff, htime]
    rcases lt_trichotomy w.moment.now.storedText v.moment.now.storedText with hlt | heq | hgt
    · exact .inl hlt
    · exact .inr ⟨heq, Int.le_add_one (hlast key hkey)⟩
    · exact absurd hgt hback
  times := by
    intro key hkey
    rcases List.mem_append.mp (hkeys.subset hkey) with hkey | hkey
    · obtain ⟨w, hw, htime⟩ := h.times key hkey
      exact ⟨w, List.mem_append_left _ hw, htime⟩
    · rw [List.mem_singleton.mp hkey]
      exact ⟨v, List.mem_append_right _ (List.mem_singleton_self v), rfl⟩

theorem Store.datedBy_visited (hclock : KeepsTime visits) :
    DatedBy visits ((visited visits).articles.map Article.key) ∧
      DatedBy visits ((visited visits).comments.map Comment.key) := by
  induction visits using List.reverseRecOn with
  | nil => exact ⟨⟨.nil, nofun⟩, ⟨.nil, nofun⟩⟩
  | append_singleton visits v ih =>
      obtain ⟨harticles, hcomments⟩ := ih hclock.of_append
      have hsound := (served_visited visits).reachable.sound
      obtain ⟨x, hx, -⟩ := Application.effect_respond hsound v.app v.moment v.request
      rw [visited_append]
      refine ⟨harticles.append hclock ?_ hx.articleKeys_sublist,
        hcomments.append hclock ?_ hx.commentKeys_sublist⟩
      · exact List.forall_mem_map.mpr hsound.articleIds_le
      · exact List.forall_mem_map.mpr hsound.commentIds_le

theorem Store.inOrder_visited (hclock : KeepsTime visits) : (visited visits).InOrder :=
  ⟨(datedBy_visited hclock).1.inOrder, (datedBy_visited hclock).2.inOrder⟩

end

end Weblog
