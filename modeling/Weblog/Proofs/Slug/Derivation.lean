import Weblog.Proofs.Service.Reachability

namespace Weblog

open Session

/-- The slug comes from the title: it is that of the title, or has a suffix behind that, which is
a small number or one of the readings of the clock. -/
def Slug.IsFrom (title : String) (readings : List Nat) (slug : String) : Prop :=
  ofTitle title ≠ "" ∧
    (slug = ofTitle title ∨
      ∃ n, slug = withSuffix (ofTitle title) n ∧ (1 ≤ n ∧ n ≤ 1000 ∨ n ∈ readings))

namespace Slug

variable {title slug : String} {readings : List Nat}

theorem IsFrom.append (h : IsFrom title readings slug) (reading : Nat) :
    IsFrom title (readings ++ [reading]) slug := by
  refine ⟨h.1, h.2.imp_right ?_⟩
  rintro ⟨n, hslug, hn⟩
  exact ⟨n, hslug, hn.imp_right (List.mem_append_left _)⟩

theorem isFrom_of_choice? {now : Nat} {held : List String} (htitle : ofTitle title ≠ "")
    (hchoice : choice? (ofTitle title) now held = some slug) :
    IsFrom title (readings ++ [now]) slug := by
  refine ⟨htitle, ?_⟩
  rcases mem_candidates_iff.mp (mem_candidates_of_choice? hchoice) with hslug | ⟨n, hslug, hn⟩
  · exact .inl hslug
  · exact .inr ⟨n, hslug, hn.imp_right fun hnow => by simp [hnow]⟩

end Slug

/-- In every row of the table, the slug comes from the title beside it. -/
def Store.SlugsAreFrom (s : Store) (readings : List Nat) : Prop :=
  ∀ a ∈ s.articles, Slug.IsFrom a.title readings a.slug

theorem Store.SlugsAreFrom.append {s : Store} {readings : List Nat}
    (h : s.SlugsAreFrom readings) (reading : Nat) : s.SlugsAreFrom (readings ++ [reading]) :=
  fun a ha => (h a ha).append reading

theorem Effect.slugsAreFrom {shared : Shared} {m : Moment} {r : Request} {s : Store}
    {x : Except RequestError Response × Store} {readings : List Nat} (hs : s.Sound)
    (hfrom : s.SlugsAreFrom readings) (h : Effect shared m r s x) :
    x.2.SlugsAreFrom (readings ++ [Handler.clock m]) := by
  have hfrom' := hfrom.append (Handler.clock m)
  cases h with
  | unchanged => exact hfrom'
  | registered hmethod hroute hdraft hhash hinsert =>
      obtain ⟨-, -, rfl⟩ := Store.insertUser_eq_ok hinsert
      exact hfrom'
  | changedAccount hmethod hroute hp hchanges hsome hhash hupdate =>
      obtain ⟨users, rfl⟩ := Store.updateUser_others hupdate
      exact hfrom'
  | published hmethod hroute hp hu hup hdraft htitle hslug =>
      intro a ha
      rcases List.mem_append.mp ha with ha | ha
      · exact hfrom' a ha
      · rw [List.mem_singleton.mp ha]
        exact Slug.isFrom_of_choice? htitle hslug
  | @revised p u own raw changes slug hmethod hroute hp hraw ha hu hua hown hchanges hsome hslug =>
      intro c hc
      obtain ⟨b, hb, rfl⟩ := List.mem_map.mp hc
      split
      · rename_i hid
        obtain rfl := hs.article_eq hb ha hid
        rw [Store.IsNewSlug] at hslug
        cases hnew : changes.title with
        | none =>
            rw [hnew] at hslug
            simpa [Store.changeArticle, hnew, hslug] using hfrom' b hb
        | some title =>
            rw [hnew] at hslug
            simp only [Store.changeArticle, hnew, Option.getD_some]
            exact Slug.isFrom_of_choice? hslug.1 hslug.2
      · exact hfrom' b hb
  | retracted => exact fun a ha => hfrom' a (List.mem_of_mem_filter ha)
  | remarked => exact hfrom'
  | withdrawn => exact hfrom'

/-- However many requests are answered one after another, the slug of every article comes from
the title of the article, with a suffix that is a small number or a reading of the clock by one of
the requests. -/
theorem slug_from_title (visits : List Visit) :
    ∀ a ∈ (Store.visited visits).articles,
      Slug.IsFrom a.title (visits.map fun v => Handler.clock v.moment) a.slug := by
  induction visits using List.reverseRecOn with
  | nil => exact fun a ha => nomatch ha
  | append_singleton visits v ih =>
      rw [Store.visited_append, List.map_append]
      have hsound := (Store.served_visited visits).reachable.sound
      obtain ⟨x, heffect, -⟩ := Application.effect_respond hsound v.app v.moment v.request
      exact heffect.slugsAreFrom hsound ih

namespace Sample

theorem store_publish_again :
    ((app.respond moment (publish "Hello")).run (store [article 1 "hello" "Hello"] 1)).2 =
      store [article 1 "hello" "Hello", article 2 "hello-1" "Hello"] 2 := by
  rw [store_asAlice route_publish (by decide) rfl rfl]
  decide +kernel

/-- `alice` registers and publishes two articles with one title. -/
def twins : List Visit :=
  [⟨app, moment, register⟩, ⟨app, moment, publish "Hello"⟩, ⟨app, moment, publish "Hello"⟩]

theorem visited_twins : Store.visited twins =
    store [article 1 "hello" "Hello", article 2 "hello-1" "Hello"] 2 := by
  have htwins : twins = [] ++ [⟨app, moment, register⟩] ++ [⟨app, moment, publish "Hello"⟩] ++
      [⟨app, moment, publish "Hello"⟩] := rfl
  have hnone : Store.visited [] = .empty := rfl
  simp only [htwins, Store.visited_append, hnone, Visit.work, store_register, store_publish,
    store_publish_again]

end Sample

open Sample in
theorem slug_from_title_twins :
    article 2 "hello-1" "Hello" ∈ (Store.visited twins).articles ∧
      Slug.IsFrom "Hello" [0, 0, 0] "hello-1" := by
  have hmem : article 2 "hello-1" "Hello" ∈ (Store.visited twins).articles := by
    rw [visited_twins]
    exact List.mem_cons_of_mem _ (List.mem_singleton_self _)
  have hreadings : (twins.map fun v => Handler.clock v.moment) = [0, 0, 0] := rfl
  have hfrom := slug_from_title twins _ hmem
  rw [hreadings] at hfrom
  exact ⟨hmem, hfrom⟩

end Weblog
