import Weblog.Proofs.Store.Listing

namespace Weblog

/-- The user who was shown as `old` is shown as `new`, and others as before. -/
def Profile.renamed (old new : User) (p : Profile) : Profile :=
  if p.username = old.username then new.profile else p

/-- The thing beside its author, who may be the one that has been renamed. -/
def Authored.renamed (old new : User) (row : Authored α) : Authored α :=
  ⟨row.thing, row.author.renamed old new⟩

namespace Profile

variable {old new : User} {p : Profile}

theorem renamed_of_eq (h : p.username = old.username) : p.renamed old new = new.profile :=
  if_pos h

theorem renamed_of_ne (h : p.username ≠ old.username) : p.renamed old new = p :=
  if_neg h

end Profile

namespace Store

theorem Sound.userByName?_eq_some_iff {s : Store} (hs : s.Sound) {name : String} {u : User} :
    s.userByName? name = some u ↔ u ∈ s.users ∧ u.username = name := by
  constructor
  · intro hfind
    exact ⟨List.mem_of_find?_eq_some hfind, by simpa using List.find?_some hfind⟩
  · rintro ⟨hu, rfl⟩
    cases hfind : s.userByName? u.username with
    | none => exact absurd (List.find?_eq_none.mp hfind u hu) (by simp)
    | some v =>
        have hname : v.username = u.username := by simpa using List.find?_some hfind
        exact congrArg some
          (List.inj_on_of_nodup_map hs.usernames (List.mem_of_find?_eq_some hfind) hu hname)

theorem mergeSort_map_of_key (key : α → String × Int) (le : String × Int → String × Int → Bool)
    {g : α → α} (hg : ∀ row, key (g row) = key row) (rows : List α) :
    (((rows.map g).map fun row => (key row, row)).mergeSort fun a b => le a.1 b.1).map (·.2) =
      (((rows.map fun row => (key row, row)).mergeSort fun a b => le a.1 b.1).map (·.2)).map g := by
  have hkeys : (rows.map g).map (fun row => (key row, row)) =
      (rows.map fun row => (key row, row)).map (Prod.map id g) := by
    rw [List.map_map, List.map_map]
    exact List.map_congr_left fun row _ => congrArg (Prod.mk · (g row)) (hg row)
  rw [hkeys, ← List.map_mergeSort (r := fun a b => le a.1 b.1) (fun _ _ _ _ => rfl), List.map_map,
    List.map_map]
  rfl

theorem articleKey_renamed (old new : User) (row : Authored Article) :
    articleKey (row.renamed old new) = articleKey row := rfl

theorem commentKey_renamed (old new : User) (row : Authored Comment) :
    commentKey (row.renamed old new) = commentKey row := rfl

/-- One user has another name, and no other row has changed. -/
structure Renames (s s' : Store) (old new : User) : Prop where
  sound : s.Sound
  soundAfter : s'.Sound
  mem : old ∈ s.users
  id : new.id = old.id
  username : new.username ≠ old.username
  users : s'.users = s.users.map fun u => if u.id = old.id then new else u
  articles : s'.articles = s.articles
  comments : s'.comments = s.comments

namespace Renames

variable {s s' : Store} {old new : User} (h : s.Renames s' old new)
include h

theorem mem_users_iff {u : User} : u ∈ s'.users ↔ u = new ∨ u ∈ s.users ∧ u.id ≠ old.id := by
  rw [h.users, List.mem_map]
  constructor
  · rintro ⟨v, hv, rfl⟩
    by_cases hid : v.id = old.id
    · exact .inl (if_pos hid)
    · rw [if_neg hid]
      exact .inr ⟨hv, hid⟩
  · rintro (rfl | ⟨hu, hid⟩)
    · exact ⟨old, h.mem, if_pos rfl⟩
    · exact ⟨u, hu, if_neg hid⟩

theorem username_eq_iff {u : User} (hu : u ∈ s.users) :
    u.username = old.username ↔ u.id = old.id := by
  constructor
  · intro hname
    exact congrArg User.id (List.inj_on_of_nodup_map h.sound.usernames hu h.mem hname)
  · intro hid
    exact congrArg User.username (eq_of_key_eq h.sound.userIds hu h.mem hid)

theorem username_ne_new {u : User} (hu : u ∈ s.users) (hid : u.id ≠ old.id) :
    u.username ≠ new.username := by
  intro hname
  have hsame : u = new := List.inj_on_of_nodup_map h.soundAfter.usernames
    (h.mem_users_iff.mpr (.inr ⟨hu, hid⟩)) (h.mem_users_iff.mpr (.inl rfl)) hname
  exact hid (hsame ▸ h.id)

theorem username_ne_old {u : User} (hu : u ∈ s'.users) : u.username ≠ old.username := by
  rcases h.mem_users_iff.mp hu with rfl | ⟨hu, hid⟩
  · exact h.username
  · exact fun hname => hid ((h.username_eq_iff hu).mp hname)

theorem user? (id : Int) :
    s'.user? id = (s.user? id).map fun u => if u.id = old.id then new else u := by
  rw [Store.user?, h.users, List.find?_map]
  congr 2
  funext u
  by_cases hid : u.id = old.id
  · simp [hid, h.id]
  · simp [hid]

theorem profile_renamed {u : User} (hu : u ∈ s.users) :
    u.profile.renamed old new = (if u.id = old.id then new else u).profile := by
  by_cases hid : u.id = old.id
  · rw [if_pos hid]
    exact Profile.renamed_of_eq ((h.username_eq_iff hu).mpr hid)
  · rw [if_neg hid]
    exact Profile.renamed_of_ne fun hname => hid ((h.username_eq_iff hu).mp hname)

theorem userByName?_new : s'.userByName? new.username = some new :=
  h.soundAfter.userByName?_eq_some_iff.mpr ⟨h.mem_users_iff.mpr (.inl rfl), rfl⟩

theorem userByName?_old : s'.userByName? old.username = none := by
  rw [Option.eq_none_iff_forall_ne_some]
  intro u hfind
  obtain ⟨hu, hname⟩ := h.soundAfter.userByName?_eq_some_iff.mp hfind
  exact h.username_ne_old hu hname

theorem userByName?_of_ne {name : String} (hold : name ≠ old.username)
    (hnew : name ≠ new.username) : s'.userByName? name = s.userByName? name := by
  apply Option.ext
  intro u
  rw [h.soundAfter.userByName?_eq_some_iff, h.sound.userByName?_eq_some_iff, h.mem_users_iff]
  constructor
  · rintro ⟨rfl | ⟨hu, -⟩, hname⟩
    · exact absurd hname.symm hnew
    · exact ⟨hu, hname⟩
  · rintro ⟨hu, rfl⟩
    exact ⟨.inr ⟨hu, fun hid => hold ((h.username_eq_iff hu).mpr hid)⟩, rfl⟩

theorem withAuthor (authorId : α → Int) (row : α) :
    s'.withAuthor authorId row = (s.withAuthor authorId row).map (Authored.renamed old new) := by
  rw [Store.withAuthor, Store.withAuthor, h.user?]
  cases hu : s.user? (authorId row) with
  | none => rfl
  | some u =>
      have hprofile := h.profile_renamed (List.mem_of_find?_eq_some hu)
      exact congrArg some (congrArg (Authored.mk row) hprofile.symm)

theorem filterMap_withAuthor (authorId : α → Int) (rows : List α) :
    rows.filterMap (s'.withAuthor authorId) =
      (rows.filterMap (s.withAuthor authorId)).map (Authored.renamed old new) := by
  rw [List.map_filterMap]
  exact List.filterMap_congr fun row _ => h.withAuthor authorId row

theorem authoredArticles :
    s'.authoredArticles = s.authoredArticles.map (Authored.renamed old new) := by
  rw [Store.authoredArticles, h.articles]
  exact h.filterMap_withAuthor Article.authorId s.articles

theorem authoredComments :
    s'.authoredComments = s.authoredComments.map (Authored.renamed old new) := by
  rw [Store.authoredComments, h.comments]
  exact h.filterMap_withAuthor Comment.authorId s.comments

theorem articleBySlug (slug : String) :
    s'.authoredArticles.find? (·.thing.slug == slug) =
      (s.authoredArticles.find? (·.thing.slug == slug)).map (Authored.renamed old new) := by
  rw [h.authoredArticles, List.find?_map]
  rfl

/-- What the renamed user has made is shown with the new name, and all else as before. -/
theorem renamed_eq {authorId : α → Int} {rows : List α} {shown : Authored α}
    (hshown : shown ∈ rows.filterMap (s.withAuthor authorId)) :
    shown.renamed old new =
      if authorId shown.thing = old.id then ⟨shown.thing, new.profile⟩ else shown := by
  obtain ⟨row, -, hview⟩ := List.mem_filterMap.mp hshown
  obtain ⟨u, hu, rfl⟩ := Option.map_eq_some_iff.mp hview
  have hid : u.id = authorId row := by simpa using List.find?_some hu
  rw [Authored.renamed, h.profile_renamed (List.mem_of_find?_eq_some hu), hid]
  split
  · rfl
  · rfl

theorem listing_of_iff {author author' : Option String}
    (hauthor : ∀ row ∈ s.authoredArticles,
      author'.all ((row.author.renamed old new).username == ·) =
        author.all (row.author.username == ·)) :
    s'.articlesBy author' = (s.articlesBy author).map (Authored.renamed old new) ∧
      s'.listing author' = (s.listing author).map (Authored.renamed old new) := by
  have hby : s'.articlesBy author' = (s.articlesBy author).map (Authored.renamed old new) := by
    rw [articlesBy, h.authoredArticles, List.filter_map, articlesBy]
    exact congrArg (List.map _) (List.filter_congr hauthor)
  refine ⟨hby, ?_⟩
  rw [listing, hby]
  exact mergeSort_map_of_key articleKey (fun a b => notAfter b a) (articleKey_renamed old new) _

theorem discussion (articleId : Int) :
    s'.discussion articleId = (s.discussion articleId).map (Authored.renamed old new) := by
  rw [Store.discussion, h.authoredComments, List.filter_map]
  exact mergeSort_map_of_key commentKey notAfter (commentKey_renamed old new) _

theorem username_renamed_eq_iff {row : Authored Article} (hrow : row ∈ s.authoredArticles) :
    (row.author.renamed old new).username = new.username ↔ row.author.username = old.username := by
  obtain ⟨-, u, hu, -, hshown⟩ := of_mem_authoredArticles hrow
  have hauthor : row.author = u.profile := congrArg Authored.author hshown
  rw [hauthor, h.profile_renamed hu]
  show _ ↔ u.username = old.username
  rw [h.username_eq_iff hu]
  by_cases hid : u.id = old.id
  · simp [hid, User.profile]
  · simpa [hid, User.profile] using h.username_ne_new hu hid

theorem listing_none :
    s'.articlesBy none = (s.articlesBy none).map (Authored.renamed old new) ∧
      s'.listing none = (s.listing none).map (Authored.renamed old new) :=
  h.listing_of_iff fun _ _ => rfl

theorem listing_new :
    s'.articlesBy (some new.username) =
        (s.articlesBy (some old.username)).map (Authored.renamed old new) ∧
      s'.listing (some new.username) =
        (s.listing (some old.username)).map (Authored.renamed old new) := by
  refine h.listing_of_iff fun row hrow => ?_
  rw [Option.all_some, Option.all_some, Bool.beq_eq_decide_eq, Bool.beq_eq_decide_eq]
  exact decide_eq_decide.mpr (h.username_renamed_eq_iff hrow)

theorem listing_old :
    s'.articlesBy (some old.username) = [] ∧ s'.listing (some old.username) = [] := by
  have hby : s'.articlesBy (some old.username) = [] := by
    refine List.filter_eq_nil_iff.mpr fun row hrow => ?_
    obtain ⟨-, u, hu, -, hshown⟩ := of_mem_authoredArticles hrow
    rw [hshown]
    simpa [User.profile] using h.username_ne_old hu
  exact ⟨hby, List.perm_nil.mp (hby ▸ listing_perm_articlesBy _)⟩

theorem listing_of_ne {name : String} (hold : name ≠ old.username) (hnew : name ≠ new.username) :
    s'.articlesBy (some name) = s.articlesBy (some name) ∧
      s'.listing (some name) = s.listing (some name) := by
  have hauthor : ∀ p : Profile, ((p.renamed old new).username == name) = (p.username == name) := by
    intro p
    by_cases hp : p.username = old.username
    · rw [Profile.renamed_of_eq hp, hp, beq_false_of_ne hold.symm]
      exact beq_false_of_ne hnew.symm
    · rw [Profile.renamed_of_ne hp]
  have hkept : ∀ row ∈ s.articlesBy (some name), row.renamed old new = row := by
    intro row hrow
    have hname : row.author.username = name := by simpa using (List.mem_filter.mp hrow).2
    exact congrArg (Authored.mk row.thing) (Profile.renamed_of_ne (hname ▸ hold))
  obtain ⟨hby, hlisting⟩ := @listing_of_iff _ _ _ _ h (some name) (some name) fun row _ =>
    hauthor row.author
  rw [hby, hlisting]
  constructor
  · exact (List.map_congr_left hkept).trans (List.map_id _)
  · refine (List.map_congr_left fun row hrow => ?_).trans (List.map_id _)
    exact hkept row ((listing_perm_articlesBy _).subset hrow)

end Renames

end Store

end Weblog
