import Weblog.Proofs.Slug.Choice
import Weblog.Proofs.Store.Soundness
import Weblog.Store.Work

namespace Weblog

open Session

namespace Store

/-- The row that a draft becomes. -/
def newArticle (s : Store) (slug : String) (draft : ArticleDraft) (authorId : Int)
    (now : Instant) : Article :=
  ⟨s.lastArticle + 1, slug, draft.title, draft.description, draft.body, authorId, 0, now, now⟩

/-- The store with one more article. -/
def withArticle (s : Store) (a : Article) : Store :=
  { s with articles := s.articles ++ [a], lastArticle := a.id }

/-- The store with the changes to the article with the number. -/
def withRevision (s : Store) (id : Int) (slug : String) (changes : ArticleChanges)
    (now : Instant) : Store :=
  { s with
    articles := s.articles.map fun a => if a.id = id then changeArticle a slug changes now else a }

/-- The row that a comment becomes. -/
def newComment (s : Store) (articleId authorId : Int) (body : String) (now : Instant) : Comment :=
  ⟨s.lastComment + 1, body, authorId, articleId, now, now⟩

/-- The store with one more comment. -/
def withComment (s : Store) (c : Comment) : Store :=
  { s with comments := s.comments ++ [c], lastComment := c.id }

theorem Sound.find?_withAuthor {s : Store} (hs : s.Sound) (authorId : α → Int) {rows : List α}
    {key : α → Int} (hkeys : (rows.map key).Nodup) {row : α} (hrow : row ∈ rows) {u : User}
    (hu : u ∈ s.users) (hauthor : u.id = authorId row) :
    (rows.filterMap (s.withAuthor authorId)).find? (key ·.thing == key row) =
      some ⟨row, u.profile⟩ := by
  have hview : s.withAuthor authorId row = some ⟨row, u.profile⟩ := by
    rw [withAuthor, ← hauthor, hs.user?_eq hu, Option.map_some]
  cases h : (rows.filterMap (s.withAuthor authorId)).find? (key ·.thing == key row) with
  | none =>
      have hne := List.find?_eq_none.mp h _ (List.mem_filterMap.mpr ⟨row, hrow, hview⟩)
      simp at hne
  | some found =>
      obtain ⟨other, hother, hfound⟩ := List.mem_filterMap.mp (List.mem_of_find?_eq_some h)
      have hthing : found.thing = other := by
        obtain ⟨v, -, rfl⟩ := Option.map_eq_some_iff.mp hfound
        rfl
      have hkey : key other = key row := by
        rw [← hthing]
        simpa using List.find?_some h
      rw [eq_of_key_eq hkeys hother hrow hkey, hview] at hfound
      exact hfound.symm

theorem of_mem_authoredArticles {s : Store} {row : Authored Article}
    (hrow : row ∈ s.authoredArticles) :
    row.thing ∈ s.articles ∧
      ∃ u ∈ s.users, u.id = row.thing.authorId ∧ row = ⟨row.thing, u.profile⟩ := by
  obtain ⟨a, ha, hview⟩ := List.mem_filterMap.mp hrow
  obtain ⟨u, hu, rfl⟩ := Option.map_eq_some_iff.mp hview
  exact ⟨ha, u, List.mem_of_find?_eq_some hu, by simpa using List.find?_some hu, rfl⟩

/-- The column that is told to repeat, where the email address or the name does: the email address
if another user has it. -/
def conflictingField (s : Store) (email : Option String) (except : Option Int) : UniqueField :=
  match email.bind s.userByEmail? with
  | some u => if except = some u.id then .username else .email
  | none => .username

/-- The slug that a change to the article writes: the old one, unless there is a new title. -/
def IsNewSlug (s : Store) (a : Article) (changes : ArticleChanges) (now : Instant)
    (slug : String) : Prop :=
  match changes.title with
  | none => slug = a.slug
  | some title => Slug.ofTitle title ≠ "" ∧
      Slug.choice? (Slug.ofTitle title) now.seconds.toNat (s.slugsBut (some a.id)) = some slug

theorem Sound.slug_notMem_slugsBut {s : Store} (hs : s.Sound) {a : Article}
    (ha : a ∈ s.articles) : a.slug ∉ s.slugsBut (some a.id) := by
  rw [mem_slugsBut]
  rintro ⟨b, hb, hne, hslug⟩
  rw [List.inj_on_of_nodup_map hs.slugs hb ha hslug] at hne
  exact hne rfl

theorem insertArticle_eq_error_of_held {s : Store} {slug : String}
    (hheld : ∃ a ∈ s.articles, a.slug = slug) (draft : ArticleDraft) (authorId : Int)
    (now : Instant) : s.insertArticle slug draft authorId now = .error (.repeated .slug) := by
  have hany : s.articles.any (·.slug == slug) = true := by simpa using hheld
  simp only [insertArticle, hany, if_true]

theorem insertArticle_of_free {s : Store} {slug : String}
    (hfree : ∀ a ∈ s.articles, a.slug ≠ slug) (draft : ArticleDraft) {authorId : Int}
    (hauthor : ∃ u ∈ s.users, u.id = authorId) (now : Instant) :
    s.insertArticle slug draft authorId now =
      .ok (s.lastArticle + 1, s.withArticle (s.newArticle slug draft authorId now)) := by
  have hany : ¬ s.articles.any (·.slug == slug) = true := by simpa using hfree
  have hsome : ¬ (s.user? authorId).isNone = true := by
    rw [← isSome_user?_iff] at hauthor
    simpa [Option.isSome_iff_ne_none] using hauthor
  simp only [insertArticle, if_neg hany, if_neg hsome]
  rfl

theorem insertArticle_of_no_author {s : Store} {slug : String}
    (hfree : ∀ a ∈ s.articles, a.slug ≠ slug) (draft : ArticleDraft) {authorId : Int}
    (hauthor : ¬ ∃ u ∈ s.users, u.id = authorId) (now : Instant) :
    s.insertArticle slug draft authorId now = .error .dangling := by
  have hany : ¬ s.articles.any (·.slug == slug) = true := by simpa using hfree
  have hnone : (s.user? authorId).isNone = true := by
    rw [← isSome_user?_iff] at hauthor
    simpa using hauthor
  simp only [insertArticle, if_neg hany, if_pos hnone]

theorem updateArticle_eq_error_of_held {s : Store} {a : Article} (ha : a ∈ s.articles)
    {slug : String} (hheld : ∃ b ∈ s.articles, b.id ≠ a.id ∧ b.slug = slug)
    (changes : ArticleChanges) (now : Instant) :
    s.updateArticle a.id slug changes now = .error (.repeated .slug) := by
  have hthere : ¬ (!s.articles.any (·.id == a.id)) = true := by simpa using ⟨a, ha, rfl⟩
  have hany : s.articles.any (fun b => b.id != a.id && b.slug == slug) = true := by
    simpa using hheld
  rw [updateArticle, if_neg hthere, if_pos hany]

theorem updateArticle_of_free {s : Store} {a : Article} (ha : a ∈ s.articles) {slug : String}
    (hfree : ∀ b ∈ s.articles, b.id ≠ a.id → b.slug ≠ slug) (changes : ArticleChanges)
    (now : Instant) :
    s.updateArticle a.id slug changes now = .ok (true, s.withRevision a.id slug changes now) := by
  have hthere : ¬ (!s.articles.any (·.id == a.id)) = true := by simpa using ⟨a, ha, rfl⟩
  have hany : ¬ s.articles.any (fun b => b.id != a.id && b.slug == slug) = true := by
    simpa using hfree
  rw [updateArticle, if_neg hthere, if_neg hany]
  rfl

theorem updateArticle_of_missing {s : Store} {id : Int} (hmissing : ∀ a ∈ s.articles, a.id ≠ id)
    (slug : String) (changes : ArticleChanges) (now : Instant) :
    s.updateArticle id slug changes now = .ok (false, s) := by
  have hnone : (!s.articles.any (·.id == id)) = true := by simpa using hmissing
  rw [updateArticle, if_pos hnone]

theorem deleteArticle_of_missing {s : Store} (hs : s.Sound) {id : Int}
    (hmissing : ∀ a ∈ s.articles, a.id ≠ id) : s.deleteArticle id = (false, s) := by
  have hcomments : ∀ c ∈ s.comments, c.articleId ≠ id := by
    intro c hc hid
    obtain ⟨a, ha, hac⟩ := hs.commentArticles c hc
    exact hmissing a ha (hac.trans hid)
  have hnone : s.articles.any (·.id == id) = false := by simpa using hmissing
  rw [deleteArticle, hnone, List.filter_eq_self.mpr (by simpa using hmissing),
    List.filter_eq_self.mpr (by simpa using hcomments)]

theorem deleteComment_of_missing {s : Store} {id : Int} (hmissing : ∀ c ∈ s.comments, c.id ≠ id) :
    s.deleteComment id = (false, s) := by
  have hnone : s.comments.any (·.id == id) = false := by simpa using hmissing
  rw [deleteComment, hnone, List.filter_eq_self.mpr (by simpa using hmissing)]

theorem insertComment_of_there {s : Store} {a : Article} (ha : a ∈ s.articles) {u : User}
    (hu : u ∈ s.users) (body : String) (now : Instant) :
    s.insertComment a.id u.id body now =
      .ok (s.lastComment + 1, s.withComment (s.newComment a.id u.id body now)) := by
  have huser : (s.user? u.id).isSome = true := isSome_user?_iff.mpr ⟨u, hu, rfl⟩
  have harticle : s.articles.any (·.id == a.id) = true := by simpa using ⟨a, ha, rfl⟩
  rw [insertComment, if_neg (by simp [Option.isSome_iff_ne_none.mp huser, harticle])]
  rfl

theorem insertComment_of_missing {s : Store} {articleId authorId : Int}
    (hmissing : ¬ ((∃ u ∈ s.users, u.id = authorId) ∧ ∃ a ∈ s.articles, a.id = articleId))
    (body : String) (now : Instant) :
    s.insertComment articleId authorId body now = .error .dangling := by
  rw [← isSome_user?_iff] at hmissing
  refine if_pos ?_
  rw [Bool.or_eq_true, Option.isNone_iff_eq_none]
  by_cases hauthor : (s.user? authorId).isSome = true
  · exact .inr (by simpa [hauthor] using hmissing)
  · exact .inl (by simpa using hauthor)

end Store

namespace Work

variable {s : Store}

theorem reads_found (o : Option α) : Reads (found o) := by
  cases o with
  | none => exact reads_throw _
  | some a => exact reads_pure a

theorem reads_article (id : Int) : Reads (article id >>= found) :=
  (reads_ask (q := .article id) rfl).bind reads_found

theorem reads_conflictingField (email : Option String) (except : Option Int) :
    Reads (conflictingField email except) := by
  cases email with
  | none => exact reads_pure _
  | some email =>
      refine (reads_ask (q := .userByEmail email) rfl).bind fun row => ?_
      cases row with
      | none => exact reads_pure _
      | some u => exact reads_pure _

theorem reads_conflict (email : Option String) (except : Option Int) :
    Reads (conflictingField email except >>= fun field => (throw (.conflict field) : Work User)) :=
  (reads_conflictingField email except).bind fun _ => reads_throw _

theorem reads_allocateSlug (title : String) (except : Option Int) (now : Instant) :
    Reads (allocateSlug title except now) := by
  rw [allocateSlug]
  split
  · exact reads_throw _
  · exact (reads_ask rfl).bind fun _ => reads_pure _

theorem outcome_conflictingField (email : Option String) (except : Option Int) (s : Store) :
    outcome (conflictingField email except) s = (.ok (s.conflictingField email except), s) := by
  cases email with
  | none => rfl
  | some email =>
      rw [conflictingField, Store.conflictingField, Option.bind_some]
      refine (outcome_bind_of_ok (outcome_ask (.userByEmail email) s)).trans ?_
      cases s.userByEmail? email with
      | none => rfl
      | some u => rfl

theorem outcome_createUser (username email passwordHash : String) (now : Instant) (s : Store) :
    outcome (createUser username email passwordHash now) s =
      match s.insertUser username email passwordHash now with
      | .ok (u, s') => (.ok u, s')
      | .error (.repeated _) => (.error (.conflict (s.conflictingField (some email) none)), s)
      | .error e => (.error (.database e), s) := by
  cases h : s.insertUser username email passwordHash now with
  | ok written =>
      exact outcome_bind_of_ok (outcome_attempt_of_ok (q := .insertUser ..) h)
  | error e =>
      refine (outcome_bind_of_ok (outcome_attempt_of_error (q := .insertUser ..) h)).trans ?_
      cases e with
      | closed => rfl
      | dangling => rfl
      | repeated field => exact outcome_bind_of_ok (outcome_conflictingField _ _ s)

theorem outcome_updateUser (id : Int) (changes : UserChanges) (now : Instant) (s : Store) :
    outcome (updateUser id changes now) s =
      match s.updateUser id changes now with
      | .ok (some u, s') => (.ok u, s')
      | .ok (none, s') => (.error .notFound, s')
      | .error (.repeated _) =>
        (.error (.conflict (s.conflictingField changes.email (some id))), s)
      | .error e => (.error (.database e), s) := by
  cases h : s.updateUser id changes now with
  | ok written =>
      obtain ⟨row, s'⟩ := written
      refine (outcome_bind_of_ok (outcome_attempt_of_ok (q := .updateUser ..) h)).trans ?_
      cases row with
      | none => rfl
      | some u => rfl
  | error e =>
      refine (outcome_bind_of_ok (outcome_attempt_of_error (q := .updateUser ..) h)).trans ?_
      cases e with
      | closed => rfl
      | dangling => rfl
      | repeated field => exact outcome_bind_of_ok (outcome_conflictingField _ _ s)

theorem outcome_allocateSlug_of_empty {title : String} (htitle : Slug.ofTitle title = "")
    (except : Option Int) (now : Instant) (s : Store) :
    outcome (allocateSlug title except now) s = (.error .emptySlug, s) := by
  rw [allocateSlug, if_pos (by simpa using htitle)]
  exact outcome_bind_of_error (outcome_throw _ s)

/-- The slug that is allocated is the first that no other article has at all; where there is none,
it is one that the store will refuse. -/
theorem outcome_allocateSlug {title : String} (htitle : Slug.ofTitle title ≠ "")
    (except : Option Int) (now : Instant) (s : Store) :
    outcome (allocateSlug title except now) s =
      (.ok ((Slug.choice? (Slug.ofTitle title) now.seconds.toNat (s.slugsBut except)).getD
        (Slug.withSuffix (Slug.ofTitle title) now.seconds.toNat)), s) := by
  rw [allocateSlug, if_neg (by simpa using htitle), ← Slug.firstFree_eq_choice? htitle,
    ← s.firstFree_slugsLike htitle]
  exact outcome_bind_of_ok (outcome_ask _ s)

theorem exists_of_choice?_eq_none {base : String} {now : Nat}
    (h : Slug.choice? base now (s.slugsBut none) = none) :
    ∃ a ∈ s.articles, a.slug = Slug.withSuffix base now := by
  obtain ⟨a, ha, -, haslug⟩ :=
    Store.mem_slugsBut.mp (Slug.withSuffix_mem_of_choice?_eq_none h)
  exact ⟨a, ha, haslug⟩

theorem forall_ne_of_choice?_eq_some {base slug : String} {now : Nat}
    (h : Slug.choice? base now (s.slugsBut none) = some slug) :
    ∀ a ∈ s.articles, a.slug ≠ slug := by
  intro a ha haslug
  refine (Slug.choice?_eq_some_iff.mp h).1 (Store.mem_slugsBut.mpr ?_)
  exact ⟨a, ha, by simp, haslug⟩

theorem outcome_read_article (hs : s.Sound) {a : Article} (ha : a ∈ s.articles) {u : User}
    (hu : u ∈ s.users) (hau : u.id = a.authorId) :
    outcome (article a.id >>= found) s = (.ok ⟨a, u.profile⟩, s) := by
  have hrow : outcome (article a.id) s = (.ok (some ⟨a, u.profile⟩), s) := by
    rw [article, outcome_ask, ← hs.find?_withAuthor Article.authorId hs.articleIds ha hu hau]
    rfl
  exact outcome_bind_of_ok hrow

theorem outcome_createArticle_of_held {draft : ArticleDraft}
    (htitle : Slug.ofTitle draft.title ≠ "") {now : Instant}
    (hchoice : Slug.choice? (Slug.ofTitle draft.title) now.seconds.toNat (s.slugsBut none) = none)
    (authorId : Int) :
    outcome (createArticle authorId draft now) s = (.error (.conflict .slug), s) := by
  obtain ⟨b, hb, hbslug⟩ := exists_of_choice?_eq_none hchoice
  have hexec := Store.insertArticle_eq_error_of_held ⟨b, hb, hbslug⟩ draft authorId now
  rw [createArticle, outcome_bind_of_ok (outcome_allocateSlug htitle none now s), hchoice]
  exact outcome_bind_of_ok (outcome_attempt_of_error (q := .insertArticle ..) hexec)

theorem outcome_createArticle (hs : s.Sound) {u : User} (hu : u ∈ s.users) {draft : ArticleDraft}
    (htitle : Slug.ofTitle draft.title ≠ "") (now : Instant) :
    outcome (createArticle u.id draft now) s =
      match Slug.choice? (Slug.ofTitle draft.title) now.seconds.toNat (s.slugsBut none) with
      | some slug =>
        (.ok ⟨s.newArticle slug draft u.id now, u.profile⟩,
          s.withArticle (s.newArticle slug draft u.id now))
      | none => (.error (.conflict .slug), s) := by
  cases hchoice : Slug.choice? (Slug.ofTitle draft.title) now.seconds.toNat (s.slugsBut none) with
  | none => exact outcome_createArticle_of_held htitle hchoice u.id
  | some slug =>
      have hfree := forall_ne_of_choice?_eq_some hchoice
      have hexec := Store.insertArticle_of_free hfree draft ⟨u, hu, rfl⟩ now
      have hinsert := outcome_attempt_of_ok (q := .insertArticle ..) hexec
      rw [createArticle, outcome_bind_of_ok (outcome_allocateSlug htitle none now s), hchoice,
        Option.getD_some, outcome_bind_of_ok hinsert]
      have hmem : s.newArticle slug draft u.id now ∈
          (s.withArticle (s.newArticle slug draft u.id now)).articles :=
        List.mem_append_right _ (List.mem_singleton_self _)
      exact outcome_read_article (hs.insertArticle hexec) hmem hu rfl

theorem outcome_createArticle_of_no_slug {draft : ArticleDraft}
    (htitle : Slug.ofTitle draft.title = "") (authorId : Int) (now : Instant) (s : Store) :
    outcome (createArticle authorId draft now) s = (.error .emptySlug, s) :=
  outcome_bind_of_error (outcome_allocateSlug_of_empty htitle none now s)

theorem outcome_createArticle_of_no_author {authorId : Int}
    (hauthor : ¬ ∃ u ∈ s.users, u.id = authorId) (draft : ArticleDraft) (now : Instant) :
    outcome (createArticle authorId draft now) s =
      (.error (
        if Slug.ofTitle draft.title = "" then .emptySlug
        else
          match Slug.choice? (Slug.ofTitle draft.title) now.seconds.toNat (s.slugsBut none) with
          | some _ => .database .dangling
          | none => .conflict .slug), s) := by
  by_cases htitle : Slug.ofTitle draft.title = ""
  · rw [outcome_createArticle_of_no_slug htitle, if_pos htitle]
  rw [if_neg htitle]
  cases hchoice : Slug.choice? (Slug.ofTitle draft.title) now.seconds.toNat (s.slugsBut none) with
  | none => exact outcome_createArticle_of_held htitle hchoice authorId
  | some slug =>
      have hfree := forall_ne_of_choice?_eq_some hchoice
      have hexec := Store.insertArticle_of_no_author hfree draft hauthor now
      rw [createArticle, outcome_bind_of_ok (outcome_allocateSlug htitle none now s), hchoice]
      exact outcome_bind_of_ok (outcome_attempt_of_error (q := .insertArticle ..) hexec)

/-- The end of a change to an article, where its slug is known. -/
def writeRevision (id : Int) (slug : String) (changes : ArticleChanges) (now : Instant) :
    Work (Authored Article) := do
  match ← attempt (.updateArticle id slug changes now) with
  | .ok true => found (← article id)
  | .ok false => throw .notFound
  | .error e => throw (articleRefusal e)

theorem updateArticle_of_title (current : Article) {changes : ArticleChanges} {title : String}
    (htitle : changes.title = some title) (now : Instant) :
    updateArticle current changes now =
      allocateSlug title (some current.id) now >>= fun slug =>
        writeRevision current.id slug changes now := by
  have hsome : ¬ changes.isEmpty = true := by simp [ArticleChanges.isEmpty, htitle]
  simp only [updateArticle, if_neg hsome, htitle, writeRevision]
  refine bind_congr fun slug => bind_congr fun r => ?_
  rcases r with e | _ | _ <;> rfl

theorem updateArticle_of_no_title (current : Article) {changes : ArticleChanges}
    (htitle : changes.title = none) (hsome : changes.isEmpty = false) (now : Instant) :
    updateArticle current changes now = writeRevision current.id current.slug changes now := by
  simp only [updateArticle, hsome, Bool.false_eq_true, if_false, htitle, writeRevision, pure_bind]
  refine bind_congr fun r => ?_
  rcases r with e | _ | _ <;> rfl

theorem updateArticle_of_isEmpty (current : Article) {changes : ArticleChanges}
    (hempty : changes.isEmpty = true) (now : Instant) :
    updateArticle current changes now = article current.id >>= found := by
  rw [updateArticle, if_pos hempty]

theorem updateArticle_forms (current : Article) (changes : ArticleChanges) (now : Instant) :
    changes.isEmpty = true ∧ updateArticle current changes now = article current.id >>= found ∨
      changes.isEmpty = false ∧ changes.title = none ∧
        updateArticle current changes now = writeRevision current.id current.slug changes now ∨
      ∃ title, changes.title = some title ∧
        updateArticle current changes now = allocateSlug title (some current.id) now >>=
          fun slug => writeRevision current.id slug changes now := by
  cases hempty : changes.isEmpty with
  | true => exact .inl ⟨rfl, updateArticle_of_isEmpty current hempty now⟩
  | false =>
      cases hnew : changes.title with
      | none => exact .inr (.inl ⟨rfl, rfl, updateArticle_of_no_title current hnew hempty now⟩)
      | some title => exact .inr (.inr ⟨title, rfl, updateArticle_of_title current hnew now⟩)

theorem outcome_writeRevision_of_held {a : Article} (ha : a ∈ s.articles) {slug : String}
    (hheld : slug ∈ s.slugsBut (some a.id)) (changes : ArticleChanges) (now : Instant) :
    outcome (writeRevision a.id slug changes now) s = (.error (.conflict .slug), s) := by
  have hother : ∃ b ∈ s.articles, b.id ≠ a.id ∧ b.slug = slug := by
    obtain ⟨b, hb, hne, hslug⟩ := Store.mem_slugsBut.mp hheld
    exact ⟨b, hb, fun hid => hne (by rw [hid]), hslug⟩
  have hexec := Store.updateArticle_eq_error_of_held ha hother changes now
  exact outcome_bind_of_ok (outcome_attempt_of_error (q := .updateArticle ..) hexec)

theorem outcome_writeRevision_of_free (hs : s.Sound) {a : Article} (ha : a ∈ s.articles)
    {u : User} (hu : u ∈ s.users) (hau : u.id = a.authorId) {slug : String}
    (hfree : slug ∉ s.slugsBut (some a.id)) (changes : ArticleChanges) (now : Instant) :
    outcome (writeRevision a.id slug changes now) s =
      (.ok ⟨Store.changeArticle a slug changes now, u.profile⟩,
        s.withRevision a.id slug changes now) := by
  have hothers : ∀ b ∈ s.articles, b.id ≠ a.id → b.slug ≠ slug := by
    intro b hb hne hslug
    exact hfree (Store.mem_slugsBut.mpr ⟨b, hb, fun hid => hne (Option.some.inj hid).symm, hslug⟩)
  have hexec := Store.updateArticle_of_free ha hothers changes now
  have hmem : Store.changeArticle a slug changes now ∈
      (s.withRevision a.id slug changes now).articles :=
    List.mem_map.mpr ⟨a, ha, if_pos rfl⟩
  rw [writeRevision, outcome_bind_of_ok (outcome_attempt_of_ok (q := .updateArticle ..) hexec)]
  exact outcome_read_article (hs.updateArticle hexec) hmem hu hau

theorem outcome_updateArticle_of_title (hs : s.Sound) {a : Article} (ha : a ∈ s.articles)
    {u : User} (hu : u ∈ s.users) (hau : u.id = a.authorId) {changes : ArticleChanges}
    {title : String} (hnew : changes.title = some title) (htitle : Slug.ofTitle title ≠ "")
    (now : Instant) :
    outcome (updateArticle a changes now) s =
      match Slug.choice? (Slug.ofTitle title) now.seconds.toNat (s.slugsBut (some a.id)) with
      | some slug =>
        (.ok ⟨Store.changeArticle a slug changes now, u.profile⟩,
          s.withRevision a.id slug changes now)
      | none => (.error (.conflict .slug), s) := by
  rw [updateArticle_of_title a hnew,
    outcome_bind_of_ok (outcome_allocateSlug htitle (some a.id) now s)]
  cases hchoice : Slug.choice? (Slug.ofTitle title) now.seconds.toNat (s.slugsBut (some a.id)) with
  | none =>
      have hheld := Slug.withSuffix_mem_of_choice?_eq_none hchoice
      exact outcome_writeRevision_of_held ha hheld changes now
  | some slug =>
      have hfree := (Slug.choice?_eq_some_iff.mp hchoice).1
      exact outcome_writeRevision_of_free hs ha hu hau hfree changes now

theorem outcome_updateArticle_of_no_slug {current : Article} {changes : ArticleChanges}
    {title : String} (hnew : changes.title = some title) (htitle : Slug.ofTitle title = "")
    (now : Instant) (s : Store) :
    outcome (updateArticle current changes now) s = (.error .emptySlug, s) := by
  rw [updateArticle_of_title current hnew]
  exact outcome_bind_of_error (outcome_allocateSlug_of_empty htitle (some current.id) now s)

theorem outcome_updateArticle_of_no_title (hs : s.Sound) {a : Article} (ha : a ∈ s.articles)
    {u : User} (hu : u ∈ s.users) (hau : u.id = a.authorId) {current : Article}
    (hid : current.id = a.id) {changes : ArticleChanges} (htitle : changes.title = none)
    (hsome : changes.isEmpty = false) (now : Instant) :
    outcome (updateArticle current changes now) s =
      if current.slug ∈ s.slugsBut (some a.id) then (.error (.conflict .slug), s)
      else
        (.ok ⟨Store.changeArticle a current.slug changes now, u.profile⟩,
          s.withRevision a.id current.slug changes now) := by
  rw [updateArticle_of_no_title current htitle hsome, hid]
  split
  · rename_i hheld
    exact outcome_writeRevision_of_held ha hheld changes now
  · rename_i hfree
    exact outcome_writeRevision_of_free hs ha hu hau hfree changes now

theorem outcome_updateArticle_of_missing {current : Article}
    (hmissing : ∀ a ∈ s.articles, a.id ≠ current.id) (changes : ArticleChanges) (now : Instant) :
    ∃ e, outcome (updateArticle current changes now) s = (.error e, s) := by
  have hwrite : ∀ slug, outcome (writeRevision current.id slug changes now) s =
      (.error .notFound, s) := by
    intro slug
    have hexec := Store.updateArticle_of_missing hmissing slug changes now
    exact outcome_bind_of_ok (outcome_attempt_of_ok (q := .updateArticle ..) hexec)
  rcases updateArticle_forms current changes now with
    ⟨-, hform⟩ | ⟨-, -, hform⟩ | ⟨title, hnew, hform⟩
  · have hnone : s.authoredArticles.find? (·.thing.id == current.id) = none := by
      rw [List.find?_eq_none]
      intro row hrow
      simpa using hmissing row.thing (Store.of_mem_authoredArticles hrow).1
    have hread : outcome (article current.id) s = (.ok none, s) := by
      rw [article, outcome_ask, ← hnone]
      rfl
    rw [hform]
    exact ⟨.notFound, outcome_bind_of_ok hread⟩
  · rw [hform]
    exact ⟨.notFound, hwrite _⟩
  · by_cases htitle : Slug.ofTitle title = ""
    · exact ⟨.emptySlug, outcome_updateArticle_of_no_slug hnew htitle now s⟩
    rw [hform, outcome_bind_of_ok (outcome_allocateSlug htitle (some current.id) now s)]
    exact ⟨.notFound, hwrite _⟩

/-- A change that is asked for a row read before is refused and changes nothing, or is made to the
article that has the number of the row by now. -/
theorem outcome_updateArticle_cases (hs : s.Sound) (current : Article) (changes : ArticleChanges)
    (now : Instant) :
    (∃ e, outcome (updateArticle current changes now) s = (.error e, s)) ∨
      ∃ a ∈ s.articles, a.id = current.id ∧ ∃ u ∈ s.users, u.id = a.authorId ∧
        (changes.isEmpty = true ∧
            outcome (updateArticle current changes now) s = (.ok ⟨a, u.profile⟩, s) ∨
          changes.isEmpty = false ∧ ∃ slug, s.IsNewSlug current changes now slug ∧
            outcome (updateArticle current changes now) s =
              (.ok ⟨Store.changeArticle a slug changes now, u.profile⟩,
                s.withRevision a.id slug changes now)) := by
  by_cases hthere : ∃ a ∈ s.articles, a.id = current.id
  case neg =>
    refine .inl (outcome_updateArticle_of_missing (fun a ha hid => ?_) changes now)
    exact hthere ⟨a, ha, hid⟩
  obtain ⟨a, ha, hid⟩ := hthere
  obtain ⟨u, hu, hua⟩ := hs.articleAuthors a ha
  cases hempty : changes.isEmpty with
  | true =>
      rw [updateArticle_of_isEmpty current hempty, ← hid]
      exact .inr ⟨a, ha, rfl, u, hu, hua, .inl ⟨rfl, outcome_read_article hs ha hu hua⟩⟩
  | false =>
      cases hnew : changes.title with
      | none =>
          rw [outcome_updateArticle_of_no_title hs ha hu hua hid.symm hnew hempty now]
          split
          · exact .inl ⟨_, rfl⟩
          · refine .inr ⟨a, ha, hid, u, hu, hua, .inr ⟨rfl, current.slug, ?_, rfl⟩⟩
            rw [Store.IsNewSlug, hnew]
      | some title =>
          by_cases htitle : Slug.ofTitle title = ""
          · exact .inl ⟨_, outcome_updateArticle_of_no_slug hnew htitle now s⟩
          -- with a new title, only the number of the row counts
          have hsame : updateArticle current changes now = updateArticle a changes now := by
            rw [updateArticle_of_title current hnew, updateArticle_of_title a hnew, hid]
          rw [hsame, outcome_updateArticle_of_title hs ha hu hua hnew htitle now]
          cases hchoice : Slug.choice? (Slug.ofTitle title) now.seconds.toNat
              (s.slugsBut (some a.id)) with
          | none => exact .inl ⟨_, rfl⟩
          | some slug =>
              refine .inr ⟨a, ha, hid, u, hu, hua, .inr ⟨rfl, slug, ?_, rfl⟩⟩
              rw [Store.IsNewSlug, hnew, ← hid]
              exact ⟨htitle, hchoice⟩

theorem outcome_updateArticle_of_mem (hs : s.Sound) {a : Article} (ha : a ∈ s.articles)
    (changes : ArticleChanges) (now : Instant) :
    (∃ row s', outcome (updateArticle a changes now) s = (.ok row, s')) ∨
      outcome (updateArticle a changes now) s = (.error .emptySlug, s) ∨
        outcome (updateArticle a changes now) s = (.error (.conflict .slug), s) := by
  obtain ⟨u, hu, hua⟩ := hs.articleAuthors a ha
  rcases updateArticle_forms a changes now with
    ⟨-, hform⟩ | ⟨hsome, hnew, -⟩ | ⟨title, hnew, -⟩
  · rw [hform]
    exact .inl ⟨_, _, outcome_read_article hs ha hu hua⟩
  · have hfree := hs.slug_notMem_slugsBut ha
    rw [outcome_updateArticle_of_no_title hs ha hu hua rfl hnew hsome now, if_neg hfree]
    exact .inl ⟨_, _, rfl⟩
  · by_cases htitle : Slug.ofTitle title = ""
    · exact .inr (.inl (outcome_updateArticle_of_no_slug hnew htitle now s))
    rw [outcome_updateArticle_of_title hs ha hu hua hnew htitle now]
    cases Slug.choice? (Slug.ofTitle title) now.seconds.toNat (s.slugsBut (some a.id)) with
    | none => exact .inr (.inr rfl)
    | some slug => exact .inl ⟨_, _, rfl⟩

theorem outcome_deleteArticle (id : Int) (s : Store) :
    outcome (deleteArticle id) s =
      (if s.articles.any (·.id == id) then .ok () else .error .notFound,
        (s.deleteArticle id).2) := by
  refine (outcome_bind_of_ok (outcome_ask (.deleteArticle id) s)).trans ?_
  simp only [Store.deleteArticle]
  cases s.articles.any (·.id == id) with
  | true => rfl
  | false => rfl

theorem outcome_deleteArticle_of_mem {a : Article} (ha : a ∈ s.articles) :
    outcome (deleteArticle a.id) s = (.ok (), (s.deleteArticle a.id).2) := by
  have hthere : s.articles.any (·.id == a.id) = true :=
    List.any_eq_true.mpr ⟨a, ha, beq_self_eq_true _⟩
  rw [outcome_deleteArticle, if_pos hthere]

theorem outcome_deleteArticle_of_missing (hs : s.Sound) {id : Int}
    (hmissing : ∀ a ∈ s.articles, a.id ≠ id) :
    outcome (deleteArticle id) s = (.error .notFound, s) := by
  have hnone : ¬ s.articles.any (·.id == id) = true := by simpa using hmissing
  rw [outcome_deleteArticle, if_neg hnone, Store.deleteArticle_of_missing hs hmissing]

theorem outcome_createComment (hs : s.Sound) {a : Article} (ha : a ∈ s.articles) {u : User}
    (hu : u ∈ s.users) (body : String) (now : Instant) :
    outcome (createComment a.id u.id body now) s =
      (.ok ⟨s.newComment a.id u.id body now, u.profile⟩,
        s.withComment (s.newComment a.id u.id body now)) := by
  have hexec := Store.insertComment_of_there ha hu body now
  have hs' := hs.insertComment hexec
  have hmem : s.newComment a.id u.id body now ∈
      (s.withComment (s.newComment a.id u.id body now)).comments :=
    List.mem_append_right _ (List.mem_singleton_self _)
  have hrow : outcome (ask (.authoredComment (s.lastComment + 1)))
      (s.withComment (s.newComment a.id u.id body now)) =
      (.ok (some ⟨s.newComment a.id u.id body now, u.profile⟩),
        s.withComment (s.newComment a.id u.id body now)) := by
    rw [outcome_ask, ← hs'.find?_withAuthor Comment.authorId hs'.commentIds hmem hu rfl]
    rfl
  have hask : outcome (ask (.insertComment a.id u.id body now)) s =
      (.ok (s.lastComment + 1), s.withComment (s.newComment a.id u.id body now)) := by
    rw [outcome_ask, Statement.answer_of_exec_ok (q := .insertComment ..) hexec,
      Statement.after_of_exec_ok (q := .insertComment ..) hexec]
    rfl
  rw [createComment, outcome_bind_of_ok hask]
  exact outcome_bind_of_ok hrow

theorem outcome_createComment_of_missing {articleId authorId : Int}
    (hmissing : ¬ ((∃ u ∈ s.users, u.id = authorId) ∧ ∃ a ∈ s.articles, a.id = articleId))
    (body : String) (now : Instant) :
    outcome (createComment articleId authorId body now) s = (.error (.database .dangling), s) := by
  have hexec := Store.insertComment_of_missing hmissing body now
  have hask : outcome (ask (.insertComment articleId authorId body now)) s =
      (.error (.database .dangling), s) := by
    rw [outcome_ask, Statement.answer_of_exec_error (q := .insertComment ..) hexec,
      Statement.after_of_exec_error (q := .insertComment ..) hexec]
    rfl
  exact outcome_bind_of_error hask

theorem outcome_deleteComment (id : Int) (s : Store) :
    outcome (deleteComment id) s =
      (if s.comments.any (·.id == id) then .ok () else .error .notFound,
        (s.deleteComment id).2) := by
  refine (outcome_bind_of_ok (outcome_ask (.deleteComment id) s)).trans ?_
  simp only [Store.deleteComment]
  cases s.comments.any (·.id == id) with
  | true => rfl
  | false => rfl

theorem outcome_deleteComment_of_mem {c : Comment} (hc : c ∈ s.comments) :
    outcome (deleteComment c.id) s = (.ok (), (s.deleteComment c.id).2) := by
  have hthere : s.comments.any (·.id == c.id) = true :=
    List.any_eq_true.mpr ⟨c, hc, beq_self_eq_true _⟩
  rw [outcome_deleteComment, if_pos hthere]

theorem outcome_deleteComment_of_missing {id : Int} (hmissing : ∀ c ∈ s.comments, c.id ≠ id) :
    outcome (deleteComment id) s = (.error .notFound, s) := by
  have hnone : ¬ s.comments.any (·.id == id) = true := by simpa using hmissing
  rw [outcome_deleteComment, if_neg hnone, Store.deleteComment_of_missing hmissing]

end Work

end Weblog
