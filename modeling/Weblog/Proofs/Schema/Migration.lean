import Weblog.Proofs.Schema.Resumption

namespace Weblog.Schema

open Weblog.Text

def usersDefinitions : List Definition :=
  [.table "users" ["id", "username", "email", "password_hash", "bio", "image", "created_at",
      "updated_at"],
    .index "idx_users_email" "users" "email", .index "idx_users_username" "users" "username"]

def articlesDefinitions : List Definition :=
  [.table "articles" ["id", "slug", "title", "description", "body", "author_id",
      "favorites_count", "created_at", "updated_at"],
    .index "idx_articles_author_id" "articles" "author_id",
    .index "idx_articles_created_at" "articles" "created_at"]

def commentsDefinitions : List Definition :=
  [.table "comments" ["id", "body", "author_id", "article_id", "created_at", "updated_at"],
    .index "idx_comments_article_id" "comments" "article_id",
    .index "idx_comments_author_id" "comments" "author_id"]

/-- The definitions of a script that is given by its lines. What comes of it is decided on lists of
characters, for texts are made of bytes, which are slow to take apart. -/
theorem definitions?_intercalate (lines : List String) :
    definitions? ("\n".intercalate lines) =
      (((splitAt ';' (trim (joinLines (upLines false (Text.lines
        ("\n".toList.intercalate (lines.map String.toList))))))).map (wordsFrom [])).filter
          (fun words => !words.isEmpty)).mapM Definition.ofWords? := by
  rw [definitions?, upSection, String.toList_ofList, String.toList_intercalate]

theorem definitions?_usersScript : definitions? usersScript = some usersDefinitions := by
  rw [usersScript, definitions?_intercalate]
  simp only [List.map_cons, List.map_nil]
  repeat rw [String.toList_ofList]
  decide +kernel

theorem definitions?_articlesScript : definitions? articlesScript = some articlesDefinitions := by
  rw [articlesScript, definitions?_intercalate]
  simp only [List.map_cons, List.map_nil]
  repeat rw [String.toList_ofList]
  decide +kernel

theorem definitions?_commentsScript : definitions? commentsScript = some commentsDefinitions := by
  rw [commentsScript, definitions?_intercalate]
  simp only [List.map_cons, List.map_nil]
  repeat rw [String.toList_ofList]
  decide +kernel

theorem changes?_of_definitions {m : Migration} {ds : List Definition}
    (h : definitions? m.script = some ds) (hne : ds ≠ []) :
    m.changes? = some (ds.map .define ++ [.record m.name]) := by
  rw [Migration.changes?, if_neg, h, Option.map_some]
  intro hempty
  rw [definitions?, String.isEmpty_iff.mp hempty] at h
  exact hne (Option.some.inj h).symm

theorem definitions?_of_mem {m : Migration} (hm : m ∈ migrations) :
    definitions? m.script = some m.definitions ∧ m.definitions ≠ [] := by
  have hread : ∀ {script : String} {ds : List Definition}, definitions? script = some ds → ds ≠ [] →
      definitions? script = some ((definitions? script).getD []) ∧
        (definitions? script).getD [] ≠ [] := by
    intro script ds h hne
    rw [h]
    exact ⟨rfl, hne⟩
  simp only [migrations, List.mem_cons, List.not_mem_nil, or_false] at hm
  rcases hm with rfl | rfl | rfl
  · exact hread definitions?_usersScript (List.cons_ne_nil _ _)
  · exact hread definitions?_articlesScript (List.cons_ne_nil _ _)
  · exact hread definitions?_commentsScript (List.cons_ne_nil _ _)

theorem definitions_migrations : migrations.map Migration.definitions =
    [usersDefinitions, articlesDefinitions, commentsDefinitions] := by
  simp only [migrations, List.map_cons, List.map_nil, Migration.definitions,
    definitions?_usersScript, definitions?_articlesScript, definitions?_commentsScript,
    Option.getD_some]

theorem runnable_migrations : Runnable migrations := by
  constructor
  · decide
  · intro m hm
    obtain ⟨hds, hne⟩ := definitions?_of_mem hm
    rw [changes?_of_definitions hds hne, Option.isSome_some]
  · rw [List.flatMap_def, definitions_migrations]
    decide +kernel

namespace Catalog

variable {c : Catalog}

/-- What is defined is there, as it is defined. -/
def holds (c : Catalog) : Definition → Bool
  | .table name columns => c.tables.any fun t => t.name == name && t.columns == columns
  | .index name table column => c.indexes.contains ⟨name, table, column⟩

/-- There is nothing with the name of what is defined. -/
def lacks (c : Catalog) : Definition → Bool
  | .table name _ => (c.table? name).isNone
  | .index name _ _ => !c.hasIndex name

theorem holds_shape (c : Catalog) (d : Definition) : c.shape.holds d = c.holds d := by
  cases d with
  | table name columns => exact List.any_map
  | index => rfl

theorem lacks_shape (c : Catalog) (d : Definition) : c.shape.lacks d = c.lacks d := by
  cases d with
  | table name columns => rw [lacks, table?_shape, Option.isNone_map, lacks]
  | index => rfl

/-- The names that are recorded; none, where there is no table to record them in. -/
def recordedNames (c : Catalog) : List String :=
  c.recorded?.getD []

/-- The script is recorded, once, and all that it defines is there. -/
def IsApplied (c : Catalog) (m : Migration) : Prop :=
  c.recordedNames.count m.name = 1 ∧
    ∃ ds, definitions? m.script = some ds ∧ ∀ d ∈ ds, c.holds d = true

/-- The script is not recorded, and nothing that it defines is there. -/
def IsUntouched (c : Catalog) (m : Migration) : Prop :=
  m.name ∉ c.recordedNames ∧ ∃ ds, definitions? m.script = some ds ∧ ∀ d ∈ ds, c.lacks d = true

end Catalog

/-- After each number of scripts, what they define is there, and what the others define is not. -/
theorem stages : ∀ k < 4, let ds := [usersDefinitions, articlesDefinitions, commentsDefinitions]
    ((ds.take k).flatten.foldlM Catalog.define .created).all fun c =>
      (ds.take k).flatten.all c.holds && (ds.drop k).flatten.all c.lacks := by
  decide

theorem stage_of_split {done todo : List Migration} (hsplit : done ++ todo = migrations)
    {c : Catalog} (hc : (done.flatMap Migration.definitions).foldlM Catalog.define .created =
      some c) :
    (∀ m ∈ done, ∀ d ∈ m.definitions, c.holds d = true) ∧
      ∀ m ∈ todo, ∀ d ∈ m.definitions, c.lacks d = true := by
  have hlength : done.length < 4 := by
    have htotal := congrArg List.length hsplit
    rw [List.length_append] at htotal
    have hthree : migrations.length = 3 := rfl
    omega
  have hds : [usersDefinitions, articlesDefinitions, commentsDefinitions] =
      done.map Migration.definitions ++ todo.map Migration.definitions := by
    rw [← definitions_migrations, ← hsplit, List.map_append]
  have htake : [usersDefinitions, articlesDefinitions, commentsDefinitions].take done.length =
      done.map Migration.definitions := by
    rw [hds, List.take_left' (List.length_map _)]
  have hdrop : [usersDefinitions, articlesDefinitions, commentsDefinitions].drop done.length =
      todo.map Migration.definitions := by
    rw [hds, List.drop_left' (List.length_map _)]
  have hstage := stages done.length hlength
  simp only [htake, hdrop, ← List.flatMap_def, hc, Option.all_some, Bool.and_eq_true,
    List.all_eq_true, List.mem_flatMap, forall_exists_index, and_imp] at hstage
  exact ⟨fun m hm d hd => hstage.1 d m hm hd, fun m hm d hd => hstage.2 d m hm hd⟩

theorem tables_of_definitions :
    ([usersDefinitions, articlesDefinitions, commentsDefinitions].flatten.foldlM
      Catalog.define .created).all fun c =>
        ["users", "articles", "comments"].all fun name => (c.table? name).isSome := by
  decide

namespace Catalog

variable {c c' : Catalog} {done todo : List Migration} {m : Migration}

theorem HasRun.count_recordedNames (h : c.HasRun migrations done) (hm : m ∈ migrations) :
    c.recordedNames.count m.name = (done.map (·.name)).count m.name := by
  obtain ⟨names, hnames, hcount⟩ := h.recorded
  rw [recordedNames, hnames]
  exact hcount m hm

theorem HasRun.isApplied (h : c.HasRun migrations done) (hsplit : done ++ todo = migrations)
    (hm : m ∈ done) : c.IsApplied m := by
  have hmem : m ∈ migrations := hsplit ▸ List.mem_append_left _ hm
  refine ⟨?_, m.definitions, (definitions?_of_mem hmem).1, fun d hd => ?_⟩
  · rw [h.count_recordedNames hmem]
    exact runnable_migrations.count_eq_one hsplit hm
  · rw [← holds_shape]
    exact (stage_of_split hsplit h.shape).1 m hm d hd

theorem HasRun.isUntouched (h : c.HasRun migrations done) (hsplit : done ++ todo = migrations)
    (hm : m ∈ todo) : c.IsUntouched m := by
  have hmem : m ∈ migrations := hsplit ▸ List.mem_append_right _ hm
  refine ⟨?_, m.definitions, (definitions?_of_mem hmem).1, fun d hd => ?_⟩
  · rw [← List.count_eq_zero, h.count_recordedNames hmem, List.count_eq_zero]
    exact runnable_migrations.name_notMem hsplit hm
  · rw [← lacks_shape]
    exact (stage_of_split hsplit h.shape).2 m hm d hd

theorem isUntouched_blank (hm : m ∈ migrations) : blank.IsUntouched m := by
  refine ⟨List.not_mem_nil, m.definitions, (definitions?_of_mem hm).1, fun d _ => ?_⟩
  cases d <;> rfl

theorem IsReady.isApplied_or (h : c.IsReady migrations done) (hsplit : done ++ todo = migrations)
    (hm : m ∈ migrations) : c.IsApplied m ∨ c.IsUntouched m := by
  rcases h with ⟨rfl, -⟩ | h
  · exact .inr (isUntouched_blank hm)
  · rw [← hsplit] at hm
    rcases List.mem_append.mp hm with hm | hm
    · exact .inl (h.isApplied hsplit hm)
    · exact .inr (h.isUntouched hsplit hm)

theorem IsReady.filter_eq (h : c.IsReady migrations done) (hsplit : done ++ todo = migrations) :
    migrations.filter (fun m => !c.recordedNames.contains m.name) = todo := by
  rcases h with ⟨rfl, rfl⟩ | h
  · exact (List.filter_eq_self.mpr fun _ _ => rfl).trans hsplit.symm
  · obtain ⟨names, hnames, -⟩ := h.recorded
    rw [recordedNames, hnames]
    exact h.filter_eq runnable_migrations hsplit hnames

/-- A run that begins on the first catalog and ends on the second has applied the scripts with the
names, and that was all there was to do. -/
structure Completes (c c' : Catalog) (names : List String) : Prop where
  unrecorded : names = (migrations.filter fun m => !c.recordedNames.contains m.name).map (·.name)
  ascending : names.Pairwise (· < ·)
  applied : ∀ m ∈ migrations, c'.IsApplied m
  tables : ∀ name ∈ ["users", "articles", "comments"], (c'.table? name).isSome = true
  schema : c'.shape = current.shape
  keeps : c.Keeps c'
  again : c'.migrate migrations = (.ok [], c')

/-- A run that begins on the first catalog and ends on the second has failed at the script with the
name: the scripts before it are applied, and nothing of it or of those after it. -/
structure StopsAt (c c' : Catalog) (name : String) : Prop where
  split : ∃ earlier m later, earlier ++ m :: later = migrations ∧ m.name = name ∧
    (∀ m' ∈ earlier, c'.IsApplied m') ∧ ∀ m' ∈ m :: later, c'.IsUntouched m'
  keeps : c.Keeps c'

theorem hasRun_current : current.HasRun migrations migrations := by
  obtain ⟨c, hmigrate, hrun⟩ :=
    IsReady.migrate (c := blank) (.inl ⟨rfl, rfl⟩) runnable_migrations (List.nil_append migrations)
  rwa [current, hmigrate]

theorem HasRun.completes (h : c'.HasRun migrations migrations) (hc : c.IsReady migrations done)
    (hsplit : done ++ todo = migrations) (hkeeps : c.Keeps c') :
    c.Completes c' (todo.map (·.name)) where
  unrecorded := (hc.filter_eq hsplit).symm ▸ rfl
  ascending := by
    obtain ⟨-, hsorted, -⟩ := List.pairwise_append.mp (hsplit ▸ runnable_migrations.sorted)
    exact List.pairwise_map.mpr hsorted
  applied _ hm := h.isApplied (List.append_nil migrations) hm
  tables name hname := by
    have htables := tables_of_definitions
    rw [← definitions_migrations, ← List.flatMap_def, h.shape, Option.all_some] at htables
    have hshape := List.all_eq_true.mp htables name hname
    rwa [table?_shape, Option.isSome_map] at hshape
  schema := Option.some.inj (h.shape.symm.trans hasRun_current.shape)
  keeps := hkeeps
  again := h.migrate_eq runnable_migrations

end Catalog

/-- However often runs of the scripts have been cut off, between the statements of a script or
between scripts, and whatever rows have been added that record none of them: a run that is not
disturbed succeeds; every run that succeeds has applied just the scripts that were not recorded, in
the ascending order of their names, so that all are recorded once and all tables are there, no row
is lost, and the next run does nothing; and a run that fails at a script has left nothing of it, and
has applied the scripts before it. -/
theorem migrations_resume {c : Catalog} (hc : Produced migrations c) :
    (∃ names c', c.migrate migrations = (.ok names, c') ∧ c.Completes c' names) ∧
    ∀ r, Steps migrations ⟨c, .idle⟩ r →
      (∀ m ∈ migrations, r.disk.IsApplied m ∨ r.disk.IsUntouched m) ∧
      (∀ names, r.phase = .ended (.ok names) → c.Completes r.disk names) ∧
      (∀ name, r.phase = .ended (.error (.failed name)) → c.StopsAt r.disk name) := by
  obtain ⟨done, todo, hsplit, hready⟩ := hc.ready runnable_migrations
  constructor
  · obtain ⟨c', hmigrate, hrun⟩ := hready.migrate runnable_migrations hsplit
    have hsteps := steps_migrate migrations c
    rw [hmigrate] at hsteps
    obtain ⟨-, hkeeps⟩ := Progress.of_steps hready runnable_migrations hsplit hsteps
    exact ⟨_, c', hmigrate, hrun.completes hready hsplit hkeeps⟩
  · intro r hsteps
    obtain ⟨hprogress, hkeeps⟩ := Progress.of_steps hready runnable_migrations hsplit hsteps
    refine ⟨fun m hm => ?_, fun names hphase => ?_, fun name hphase => ?_⟩
    · obtain ⟨done', todo', hsplit', hready'⟩ := hprogress.ready hsplit
      exact hready'.isApplied_or hsplit' hm
    · obtain ⟨disk, phase⟩ := r
      cases hphase
      cases hprogress with
      | finished hsince h => exact h.completes hready hsince hkeeps
    · obtain ⟨disk, phase⟩ := r
      cases hphase
      cases hprogress with
      | notBegun he => exact nomatch he
      | @failed _ m since later hsince h =>
          refine ⟨⟨_, m, later, hsince, rfl, fun m' hm' => h.isApplied hsince hm',
            fun m' hm' => h.isUntouched hsince hm'⟩, hkeeps⟩

namespace Sample

/-- The first script has been run. -/
def begun : Catalog :=
  ⟨[⟨recordTable, [recordColumn, "applied_at"], [[(recordColumn, "0001_create_users.sql")]]⟩,
      ⟨"users", ["id", "username", "email", "password_hash", "bio", "image", "created_at",
        "updated_at"], []⟩],
    [⟨"idx_users_email", "users", "email"⟩, ⟨"idx_users_username", "users", "username"⟩]⟩

/-- Somebody has recorded a script of their own. -/
def interrupted : Catalog :=
  begun.addRow recordTable [(recordColumn, "0000_notes.sql")]

theorem apply_users :
    Catalog.created.apply ⟨"0001_create_users.sql", usersScript⟩ = some begun := by
  have hchanges : (⟨"0001_create_users.sql", usersScript⟩ : Migration).changes? = some _ :=
    changes?_of_definitions definitions?_usersScript (List.cons_ne_nil _ _)
  rw [Catalog.apply_of_changes hchanges]
  decide

theorem isForeign_notes :
    IsForeign migrations recordTable [(recordColumn, "0000_notes.sql")] :=
  fun _ => ⟨"0000_notes.sql", rfl, by decide⟩

theorem steps_interrupted : ∃ r, Steps migrations ⟨.blank, .idle⟩ r ∧ r.disk = interrupted ∧
    r.phase.failure? = some (.failed "0002_create_articles.sql") := by
  have hpending : pending migrations [] = migrations :=
    (Catalog.hasRun_created migrations).pending_eq runnable_migrations (List.nil_append _) rfl
  have hread : Step migrations ⟨.created, .created⟩
      ⟨.created, .between (pending migrations []) []⟩ := .read rfl
  rw [hpending] at hread
  have hchanges : (⟨"0002_create_articles.sql", articlesScript⟩ : Migration).changes? = some _ :=
    changes?_of_definitions definitions?_articlesScript (List.cons_ne_nil _ _)
  obtain ⟨work, hwork⟩ : ∃ work, interrupted.change
      (.define (articlesDefinitions.head (List.cons_ne_nil _ _))) = some work :=
    Option.isSome_iff_exists.mp (by decide)
  have hfirst : Steps migrations ⟨.blank, .idle⟩ ⟨begun, .between _ _⟩ :=
    .head (.create rfl) (.head hread (steps_apply apply_users _ _))
  refine ⟨_, ((hfirst.tail (.row rfl isForeign_notes)).tail (.begin hchanges _ _)).tail
    (.change hwork _ _ _ _), rfl, rfl⟩

end Sample

open Schema.Sample in
theorem migrations_resume_interrupted :
    Produced migrations .blank ∧ Produced migrations interrupted ∧
      Catalog.blank.StopsAt interrupted "0002_create_articles.sql" ∧
      ∃ c', interrupted.migrate migrations =
          (.ok ["0002_create_articles.sql", "0003_create_comments.sql"], c') ∧
        interrupted.Keeps c' ∧ c'.migrate migrations = (.ok [], c') := by
  obtain ⟨⟨disk, phase⟩, hsteps, rfl, hfailure⟩ := steps_interrupted
  have hproduced : Produced migrations interrupted := .run .blank hsteps
  obtain ⟨-, hruns⟩ := migrations_resume (.blank : Produced migrations .blank)
  obtain ⟨-, -, hfailed⟩ := hruns _ (hsteps.tail (.fail hfailure))
  obtain ⟨⟨names, c', hmigrate, hcompletes⟩, -⟩ := migrations_resume hproduced
  have hnames : names = ["0002_create_articles.sql", "0003_create_comments.sql"] :=
    hcompletes.unrecorded
  exact ⟨.blank, hproduced, hfailed _ rfl, c', hnames ▸ hmigrate, hcompletes.keeps,
    hcompletes.again⟩

end Weblog.Schema
