import Weblog.Proofs.Validation.Email

namespace Weblog

open Text

def ValidEmail (email : String) : Prop :=
  ∃ mailbox host ending,
    IsSplit (lower email.toList) mailbox host ending ∧ IsAddress mailbox host ending

/-- At least 6 characters, and at most 100 characters and 72 bytes. -/
structure ValidPassword (password : String) : Prop where
  length_ge : 6 ≤ password.length
  length_le : password.length ≤ 100
  bytes_le : password.utf8ByteSize ≤ 72

/-- A field of a payload, with its value if it is present, and the rule for values. -/
structure Field where
  name : String
  value : Option String
  rule : String → Prop

def Field.Obeyed (f : Field) : Prop :=
  ∀ value ∈ f.value, f.rule value

/-- All fields of a payload, in their order. -/
def Registration.fields (r : Registration) : List Field :=
  [⟨"username", some r.username, ValidUsername⟩, ⟨"email", some r.email, ValidEmail⟩,
    ⟨"password", some r.password, ValidPassword⟩]

def Credentials.fields (c : Credentials) : List Field :=
  [⟨"email", some c.email, ValidEmail⟩, ⟨"password", some c.password, (· ≠ "")⟩]

def AccountChanges.fields (c : AccountChanges) : List Field :=
  [⟨"username", c.username, ValidUsername⟩, ⟨"email", c.email, ValidEmail⟩,
    ⟨"password", c.password, ValidPassword⟩, ⟨"bio", c.bio, (·.length ≤ 500)⟩,
    ⟨"image", c.image, fun _ => True⟩]

def ArticleDraft.fields (a : ArticleDraft) : List Field :=
  [⟨"title", some a.title, ValidText 200⟩, ⟨"description", some a.description, ValidText 500⟩,
    ⟨"body", some a.body, ValidText 10000⟩]

def ArticleChanges.fields (c : ArticleChanges) : List Field :=
  [⟨"title", c.title, ValidText 200⟩, ⟨"description", c.description, ValidText 500⟩,
    ⟨"body", c.body, ValidText 10000⟩]

def CommentDraft.fields (c : CommentDraft) : List Field :=
  [⟨"body", some c.body, ValidText 10000⟩]

theorem validEmail_iff {email : String} : emailFault email = none ↔ ValidEmail email :=
  emailFault_eq_none_iff.trans isEmail_iff_exists_isSplit

theorem passwordFault_eq_none_iff {password : String} :
    passwordFault password = none ↔ ValidPassword password := by
  simp only [passwordFault, ite_some_eq_none_iff, Bool.not_eq_true, gt_iff_lt, Nat.not_lt,
    and_true]
  constructor
  · rintro ⟨-, hleast, hmost, hbytes⟩
    exact ⟨hleast, hmost, hbytes⟩
  · rintro ⟨hleast, hmost, hbytes⟩
    refine ⟨?_, hleast, hmost, hbytes⟩
    rw [← Bool.not_eq_true, String.isEmpty_iff]
    rintro rfl
    exact absurd hleast (by decide)

theorem requiredFault_eq_none_iff {text : String} :
    (if text.isEmpty then some Fault.required else none) = none ↔ text ≠ "" := by
  rw [ite_some_eq_none_iff, String.isEmpty_iff]
  exact and_iff_left rfl

section

variable {α : Type}

open Classical in
/-- The payloads of a kind are refused for the fields that break their rules. -/
structure JudgesFields (fields : α → List Field) (violations : α → List Violation) : Prop where
  refused_iff : ∀ a, violations a ≠ [] ↔ ∃ f ∈ fields a, ¬ f.Obeyed
  /-- The offending fields are named, in their order. -/
  names_eq : ∀ a, (violations a).map (·.field) =
    ((fields a).filter fun f => ¬ f.Obeyed).map (·.name)
  nodup_names : ∀ a, ((violations a).map (·.field)).Nodup
  /-- What is said of a field depends on nothing but the field. -/
  by_value : ∃ verdict : String → String → Option String, ∀ a, violations a =
    (fields a).filterMap fun f => (f.value.bind (verdict f.name)).map (Violation.mk f.name)

theorem violations_none (field : String) (rest : List (String × Option Fault)) :
    Weblog.violations ((field, none) :: rest) = Weblog.violations rest := rfl

theorem violations_some (field : String) (fault : Fault) (rest : List (String × Option Fault)) :
    Weblog.violations ((field, some fault) :: rest) =
      ⟨field, fault.message field⟩ :: Weblog.violations rest := rfl

theorem obeyed_iff {f : Field} {verdict : String → Option Fault}
    (h : ∀ value, verdict value = none ↔ f.rule value) :
    f.value.bind verdict = none ↔ f.Obeyed := by
  rw [Option.bind_eq_none_iff, Field.Obeyed]
  exact forall₂_congr fun value _ => h value

open Classical in
theorem map_field_violations {l : List Field} {verdict : String → String → Option Fault}
    (h : ∀ f ∈ l, ∀ value, verdict f.name value = none ↔ f.rule value) :
    (Weblog.violations (l.map fun f => (f.name, f.value.bind (verdict f.name)))).map (·.field) =
      (l.filter fun f => ¬ f.Obeyed).map (·.name) := by
  induction l with
  | nil => rfl
  | cons f l ih =>
      rw [List.forall_mem_cons] at h
      have hf := obeyed_iff h.1
      rw [List.map_cons]
      by_cases hobeyed : f.Obeyed
      · rw [hf.mpr hobeyed, violations_none, ih h.2]
        simp [hobeyed]
      · obtain ⟨fault, hfault⟩ := Option.ne_none_iff_exists'.mp (mt hf.mp hobeyed)
        rw [hfault, violations_some, List.map_cons, ih h.2]
        simp [hobeyed]

/-- A payload is judged by its fields if it is judged by one verdict for each of them. -/
theorem JudgesFields.of_verdict {fields : α → List Field} {violations : α → List Violation}
    (verdict : String → String → Option Fault)
    (hnames : ∀ a, ((fields a).map (·.name)).Nodup)
    (hrules : ∀ a, (fields a).Forall fun f => ∀ value, verdict f.name value = none ↔ f.rule value)
    (heq : ∀ a, violations a =
      Weblog.violations ((fields a).map fun f => (f.name, f.value.bind (verdict f.name)))) :
    JudgesFields fields violations := by
  have hfields := fun a => (congrArg (List.map (·.field)) (heq a)).trans
    (map_field_violations (List.forall_iff_forall_mem.mp (hrules a)))
  refine ⟨?_, hfields, ?_, fun name value => (verdict name value).map (Fault.message name), ?_⟩
  · intro a
    rw [ne_eq, ← List.map_eq_nil_iff, hfields a]
    simp
  · intro a
    rw [hfields a]
    exact (hnames a).sublist (List.filter_sublist.map _)
  · intro a
    rw [heq a, Weblog.violations, List.filterMap_map]
    apply List.filterMap_congr
    intro f _
    cases hvalue : f.value with
    | none => simp [hvalue]
    | some value => simp [hvalue, Function.comp_def]

end

/-- A field of an account is judged alike wherever it comes from; an image may be anything. -/
def accountVerdict : String → String → Option Fault
  | "username" => usernameFault
  | "email" => emailFault
  | "password" => passwordFault
  | "bio" => lengthFault bioMost
  | _ => fun _ => none

def credentialsVerdict : String → String → Option Fault
  | "email" => emailFault
  | _ => fun password => if password.isEmpty then some .required else none

def mostOf : String → ℕ
  | "title" => titleMost
  | "description" => descriptionMost
  | _ => bodyMost

theorem judgesFields_registration :
    JudgesFields Registration.fields Registration.violations := by
  apply JudgesFields.of_verdict accountVerdict
  · intro r
    simp [Registration.fields]
  · intro r
    exact ⟨fun _ => usernameFault_eq_none_iff, fun _ => validEmail_iff,
      fun _ => passwordFault_eq_none_iff⟩
  · intro r
    rfl

theorem judgesFields_credentials :
    JudgesFields Credentials.fields Credentials.violations := by
  apply JudgesFields.of_verdict credentialsVerdict
  · intro c
    simp [Credentials.fields]
  · intro c
    exact ⟨fun _ => validEmail_iff, fun _ => requiredFault_eq_none_iff⟩
  · intro c
    rfl

theorem judgesFields_accountChanges :
    JudgesFields AccountChanges.fields AccountChanges.violations := by
  apply JudgesFields.of_verdict accountVerdict
  · intro c
    simp [AccountChanges.fields]
  · intro c
    exact ⟨fun _ => usernameFault_eq_none_iff, fun _ => validEmail_iff,
      fun _ => passwordFault_eq_none_iff, fun _ => lengthFault_eq_none_iff,
      fun _ => iff_of_true rfl trivial⟩
  · intro c
    have himage : c.image.bind (accountVerdict "image") = none :=
      Option.bind_eq_none_iff.mpr fun _ _ => rfl
    simp only [AccountChanges.fields, List.map_cons, List.map_nil, himage]
    rfl

theorem judgesFields_articleDraft :
    JudgesFields ArticleDraft.fields ArticleDraft.violations := by
  apply JudgesFields.of_verdict fun name => textFault (mostOf name)
  · intro a
    simp [ArticleDraft.fields]
  · intro a
    exact ⟨fun _ => textFault_eq_none_iff, fun _ => textFault_eq_none_iff,
      fun _ => textFault_eq_none_iff⟩
  · intro a
    rfl

theorem judgesFields_articleChanges :
    JudgesFields ArticleChanges.fields ArticleChanges.violations := by
  apply JudgesFields.of_verdict fun name => replacementFault (mostOf name)
  · intro c
    simp [ArticleChanges.fields]
  · intro c
    exact ⟨fun _ => replacementFault_eq_none_iff, fun _ => replacementFault_eq_none_iff,
      fun _ => replacementFault_eq_none_iff⟩
  · intro c
    rfl

theorem judgesFields_commentDraft :
    JudgesFields CommentDraft.fields CommentDraft.violations := by
  apply JudgesFields.of_verdict fun name => textFault (mostOf name)
  · intro c
    simp [CommentDraft.fields]
  · intro c
    exact fun _ => textFault_eq_none_iff
  · intro c
    rfl

/-- The changes that set everything anew. -/
def ArticleDraft.asChanges (a : ArticleDraft) : ArticleChanges :=
  ⟨some a.title, some a.description, some a.body⟩

def Registration.asChanges (r : Registration) (bio image : Option String) : AccountChanges :=
  ⟨some r.username, some r.email, some r.password, bio, image⟩

/-- What would have been sent at first for what is there after the changes. -/
def ArticleDraft.changed (a : ArticleDraft) (c : ArticleChanges) : ArticleDraft :=
  ⟨c.title.getD a.title, c.description.getD a.description, c.body.getD a.body⟩

def Registration.changed (r : Registration) (c : AccountChanges) : Registration :=
  ⟨c.username.getD r.username, c.email.getD r.email, c.password.getD r.password⟩

theorem ArticleDraft.map_field_asChanges (a : ArticleDraft) :
    a.asChanges.violations.map (·.field) = a.violations.map (·.field) := by
  have hfields : a.asChanges.fields = a.fields := rfl
  rw [judgesFields_articleChanges.names_eq, judgesFields_articleDraft.names_eq, hfields]

theorem Registration.map_field_asChanges (r : Registration) (bio image : Option String) :
    (r.asChanges bio image).violations.map (·.field) =
      r.violations.map (·.field) ++ if ∀ text ∈ bio, text.length ≤ 500 then [] else ["bio"] := by
  classical
  have hfields : (r.asChanges bio image).fields =
      r.fields ++ [⟨"bio", bio, (·.length ≤ 500)⟩, ⟨"image", image, fun _ => True⟩] := rfl
  rw [judgesFields_accountChanges.names_eq, judgesFields_registration.names_eq, hfields,
    List.filter_append, List.map_append]
  congr 1
  have himage : Field.Obeyed ⟨"image", image, fun _ => True⟩ := fun _ _ => trivial
  have hbio : Field.Obeyed ⟨"bio", bio, (·.length ≤ 500)⟩ ↔ ∀ text ∈ bio, text.length ≤ 500 :=
    Iff.rfl
  split
  · rename_i h
    simp [himage, hbio.mpr h]
  · rename_i h
    simp [himage, mt hbio.mp h]

theorem forall_mem_iff_getD {α : Type} {p : α → Prop} {o : Option α} {a : α} (ha : p a) :
    (∀ x ∈ o, p x) ↔ p (o.getD a) := by
  cases o with
  | none => simp [ha]
  | some x => simp

theorem ArticleChanges.violations_eq_nil_iff_changed {c : ArticleChanges} :
    c.violations = [] ↔
      ∀ a : ArticleDraft, a.violations = [] → (a.changed c).violations = [] := by
  have hiff : ∀ a : ArticleDraft, a.violations = [] →
      (c.violations = [] ↔ (a.changed c).violations = []) := by
    intro a ha
    obtain ⟨htitle, hdescription, hbody⟩ := ArticleDraft.violations_eq_nil_iff.mp ha
    rw [ArticleChanges.violations_eq_nil_iff, ArticleDraft.violations_eq_nil_iff,
      forall_mem_iff_getD htitle, forall_mem_iff_getD hdescription, forall_mem_iff_getD hbody]
    rfl
  constructor
  · intro hc a ha
    exact (hiff a ha).mp hc
  · intro h
    have hsample : (⟨"a", "b", "c"⟩ : ArticleDraft).violations = [] := by decide
    exact (hiff _ hsample).mpr (h _ hsample)

theorem AccountChanges.violations_eq_nil_iff_changed {c : AccountChanges} :
    c.violations = [] ↔ (∀ bio ∈ c.bio, bio.length ≤ 500) ∧
      ∀ r : Registration, r.violations = [] → (r.changed c).violations = [] := by
  have hiff : ∀ r : Registration, r.violations = [] →
      (c.violations = [] ↔
        (∀ bio ∈ c.bio, bio.length ≤ 500) ∧ (r.changed c).violations = []) := by
    intro r hr
    obtain ⟨husername, hemail, hpassword⟩ := Registration.violations_eq_nil_iff.mp hr
    rw [AccountChanges.violations_eq_nil_iff, Registration.violations_eq_nil_iff,
      forall_mem_iff_getD husername, forall_mem_iff_getD (p := fun e => isEmail e = true) hemail,
      forall_mem_iff_getD (p := fun password => passwordFault password = none) hpassword]
    constructor
    · rintro ⟨husername, hemail, hpassword, hbio⟩
      exact ⟨hbio, husername, hemail, hpassword⟩
    · rintro ⟨hbio, husername, hemail, hpassword⟩
      exact ⟨husername, hemail, hpassword, hbio⟩
  constructor
  · intro hc
    have hbio := (AccountChanges.violations_eq_nil_iff.mp hc).2.2.2
    exact ⟨hbio, fun r hr => ((hiff r hr).mp hc).2⟩
  · rintro ⟨hbio, h⟩
    have hsample : (⟨"bob", "bob@b.io", "secret"⟩ : Registration).violations = [] := by decide
    exact (hiff _ hsample).mpr ⟨hbio, h _ hsample⟩

/-- Every payload is refused for the fields that break their rules: all of them are named, once and
in their order, and each is judged by its value alone. Changes that set everything are refused for
the same fields as a new thing, and changes are accepted exactly if what they leave would have been
accepted as new. -/
theorem every_fault_reported :
    (JudgesFields Registration.fields Registration.violations ∧
      JudgesFields Credentials.fields Credentials.violations ∧
      JudgesFields AccountChanges.fields AccountChanges.violations ∧
      JudgesFields ArticleDraft.fields ArticleDraft.violations ∧
      JudgesFields ArticleChanges.fields ArticleChanges.violations ∧
      JudgesFields CommentDraft.fields CommentDraft.violations) ∧
    (∀ a : ArticleDraft, a.asChanges.violations.map (·.field) = a.violations.map (·.field)) ∧
    (∀ (r : Registration) (bio image : Option String),
      (r.asChanges bio image).violations.map (·.field) =
        r.violations.map (·.field) ++ if ∀ text ∈ bio, text.length ≤ 500 then [] else ["bio"]) ∧
    (∀ c : ArticleChanges, c.violations = [] ↔
      ∀ a : ArticleDraft, a.violations = [] → (a.changed c).violations = []) ∧
    ∀ c : AccountChanges, c.violations = [] ↔ (∀ bio ∈ c.bio, bio.length ≤ 500) ∧
      ∀ r : Registration, r.violations = [] → (r.changed c).violations = [] := by
  refine ⟨⟨?_, ?_, ?_, ?_, ?_, ?_⟩, ?_, ?_, ?_, ?_⟩
  · exact judgesFields_registration
  · exact judgesFields_credentials
  · exact judgesFields_accountChanges
  · exact judgesFields_articleDraft
  · exact judgesFields_articleChanges
  · exact judgesFields_commentDraft
  · exact ArticleDraft.map_field_asChanges
  · exact Registration.map_field_asChanges
  · exact fun _ => ArticleChanges.violations_eq_nil_iff_changed
  · exact fun _ => AccountChanges.violations_eq_nil_iff_changed

end Weblog
