import Weblog.Payload.Reading
import Weblog.Proofs.Json.View
import Weblog.Proofs.Time.Reading
import Weblog.Proofs.Token.Window
import Weblog.Reply.Reading
import Weblog.Reply.Writing

namespace Weblog

open Json

variable {bs : Bytes}

/-- The times of an article are valid, and its count fits into 64 bits. -/
structure ArticleView.IsValid (a : ArticleView) : Prop where
  createdAt : a.createdAt.IsValid
  updatedAt : a.updatedAt.IsValid
  favoritesCount : fitsSigned a.favoritesCount = true

structure ArticlePage.IsValid (page : ArticlePage) : Prop where
  articles : ∀ a ∈ page.articles, a.IsValid
  articlesCount : fitsSigned page.articlesCount = true

structure CommentView.IsValid (c : CommentView) : Prop where
  id : fitsSigned c.id = true
  createdAt : c.createdAt.IsValid
  updatedAt : c.updatedAt.IsValid

structure Claims.IsValid (c : Claims) : Prop where
  userId : fitsSigned c.userId = true
  issuedAt : fitsSigned c.issuedAt = true
  notBefore : fitsSigned c.notBefore = true
  expiresAt : fitsSigned c.expiresAt = true

theorem Instant.read?_of_begins {t : Instant} (ht : t.IsValid) (h : Begins (.string t.text) bs) :
    Instant.read? bs = some t := by
  rw [Instant.read?, string?_of_begins h, Option.bind_eq_bind, Option.bind_some,
    Instant.ofText?_text ht]

theorem Profile.read?_of_begins {p : Profile} (h : Begins p.toJson bs) :
    Profile.read? bs = some p := by
  obtain ⟨fields, hfields, hall⟩ := fields?_of_keys h (by simp) false
  simp only [List.map_cons, List.map_nil] at hfields hall
  obtain _ | ⟨⟨husername⟩, _ | ⟨⟨hbio⟩, _ | ⟨⟨himage⟩, _ | ⟨⟨hfollowing⟩, _ | _⟩⟩⟩⟩ := hall
  rw [Profile.read?, hfields]
  simp only [Option.bind_eq_bind, Option.bind_some, string?_of_begins husername,
    string?_of_begins hbio, string?_of_begins himage, bool?_of_begins hfollowing, Option.pure_def]

theorem AccountView.read?_of_begins {a : AccountView} (h : Begins a.toJson bs) :
    AccountView.read? bs = some a := by
  obtain ⟨fields, hfields, hall⟩ := fields?_of_keys h (by simp) false
  simp only [List.map_cons, List.map_nil] at hfields hall
  obtain _ | ⟨⟨hemail⟩, _ | ⟨⟨htoken⟩, _ | ⟨⟨husername⟩, _ | ⟨⟨hbio⟩,
    _ | ⟨⟨himage⟩, _ | _⟩⟩⟩⟩⟩ := hall
  rw [AccountView.read?, hfields]
  simp only [Option.bind_eq_bind, Option.bind_some, string?_of_begins hemail,
    string?_of_begins htoken, string?_of_begins husername, string?_of_begins hbio,
    string?_of_begins himage, Option.pure_def]

theorem ArticleView.read?_of_begins {a : ArticleView} (ha : a.IsValid) (h : Begins a.toJson bs) :
    ArticleView.read? bs = some a := by
  obtain ⟨fields, hfields, hall⟩ := fields?_of_keys h (by simp) false
  simp only [List.map_cons, List.map_nil] at hfields hall
  obtain _ | ⟨⟨hslug⟩, _ | ⟨⟨htitle⟩, _ | ⟨⟨hdescription⟩, _ | ⟨⟨hbody⟩, _ | ⟨⟨hcreated⟩,
    _ | ⟨⟨hupdated⟩, _ | ⟨⟨hfavorited⟩, _ | ⟨⟨hcount⟩, _ | ⟨⟨hauthor⟩, _ | _⟩⟩⟩⟩⟩⟩⟩⟩⟩ := hall
  rw [ArticleView.read?, hfields]
  simp only [Option.bind_eq_bind, Option.bind_some, string?_of_begins hslug,
    string?_of_begins htitle, string?_of_begins hdescription, string?_of_begins hbody,
    Instant.read?_of_begins ha.createdAt hcreated, Instant.read?_of_begins ha.updatedAt hupdated,
    bool?_of_begins hfavorited, int?_of_begins hcount ha.favoritesCount,
    Profile.read?_of_begins hauthor, Option.pure_def]

theorem ArticlePage.read?_of_begins {page : ArticlePage} (hpage : page.IsValid)
    (h : Begins page.reply bs) : ArticlePage.read? bs = some page := by
  obtain ⟨fields, hfields, hall⟩ := fields?_of_keys h (by simp) false
  simp only [List.map_cons, List.map_nil] at hfields hall
  obtain _ | ⟨⟨harticles⟩, _ | ⟨⟨hcount⟩, _ | _⟩⟩ := hall
  have hlist := list?_of_begins harticles fun a ha _ hview =>
    ArticleView.read?_of_begins (hpage.articles a ha) hview
  rw [ArticlePage.read?, hfields]
  simp only [Option.bind_eq_bind, Option.bind_some, hlist,
    int?_of_begins hcount hpage.articlesCount, Option.pure_def]

theorem CommentView.read?_of_begins {c : CommentView} (hc : c.IsValid) (h : Begins c.toJson bs) :
    CommentView.read? bs = some c := by
  obtain ⟨fields, hfields, hall⟩ := fields?_of_keys h (by simp) false
  simp only [List.map_cons, List.map_nil] at hfields hall
  obtain _ | ⟨⟨hid⟩, _ | ⟨⟨hbody⟩, _ | ⟨⟨hcreated⟩, _ | ⟨⟨hupdated⟩,
    _ | ⟨⟨hauthor⟩, _ | _⟩⟩⟩⟩⟩ := hall
  rw [CommentView.read?, hfields]
  simp only [Option.bind_eq_bind, Option.bind_some, int?_of_begins hid hc.id,
    string?_of_begins hbody, Instant.read?_of_begins hc.createdAt hcreated,
    Instant.read?_of_begins hc.updatedAt hupdated, Profile.read?_of_begins hauthor,
    Option.pure_def]

theorem wrapped?_of_begins {α : Type} {key : String} {v : Value} {read : Bytes → Option α} {a : α}
    (h : Begins (.object [(key, v)]) bs) (hread : ∀ view, Begins v view → read view = some a) :
    wrapped? key read bs = some a := by
  obtain ⟨fields, hfields, hall⟩ := fields?_of_keys h (by simp) false
  simp only [List.map_cons, List.map_nil] at hfields hall
  obtain _ | ⟨⟨hv⟩, _ | _⟩ := hall
  rw [wrapped?, hfields]
  exact hread _ hv

/-- The text that is written of a value is a document which is read as that value. -/
def ReadsBack {α : Type} (read? : Bytes → Option α) (write : α → Value) (a : α) : Prop :=
  document? read? (Utf8.encode (write a).render) = some a

theorem readsBack_of_begins {α : Type} {read? : Bytes → Option α} {write : α → Value} {a : α}
    (h : ∀ view, Begins (write a) view → read? view = some a) : ReadsBack read? write a := by
  rw [ReadsBack, Value.render, Utf8.encode_ofList, document?_chars]
  exact h _ (begins_chars (write a))

end Weblog
