import Weblog.Validation

namespace Weblog

open Weblog.Text

/-- A new account. -/
structure Registration where
  username : String
  email : String
  password : String
deriving Repr, DecidableEq

/-- What is asked of a user who comes back. -/
structure Credentials where
  email : String
  password : String
deriving Repr, DecidableEq

/-- Changes to an account; a field without a value is left as it is. -/
structure AccountChanges where
  username : Option String
  email : Option String
  password : Option String
  bio : Option String
  image : Option String
deriving Repr, DecidableEq

/-- A new article. -/
structure ArticleDraft where
  title : String
  description : String
  body : String
deriving Repr, DecidableEq

/-- Changes to an article; a field without a value is left as it is. -/
structure ArticleChanges where
  title : Option String
  description : Option String
  body : Option String
deriving Repr, DecidableEq

/-- A new comment. -/
structure CommentDraft where
  body : String
deriving Repr, DecidableEq

def Registration.violations (r : Registration) : List Violation :=
  Weblog.violations [("username", usernameFault r.username), ("email", emailFault r.email),
    ("password", passwordFault r.password)]

/-- A password that was accepted once is not measured again. -/
def Credentials.violations (c : Credentials) : List Violation :=
  Weblog.violations [("email", emailFault c.email),
    ("password", if c.password.isEmpty then some .required else none)]

def AccountChanges.violations (c : AccountChanges) : List Violation :=
  Weblog.violations [("username", c.username.bind usernameFault),
    ("email", c.email.bind emailFault), ("password", c.password.bind passwordFault),
    ("bio", c.bio.bind (lengthFault bioMost))]

/-- No field has a value. -/
def AccountChanges.isEmpty (c : AccountChanges) : Bool :=
  c.username.isNone && c.email.isNone && c.password.isNone && c.bio.isNone && c.image.isNone

def ArticleDraft.violations (a : ArticleDraft) : List Violation :=
  Weblog.violations [("title", textFault titleMost a.title),
    ("description", textFault descriptionMost a.description), ("body", textFault bodyMost a.body)]

/-- The fault of a text that replaces another: to send no text at all counts as blank. -/
def replacementFault (most : Nat) (text : String) : Option Fault :=
  if isAllBlank text.toList then some .blank else textFault most text

def ArticleChanges.violations (c : ArticleChanges) : List Violation :=
  Weblog.violations [("title", c.title.bind (replacementFault titleMost)),
    ("description", c.description.bind (replacementFault descriptionMost)),
    ("body", c.body.bind (replacementFault bodyMost))]

/-- No field has a value. -/
def ArticleChanges.isEmpty (c : ArticleChanges) : Bool :=
  c.title.isNone && c.description.isNone && c.body.isNone

def CommentDraft.violations (c : CommentDraft) : List Violation :=
  Weblog.violations [("body", textFault bodyMost c.body)]

end Weblog
