import Weblog.Text.Blank
import Weblog.Text.Lowercase
import Weblog.Text.Pattern

namespace Weblog

open Weblog.Text

/-- A field that was refused, with the reason in words. -/
structure Violation where
  field : String
  message : String
deriving Repr, DecidableEq

/-- Why a value was refused. -/
inductive Fault where
  | required
  | blank
  | tooShort (least : Nat)
  | tooLong (most : Nat)
  | tooManyBytes (most : Nat)
  | usernameCharacters
  | emailFormat
deriving Repr, DecidableEq

/-- The reason in words, for the field named. -/
def Fault.message (field : String) : Fault → String
  | .required => s!"{field} is required"
  | .blank => s!"{field} cannot be empty"
  | .tooShort least => s!"{field} must be at least {least} characters long"
  | .tooLong most => s!"{field} must be at most {most} characters long"
  | .tooManyBytes most => s!"{field} must be at most {most} bytes long"
  | .usernameCharacters => s!"{field} can only contain letters, numbers, and underscores"
  | .emailFormat => s!"{field} format is invalid"

/-- Violations in one line. -/
def describe (violations : List Violation) : String :=
  ", ".intercalate (violations.map fun v => v.field ++ ": " ++ v.message)

/-- The violations among the verdicts on the fields, in the order of the fields. -/
def violations (verdicts : List (String × Option Fault)) : List Violation :=
  verdicts.filterMap fun (field, verdict) =>
    verdict.map fun fault => ⟨field, fault.message field⟩

def usernameLeast : Nat := 3
def usernameMost : Nat := 50
def passwordLeast : Nat := 6
def passwordMost : Nat := 100

/-- The hash of a password reads no more bytes than this. -/
def passwordMostBytes : Nat := 72

def bioMost : Nat := 500
def titleMost : Nat := 200
def descriptionMost : Nat := 500
def bodyMost : Nat := 10000

/-- A letter, a digit or an underscore of ASCII. -/
def isUsernameChar (c : Char) : Bool :=
  c.isAlphanum || c == '_'

/-- A character that may stand before the sign of an email address, in lowercase. -/
def isMailboxChar (c : Char) : Bool :=
  c.isLower || c.isDigit || c == '.' || c == '_' || c == '%' || c == '+' || c == '-'

/-- A character that may stand in the host of an email address, in lowercase. -/
def isHostChar (c : Char) : Bool :=
  c.isLower || c.isDigit || c == '.' || c == '-'

/-- Mailbox, sign, host, dot, and two letters or more. -/
def emailPattern : Pattern :=
  oneOrMore isMailboxChar ++ [.one (· == '@')] ++ oneOrMore isHostChar ++
    [.one (· == '.'), .one Char.isLower] ++ oneOrMore Char.isLower

/-- The lowercase form of the text is an email address. -/
def isEmail (email : String) : Bool :=
  emailPattern.fits (lower email.toList)

def isUsername (username : String) : Bool :=
  (oneOrMore isUsernameChar).fits username.toList

def usernameFault (username : String) : Option Fault :=
  if username.isEmpty then some .required
  else if username.length < usernameLeast then some (.tooShort usernameLeast)
  else if username.length > usernameMost then some (.tooLong usernameMost)
  else if !isUsername username then some .usernameCharacters
  else none

def emailFault (email : String) : Option Fault :=
  if email.isEmpty then some .required
  else if !isEmail email then some .emailFormat
  else none

/-- The fault of a new password. -/
def passwordFault (password : String) : Option Fault :=
  if password.isEmpty then some .required
  else if password.length < passwordLeast then some (.tooShort passwordLeast)
  else if password.length > passwordMost then some (.tooLong passwordMost)
  else if password.utf8ByteSize > passwordMostBytes then some (.tooManyBytes passwordMostBytes)
  else none

/-- The fault of a text that must be longer than blanks and no longer than `most`. -/
def textFault (most : Nat) (text : String) : Option Fault :=
  if text.isEmpty then some .required
  else if isAllBlank text.toList then some .blank
  else if text.length > most then some (.tooLong most)
  else none

/-- The fault of a text that may be anything up to the length `most`. -/
def lengthFault (most : Nat) (text : String) : Option Fault :=
  if text.length > most then some (.tooLong most) else none

end Weblog
