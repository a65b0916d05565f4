import Weblog.Text.Blank
import Weblog.Text.Split

namespace Weblog

open Weblog.Text

/-- The greatest unsigned number of 64 bits. -/
def greatestWord : Nat := Nat.pow 2 64 - 1

structure Span where
  seconds : Nat
  nanos : Nat
deriving Repr, DecidableEq

structure Settings where
  host : String
  port : Nat
  databasePath : String
  tokenSecret : String
  tokenLifetime : Span
  hashCost : Nat
  origins : List String
  environment : String
deriving Repr, DecidableEq

/-- A choice that replaces a default. -/
inductive Setting where
  | host (name : String)
  | port (number : Nat)
  | databasePath (path : String)
  | tokenSecret (secret : String)
  | tokenHours (hours : Nat)
  | tokenLifetime (span : Span)
  | hashCost (cost : Nat)
  /-- Origins with commas between them. -/
  | origins (list : String)
  | environment (name : String)
deriving Repr, DecidableEq

/-- The entries of a list with commas, without blanks around them; blank entries are left out. -/
def splitOrigins (list : String) : List String :=
  (((splitAt ',' list.toList).map trim).filter fun part => !part.isEmpty).map String.ofList

namespace Settings

/-- Signs tokens where no secret is set. -/
def placeholderSecret : String := "conduit-development-secret-change-me"

def defaultPort : Nat := 8080
def defaultHost : String := "::"
def defaultDatabasePath : String := "./data/conduit.db"
def defaultTokenHours : Nat := 72
def defaultHashCost : Nat := 12
def defaultOrigins : String := "http://localhost:3000"
def defaultEnvironment : String := "development"

/-- The least and the greatest cost of a hash. -/
def leastHashCost : Nat := 4
def greatestHashCost : Nat := 31

/-- So many hours, or the longest span where that is longer. -/
def hoursSpan (hours : Nat) : Span :=
  ⟨min (hours * 3600) greatestWord, 0⟩

def default : Settings where
  host := defaultHost
  port := defaultPort
  databasePath := defaultDatabasePath
  tokenSecret := placeholderSecret
  tokenLifetime := hoursSpan defaultTokenHours
  hashCost := defaultHashCost
  origins := splitOrigins defaultOrigins
  environment := defaultEnvironment

/-- The settings with one choice made. -/
def choose (settings : Settings) : Setting → Settings
  | .host name => { settings with host := name }
  | .port number => { settings with port := number }
  | .databasePath path => { settings with databasePath := path }
  | .tokenSecret secret => { settings with tokenSecret := secret }
  | .tokenHours hours => { settings with tokenLifetime := hoursSpan hours }
  | .tokenLifetime span => { settings with tokenLifetime := span }
  | .hashCost cost => { settings with hashCost := cost }
  | .origins list => { settings with origins := splitOrigins list }
  | .environment name => { settings with environment := name }

/-- The settings with the choices made in their order. -/
def chooseAll (settings : Settings) (choices : List Setting) : Settings :=
  choices.foldl choose settings

/-- Two texts are equal when capitals of ASCII are taken as small letters. -/
def eqIgnoringCase (a b : String) : Bool :=
  a.toList.map Char.toLower == b.toList.map Char.toLower

def isProduction (settings : Settings) : Bool :=
  eqIgnoringCase settings.environment "production"

def hasPlaceholderSecret (settings : Settings) : Bool :=
  settings.tokenSecret == placeholderSecret

/-- Where the service listens; a host with colons stands in brackets. -/
def address (settings : Settings) : String :=
  if settings.host.toList.contains ':' then
    "[" ++ settings.host ++ "]:" ++ settings.port.repr
  else settings.host ++ ":" ++ settings.port.repr

/-- Why settings are refused. -/
inductive Refusal where
  | noSecret
  | placeholderInProduction
  | noLifetime
  | hashCost
deriving Repr, DecidableEq

def Refusal.message : Refusal → String
  | .noSecret => "JWT secret must not be empty"
  | .placeholderInProduction => "CONDUIT_JWT_SECRET must be set in production"
  | .noLifetime => "JWT expiry must be greater than zero"
  | .hashCost => s!"bcrypt cost must be between {leastHashCost} and {greatestHashCost}"

/-- The first reason to refuse the settings. -/
def refusal? (settings : Settings) : Option Refusal :=
  if settings.tokenSecret.isEmpty then some .noSecret
  else if settings.isProduction && settings.hasPlaceholderSecret then
    some .placeholderInProduction
  else if settings.tokenLifetime.seconds = 0 ∧ settings.tokenLifetime.nanos = 0 then
    some .noLifetime
  else if settings.hashCost < leastHashCost ∨ greatestHashCost < settings.hashCost then
    some .hashCost
  else none

end Settings

end Weblog
