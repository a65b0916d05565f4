import Weblog.Schema.Script
import Weblog.Text.Split

namespace Weblog.Schema

open Weblog.Text

inductive Definition where
  | table (name : String) (columns : List String)
  | index (name : String) (table : String) (column : String)
deriving Repr, DecidableEq

/-- A character of a word. -/
def isWordChar (c : Char) : Bool :=
  c.isAlphanum || c == '_'

/-- The word, given in reverse, before other words. -/
def endWord (word : List Char) (rest : List String) : List String :=
  if word.isEmpty then rest else String.ofList word.reverse :: rest

/-- The words and signs of a statement after `word`, which is given in reverse. -/
def wordsFrom (word : List Char) : List Char → List String
  | [] => endWord word []
  | c :: rest =>
    if isWordChar c then wordsFrom (c :: word) rest
    else if isBlank c then endWord word (wordsFrom [] rest)
    else endWord word (String.singleton c :: wordsFrom [] rest)

/-- The first words of the parts between commas, up to the end of the bracket; `depth` brackets
are open within it, and `fresh` says that a part begins here. -/
def columnsFrom (depth : Nat) (fresh : Bool) : List String → Option (List String)
  | [] => none
  | word :: rest =>
    if word = "(" then columnsFrom (depth + 1) false rest
    else if word = ")" then
      match depth with
      | 0 => if rest.isEmpty then some [] else none
      | depth + 1 => columnsFrom depth false rest
    else if word = "," ∧ depth = 0 then columnsFrom depth true rest
    else if fresh then (columnsFrom depth false rest).map (word :: ·)
    else columnsFrom depth false rest

/-- The definition that a statement makes. -/
def Definition.ofWords? : List String → Option Definition
  | "CREATE" :: kind :: "IF" :: "NOT" :: "EXISTS" :: name :: rest =>
    if kind = "TABLE" then
      match rest with
      | "(" :: columns => (columnsFrom 0 true columns).map (.table name)
      | _ => none
    else if kind = "INDEX" then
      match rest with
      | ["ON", owner, "(", column, ")"] => some (.index name owner column)
      | _ => none
    else none
  | _ => none

/-- The definitions that the section to run makes, one for each statement. -/
def definitions? (script : String) : Option (List Definition) :=
  (((splitAt ';' (upSection script).toList).map (wordsFrom [])).filter
    (fun words => !words.isEmpty)).mapM Definition.ofWords?

end Weblog.Schema
