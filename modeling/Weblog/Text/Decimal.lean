namespace Weblog.Text

/-- The number that the digits write, if the text is one digit or more. -/
def nat? (cs : List Char) : Option Nat :=
  if !cs.isEmpty && cs.all Char.isDigit then some (Nat.ofDigitChars 10 cs 0) else none

/-- A number without a minus sign, below the limit. -/
def unsigned? (limit : Nat) (s : String) : Option Nat :=
  let cs := s.toList
  match nat? (if cs.head? = some '+' then cs.tail else cs) with
  | some n => if n < limit then some n else none
  | none => none

/-- A signed integer of so many bits. -/
def signed? (bits : Nat) (s : String) : Option Int :=
  let cs := s.toList
  if cs.head? = some '-' then
    match nat? cs.tail with
    | some n => if n ≤ Nat.pow 2 (bits - 1) then some (-Int.ofNat n) else none
    | none => none
  else (unsigned? (Nat.pow 2 (bits - 1)) s).map Int.ofNat

end Weblog.Text
