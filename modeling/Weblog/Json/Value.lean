import Weblog.Json.Text

namespace Weblog.Json

/-- A value to be written. Its numbers are integers. -/
inductive Value where
  | null
  | bool (b : Bool)
  | int (n : Int)
  | string (s : String)
  | array (items : List Value)
  | object (members : List (String × Value))
deriving Inhabited

def decimal (n : Int) : List Char :=
  if n < 0 then '-' :: Nat.toDigits 10 n.natAbs else Nat.toDigits 10 n.natAbs

mutual

def Value.chars : Value → List Char
  | .null => ['n', 'u', 'l', 'l']
  | .bool true => ['t', 'r', 'u', 'e']
  | .bool false => ['f', 'a', 'l', 's', 'e']
  | .int n => decimal n
  | .string s => quoted s
  | .array items => '[' :: itemChars items ++ [']']
  | .object members => '\x7b' :: memberChars members ++ ['\x7d']

/-- The texts of the items with commas between them. -/
def itemChars : List Value → List Char
  | [] => []
  | [v] => v.chars
  | v :: rest => v.chars ++ ',' :: itemChars rest

/-- The texts of the members with commas between them. -/
def memberChars : List (String × Value) → List Char
  | [] => []
  | [(key, v)] => quoted key ++ ':' :: v.chars
  | (key, v) :: rest => quoted key ++ ':' :: (v.chars ++ ',' :: memberChars rest)

end

def Value.render (v : Value) : String :=
  String.ofList v.chars

end Weblog.Json
