import Weblog.Json.Text

namespace Weblog.Text.Percent

open Weblog.Json (byte hexValue)

def decode : Bytes → Bytes
  | b :: high :: low :: rest =>
    match b == byte '%', hexValue high, hexValue low with
    | true, some h, some l => (16 * h + l).toUInt8 :: decode rest
    | _, _, _ => b :: decode (high :: low :: rest)
  | bytes => bytes

/-- The text that the bytes stand for, if it is one. -/
def decodeText? (bytes : Bytes) : Option String :=
  Utf8.decode (decode bytes)

end Weblog.Text.Percent
