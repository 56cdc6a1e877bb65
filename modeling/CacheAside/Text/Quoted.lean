import CacheAside.Text.Extender
import CacheAside.Text.Printable

namespace CacheAside.Text

def escapeCode (c : Char) : String :=
  "\\u\x7b" ++ String.ofList (Nat.toDigits 16 c.toNat) ++ "\x7d"

/-- Quotes and backslashes get a backslash, four controls have a letter of their own, and a
    character that cannot be shown alone is written by its code point. An apostrophe stays as it
    is. -/
def escapeChar (c : Char) : String :=
  match c with
  | '\x00' => "\\0"
  | '\t' => "\\t"
  | '\n' => "\\n"
  | '\r' => "\\r"
  | '"' => "\\\""
  | '\\' => "\\\\"
  | c => if isExtender c || !isPrintable c then escapeCode c else c.toString

def quoted (s : String) : String :=
  "\"" ++ String.join (s.toList.map escapeChar) ++ "\""

end CacheAside.Text
