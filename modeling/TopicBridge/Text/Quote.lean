/-!
# Quoted texts

A text is shown between quotes.  Inside of them a quote, a backslash and the
control characters are escaped, so that the text takes one line and ends at the
last quote.
-/

namespace TopicBridge.Text

/-- A control character: one of the first 32, or one of the 33 from `DEL` on. -/
def isControl (c : Char) : Bool :=
  c.toNat < 0x20 || (0x7F ≤ c.toNat && c.toNat < 0xA0)

/-- A character as it stands between quotes. -/
def escape (c : Char) : String :=
  match c.toNat with
  | 0x00 => "\\0"
  | 0x09 => "\\t"
  | 0x0A => "\\n"
  | 0x0D => "\\r"
  | 0x22 => "\\\""
  | 0x5C => "\\\\"
  | code =>
      if isControl c then "\\u\x7b" ++ String.ofList (Nat.toDigits 16 code) ++ "\x7d"
      else c.toString

/-- A text between quotes. -/
def quote (text : String) : String :=
  "\"" ++ String.join (text.toList.map escape) ++ "\""

end TopicBridge.Text
