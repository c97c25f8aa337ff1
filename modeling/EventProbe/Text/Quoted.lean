import EventProbe.Text.Numeral
import EventProbe.Text.Printable

/-!
# Quoted text

Names and data appear in messages between double quotes, with everything that would not show as
itself written as an escape.
-/

namespace EventProbe.Text

def quotedChar (c : Char) : String :=
  match c with
  | '\x00' => "\\0"
  | '\t' => "\\t"
  | '\r' => "\\r"
  | '\n' => "\\n"
  | '\\' => "\\\\"
  | '"' => "\\\""
  | c =>
    if 0x20 ≤ c.toNat ∧ c.toNat < 0x7F then c.toString
    else if isShown c then c.toString
    else "\\u\x7b" ++ hexDigits c.toNat ++ "\x7d"

def quoted (text : String) : String :=
  "\"" ++ text.toList.foldl (fun s c => s ++ quotedChar c) "" ++ "\""

def commaSeparated (texts : List String) : String :=
  ", ".intercalate texts

end EventProbe.Text
