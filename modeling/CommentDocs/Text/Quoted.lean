import CommentDocs.Text.Basic
import CommentDocs.Text.Printable

/-!
# CommentDocs.Text.Quoted

The quoted form of a text, from which a reader can see every character of it: it stands between
quotation marks, a quotation mark or a backslash in it has a backslash in front, and a character
that does not show as itself is named by its code point.
-/

namespace CommentDocs
namespace Text

def hexDigits (n : Nat) : Text := Nat.toDigits 16 n

/-- A character named by its code point. -/
def codePointName (c : Char) : Text := "\\u\x7b" ++ hexDigits c.toNat ++ "\x7d"

def quotedChar (c : Char) : Text :=
  match c with
  | '"' => "\\\""
  | '\\' => "\\\\"
  | '\x00' => "\\0"
  | '\t' => "\\t"
  | '\r' => "\\r"
  | '\n' => "\\n"
  | c => if isPrintable c then [c] else codePointName c

def quoted (t : Text) : Text := "\"" ++ t.flatMap quotedChar ++ "\""

end Text
end CommentDocs
