import CommentDocs.Text.Basic

/-!
# CommentDocs.Text.Number

The written form of numbers: a sign, digits with a point among them, and an exponent. Infinity and
the value that is no number are written in letters of either case.
-/

namespace CommentDocs
namespace Text

def dropSign : Text → Text
  | '+' :: t => t
  | '-' :: t => t
  | t => t

def isExponent : Text → Bool
  | [] => true
  | c :: t =>
    let digits := dropSign t
    (c == 'e' || c == 'E') && !digits.isEmpty && digits.all Char.isDigit

/-- Whether a text is a number without a sign: digits, a point before, among or behind them, and an
exponent. -/
def isUnsigned (t : Text) : Bool :=
  let whole := t.takeWhile Char.isDigit
  match t.dropWhile Char.isDigit with
  | '.' :: rest =>
    let places := rest.takeWhile Char.isDigit
    !(whole ++ places).isEmpty && isExponent (rest.dropWhile Char.isDigit)
  | rest => !whole.isEmpty && isExponent rest

def isNumber (t : Text) : Bool :=
  let unsigned := dropSign t
  let word := unsigned.map Char.toLower
  isUnsigned unsigned || word == "inf".toList || word == "infinity".toList || word == "nan".toList

end Text
end CommentDocs
