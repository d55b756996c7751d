import ClassHeader.Text.Visible

/-!
# Quoted text in messages

A text between double quotes. Quotes, backslashes and characters that do not show are escaped; all
other characters stand for themselves.
-/

namespace ClassHeader.Quoted

/-- A character inside quotes: escaped by a letter if there is one for it, by its number if it does
not show, and itself otherwise. -/
def charText (char : Char) : List Char :=
  match char with
  | '\x00' => ['\\', '0']
  | '\t' => ['\\', 't']
  | '\n' => ['\\', 'n']
  | '\r' => ['\\', 'r']
  | '"' => ['\\', '"']
  | '\\' => ['\\', '\\']
  | other =>
    if Visible.isHidden other then
      '\\' :: 'u' :: '\x7b' :: Nat.toDigits 16 other.toNat ++ ['\x7d']
    else [other]

def text (content : String) : String :=
  String.ofList ('"' :: content.toList.flatMap charText ++ ['"'])

end ClassHeader.Quoted
