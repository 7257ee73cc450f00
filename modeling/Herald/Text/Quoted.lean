import Herald.Text.Unseen
/-!
Text between double quotes, for messages to people: every character that could mislead stands as
an escape.
-/

set_option autoImplicit false

namespace Herald.Text

def shown (c : Char) : List Char :=
  match c with
  | '"' => ['\\', '"']
  | '\\' => ['\\', '\\']
  | '\n' => ['\\', 'n']
  | '\r' => ['\\', 'r']
  | '\t' => ['\\', 't']
  | '\x00' => ['\\', '0']
  | c =>
    if isUnseen c then '\\' :: 'u' :: '\x7b' :: Nat.toDigits 16 c.toNat ++ ['\x7d'] else [c]

def inQuotes (s : String) : String := String.ofList ('"' :: s.toList.flatMap shown ++ ['"'])

end Herald.Text
