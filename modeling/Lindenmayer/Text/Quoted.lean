import Lindenmayer.Text.Formless

/-!
# Texts in quotes

Messages show a text between double quotes. Quotes and backslashes get a
backslash, a few control characters have a letter for a name, and characters
without a form of their own are given by number.
-/

namespace Lindenmayer.Text

/-- A character as it stands between double quotes. -/
def quotedChar (char : Char) : List Char :=
  match char with
  | '"' => ['\\', '"']
  | '\\' => ['\\', '\\']
  | '\x00' => ['\\', '0']
  | '\t' => ['\\', 't']
  | '\n' => ['\\', 'n']
  | '\r' => ['\\', 'r']
  | _ =>
    if formless.contains char then
      ['\\', 'u', '\x7b'] ++ Nat.toDigits 16 char.toNat ++ ['\x7d']
    else
      [char]

def quoted (text : String) : String :=
  String.ofList (['"'] ++ text.toList.flatMap quotedChar ++ ['"'])

end Lindenmayer.Text
