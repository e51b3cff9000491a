import BlockLanguage.Text.GraphemeExtend
import BlockLanguage.Text.Unprintable

/-!
# Quoted text

Messages quote texts between double quotes. Quotes, backslashes, the usual controls and NUL have
a short escape; any other character that cannot be seen on its own, because it is unprintable or
extends the character before it, is written by its code point in hexadecimal.
-/

set_option autoImplicit false

namespace BlockLanguage.Text

/-- The escape of a character that is written by its code point. -/
def codePointEscape (character : Char) : List Char :=
  '\\' :: 'u' :: '{' :: (Nat.toDigits 16 character.toNat ++ ['}'])

/-- A character as it stands between quotes. -/
def quotedCharacter (character : Char) : List Char :=
  match character with
  | '"' => ['\\', '"']
  | '\\' => ['\\', '\\']
  | '\n' => ['\\', 'n']
  | '\r' => ['\\', 'r']
  | '\t' => ['\\', 't']
  | '\x00' => ['\\', '0']
  | other =>
    if isUnprintable other || isGraphemeExtend other then codePointEscape other else [other]

def quote (text : String) : String :=
  String.ofList ('"' :: (text.toList.flatMap quotedCharacter ++ ['"']))

end BlockLanguage.Text
