import PredicateSql.Text.Hidden

/-!
# Quoted text

Text as it stands in messages and printed expressions: between double quotes, on one line,
and with every character visible.
-/

namespace PredicateSql.Text

/-- A character by its code point: lower-case hexadecimal, without padding. -/
def escapeCode (c : Char) : List Char :=
  '\\' :: 'u' :: '\x7b' :: (Nat.toDigits 16 c.toNat ++ ['\x7d'])

/-- How a character is written between double quotes. A single quote needs no escape there. -/
def escape (c : Char) : List Char :=
  match c with
  | '\x00' => ['\\', '0']
  | '\t' => ['\\', 't']
  | '\r' => ['\\', 'r']
  | '\n' => ['\\', 'n']
  | '\x22' => ['\\', '\x22']
  | '\\' => ['\\', '\\']
  | c => if isHidden c then escapeCode c else [c]

def quote (s : String) : String :=
  String.ofList ('\x22' :: (s.toList.flatMap escape ++ ['\x22']))

end PredicateSql.Text
