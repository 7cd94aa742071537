import HclLexis.Text
import HclLexis.Unicode.Combining
import HclLexis.Unicode.Printable

/-! Quoted texts and characters. Between the quotes a character shows as itself where that can be
read without doubt; else it is escaped, by a letter or by its code point in hexadecimal. -/

namespace HclLexis.Text

def escapeCodePoint (c : Char) : Text :=
  ['\\', 'u', '{'] ++ Nat.toDigits 16 c.toNat ++ ['}']

def escape (quote : Char) (c : Char) : Text :=
  if c = Char.ofNat 0 then ['\\', '0']
  else if c = '\t' then ['\\', 't']
  else if c = '\r' then ['\\', 'r']
  else if c = '\n' then ['\\', 'n']
  else if c = '\\' || c = quote then ['\\', c]
  else if Unicode.isCombining c || !Unicode.isPrintable c then escapeCodePoint c
  else [c]

def quoted (t : Text) : Text := '"' :: t.flatMap (escape '"') ++ ['"']

def quotedChar (c : Char) : Text := '\'' :: escape '\'' c ++ ['\'']

end HclLexis.Text
