import HclLexis.Text

/-! Backslash escapes of quoted strings. An escape names a character by a letter, or by four or
eight hexadecimal digits that must be the number of a character. -/

namespace HclLexis.Lexeme

/-- What a backslash starts: an escape, or a faulty piece of text that is reported as such. -/
inductive Escape where
  | valid (lexeme : Text)
  | invalid (lexeme : Text)
deriving DecidableEq

namespace Escape

def letters : Text := ['n', 'r', 't', '"', '\\']

def isHexDigit (c : Char) : Bool :=
  c.isDigit || ('a' ≤ c && c ≤ 'f') || ('A' ≤ c && c ≤ 'F')

def hexDigit (c : Char) : Nat :=
  if c.isDigit then c.toNat - '0'.toNat
  else if 'a' ≤ c then c.toNat - 'a'.toNat + 10
  else c.toNat - 'A'.toNat + 10

def hexNumber (digits : Text) : Nat := digits.foldl (fun n c => 16 * n + hexDigit c) 0

def lexeme : Escape → Text
  | valid lexeme | invalid lexeme => lexeme

def ofDigits (marker : Char) (width : Nat) (rest : Text) : Escape :=
  let digits := (rest.take width).takeWhile isHexDigit
  let lexeme := '\\' :: marker :: digits
  if digits.length = width ∧ (hexNumber digits).isValidChar then valid lexeme else invalid lexeme

/-- Reads the text behind a backslash. Before a line break, or the carriage return of one, and at
the end of the text the backslash stands alone. -/
def read : Text → Escape
  | [] => invalid ['\\']
  | c :: cs =>
    if c = '\n' || c = '\r' then invalid ['\\']
    else if letters.contains c then valid ['\\', c]
    else if c = 'u' then ofDigits 'u' 4 cs
    else if c = 'U' then ofDigits 'U' 8 cs
    else invalid ['\\', c]

theorem ofDigits_isPrefix (marker : Char) (width : Nat) (rest : Text) :
    (ofDigits marker width rest).lexeme <+: '\\' :: marker :: rest := by
  have digits : (rest.take width).takeWhile isHexDigit <+: rest :=
    (List.takeWhile_prefix _).trans (List.take_prefix _ _)
  rw [ofDigits]
  split <;> simpa [lexeme] using digits

theorem ofDigits_ne_nil (marker : Char) (width : Nat) (rest : Text) :
    (ofDigits marker width rest).lexeme ≠ [] := by
  rw [ofDigits]
  split <;> simp [lexeme]

theorem read_isPrefix (rest : Text) : (read rest).lexeme <+: '\\' :: rest := by
  cases rest with
  | nil => exact List.prefix_rfl
  | cons c cs =>
    rw [read]
    repeat' split
    · simp [lexeme]
    · simp [lexeme]
    · rename_i marker
      exact marker ▸ ofDigits_isPrefix 'u' 4 cs
    · rename_i marker
      exact marker ▸ ofDigits_isPrefix 'U' 8 cs
    · simp [lexeme]

theorem read_ne_nil (rest : Text) : (read rest).lexeme ≠ [] := by
  cases rest with
  | nil => simp [read, lexeme]
  | cons c cs =>
    rw [read]
    repeat' split
    · simp [lexeme]
    · simp [lexeme]
    · exact ofDigits_ne_nil 'u' 4 cs
    · exact ofDigits_ne_nil 'U' 8 cs
    · simp [lexeme]

theorem exists_of_read {rest lexeme : Text} (same : (read rest).lexeme = lexeme) :
    ∃ piece tail, lexeme = '\\' :: piece ∧ rest = piece ++ tail := by
  have isPrefix := read_isPrefix rest
  have nonempty := read_ne_nil rest
  rw [same] at isPrefix nonempty
  obtain ⟨c, piece, rfl⟩ := List.exists_cons_of_ne_nil nonempty
  obtain ⟨rfl, tail, rfl⟩ := List.cons_prefix_cons.mp isPrefix
  exact ⟨piece, tail, rfl, rfl⟩

end Escape

end HclLexis.Lexeme
