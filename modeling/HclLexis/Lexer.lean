import HclLexis.Cursor
import HclLexis.Rules

/-! The lexer: a cursor and a stack of modes. Each token covers at least one character, until the
text ends; from then on every token is the end of the text. -/

namespace HclLexis

structure Lexer where
  cursor : Cursor
  modes : ModeStack
  done : Bool
deriving DecidableEq

namespace Lexer

def ofText (t : Text) : Lexer := ⟨.ofText t, {}, false⟩

def scan? (lexer : Lexer) : Option (Mode × Scan) :=
  match lexer.cursor.rest with
  | [] => none
  | c :: cs => some (lexer.modes.current.scan c cs)

def endToken (lexer : Lexer) : Token :=
  ⟨.eof lexer.modes.unclosed, [], lexer.cursor.location, lexer.cursor.location⟩

def accept (lexer : Lexer) (mode : Mode) (scan : Scan) : Lexer :=
  { lexer with
    cursor := lexer.cursor.advance scan.lexeme.length
    modes := (lexer.modes.setCurrent mode).follow lexer.cursor.location scan.move }

def pull (lexer : Lexer) : Token × Lexer :=
  match lexer.scan? with
  | none => (lexer.endToken, lexer)
  | some (mode, scan) =>
    let next := lexer.accept mode scan
    (⟨scan.kind, scan.lexeme, lexer.cursor.location, next.cursor.location⟩, next)

/-- The next token of the run, which ends with the first token that is the end of the text. -/
def next? (lexer : Lexer) : Option (Token × Lexer) :=
  if lexer.done then none
  else
    let (token, next) := lexer.pull
    some (token, { next with done := token.isEof })

def take (lexer : Lexer) : Nat → List Token × Lexer
  | 0 => ([], lexer)
  | n + 1 => match lexer.next? with
    | none => ([], lexer)
    | some (token, next) =>
      let (tokens, last) := next.take n
      (token :: tokens, last)

/-- The tokens of the run to its end. Each but the last covers a character, so their number is
bounded by that of the characters ahead. -/
def drain (lexer : Lexer) : List Token × Lexer := lexer.take (lexer.cursor.rest.length + 1)

/-- Calls for a token `n` times, without regard to the end of the text. -/
def skip (lexer : Lexer) : Nat → Lexer
  | 0 => lexer
  | n + 1 => lexer.pull.2.skip n

end Lexer

/-- The tokens of a text. Faulty pieces of it are tokens too, and the last one is its end. -/
def tokenize (t : Text) : List Token := (Lexer.ofText t).drain.1

end HclLexis
