import HclLexis.Location
import HclLexis.Mode
import HclLexis.Text.Quoted

/-! Lexical errors: what is wrong, where, and how both are told. -/

namespace HclLexis

inductive LexErrorKind where
  | unrecognizedCharacter (char : Char)
  | invalidEscape
  | malformedNumber
  | unterminatedComment
  | newlineInString
  | unterminated (mode : ModeKind)
deriving DecidableEq

namespace LexErrorKind

def name : LexErrorKind → String
  | unrecognizedCharacter _ => "UnrecognizedCharacter"
  | invalidEscape => "InvalidEscape"
  | malformedNumber => "MalformedNumber"
  | unterminatedComment => "UnterminatedComment"
  | newlineInString => "NewlineInString"
  | unterminated _ => "Unterminated"

def message : LexErrorKind → String
  | unrecognizedCharacter c => "unrecognized character: " ++ String.ofList (Text.quotedChar c)
  | invalidEscape => "invalid escape sequence"
  | malformedNumber => "malformed number"
  | unterminatedComment => "unterminated block comment"
  | newlineInString => "quoted string cannot span lines"
  | unterminated mode => "unterminated " ++ mode.description ++ " starting here"

end LexErrorKind

structure LexError where
  kind : LexErrorKind
  location : Location
deriving DecidableEq

def LexError.message (error : LexError) : String :=
  error.kind.message ++ " at line " ++ toString error.location.line
    ++ ", column " ++ toString error.location.column

end HclLexis
