import HclLexis.LexError
import HclLexis.ModeStack

/-! Tokens: a kind, the text it covers, and the locations where that text starts and ends. -/

namespace HclLexis

inductive TokenKind where
  /-- The end of the text, with the constructs still open, the outermost first. -/
  | eof (unterminated : List OpenConstruct)
  | ident
  | number
  | openBrace
  | closeBrace
  | openBracket
  | closeBracket
  | openParen
  | closeParen
  | dot
  | comma
  | assign
  | not
  | and
  | or
  | equal
  | notEqual
  | less
  | lessEqual
  | greater
  | greaterEqual
  | plus
  | minus
  | star
  | slash
  | percent
  | question
  | colon
  | ellipsis
  | fatArrow
  | openQuote
  | closeQuote
  | templateLiteral
  | templateInterp
  | templateControl
  | templateSeqEnd
  | heredocOpen (stripIndent : Bool)
  /-- The line that closes a heredoc, with the indentation to remove if the opener asked for it. -/
  | heredocClose (minIndent : Option Nat)
  | comment
  | newline
  | whitespace
  | error (kind : LexErrorKind)
deriving DecidableEq

namespace TokenKind

def name : TokenKind → String
  | eof _ => "Eof"
  | ident => "Ident"
  | number => "Number"
  | openBrace => "OpenBrace"
  | closeBrace => "CloseBrace"
  | openBracket => "OpenBracket"
  | closeBracket => "CloseBracket"
  | openParen => "OpenParen"
  | closeParen => "CloseParen"
  | dot => "Dot"
  | comma => "Comma"
  | assign => "Assign"
  | not => "Not"
  | and => "And"
  | or => "Or"
  | equal => "Equal"
  | notEqual => "NotEqual"
  | less => "Less"
  | lessEqual => "LessEqual"
  | greater => "Greater"
  | greaterEqual => "GreaterEqual"
  | plus => "Plus"
  | minus => "Minus"
  | star => "Star"
  | slash => "Slash"
  | percent => "Percent"
  | question => "Question"
  | colon => "Colon"
  | ellipsis => "Ellipsis"
  | fatArrow => "FatArrow"
  | openQuote => "OpenQuote"
  | closeQuote => "CloseQuote"
  | templateLiteral => "TemplateLiteral"
  | templateInterp => "TemplateInterp"
  | templateControl => "TemplateControl"
  | templateSeqEnd => "TemplateSeqEnd"
  | heredocOpen _ => "HeredocOpen"
  | heredocClose _ => "HeredocClose"
  | comment => "Comment"
  | newline => "Newline"
  | whitespace => "Whitespace"
  | error _ => "Error"

/-- Tokens that do not matter to a reader of the token list. Line breaks do. -/
def isTrivia : TokenKind → Bool
  | whitespace | comment => true
  | _ => false

def isEof : TokenKind → Bool
  | eof _ => true
  | _ => false

/-- Whether the token reports an error. The end of the text does if a construct is open there. -/
def isError : TokenKind → Bool
  | error _ => true
  | eof unterminated => !unterminated.isEmpty
  | _ => false

end TokenKind

structure Token where
  kind : TokenKind
  text : Text
  start : Location
  stop : Location
deriving DecidableEq

namespace Token

def isEof (token : Token) : Bool := token.kind.isEof

/-- The errors that a token reports. An open construct is located where it was opened. -/
def errors (token : Token) : List LexError :=
  match token.kind with
  | .error kind => [⟨kind, token.start⟩]
  | .eof unterminated => unterminated.map fun construct =>
    ⟨.unterminated construct.kind, construct.openedAt⟩
  | _ => []

def withoutMarker? (marker : Text) (t : Text) : Option Text :=
  if marker.isPrefixOf t then some (t.drop marker.length) else none

/-- The bare name that a heredoc is closed by, of its opener and of its closing line. -/
def terminator? (token : Token) : Option Text :=
  match token.kind with
  | .heredocOpen true => withoutMarker? ['<', '<', '-'] token.text
  | .heredocOpen false => withoutMarker? ['<', '<'] token.text
  | .heredocClose _ => some (token.text.dropWhile Text.isIndent)
  | _ => none

end Token

end HclLexis
