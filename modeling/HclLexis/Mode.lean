import HclLexis.Text

/-! Lexical modes. The active mode decides which rules split the text ahead: the rules of a body,
of a quoted string, of a heredoc, or of a template sequence inside one of the latter two. -/

namespace HclLexis

inductive ModeKind where
  | structural
  | quotedTemplate
  | heredocTemplate
  | interpolation
deriving DecidableEq

namespace ModeKind

def name : ModeKind → String
  | structural => "Structural"
  | quotedTemplate => "QuotedTemplate"
  | heredocTemplate => "HeredocTemplate"
  | interpolation => "Interpolation"

def description : ModeKind → String
  | structural => "body"
  | quotedTemplate => "string"
  | heredocTemplate => "heredoc"
  | interpolation => "template sequence"

end ModeKind

structure Heredoc where
  terminator : Text
  stripIndent : Bool
  /-- Whether the text ahead starts a line of the body. -/
  atLineStart : Bool := false
  minIndent : Option Nat := none
deriving DecidableEq

namespace Heredoc

/-- Whether a line of the body is the terminator, behind any indentation if that is stripped. -/
def closesAt (heredoc : Heredoc) (line : Text) : Bool :=
  (if heredoc.stripIndent then line.dropWhile Text.isIndent else line) == heredoc.terminator

def closingIndent (heredoc : Heredoc) : Option Nat :=
  if heredoc.stripIndent then some (heredoc.minIndent.getD 0) else none

def isBlankLine (line : Text) : Bool := line.all fun c => Text.isIndent c || c == '\r'

/-- Records the indentation of a body line unless the line is blank. -/
def noteLine (heredoc : Heredoc) (line : Text) : Heredoc :=
  if isBlankLine line then heredoc
  else
    let width := (line.takeWhile Text.isIndent).length
    { heredoc with minIndent := some (heredoc.minIndent.elim width (min · width)) }

end Heredoc

/-- The lexical context. A sequence counts the braces open inside it, so that the brace that
closes an object is told from the one that closes the sequence. -/
inductive Mode where
  | structural
  | quotedTemplate
  | heredocTemplate (heredoc : Heredoc)
  | interpolation (braceDepth : Nat)
deriving DecidableEq

def Mode.kind : Mode → ModeKind
  | structural => .structural
  | quotedTemplate => .quotedTemplate
  | heredocTemplate _ => .heredocTemplate
  | interpolation _ => .interpolation

inductive Move where
  | stay
  | enter (mode : Mode)
  | leave
deriving DecidableEq

end HclLexis
