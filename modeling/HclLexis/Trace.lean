import HclLexis.Lexer

/-! The trace of a run: which modes are entered and left, which errors are met, and a summary at
the end. Depths are those after the move. -/

namespace HclLexis

inductive TraceEvent where
  | pushMode (mode : ModeKind) (depth : Nat)
  | popMode (mode : ModeKind) (depth : Nat)
  | lexicalError (kind : LexErrorKind) (line column : Nat)
  | summary (tokens errors : Nat)
deriving DecidableEq

namespace TraceEvent

def level : TraceEvent → String
  | pushMode .. | popMode .. => "TRACE"
  | lexicalError .. | summary .. => "DEBUG"

def message : TraceEvent → String
  | pushMode .. => "push lexer mode"
  | popMode .. => "pop lexer mode"
  | lexicalError .. => "lexical error"
  | summary .. => "tokenized input"

def ofMove (modes : ModeStack) : Move → List TraceEvent
  | .stay => []
  | .enter mode => [pushMode mode.kind (modes.depth + 1)]
  | .leave => [popMode modes.current.kind (modes.depth - 1)]

def ofToken (token : Token) : List TraceEvent :=
  match token.kind with
  | .error kind => [lexicalError kind token.start.line token.start.column]
  | _ => []

end TraceEvent

namespace Lexer

def pullEvents (lexer : Lexer) : List TraceEvent :=
  match lexer.scan? with
  | none => []
  | some (_, scan) =>
    TraceEvent.ofMove lexer.modes scan.move ++ TraceEvent.ofToken lexer.pull.1

def events (lexer : Lexer) : Nat → List TraceEvent
  | 0 => []
  | n + 1 => lexer.pullEvents ++ lexer.pull.2.events n

end Lexer

def trace (t : Text) : List TraceEvent :=
  let tokens := tokenize t
  (Lexer.ofText t).events tokens.length
    ++ [.summary tokens.length (tokens.countP (·.kind.isError))]

end HclLexis
