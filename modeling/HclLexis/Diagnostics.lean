import HclLexis.Lexer

/-! Reports on the tokens of a text. -/

namespace HclLexis

def LexError.ofTokens (tokens : List Token) : List LexError := tokens.flatMap Token.errors

def tokensOrError (t : Text) : Except LexError (List Token) :=
  let tokens := tokenize t
  match tokens.findSome? fun token => token.errors.head? with
  | some error => .error error
  | none => .ok tokens

end HclLexis
