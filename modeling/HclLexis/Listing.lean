import HclLexis.Token

/-! The listing of a file's tokens: the path, and then a line for each token with where it starts,
its kind with the kind's data, and its text in quotes. -/

namespace HclLexis.Listing

def location (here : Location) : String :=
  "Location \x7b offset: " ++ toString here.offset ++ ", line: " ++ toString here.line
    ++ ", column: " ++ toString here.column ++ " \x7d"

def construct (item : OpenConstruct) : String :=
  "OpenConstruct \x7b kind: " ++ item.kind.name ++ ", opened_at: " ++ location item.openedAt
    ++ " \x7d"

def optional : Option Nat → String
  | none => "None"
  | some n => "Some(" ++ toString n ++ ")"

def errorKind (kind : LexErrorKind) : String :=
  match kind with
  | .unrecognizedCharacter c => kind.name ++ "(" ++ String.ofList (Text.quotedChar c) ++ ")"
  | .unterminated mode => kind.name ++ "(" ++ mode.name ++ ")"
  | _ => kind.name

def kind (kind : TokenKind) : String :=
  match kind with
  | .eof unterminated =>
    kind.name ++ " \x7b unterminated: [" ++ ", ".intercalate (unterminated.map construct) ++ "] \x7d"
  | .heredocOpen stripIndent =>
    kind.name ++ " \x7b strip_indent: " ++ toString stripIndent ++ " \x7d"
  | .heredocClose minIndent => kind.name ++ " \x7b min_indent: " ++ optional minIndent ++ " \x7d"
  | .error error => kind.name ++ "(" ++ errorKind error ++ ")"
  | _ => kind.name

def text (t : Text) : String := String.ofList (Text.quoted t)

def token (item : Token) : String :=
  toString item.start.line ++ ":" ++ toString item.start.column ++ " " ++ kind item.kind ++ " "
    ++ text item.text

def file (path : String) (tokens : List Token) : String :=
  path ++ ":\n" ++ String.join (tokens.map fun item => "  " ++ token item ++ "\n")

end HclLexis.Listing
