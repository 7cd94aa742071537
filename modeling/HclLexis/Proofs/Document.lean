import HclLexis.Proofs.Outcome

/-! Documents as trees: identifiers, numbers, brace groups, strings and heredocs, the latter two
with text and sequences of items inside. A tree has a text and, written down beside it, the pieces
that the text is meant to fall into. -/

namespace HclLexis.Document

open Lexeme

structure Digits where
  text : Text
  nonempty : text ≠ []
  all : ∀ d ∈ text, d.isDigit

structure Exponent where
  marker : Char
  sign : Text
  digits : Digits
  isMarker : marker = 'e' ∨ marker = 'E'
  isSign : sign = [] ∨ sign = ['+'] ∨ sign = ['-']

structure Numeral where
  whole : Digits
  fraction : Option Digits
  exponent : Option Exponent

structure Name where
  text : Text
  isIdentifier : IsIdentifier text

def Exponent.text (exponent : Exponent) : Text :=
  exponent.marker :: (exponent.sign ++ exponent.digits.text)

def Numeral.text (numeral : Numeral) : Text :=
  numeral.whole.text ++ numeral.fraction.elim [] (fun digits => '.' :: digits.text) ++
    numeral.exponent.elim [] Exponent.text

theorem Digits.exists_text_eq_cons (digits : Digits) :
    ∃ d ds, digits.text = d :: ds ∧ d.isDigit := by
  obtain ⟨d, ds, same⟩ := List.exists_cons_of_ne_nil digits.nonempty
  exact ⟨d, ds, same, digits.all d (by rw [same]; exact List.mem_cons_self)⟩

theorem Numeral.exists_text_eq_cons (numeral : Numeral) :
    ∃ d ds, numeral.text = d :: ds ∧ d.isDigit := by
  obtain ⟨d, ds, same, digit⟩ := numeral.whole.exists_text_eq_cons
  exact ⟨d, _, by rw [text, same]; rfl, digit⟩

mutual

inductive Item where
  | identifier (name : Name)
  | number (numeral : Numeral)
  | group (items : List Item)
  | string (parts : List Part)
  | heredoc (stripIndent : Bool) (terminator : Name) (lines : List (List Part))

inductive Part where
  | plain (t : Text)
  | sequence (isControl : Bool) (items : List Item)

end

def sequenceMarker (isControl : Bool) : Text := if isControl then ['%', '{'] else ['$', '{']

mutual

def Item.text : Item → Text
  | .identifier name => name.text
  | .number numeral => numeral.text
  | .group items => ['{', ' '] ++ itemsText items ++ ['}']
  | .string parts => ['"'] ++ partsText parts ++ ['"']
  | .heredoc stripIndent terminator lines =>
    heredocMarker stripIndent ++ terminator.text ++ ['\n'] ++ linesText lines ++
      terminator.text ++ ['\n']

def itemsText : List Item → Text
  | [] => []
  | item :: items => item.text ++ [' '] ++ itemsText items

def Part.text : Part → Text
  | .plain t => t
  | .sequence isControl items => sequenceMarker isControl ++ [' '] ++ itemsText items ++ ['}']

def partsText : List Part → Text
  | [] => []
  | part :: parts => part.text ++ partsText parts

def linesText : List (List Part) → Text
  | [] => []
  | line :: lines => partsText line ++ ['\n'] ++ linesText lines

end

abbrev Piece := TokenKind × Text

def space : Piece := (.whitespace, [' '])

def lineBreak : Piece := (.newline, ['\n'])

def sequenceKind (isControl : Bool) : TokenKind :=
  if isControl then .templateControl else .templateInterp

def lineIndent? : List Part → Option Nat
  | [] => none
  | [.plain t] => if t.all Text.isIndent then none else some (t.takeWhile Text.isIndent).length
  | .plain t :: _ => some (t.takeWhile Text.isIndent).length
  | .sequence _ _ :: _ => some 0

/-- The indentation that the lines of a heredoc share, if it is asked for. -/
def commonIndent (stripIndent : Bool) (lines : List (List Part)) : Option Nat :=
  if stripIndent then some ((lines.filterMap lineIndent?).min?.getD 0) else none

mutual

def Item.pieces : Item → List Piece
  | .identifier name => [(.ident, name.text)]
  | .number numeral => [(.number, numeral.text)]
  | .group items => [(.openBrace, ['{']), space] ++ itemsPieces items ++ [(.closeBrace, ['}'])]
  | .string parts => [(.openQuote, ['"'])] ++ partsPieces parts ++ [(.closeQuote, ['"'])]
  | .heredoc stripIndent terminator lines =>
    [(.heredocOpen stripIndent, heredocMarker stripIndent ++ terminator.text), lineBreak] ++
      linesPieces lines ++
      [(.heredocClose (commonIndent stripIndent lines), terminator.text), lineBreak]

def itemsPieces : List Item → List Piece
  | [] => []
  | item :: items => item.pieces ++ [space] ++ itemsPieces items

def Part.pieces : Part → List Piece
  | .plain t => [(.templateLiteral, t)]
  | .sequence isControl items =>
    [(sequenceKind isControl, sequenceMarker isControl), space] ++ itemsPieces items ++
      [(.templateSeqEnd, ['}'])]

def partsPieces : List Part → List Piece
  | [] => []
  | part :: parts => part.pieces ++ partsPieces parts

def linesPieces : List (List Part) → List Piece
  | [] => []
  | line :: lines => partsPieces line ++ [lineBreak] ++ linesPieces lines

end

def isHeredocText (c : Char) : Bool := !(['$', '%', '\n', '\r'].contains c)

def isStringText (c : Char) : Bool := isHeredocText c && !(['"', '\\'].contains c)

def Part.isPlain : Part → Bool
  | .plain _ => true
  | .sequence _ _ => false

/-- Whether a line is the terminator of its heredoc, behind any indentation if that is stripped. -/
def isTerminatorLine (stripIndent : Bool) (terminator : Name) : List Part → Bool
  | [.plain t] => (if stripIndent then t.dropWhile Text.isIndent else t) == terminator.text
  | _ => false

mutual

/-- Whether the text of an item can be told apart again: plain texts hold something, nothing that
means more there, and do not meet each other, and no line of a heredoc is its terminator. -/
def Item.isClean : Item → Bool
  | .identifier _ | .number _ => true
  | .group items => itemsClean items
  | .string parts => partsClean isStringText parts
  | .heredoc stripIndent terminator lines => linesClean stripIndent terminator lines

def itemsClean : List Item → Bool
  | [] => true
  | item :: items => item.isClean && itemsClean items

def Part.isClean (isText : Char → Bool) : Part → Bool
  | .plain t => !t.isEmpty && t.all isText
  | .sequence _ items => itemsClean items

def partsClean (isText : Char → Bool) : List Part → Bool
  | [] => true
  | part :: parts => part.isClean isText && !(part.isPlain && parts.head?.any Part.isPlain) &&
    partsClean isText parts

def linesClean (stripIndent : Bool) (terminator : Name) : List (List Part) → Bool
  | [] => true
  | line :: lines => partsClean isHeredocText line &&
    !isTerminatorLine stripIndent terminator line && linesClean stripIndent terminator lines

end

end HclLexis.Document
