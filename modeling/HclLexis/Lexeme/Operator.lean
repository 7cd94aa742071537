import HclLexis.Scan

/-! Operators and delimiters. Of the signs that the text ahead starts with the longest counts. -/

namespace HclLexis.Lexeme

/-- The signs and their tokens, a longer sign before those that it starts with. -/
def operators : List (Text × TokenKind) := [
  (['.', '.', '.'], .ellipsis),
  (['=', '='], .equal),
  (['=', '>'], .fatArrow),
  (['!', '='], .notEqual),
  (['<', '='], .lessEqual),
  (['>', '='], .greaterEqual),
  (['&', '&'], .and),
  (['|', '|'], .or),
  (['{'], .openBrace),
  (['}'], .closeBrace),
  (['['], .openBracket),
  ([']'], .closeBracket),
  (['('], .openParen),
  ([')'], .closeParen),
  (['.'], .dot),
  ([','], .comma),
  (['='], .assign),
  (['!'], .not),
  (['<'], .less),
  (['>'], .greater),
  (['+'], .plus),
  (['-'], .minus),
  (['*'], .star),
  (['/'], .slash),
  (['%'], .percent),
  (['?'], .question),
  ([':'], .colon)]

def operator? (t : Text) : Option Scan :=
  (operators.find? fun entry => entry.1.isPrefixOf t).map fun entry =>
    { kind := entry.2, lexeme := entry.1 }

theorem operators_ne_nil : ∀ entry ∈ operators, entry.1 ≠ [] := by
  simp [operators]

theorem operator?_covers {t : Text} {scan : Scan} (h : operator? t = some scan) :
    scan.Covers t := by
  obtain ⟨entry, found, rfl⟩ := Option.map_eq_some_iff.mp h
  have sign := List.find?_some found
  exact ⟨operators_ne_nil entry (List.mem_of_find?_eq_some found),
    List.isPrefixOf_iff_prefix.mp sign⟩

end HclLexis.Lexeme
