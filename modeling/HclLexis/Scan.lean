import HclLexis.Token

/-! What a rule makes of the text ahead: a lexeme at its head, the kind of token that the lexeme
is, and the move that it makes between modes. A lexeme is never empty, so each one brings the
lexer forward. -/

namespace HclLexis

structure Scan where
  kind : TokenKind
  lexeme : Text
  move : Move := .stay
deriving DecidableEq

namespace Scan

structure Covers (scan : Scan) (t : Text) : Prop where
  nonempty : scan.lexeme ≠ []
  isPrefix : scan.lexeme <+: t

def first? (rules : List (Text → Option Scan)) (t : Text) : Option Scan :=
  rules.findSome? fun rule => rule t

theorem first?_eq_none {rules : List (Text → Option Scan)} {t : Text} :
    first? rules t = none ↔ ∀ rule ∈ rules, rule t = none :=
  List.findSome?_eq_none_iff

theorem first?_covers {rules : List (Text → Option Scan)} {t : Text} {scan : Scan}
    (each : ∀ rule ∈ rules, ∀ scan, rule t = some scan → scan.Covers t)
    (h : first? rules t = some scan) : scan.Covers t := by
  obtain ⟨rule, member, found⟩ := List.exists_of_findSome?_eq_some h
  exact each rule member scan found

/-- If no rule applies, what is done instead has to cover a piece of the text. -/
theorem getD_first?_covers {rules : List (Text → Option Scan)} {t : Text} {other : Scan}
    (each : ∀ rule ∈ rules, ∀ scan, rule t = some scan → scan.Covers t)
    (otherwise : first? rules t = none → other.Covers t) :
    ((first? rules t).getD other).Covers t := by
  cases found : first? rules t with
  | none => exact otherwise found
  | some scan => exact first?_covers each found

end Scan

end HclLexis
