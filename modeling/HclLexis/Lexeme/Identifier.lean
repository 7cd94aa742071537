import HclLexis.Scan
import HclLexis.Unicode.Alphabetic
import HclLexis.Unicode.Numeric

/-! Identifiers: a letter or an underscore, then letters, numeric characters, underscores and
hyphens. Keywords are identifiers. -/

namespace HclLexis.Lexeme

def isIdentifierStart (c : Char) : Bool := c == '_' || Unicode.isAlphabetic c

def isIdentifierContinue (c : Char) : Bool :=
  c == '_' || c == '-' || Unicode.isAlphabetic c || Unicode.isNumeric c

def identifier : Text → Text
  | [] => []
  | c :: cs => if isIdentifierStart c then c :: cs.takeWhile isIdentifierContinue else []

theorem identifier_isPrefix (t : Text) : identifier t <+: t := by
  cases t with
  | nil => exact List.nil_prefix
  | cons c cs =>
    rw [identifier]
    split
    · exact List.cons_prefix_cons.mpr ⟨rfl, List.takeWhile_prefix _⟩
    · exact List.nil_prefix

def identifier? (t : Text) : Option Scan :=
  if (identifier t).isEmpty then none else some { kind := .ident, lexeme := identifier t }

theorem identifier?_covers {t : Text} {scan : Scan} (h : identifier? t = some scan) :
    scan.Covers t := by
  unfold identifier? at h
  split at h
  · cases h
  · rename_i nonempty
    cases h
    exact ⟨by simpa using nonempty, identifier_isPrefix t⟩

end HclLexis.Lexeme
