import HclLexis.Lexeme.Blank
import HclLexis.Lexeme.Comment
import HclLexis.Lexeme.HeredocMarker
import HclLexis.Lexeme.Number
import HclLexis.Lexeme.Operator

/-! Rules for bodies and expressions. A character that starts no lexeme is an error of its own. -/

namespace HclLexis.Rules.Body

open Lexeme

def openQuote? : Text → Option Scan
  | '"' :: _ => some { kind := .openQuote, lexeme := ['"'], move := .enter .quotedTemplate }
  | _ => none

/-- The rules in the order in which they are tried. The opener of a heredoc comes before the
operators it starts with, and so do comments; a line break is not a blank. -/
def rules : List (Text → Option Scan) := [
  heredocOpen?,
  newline?,
  blanks?,
  lineComment?,
  blockComment?,
  openQuote?,
  identifier?,
  number?,
  operator?]

def unrecognized (c : Char) : Scan := { kind := .error (.unrecognizedCharacter c), lexeme := [c] }

def scan (c : Char) (cs : Text) : Scan := (Scan.first? rules (c :: cs)).getD (unrecognized c)

theorem openQuote?_covers {t : Text} {scan : Scan} (h : openQuote? t = some scan) :
    scan.Covers t := by
  unfold openQuote? at h
  split at h
  · cases h
    exact ⟨by simp, by simp⟩
  · cases h

theorem scan_covers (c : Char) (cs : Text) : (scan c cs).Covers (c :: cs) := by
  refine Scan.getD_first?_covers (fun rule member found h => ?_) fun _ => ⟨by simp [unrecognized],
    by simp [unrecognized]⟩
  simp only [rules, List.mem_cons, List.not_mem_nil, or_false] at member
  rcases member with rfl | rfl | rfl | rfl | rfl | rfl | rfl | rfl | rfl
  · exact heredocOpen?_covers h
  · exact newline?_covers h
  · exact blanks?_covers h
  · exact lineComment?_covers h
  · exact blockComment?_covers h
  · exact openQuote?_covers h
  · exact identifier?_covers h
  · exact number?_covers h
  · exact operator?_covers h

end HclLexis.Rules.Body
