import HclLexis.Lexeme.Escape
import HclLexis.Lexeme.TemplateText

/-! Rules for the inside of a quoted string: sequences, the closing quote, escapes, and literal
text between them. A line break and a faulty escape are errors; the string goes on behind them. -/

namespace HclLexis.Rules.QuotedString

open Lexeme

def closeQuote? : Text → Option Scan
  | '"' :: _ => some { kind := .closeQuote, lexeme := ['"'], move := .leave }
  | _ => none

def lineBreak? (t : Text) : Option Scan :=
  (Text.lineBreak? t).map fun lexeme => { kind := .error .newlineInString, lexeme }

def faultyEscape? : Text → Option Scan
  | '\\' :: rest => match Escape.read rest with
    | .valid _ => none
    | .invalid lexeme => some { kind := .error .invalidEscape, lexeme }
  | _ => none

def unit? (c : Char) (cs : Text) : Option Nat :=
  if c = '"' then none
  else if c = '\\' then match Escape.read cs with
    | .valid lexeme => some (lexeme.length - 1)
    | .invalid _ => none
  else sharedUnit? c cs

def rules : List (Text → Option Scan) := [sequenceOpen?, closeQuote?, lineBreak?, faultyEscape?]

def scan (c : Char) (cs : Text) : Scan :=
  (Scan.first? rules (c :: cs)).getD (literal unit? (c :: cs))

theorem closeQuote?_covers {t : Text} {scan : Scan} (h : closeQuote? t = some scan) :
    scan.Covers t := by
  unfold closeQuote? at h
  split at h
  · cases h
    exact ⟨by simp, by simp⟩
  · cases h

theorem lineBreak?_covers {t : Text} {scan : Scan} (h : lineBreak? t = some scan) :
    scan.Covers t := by
  obtain ⟨lexeme, found, rfl⟩ := Option.map_eq_some_iff.mp h
  exact ⟨(Text.lineBreak?_isPrefix found).1, (Text.lineBreak?_isPrefix found).2⟩

theorem faultyEscape?_covers {t : Text} {scan : Scan} (h : faultyEscape? t = some scan) :
    scan.Covers t := by
  unfold faultyEscape? at h
  split at h
  · rename_i rest
    split at h
    · cases h
    · rename_i lexeme read
      cases h
      have piece := Escape.read_isPrefix rest
      have nonempty := Escape.read_ne_nil rest
      rw [read] at piece nonempty
      exact ⟨nonempty, piece⟩
  · cases h

theorem isSome_unit? {c : Char} {cs : Text} (h : Scan.first? rules (c :: cs) = none) :
    (unit? c cs).isSome := by
  have refused := Scan.first?_eq_none.mp h
  have noOpen := refused sequenceOpen? (by simp [rules])
  have noQuote := refused closeQuote? (by simp [rules])
  have noBreak := refused lineBreak? (by simp [rules])
  have noFault := refused faultyEscape? (by simp [rules])
  have quote : c ≠ '"' := by
    rintro rfl
    cases noQuote
  rw [unit?, if_neg quote]
  split
  · rename_i backslash
    subst backslash
    simp only [faultyEscape?] at noFault
    split at noFault
    · simp
    · cases noFault
  · exact isSome_sharedUnit? (Option.map_eq_none_iff.mp noBreak) noOpen

theorem scan_covers (c : Char) (cs : Text) : (scan c cs).Covers (c :: cs) := by
  refine Scan.getD_first?_covers (fun rule member found h => ?_) fun none =>
    literal_covers (isSome_unit? none)
  simp only [rules, List.mem_cons, List.not_mem_nil, or_false] at member
  rcases member with rfl | rfl | rfl | rfl
  · exact sequenceOpen?_covers h
  · exact closeQuote?_covers h
  · exact lineBreak?_covers h
  · exact faultyEscape?_covers h

end HclLexis.Rules.QuotedString
