import HclLexis.Scan

/-! Line breaks, and runs of blanks between lexemes. A carriage return is a blank unless it
belongs to a line break. -/

namespace HclLexis.Lexeme

def startsBlank (t : Text) : Bool :=
  match t with
  | [] => false
  | c :: _ => Text.isIndent c || (c == '\r' && !Text.atLineBreak t)

def newline? (t : Text) : Option Scan :=
  (Text.lineBreak? t).map fun lexeme => { kind := .newline, lexeme }

theorem newline?_covers {t : Text} {scan : Scan} (h : newline? t = some scan) :
    scan.Covers t := by
  obtain ⟨lexeme, found, rfl⟩ := Option.map_eq_some_iff.mp h
  exact ⟨(Text.lineBreak?_isPrefix found).1, (Text.lineBreak?_isPrefix found).2⟩

def blanks? (t : Text) : Option Scan :=
  if startsBlank t then
    some { kind := .whitespace, lexeme := Text.takeBefore (fun rest => !startsBlank rest) t }
  else none

theorem blanks?_covers {t : Text} {scan : Scan} (h : blanks? t = some scan) : scan.Covers t := by
  rw [blanks?] at h
  split at h
  · rename_i start
    cases h
    refine ⟨?_, Text.takeBefore_isPrefix _ t⟩
    cases t with
    | nil => cases start
    | cons c cs => simp [Text.takeBefore, start]
  · cases h

end HclLexis.Lexeme
