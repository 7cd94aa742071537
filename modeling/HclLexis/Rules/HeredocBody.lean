import HclLexis.Lexeme.Blank
import HclLexis.Lexeme.TemplateText

/-! Rules for the body of a heredoc. Where a line starts, the whole line is compared with the
terminator; a line that is not the terminator yields sequences and literal text, and then its line
break. Quotes and backslashes are literal. -/

namespace HclLexis.Rules.HeredocBody

open Lexeme

def closingLine? (heredoc : Heredoc) (t : Text) : Option Scan :=
  if heredoc.atLineStart && heredoc.closesAt (Text.line t) then some {
    kind := .heredocClose heredoc.closingIndent
    lexeme := Text.line t
    move := .leave }
  else none

/-- The heredoc with the line that starts ahead, if one does, taken for text. -/
def enterLine (heredoc : Heredoc) (t : Text) : Heredoc :=
  if heredoc.atLineStart then { heredoc.noteLine (Text.line t) with atLineStart := false }
  else heredoc

def scanLine (heredoc : Heredoc) (t : Text) : Heredoc × Scan :=
  match newline? t with
  | some scan => ({ heredoc with atLineStart := true }, scan)
  | none => (heredoc, (sequenceOpen? t).getD (literal sharedUnit? t))

def scan (heredoc : Heredoc) (c : Char) (cs : Text) : Heredoc × Scan :=
  match closingLine? heredoc (c :: cs) with
  | some scan => (heredoc, scan)
  | none => scanLine (enterLine heredoc (c :: cs)) (c :: cs)

theorem closingLine?_covers {heredoc : Heredoc} {t : Text} {scan : Scan}
    (named : heredoc.terminator ≠ []) (h : closingLine? heredoc t = some scan) :
    scan.Covers t := by
  unfold closingLine? at h
  split at h
  · rename_i closes
    cases h
    refine ⟨fun empty => ?_, Text.line_isPrefix t⟩
    have same := (Bool.and_eq_true _ _ ▸ closes).2
    simp only at empty
    rw [Heredoc.closesAt, empty] at same
    exact named (by simpa using same)
  · cases h

theorem scanLine_covers (heredoc : Heredoc) (c : Char) (cs : Text) :
    (scanLine heredoc (c :: cs)).2.Covers (c :: cs) := by
  rw [scanLine]
  split
  · rename_i scan found
    exact newline?_covers found
  · rename_i noBreak
    cases opened : sequenceOpen? (c :: cs) with
    | some scan => exact sequenceOpen?_covers opened
    | none =>
      exact literal_covers (isSome_sharedUnit? (Option.map_eq_none_iff.mp noBreak) opened)

theorem scan_covers {heredoc : Heredoc} (named : heredoc.terminator ≠ []) (c : Char) (cs : Text) :
    (scan heredoc c cs).2.Covers (c :: cs) := by
  rw [scan]
  split
  · rename_i scan found
    exact closingLine?_covers named found
  · exact scanLine_covers _ c cs

end HclLexis.Rules.HeredocBody
