import HclLexis.Scan

/-! Comments. A line comment ends before the line break, a block comment with its closing mark. A
block comment without a closing mark is an error that covers all of the text ahead. -/

namespace HclLexis.Lexeme

def startsLineComment : Text → Bool
  | '#' :: _ => true
  | '/' :: '/' :: _ => true
  | _ => false

def lineComment? (t : Text) : Option Scan :=
  if startsLineComment t then
    some { kind := .comment, lexeme := Text.takeBefore Text.atLineBreak t }
  else none

theorem lineComment?_covers {t : Text} {scan : Scan} (h : lineComment? t = some scan) :
    scan.Covers t := by
  rw [lineComment?] at h
  split at h
  · rename_i start
    cases h
    refine ⟨?_, Text.takeBefore_isPrefix _ t⟩
    unfold startsLineComment at start
    split at start
    · simp [Text.takeBefore, Text.atLineBreak, Text.lineBreak?]
    · simp [Text.takeBefore, Text.atLineBreak, Text.lineBreak?]
    · cases start
  · cases h

def commentEnd : Text := ['*', '/']

def blockComment? : Text → Option Scan
  | '/' :: '*' :: rest =>
    let body := Text.takeBefore commentEnd.isPrefixOf rest
    if body.length < rest.length then
      some { kind := .comment, lexeme := '/' :: '*' :: body ++ commentEnd }
    else some { kind := .error .unterminatedComment, lexeme := '/' :: '*' :: rest }
  | _ => none

theorem takeBefore_commentEnd_isPrefix {rest : Text}
    (h : (Text.takeBefore commentEnd.isPrefixOf rest).length < rest.length) :
    Text.takeBefore commentEnd.isPrefixOf rest ++ commentEnd <+: rest := by
  induction rest with
  | nil => simp at h
  | cons c cs ih =>
    rw [Text.takeBefore] at h ⊢
    split
    · rename_i found
      exact List.isPrefixOf_iff_prefix.mp found
    · rename_i other
      rw [if_neg other] at h
      exact List.cons_prefix_cons.mpr ⟨rfl, ih (by simpa using h)⟩

theorem blockComment?_covers {t : Text} {scan : Scan} (h : blockComment? t = some scan) :
    scan.Covers t := by
  unfold blockComment? at h
  split at h
  · rename_i rest
    dsimp only at h
    split at h
    · rename_i closed
      cases h
      refine ⟨by simp, ?_⟩
      simpa using takeBefore_commentEnd_isPrefix closed
    · cases h
      exact ⟨by simp, List.prefix_rfl⟩
  · cases h

end HclLexis.Lexeme
