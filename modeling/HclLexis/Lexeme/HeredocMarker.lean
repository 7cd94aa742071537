import HclLexis.Lexeme.Identifier

/-! Heredoc openers: two less-than signs, a hyphen if indentation is to be stripped, and the
identifier that closes the heredoc, which must end its line. -/

namespace HclLexis.Lexeme

def heredocNamed? (marker : Text) (stripIndent : Bool) (rest : Text) : Option Scan :=
  let terminator := identifier rest
  let tail := rest.drop terminator.length
  if !terminator.isEmpty && (tail.isEmpty || Text.atLineBreak tail) then
    some {
      kind := .heredocOpen stripIndent
      lexeme := marker ++ terminator
      move := .enter (.heredocTemplate { terminator, stripIndent }) }
  else none

theorem heredocNamed?_covers {marker rest : Text} {stripIndent : Bool} {scan : Scan}
    (h : heredocNamed? marker stripIndent rest = some scan) : scan.Covers (marker ++ rest) := by
  unfold heredocNamed? at h
  dsimp only at h
  split at h
  · rename_i named
    cases h
    refine ⟨?_, (List.prefix_append_right_inj marker).mpr (identifier_isPrefix rest)⟩
    simp at named
    simp [named.1]
  · cases h

def heredocOpen? : Text → Option Scan
  | '<' :: '<' :: '-' :: rest => heredocNamed? ['<', '<', '-'] true rest
  | '<' :: '<' :: rest => heredocNamed? ['<', '<'] false rest
  | _ => none

theorem heredocOpen?_covers {t : Text} {scan : Scan} (h : heredocOpen? t = some scan) :
    scan.Covers t := by
  unfold heredocOpen? at h
  split at h
  · exact heredocNamed?_covers h
  · exact heredocNamed?_covers h
  · cases h

end HclLexis.Lexeme
