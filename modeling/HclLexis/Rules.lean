import HclLexis.Rules.HeredocBody
import HclLexis.Rules.QuotedString
import HclLexis.Rules.Sequence

/-! The rules of the active mode. -/

namespace HclLexis

/-- Scans a text that continues with `c` and then `cs`. With the scan comes the mode as it is
left, before the scan's move. -/
def Mode.scan (mode : Mode) (c : Char) (cs : Text) : Mode × Scan :=
  match mode with
  | .structural => (.structural, Rules.Body.scan c cs)
  | .quotedTemplate => (.quotedTemplate, Rules.QuotedString.scan c cs)
  | .heredocTemplate heredoc =>
    let (heredoc, scan) := Rules.HeredocBody.scan heredoc c cs
    (.heredocTemplate heredoc, scan)
  | .interpolation depth =>
    let (depth, scan) := Rules.Sequence.scan depth c cs
    (.interpolation depth, scan)

def Mode.IsNamed : Mode → Prop
  | .heredocTemplate heredoc => heredoc.terminator ≠ []
  | _ => True

theorem Mode.scan_covers {mode : Mode} (named : mode.IsNamed) (c : Char) (cs : Text) :
    (mode.scan c cs).2.Covers (c :: cs) := by
  cases mode with
  | structural => exact Rules.Body.scan_covers c cs
  | quotedTemplate => exact Rules.QuotedString.scan_covers c cs
  | heredocTemplate heredoc => exact Rules.HeredocBody.scan_covers named c cs
  | interpolation depth => exact Rules.Sequence.scan_covers depth c cs

end HclLexis
