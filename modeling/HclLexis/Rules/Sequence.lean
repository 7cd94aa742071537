import HclLexis.Rules.Body

/-! Rules for template sequences. A sequence holds an expression, scanned by the rules of bodies;
braces are counted, so that only a brace that opens nothing inside closes the sequence. -/

namespace HclLexis.Rules.Sequence

def close (lexeme : Text) : Scan := { kind := .templateSeqEnd, lexeme, move := .leave }

/-- Scans a sequence with `depth` open braces that continues with `c` and then `cs`. The number is
that of the braces open afterwards. -/
def scan (depth : Nat) (c : Char) (cs : Text) : Nat × Scan :=
  if c = '{' then (depth + 1, { kind := .openBrace, lexeme := ['{'] })
  else if c = '}' then match depth with
    | 0 => (0, close ['}'])
    | depth + 1 => (depth, { kind := .closeBrace, lexeme := ['}'] })
  else if c = '~' && depth = 0 && cs.head? = some '}' then (0, close ['~', '}'])
  else (depth, Body.scan c cs)

theorem scan_covers (depth : Nat) (c : Char) (cs : Text) :
    (scan depth c cs).2.Covers (c :: cs) := by
  unfold scan
  split
  · rename_i brace
    exact ⟨by simp, by simp [brace]⟩
  split
  · rename_i brace
    cases depth with
    | zero => exact ⟨by simp [close], by simp [close, brace]⟩
    | succ depth => exact ⟨by simp, by simp [brace]⟩
  split
  · rename_i tilde
    refine ⟨by simp [close], ?_⟩
    simp only [Bool.and_eq_true, decide_eq_true_eq] at tilde
    obtain ⟨rest, rfl⟩ := List.head?_eq_some_iff.mp tilde.2
    simp [close, tilde.1.1]
  · exact Body.scan_covers c cs

end HclLexis.Rules.Sequence
