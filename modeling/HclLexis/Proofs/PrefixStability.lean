import HclLexis.Proofs.Calls
import HclLexis.Proofs.Layout

/-! Text behind a completed line. No rule looks past the last line break that is ahead of it, so a
text that ends with a line break is read in the same way whatever is appended. -/

namespace HclLexis

open Text

theorem Mode.Scans.append {mode mode' : Mode} {scan : Scan} {tail : Text}
    (scans : mode.Scans mode' scan tail) (named : mode.NamesIdentifier)
    (settled : scan.kind = .newline ∨ '\n' ∈ tail) (more : Text) :
    mode.Scans mode' scan (tail ++ more) := by
  rcases settled with newline | feed
  · exact scans.of_newline newline _
  · have same : (tail ++ more).head? = tail.head? := by
      obtain ⟨c, cs, rfl⟩ := List.exists_cons_of_ne_nil (List.ne_nil_of_mem feed)
      rfl
    have behind : SeenBehind scan.lexeme tail (tail ++ more) :=
      ⟨.append_of_mem feed more, fun _ => by rw [same]⟩
    have noReturn : tail ≠ ['\r'] := by
      rintro rfl
      cases feed with
      | tail _ member => cases member
    exact scans.of_seenBehind named behind (fun _ => by rw [same]; exact id) noReturn

namespace Lexer

variable {t : Text} {lexer : Lexer}

def followedBy (lexer : Lexer) (more : Text) : Lexer :=
  { lexer with cursor := { lexer.cursor with rest := lexer.cursor.rest ++ more } }

/-- What the next call reads does not depend on text behind the text ahead: it is a line break, or a
line feed is left behind it. -/
def IsSettled (lexer : Lexer) : Prop :=
  lexer.pull.1.kind = .newline ∨ '\n' ∈ lexer.pull.2.cursor.rest

theorem Reads.pull_followedBy (reads : Reads t lexer) (ahead : lexer.cursor.rest ≠ [])
    (settled : lexer.IsSettled) (more : Text) :
    (lexer.followedBy more).pull = (lexer.pull.1, lexer.pull.2.followedBy more) := by
  obtain ⟨mode, scan, tail, scans, split, -⟩ := reads.exists_scans ahead
  have pulled := pull_of_scans scans split
  rw [IsSettled, pulled] at settled
  have splitMore : (lexer.followedBy more).cursor.rest = scan.lexeme ++ (tail ++ more) := by
    rw [followedBy, split, List.append_assoc]
  have scansMore : (lexer.followedBy more).modes.current.Scans mode scan (tail ++ more) :=
    scans.append reads.named.current settled more
  rw [pull_of_scans scansMore splitMore, pulled]
  rfl

theorem Reads.skip_followedBy (reads : Reads t lexer) {n : Nat}
    (first : ∀ m < n, ¬ lexer.EndsAt m) (settled : ∀ m < n, (lexer.skip m).IsSettled)
    (more : Text) :
    (lexer.followedBy more).pulls n = lexer.pulls n ∧
      (lexer.followedBy more).skip n = (lexer.skip n).followedBy more := by
  induction n generalizing lexer with
  | zero => exact ⟨rfl, rfl⟩
  | succ n ih =>
    have pulled := reads.pull_followedBy (first 0 (Nat.succ_pos n)) (settled 0 (Nat.succ_pos n))
      more
    obtain ⟨tokens, state⟩ := ih reads.pull (fun m less => first (m + 1) (Nat.succ_lt_succ less))
      fun m less => settled (m + 1) (Nat.succ_lt_succ less)
    rw [pulls, Lexer.skip, pulled]
    exact ⟨congrArg _ tokens, state⟩

theorem Reads.not_endsAt_followedBy (reads : Reads t lexer) {n : Nat}
    (first : ∀ m < n, ¬ lexer.EndsAt m) (settled : ∀ m < n, (lexer.skip m).IsSettled)
    (more : Text) : ∀ m < n, ¬ (lexer.followedBy more).EndsAt m := by
  intro m less ended
  obtain ⟨-, state⟩ := reads.skip_followedBy (fun k lt => first k (lt.trans less))
    (fun k lt => settled k (lt.trans less)) more
  rw [EndsAt, state] at ended
  exact first m less (List.append_eq_nil_iff.mp ended).1

theorem Reads.feed_mem_text (reads : Reads t lexer) (newline : lexer.pull.1.kind = .newline) :
    '\n' ∈ lexer.pull.1.text := by
  have ahead := ahead_of_kind newline rfl
  obtain ⟨mode, scan, tail, scans, split, -⟩ := reads.exists_scans ahead
  rw [pull_of_scans scans split] at newline ⊢
  obtain ⟨lexeme, breaks, same⟩ := Option.map_eq_some_iff.mp (scans.newline?_eq newline)
  subst same
  rcases lineBreak?_eq_some breaks with rfl | rfl <;> simp

theorem Reads.isSettled_of_newline (reads : Reads t lexer) {n : Nat}
    (newline : (lexer.token n).kind = .newline) : ∀ m < n + 1, (lexer.skip m).IsSettled := by
  intro m less
  by_cases last : m = n
  · subst last
    exact .inl newline
  · right
    obtain ⟨k, rfl⟩ : ∃ k, n = m + 1 + k := ⟨n - (m + 1), by omega⟩
    have feed := (reads.skip (m + 1 + k)).feed_mem_text newline
    have ahead : '\n' ∈ (lexer.skip (m + 1 + k)).cursor.rest := by
      rw [(reads.skip (m + 1 + k)).turn.rest]
      exact List.mem_append_left _ feed
    rw [← skip_add] at ahead
    rw [← skip_succ]
    exact ((reads.skip (m + 1)).rest_skip_suffix k).mem ahead

theorem exists_settled (a : Text) {last : Token} (ends : (tokensBeforeEnd a).getLast? = some last)
    (newline : last.kind = .newline) :
    a ≠ [] ∧ ∃ n, (ofText a).EndsAt n ∧ (∀ m < n, ¬ (ofText a).EndsAt m) ∧
      (∀ m < n, ((ofText a).skip m).IsSettled) ∧ (ofText a).pulls n = tokensBeforeEnd a ∧
      tokenize a = tokensBeforeEnd a ++ [((ofText a).skip n).endToken] ∧
      (ofText a).drain.2.modes = ((ofText a).skip n).modes := by
  obtain ⟨n, ended, first, before, whole, modes⟩ := exists_tokensBeforeEnd a
  cases n with
  | zero =>
    rw [← before] at ends
    cases ends
  | succ n =>
    refine ⟨?_, n + 1, ended, first, ?_, before, whole, modes⟩
    · rintro rfl
      exact first 0 (Nat.succ_pos n) rfl
    · rw [← before, pulls_succ, List.getLast?_concat, Option.some_inj] at ends
      exact (reads_ofText a).isSettled_of_newline (by rw [ends, newline])

theorem ofText_append {a : Text} (nonempty : a ≠ []) (b : Text) :
    ofText (a ++ b) = (ofText a).followedBy b := by
  obtain ⟨c, cs, rfl⟩ := List.exists_cons_of_ne_nil nonempty
  rw [ofText, ofText, followedBy, Cursor.ofText, Cursor.ofText, List.cons_append, withoutMark,
    withoutMark]
  split <;> rfl

theorem Reads.take_eq_pulls (reads : Reads t lexer) (running : lexer.done = false) {n : Nat}
    (first : ∀ m < n, ¬ lexer.EndsAt m) : lexer.take n = (lexer.pulls n, lexer.skip n) := by
  induction n generalizing lexer with
  | zero => rfl
  | succ n ih =>
    have others := ih reads.pull (by rw [pull_done, running]) fun m less =>
      first (m + 1) (Nat.succ_lt_succ less)
    rw [take, reads.next?_of_ahead running (first 0 n.succ_pos)]
    simp only [others]
    rfl

/-- Appending text after a completed line changes none of the tokens before, and the modes behind
them are those in which the text alone ends. -/
theorem take_append_of_newline (a b : Text) {last : Token}
    (ends : (tokensBeforeEnd a).getLast? = some last) (newline : last.kind = .newline) :
    ((ofText (a ++ b)).take (tokensBeforeEnd a).length).1 = tokensBeforeEnd a ∧
      ((ofText (a ++ b)).take (tokensBeforeEnd a).length).2.modes = (ofText a).drain.2.modes ∧
      tokensBeforeEnd a <+: tokenize (a ++ b) := by
  have reads := reads_ofText a
  obtain ⟨nonempty, n, -, first, settled, before, -, modes⟩ := exists_settled a ends newline
  obtain ⟨tokens, state⟩ := reads.skip_followedBy first settled b
  rw [← ofText_append nonempty] at tokens state
  have firstBoth : ∀ m < n, ¬ (ofText (a ++ b)).EndsAt m := by
    rw [ofText_append nonempty]
    exact reads.not_endsAt_followedBy first settled b
  have taken := (reads_ofText (a ++ b)).take_eq_pulls rfl firstBoth
  rw [← before, length_pulls, taken, tokens, state, modes]
  refine ⟨rfl, rfl, ?_⟩
  obtain ⟨last, -, endsBoth, -, drained⟩ := tokenize_eq_pulls (a ++ b)
  obtain ⟨rest, rfl⟩ : ∃ rest, last = n + rest := by
    refine ⟨last - n, ?_⟩
    by_contra short
    exact firstBoth last (by omega) endsBoth
  have split := pulls_add (ofText (a ++ b)) n (rest + 1)
  rw [tokens] at split
  rw [tokenize, drained]
  exact ⟨_, split.symm⟩

def openSequence : Text := ['<', '<', 'E', '\n', ' ', '$', '{', '\n']

theorem take_openSequence_append :
    ((ofText (openSequence ++ ['}', '\n', 'E'])).take 5).1 = tokensBeforeEnd openSequence ∧
      ((ofText (openSequence ++ ['}', '\n', 'E'])).take 5).2.modes =
        (ofText openSequence).drain.2.modes ∧
      tokensBeforeEnd openSequence <+: tokenize (openSequence ++ ['}', '\n', 'E']) := by
  have ends : (tokensBeforeEnd openSequence).getLast? =
      some ⟨.newline, ['\n'], ⟨7, 2, 4⟩, ⟨8, 3, 1⟩⟩ := by decide
  have count : (tokensBeforeEnd openSequence).length = 5 := by decide
  have stable := take_append_of_newline openSequence ['}', '\n', 'E'] ends rfl
  rwa [count] at stable

end Lexer

end HclLexis
