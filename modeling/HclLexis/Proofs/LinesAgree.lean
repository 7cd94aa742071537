import HclLexis.Proofs.HeredocClosing
import HclLexis.Proofs.Lookahead

/-! Lines of texts that are seen alike. Where a line differs, it goes on behind the sign of a
sequence, so it closes no heredoc and the indentation in front of the sign counts. -/

namespace HclLexis

namespace Text

def sequenceSigns : Text := ['$', '%']

/-- First lines of two texts that agree, at least up to a sequence. -/
inductive LinesAgree : Text → Text → Prop
  | same (line : Text) : LinesAgree line line
  | sequence (s more more' : Text) {sign : Char} (isSign : sign ∈ sequenceSigns) :
      LinesAgree (s ++ sign :: more) (s ++ sign :: more')

theorem line_append_feed_eq (s r r' : Text) :
    line (s ++ '\n' :: r') = line (s ++ '\n' :: r) := by
  have taken := takeWhile_append_cons_stop (p := fun c => c != '\n') (bne_self_eq_false '\n') s
  rw [line, line, taken, taken]

theorem lineBreak?_eq_some {t lexeme : Text} (breaks : lineBreak? t = some lexeme) :
    lexeme = ['\n'] ∨ lexeme = ['\r', '\n'] := by
  unfold lineBreak? at breaks
  split at breaks <;> cases breaks
  · exact .inl rfl
  · exact .inr rfl

theorem line_append_pair_eq {s : Text} (noReturn : '\r' ∉ s) (r r' : Text) :
    line (s ++ '\r' :: '\n' :: r') = line (s ++ '\n' :: r) := by
  by_cases feed : '\n' ∈ s
  · obtain ⟨u, v, rfl⟩ := List.append_of_mem feed
    simpa using line_append_feed_eq u (v ++ '\n' :: r) (v ++ '\r' :: '\n' :: r')
  · have inLine : ∀ c ∈ s, c ≠ '\n' ∧ c ≠ '\r' := by
      intro c member
      constructor <;> rintro rfl
      · exact feed member
      · exact noReturn member
    have whole : line (s ++ '\r' :: '\n' :: r') = s := by
      refine StartsWithLine.eq_line ⟨s ++ ['\r'], '\n' :: r', ?_, ?_, .inr rfl, .inl rfl⟩ |>.symm
      · simp
      · simpa using feed
    rw [whole, line_append_feed inLine]

theorem linesAgree_lineBreak {s tail tail' : Text} (behind : SeenBehind s tail tail')
    (breaks : atLineBreak tail) : LinesAgree (line (s ++ tail)) (line (s ++ tail')) := by
  have same (first first' : Text) (eq : line (s ++ first') = line (s ++ first)) :
      LinesAgree (line (s ++ first)) (line (s ++ first')) := by
    rw [eq]
    exact .same _
  cases behind.alike with
  | ends => cases breaks
  | feed r r' => exact same _ _ (line_append_feed_eq s r r')
  | pair r r' =>
    have noReturn : '\r' ∉ s := fun member => by
      have feed := (behind.feed member).mpr rfl
      cases feed
    exact same _ _ (line_append_pair_eq noReturn r r')
  | gap starts =>
    obtain ⟨c, cs, rfl, -, noBreak⟩ := exists_of_startsGap starts
    rw [atLineBreak, noBreak] at breaks
    cases breaks
  | cons c kept alike =>
    obtain ⟨lexeme, found⟩ := Option.isSome_iff_exists.mp breaks
    obtain ⟨r, shape⟩ := (lineBreak?_isPrefix found).2
    obtain ⟨r', shape'⟩ := (lineBreak?_isPrefix (kept.trans found)).2
    rw [← shape, ← shape']
    rcases lineBreak?_eq_some found with rfl | rfl
    · exact same _ _ (line_append_feed_eq s r r')
    · exact same _ _ (by simpa using line_append_feed_eq (s ++ ['\r']) r r')

theorem linesAgree_sign (s r r' : Text) {sign : Char} (isSign : sign ∈ sequenceSigns) :
    LinesAgree (line (s ++ sign :: r)) (line (s ++ sign :: r')) := by
  by_cases feed : '\n' ∈ s
  · obtain ⟨u, v, rfl⟩ := List.append_of_mem feed
    have same := line_append_feed_eq u (v ++ sign :: r) (v ++ sign :: r')
    simp only [List.append_assoc, List.cons_append] at same ⊢
    rw [same]
    exact .same _
  · have noFeed : ∀ c ∈ s, c ≠ '\n' := by
      rintro c member rfl
      exact feed member
    have other : ∀ sign ∈ sequenceSigns, sign ≠ '\n' ∧ sign ≠ '\r' :=
      List.all_iff_forall_prop.mp (by decide)
    obtain ⟨more, same⟩ := line_append_cons noFeed (other sign isSign).1 (other sign isSign).2 r
    obtain ⟨more', same'⟩ := line_append_cons noFeed (other sign isSign).1 (other sign isSign).2 r'
    rw [same, same']
    exact .sequence s more more' isSign

theorem mem_dropWhile_of_mem {p : Char → Bool} {t : Text} {c : Char} (member : c ∈ t)
    (fail : p c = false) : c ∈ t.dropWhile p := by
  rw [← List.takeWhile_append_dropWhile (p := p) (l := t), List.mem_append] at member
  refine member.resolve_left fun taken => ?_
  have pass := List.all_eq_true.mp List.all_takeWhile c taken
  rw [fail] at pass
  cases pass

theorem not_closesAt_of_mem {heredoc : Heredoc} (name : Lexeme.IsIdentifier heredoc.terminator)
    {sign : Char} (isSign : sign ∈ sequenceSigns) {line : Text} (member : sign ∈ line) :
    heredoc.closesAt line = false := by
  have plain : ∀ sign ∈ sequenceSigns, isIndent sign = false ∧ sign ∈ Lexeme.lineSigns :=
    List.all_iff_forall_prop.mp (by decide)
  rw [Heredoc.closesAt, beq_eq_false_iff_ne]
  intro same
  have kept : sign ∈ heredoc.terminator := by
    rw [← same]
    split
    · exact mem_dropWhile_of_mem member (plain sign isSign).1
    · exact member
  exact name.ne_of_mem kept sign (plain sign isSign).2 rfl

variable {line line' : Text} {heredoc : Heredoc}

theorem LinesAgree.closesAt (agree : LinesAgree line line')
    (name : Lexeme.IsIdentifier heredoc.terminator) :
    heredoc.closesAt line' = heredoc.closesAt line := by
  cases agree with
  | same => rfl
  | sequence s more more' isSign =>
    rw [not_closesAt_of_mem name isSign (by simp), not_closesAt_of_mem name isSign (by simp)]

theorem LinesAgree.eq_of_closesAt (agree : LinesAgree line line')
    (name : Lexeme.IsIdentifier heredoc.terminator) (closes : heredoc.closesAt line) :
    line' = line := by
  cases agree with
  | same => rfl
  | sequence s more more' isSign =>
    rw [not_closesAt_of_mem name isSign (by simp)] at closes
    cases closes

theorem noteLine_sign (s more : Text) {sign : Char} (isSign : sign ∈ sequenceSigns) :
    heredoc.noteLine (s ++ sign :: more) = heredoc.noteLine (s ++ [sign]) := by
  have plain : ∀ sign ∈ sequenceSigns, isIndent sign = false ∧ sign ≠ '\r' :=
    List.all_iff_forall_prop.mp (by decide)
  obtain ⟨noIndent, noReturn⟩ := plain sign isSign
  have text (more : Text) : Heredoc.isBlankLine (s ++ sign :: more) = false := by
    simp [Heredoc.isBlankLine, noIndent, noReturn]
  have width := takeWhile_append_cons_stop noIndent s
  rw [Heredoc.noteLine, Heredoc.noteLine, text, text, width, width]

theorem LinesAgree.noteLine (agree : LinesAgree line line') :
    heredoc.noteLine line' = heredoc.noteLine line := by
  cases agree with
  | same => rfl
  | sequence s more more' isSign => rw [noteLine_sign s more isSign, noteLine_sign s more' isSign]

end Text

end HclLexis
