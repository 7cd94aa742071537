import HclLexis.Proofs.HeredocTerminators

/-! The lexemes that bodies are written in, as a grammar apart from the order of the rules, and that
a body reads the longest of them. A sign that starts a longer sign, a comment or a heredoc opener
gives way to it, and a blank to the line break that it belongs to. -/

namespace HclLexis

open Lexeme Rules

namespace Text

theorem lineBreak?_eq_none_iff {c : Char} {s : Text} :
    lineBreak? (c :: s) = none ↔ c ≠ '\n' ∧ ¬ (c = '\r' ∧ s.head? = some '\n') := by
  rw [lineBreak?_cons]
  constructor
  · intro none
    split at none
    · cases none
    split at none
    · cases none
    exact ⟨‹_›, ‹_›⟩
  · rintro ⟨feed, pair⟩
    rw [if_neg feed, if_neg pair]

/-- In front of `tail` the piece has no line break in it, and no part of one. -/
def InLine (piece tail : Text) : Prop :=
  '\n' ∉ piece ∧ ¬ (piece.getLast? = some '\r' ∧ tail.head? = some '\n')

theorem inLine_iff {piece tail : Text} :
    InLine piece tail ↔ ∀ c s, c :: s <:+ piece → lineBreak? (c :: (s ++ tail)) = none := by
  constructor
  · rintro ⟨noFeed, noPair⟩ c s suffix
    have feed : c ≠ '\n' := fun same => noFeed (suffix.mem (same ▸ List.mem_cons_self))
    have pair : ¬ (c = '\r' ∧ (s ++ tail).head? = some '\n') := by
      rintro ⟨rfl, second⟩
      cases s with
      | nil =>
        obtain ⟨before, rfl⟩ := suffix
        exact noPair ⟨List.getLast?_concat, second⟩
      | cons d s =>
        obtain rfl : d = '\n' := Option.some.inj second
        exact noFeed (suffix.mem (.tail _ List.mem_cons_self))
    exact lineBreak?_eq_none_iff.mpr ⟨feed, pair⟩
  · intro noBreak
    constructor
    · intro member
      obtain ⟨before, behind, rfl⟩ := List.append_of_mem member
      cases noBreak '\n' behind ⟨before, rfl⟩
    · rintro ⟨last, second⟩
      obtain ⟨before, rfl⟩ := List.getLast?_eq_some_iff.mp last
      obtain ⟨rest, rfl⟩ := List.head?_eq_some_iff.mp second
      cases noBreak '\r' [] ⟨before, rfl⟩

theorem inLine_nil (tail : Text) : InLine [] tail := ⟨List.not_mem_nil, nofun⟩

theorem inLine_cons_iff {c : Char} {s tail : Text} :
    InLine (c :: s) tail ↔ lineBreak? (c :: (s ++ tail)) = none ∧ InLine s tail := by
  simp only [inLine_iff]
  constructor
  · intro noBreak
    exact ⟨noBreak c s List.suffix_rfl,
      fun d u suffix => noBreak d u (suffix.trans (List.suffix_cons c s))⟩
  · rintro ⟨first, others⟩ d u suffix
    rcases List.suffix_cons_iff.mp suffix with same | suffix
    · cases same
      exact first
    · exact others d u suffix

theorem takeBefore_append_of_goesOn {stop : Text → Bool} {piece tail : Text}
    (goesOn : ∀ c s, c :: s <:+ piece → stop (c :: (s ++ tail)) = false) :
    takeBefore stop (piece ++ tail) = piece ++ takeBefore stop tail := by
  induction piece with
  | nil => rfl
  | cons c cs ih =>
    have others := ih fun d s suffix => goesOn d s (suffix.trans (List.suffix_cons c cs))
    rw [List.cons_append, takeBefore, goesOn c cs List.suffix_rfl, others]
    rfl

theorem goesOn_of_takeBefore {stop : Text → Bool} {t tail : Text}
    (split : takeBefore stop t ++ tail = t) :
    ∀ c s, c :: s <:+ takeBefore stop t → stop (c :: (s ++ tail)) = false := by
  induction t with
  | nil =>
    intro c s suffix
    cases List.suffix_nil.mp suffix
  | cons d ds ih =>
    intro c s suffix
    rw [takeBefore] at split suffix
    split at split
    · rename_i stops
      rw [if_pos stops] at suffix
      cases List.suffix_nil.mp suffix
    · rename_i goesOn
      have rest : takeBefore stop ds ++ tail = ds := List.tail_eq_of_cons_eq split
      rw [if_neg goesOn] at suffix
      rcases List.suffix_cons_iff.mp suffix with same | suffix
      · cases same
        rw [rest]
        exact Bool.eq_false_iff.mpr goesOn
      · exact ih rest c s suffix

end Text

def TokenKind.sign? : TokenKind → Option Text
  | openBrace => some ['{']
  | closeBrace => some ['}']
  | openBracket => some ['[']
  | closeBracket => some [']']
  | openParen => some ['(']
  | closeParen => some [')']
  | dot => some ['.']
  | comma => some [',']
  | assign => some ['=']
  | not => some ['!']
  | and => some ['&', '&']
  | or => some ['|', '|']
  | equal => some ['=', '=']
  | notEqual => some ['!', '=']
  | less => some ['<']
  | lessEqual => some ['<', '=']
  | greater => some ['>']
  | greaterEqual => some ['>', '=']
  | plus => some ['+']
  | minus => some ['-']
  | star => some ['*']
  | slash => some ['/']
  | percent => some ['%']
  | question => some ['?']
  | colon => some [':']
  | ellipsis => some ['.', '.', '.']
  | fatArrow => some ['=', '>']
  | _ => none

/-- The lexemes of bodies, each in front of a text that it can stand before. -/
inductive IsLexeme : TokenKind → Text → Text → Prop
  | sign {kind : TokenKind} {lexeme : Text} (spelled : kind.sign? = some lexeme) (tail : Text) :
      IsLexeme kind lexeme tail
  | lineBreak {lexeme : Text} (spelled : lexeme = ['\n'] ∨ lexeme = ['\r', '\n']) (tail : Text) :
      IsLexeme .newline lexeme tail
  | blanks {lexeme tail : Text} (nonempty : lexeme ≠ [])
      (blank : ∀ c ∈ lexeme, c = ' ' ∨ c = '\t' ∨ c = '\r') (inLine : lexeme.InLine tail) :
      IsLexeme .whitespace lexeme tail
  | lineComment {mark body tail : Text} (isMark : mark = ['#'] ∨ mark = ['/', '/'])
      (inLine : body.InLine tail) : IsLexeme .comment (mark ++ body) tail
  | blockComment {body tail : Text}
      (first : ∀ before, before ++ ['*', '/'] <+: body ++ ['*', '/'] ++ tail →
        body.length ≤ before.length) :
      IsLexeme .comment (['/', '*'] ++ body ++ ['*', '/']) tail
  | quote (tail : Text) : IsLexeme .openQuote ['"'] tail
  | identifier {lexeme : Text} (name : IsIdentifier lexeme) (tail : Text) :
      IsLexeme .ident lexeme tail
  | heredocOpen (stripIndent : Bool) {terminator tail : Text} (name : IsIdentifier terminator)
      (endsLine : tail.EndsLine) :
      IsLexeme (.heredocOpen stripIndent) (heredocMarker stripIndent ++ terminator) tail

theorem IsLexeme.ne_nil {kind : TokenKind} {lexeme tail : Text}
    (isLexeme : IsLexeme kind lexeme tail) : lexeme ≠ [] := by
  cases isLexeme with
  | sign spelled => cases kind <;> cases spelled <;> simp
  | lineBreak spelled => rcases spelled with rfl | rfl <;> simp
  | blanks nonempty => exact nonempty
  | lineComment isMark => rcases isMark with rfl | rfl <;> simp
  | identifier name => exact name.ne_nil
  | heredocOpen stripIndent => cases stripIndent <;> simp [heredocMarker]
  | blockComment | quote => simp

theorem IsLexeme.kind_ne_error {kind : TokenKind} {lexeme tail : Text}
    (isLexeme : IsLexeme kind lexeme tail) (error : LexErrorKind) : kind ≠ .error error := by
  rintro rfl
  cases isLexeme with
  | sign spelled => cases spelled

def StartsWith (t : Text) (kind : TokenKind) (lexeme : Text) : Prop :=
  ∃ tail, t = lexeme ++ tail ∧ IsLexeme kind lexeme tail

def IsUnclosedComment (t : Text) : Prop :=
  ∃ rest, t = ['/', '*'] ++ rest ∧ ¬ ['*', '/'] <:+: rest

namespace Lexeme

variable {t : Text} {scan : Scan}

theorem mem_operators_iff {sign : Text} {kind : TokenKind} :
    (sign, kind) ∈ operators ↔ kind.sign? = some sign := by
  constructor
  · intro member
    have spelled : ∀ entry ∈ operators, entry.2.sign? = some entry.1 := by decide
    exact spelled _ member
  · intro spelled
    cases kind <;> cases spelled <;> decide

theorem startsWith_of_heredocOpen? (found : heredocOpen? t = some scan) :
    StartsWith t scan.kind scan.lexeme := by
  obtain ⟨-, tail, split⟩ := heredocOpen?_covers found
  have endsLine := endsLine_of_heredocOpen? found split.symm
  have named (stripIndent : Bool) (rest : Text)
      (found : heredocNamed? (heredocMarker stripIndent) stripIndent rest = some scan) :
      IsLexeme scan.kind scan.lexeme tail := by
    rw [heredocNamed?, Option.ite_none_right_eq_some] at found
    obtain ⟨named, same⟩ := found
    cases same
    simp only [Bool.and_eq_true, Bool.not_eq_true', List.isEmpty_eq_false_iff] at named
    exact .heredocOpen stripIndent (isIdentifier_identifier named.1) endsLine
  refine ⟨tail, split.symm, ?_⟩
  unfold heredocOpen? at found
  split at found
  · exact named true _ found
  · exact named false _ found
  · cases found

theorem startsWith_of_newline? (found : newline? t = some scan) :
    StartsWith t scan.kind scan.lexeme := by
  obtain ⟨-, tail, split⟩ := newline?_covers found
  obtain ⟨lexeme, breaks, rfl⟩ := Option.map_eq_some_iff.mp found
  exact ⟨tail, split.symm, .lineBreak (Text.lineBreak?_eq_some breaks) tail⟩

theorem startsWith_of_blanks? (found : blanks? t = some scan) :
    StartsWith t scan.kind scan.lexeme := by
  obtain ⟨nonempty, tail, split⟩ := blanks?_covers found
  rw [blanks?, Option.ite_none_right_eq_some] at found
  obtain ⟨-, same⟩ := found
  cases same
  have blank := Text.goesOn_of_takeBefore split
  dsimp only at nonempty split
  generalize Text.takeBefore (fun rest => !startsBlank rest) t = lexeme at nonempty split blank
  have signs (c : Char) (s : Text) (suffix : c :: s <:+ lexeme) :
      (c = ' ' ∨ c = '\t' ∨ c = '\r') ∧ Text.lineBreak? (c :: (s ++ tail)) = none := by
    have starts := blank c s suffix
    rw [Bool.not_eq_false'] at starts
    rcases sign_of_startsBlank starts with rfl | rfl | ⟨rfl, noBreak⟩
    · exact ⟨.inl rfl, rfl⟩
    · exact ⟨.inr (.inl rfl), rfl⟩
    · exact ⟨.inr (.inr rfl), Option.map_eq_none_iff.mp noBreak⟩
  refine ⟨tail, split.symm, .blanks nonempty (fun c member => ?_) ?_⟩
  · obtain ⟨before, behind, rfl⟩ := List.append_of_mem member
    exact (signs c behind ⟨before, rfl⟩).1
  · exact Text.inLine_iff.mpr fun c s suffix => (signs c s suffix).2

theorem exists_mark_of_lineComment? (found : lineComment? t = some scan) :
    ∃ mark body, (mark = ['#'] ∨ mark = ['/', '/']) ∧ scan.lexeme = mark ++ body := by
  rw [lineComment?, Option.ite_none_right_eq_some] at found
  obtain ⟨starts, same⟩ := found
  cases same
  unfold startsLineComment at starts
  split at starts
  · exact ⟨['#'], _, .inl rfl, rfl⟩
  · exact ⟨['/', '/'], _, .inr rfl, rfl⟩
  · cases starts

theorem startsWith_of_lineComment? (found : lineComment? t = some scan) :
    StartsWith t scan.kind scan.lexeme := by
  obtain ⟨-, tail, split⟩ := lineComment?_covers found
  obtain ⟨mark, body, isMark, shape⟩ := exists_mark_of_lineComment? found
  rw [lineComment?, Option.ite_none_right_eq_some] at found
  obtain ⟨-, same⟩ := found
  cases same
  have goesOn := Text.goesOn_of_takeBefore split
  dsimp only at shape split ⊢
  rw [shape] at goesOn split ⊢
  refine ⟨tail, split.symm, .lineComment isMark (Text.inLine_iff.mpr fun c s suffix => ?_)⟩
  have noBreak := goesOn c s (suffix.trans (List.suffix_append mark body))
  simpa [Text.atLineBreak] using noBreak

theorem takeBefore_commentEnd_iff {body tail : Text} :
    Text.takeBefore commentEnd.isPrefixOf (body ++ commentEnd ++ tail) = body ↔
      ∀ before, before ++ commentEnd <+: body ++ commentEnd ++ tail →
        body.length ≤ before.length := by
  constructor
  · intro searched before ends
    by_contra shorter
    rw [Nat.not_le] at shorter
    have split : Text.takeBefore commentEnd.isPrefixOf (body ++ commentEnd ++ tail) ++
        (commentEnd ++ tail) = body ++ commentEnd ++ tail := by
      rw [searched, List.append_assoc]
    have goesOn := Text.goesOn_of_takeBefore split
    rw [searched] at goesOn
    obtain ⟨more, same⟩ := ends
    rw [List.append_assoc, List.append_assoc] at same
    -- an end inside of the body would have stopped the search there
    obtain ⟨inside, rfl⟩ : before <+: body :=
      List.prefix_of_prefix_length_le ⟨_, same⟩ ⟨_, rfl⟩ shorter.le
    cases inside with
    | nil => simp at shorter
    | cons c s =>
      have stops := goesOn c s (List.suffix_append before _)
      rw [List.append_assoc, List.append_cancel_left_eq] at same
      have found : commentEnd.isPrefixOf (c :: s ++ (commentEnd ++ tail)) :=
        List.isPrefixOf_iff_prefix.mpr ⟨more, same⟩
      rw [List.cons_append, stops] at found
      cases found
  · intro first
    rw [List.append_assoc, Text.takeBefore_append_of_goesOn]
    · simp [commentEnd, Text.takeBefore]
    · intro c s suffix
      obtain ⟨before, rfl⟩ := suffix
      rw [Bool.eq_false_iff]
      intro stops
      obtain ⟨more, same⟩ := List.isPrefixOf_iff_prefix.mp stops
      have length := first before ⟨more, by
        rw [List.append_assoc, same]
        simp⟩
      rw [List.length_append, List.length_cons] at length
      omega

theorem length_le_takeBefore_commentEnd_iff (rest : Text) :
    rest.length ≤ (Text.takeBefore commentEnd.isPrefixOf rest).length ↔ ¬ commentEnd <:+: rest := by
  constructor
  · rintro whole ⟨before, behind, rfl⟩
    have searched := (Text.takeBefore_isPrefix commentEnd.isPrefixOf _).eq_of_length_le whole
    have goesOn := Text.goesOn_of_takeBefore ((List.append_nil _).trans searched)
    rw [searched] at goesOn
    have stops := goesOn '*' ('/' :: behind) ⟨before, by simp [commentEnd]⟩
    cases stops
  · intro unclosed
    by_contra shorter
    rw [Nat.not_le] at shorter
    obtain ⟨behind, ends⟩ := takeBefore_commentEnd_isPrefix shorter
    exact unclosed ⟨_, behind, ends⟩

theorem startsWith_of_blockComment? (closed : ¬ IsUnclosedComment t)
    (found : blockComment? t = some scan) : StartsWith t scan.kind scan.lexeme := by
  obtain ⟨rest, rfl⟩ := exists_of_blockComment? found
  rw [blockComment?] at found
  split at found
  · rename_i shorter
    cases found
    obtain ⟨tail, split⟩ := takeBefore_commentEnd_isPrefix shorter
    generalize body : Text.takeBefore commentEnd.isPrefixOf rest = searched at split
    rw [← split] at body
    refine ⟨tail, by rw [← split]; simp, .blockComment (takeBefore_commentEnd_iff.mp body)⟩
  · rename_i whole
    rw [Nat.not_lt, length_le_takeBefore_commentEnd_iff] at whole
    exact absurd ⟨rest, rfl, whole⟩ closed

theorem body_scan_of_isUnclosedComment {c : Char} {cs : Text}
    (unclosed : IsUnclosedComment (c :: cs)) :
    Body.scan c cs = { kind := .error .unterminatedComment, lexeme := c :: cs } := by
  obtain ⟨rest, shape, noEnd⟩ := unclosed
  cases shape
  have whole := Nat.not_lt.mpr ((length_le_takeBefore_commentEnd_iff rest).mpr noEnd)
  exact body_scan_of_blockComment? (if_neg whole)

theorem startsWith_of_openQuote? (found : Body.openQuote? t = some scan) :
    StartsWith t scan.kind scan.lexeme := by
  unfold Body.openQuote? at found
  split at found <;> cases found
  exact ⟨_, rfl, .quote _⟩

theorem startsWith_of_identifier? (found : identifier? t = some scan) :
    StartsWith t scan.kind scan.lexeme := by
  obtain ⟨nonempty, tail, split⟩ := identifier?_covers found
  rw [identifier?, Option.ite_none_left_eq_some] at found
  cases found.2
  exact ⟨tail, split.symm, .identifier (isIdentifier_identifier nonempty) tail⟩

theorem startsWith_of_operator? (found : operator? t = some scan) :
    StartsWith t scan.kind scan.lexeme := by
  obtain ⟨-, tail, split⟩ := operator?_covers found
  obtain ⟨entry, sign, rfl⟩ := Option.map_eq_some_iff.mp found
  have spelled := mem_operators_iff.mp (List.mem_of_find?_eq_some sign)
  exact ⟨tail, split.symm, .sign spelled tail⟩

theorem startsWith_of_rule {c : Char} {cs : Text} (noDigit : ¬ c.isDigit)
    (closed : ¬ IsUnclosedComment (c :: cs)) {rule : Text → Option Scan}
    (member : rule ∈ Body.rules) (found : rule (c :: cs) = some scan) :
    StartsWith (c :: cs) scan.kind scan.lexeme := by
  simp only [Body.rules, List.mem_cons, List.not_mem_nil, or_false] at member
  rcases member with rfl | rfl | rfl | rfl | rfl | rfl | rfl | rfl | rfl
  · exact startsWith_of_heredocOpen? found
  · exact startsWith_of_newline? found
  · exact startsWith_of_blanks? found
  · exact startsWith_of_lineComment? found
  · exact startsWith_of_blockComment? closed found
  · exact startsWith_of_openQuote? found
  · exact startsWith_of_identifier? found
  · rw [number?, if_neg noDigit] at found
    cases found
  · exact startsWith_of_operator? found

theorem body_scan_kind (c : Char) (cs : Text) :
    (c.isDigit ∧ (Body.scan c cs).kind = .number) ∨
      (∃ error, (Body.scan c cs).kind = .error error) ∨
      ∃ lexeme tail, IsLexeme (Body.scan c cs).kind lexeme tail := by
  by_cases digit : c.isDigit
  · rw [body_scan_of_isDigit digit]
    rcases number_kind (c :: cs) with kind | kind
    · exact .inl ⟨digit, kind⟩
    · exact .inr (.inl ⟨_, kind⟩)
  by_cases unclosed : IsUnclosedComment (c :: cs)
  · rw [body_scan_of_isUnclosedComment unclosed]
    exact .inr (.inl ⟨_, rfl⟩)
  rw [Body.scan]
  cases found : Scan.first? Body.rules (c :: cs) with
  | none => exact .inr (.inl ⟨_, rfl⟩)
  | some scan =>
    obtain ⟨rule, member, read⟩ := List.exists_of_findSome?_eq_some found
    obtain ⟨tail, -, isLexeme⟩ := startsWith_of_rule digit unclosed member read
    exact .inr (.inr ⟨_, tail, isLexeme⟩)

theorem body_scan_error {c : Char} {cs : Text} {error : LexErrorKind}
    (isError : (Body.scan c cs).kind = .error error) : error = .malformedNumber ∨
      error = .unterminatedComment ∨ error = .unrecognizedCharacter c ∧ c ≠ '"' := by
  by_cases digit : c.isDigit
  · rw [body_scan_of_isDigit digit] at isError
    rcases number_kind (c :: cs) with kind | kind
    · cases kind.symm.trans isError
    · cases kind.symm.trans isError
      exact .inl rfl
  by_cases unclosed : IsUnclosedComment (c :: cs)
  · rw [body_scan_of_isUnclosedComment unclosed] at isError
    cases isError
    exact .inr (.inl rfl)
  rw [Body.scan] at isError
  cases found : Scan.first? Body.rules (c :: cs) with
  | none =>
    have noQuote := Scan.first?_eq_none.mp found Body.openQuote? (by simp [Body.rules])
    rw [found] at isError
    cases isError
    refine .inr (.inr ⟨rfl, ?_⟩)
    rintro rfl
    cases noQuote
  | some scan =>
    rw [found] at isError
    obtain ⟨rule, member, read⟩ := List.exists_of_findSome?_eq_some found
    obtain ⟨tail, -, isLexeme⟩ := startsWith_of_rule digit unclosed member read
    exact absurd isError (isLexeme.kind_ne_error error)

end Lexeme

/-- The scan reads more than the lexeme, or just that. -/
def Scan.Outreads (scan : Scan) (kind : TokenKind) (lexeme : Text) : Prop :=
  lexeme.length < scan.lexeme.length ∨ kind = scan.kind ∧ lexeme = scan.lexeme

theorem Scan.outreads_of_isPrefix {scan : Scan} {kind : TokenKind} {lexeme : Text}
    (isPrefix : lexeme <+: scan.lexeme) (same : kind = scan.kind) : scan.Outreads kind lexeme := by
  by_cases shorter : lexeme.length < scan.lexeme.length
  · exact .inl shorter
  · exact .inr ⟨same, isPrefix.eq_of_length_le (Nat.not_lt.mp shorter)⟩

namespace Lexeme

variable {kind : TokenKind} {lexeme tail : Text} {c : Char} {cs : Text}

theorem operators_pairwise : operators.Pairwise fun entry later => ¬ entry.1 <+: later.1 := by
  decide

theorem exists_operator?_outreads (spelled : kind.sign? = some lexeme) (tail : Text) :
    ∃ scan, operator? (lexeme ++ tail) = some scan ∧ scan.Outreads kind lexeme := by
  have member := mem_operators_iff.mpr spelled
  have starts : lexeme.isPrefixOf (lexeme ++ tail) :=
    List.isPrefixOf_iff_prefix.mpr (List.prefix_append lexeme tail)
  cases found : operators.find? fun entry => entry.1.isPrefixOf (lexeme ++ tail) with
  | none => exact absurd starts (List.find?_eq_none.mp found _ member)
  | some entry =>
    refine ⟨{ kind := entry.2, lexeme := entry.1 }, by rw [operator?, found]; rfl, ?_⟩
    have sign := List.find?_some found
    rw [List.isPrefixOf_iff_prefix] at sign
    obtain ⟨-, before, after, split, refused⟩ := List.find?_eq_some_iff_append.mp found
    have order := operators_pairwise
    rw [split] at member order
    rcases List.mem_append.mp member with earlier | later
    · have fails := refused _ earlier
      rw [starts] at fails
      cases fails
    rcases List.mem_cons.mp later with same | later
    · cases same
      exact .inr ⟨rfl, rfl⟩
    · -- the table has the sign behind the one found, which does not start it
      have notStart := (List.pairwise_cons.mp (List.pairwise_append.mp order).2.1).1 _ later
      refine .inl (Nat.lt_of_not_le fun le => notStart ?_)
      exact List.prefix_of_prefix_length_le sign (List.prefix_append lexeme tail) le

theorem operators_start : ∀ entry ∈ operators, startsWord (entry.1.headD 'a') = false ∧
    entry.1.headD 'a' ∉ ['\n', '\r', ' ', '\t', '#', '"'] ∧
    (entry.1.headD 'a' = '<' → entry.1.length ≤ 2) ∧
    (entry.1.headD 'a' = '/' → entry.1.length = 1) := by
  decide

theorem heredocOpen?_length {t : Text} {scan : Scan} (found : heredocOpen? t = some scan) :
    t.head? = some '<' ∧ 2 < scan.lexeme.length := by
  have named {marker : Text} (long : 2 ≤ marker.length) {stripIndent : Bool} {rest : Text}
      (found : heredocNamed? marker stripIndent rest = some scan) : 2 < scan.lexeme.length := by
    rw [heredocNamed?, Option.ite_none_right_eq_some] at found
    obtain ⟨named, same⟩ := found
    cases same
    simp only [Bool.and_eq_true, Bool.not_eq_true', List.isEmpty_eq_false_iff] at named
    have positive := List.length_pos_iff.mpr named.1
    rw [List.length_append]
    omega
  unfold heredocOpen? at found
  split at found
  · exact ⟨rfl, named (by decide) found⟩
  · exact ⟨rfl, named (by decide) found⟩
  · cases found

theorem lineComment?_length {t : Text} {scan : Scan} (found : lineComment? t = some scan) :
    t.head? = some '#' ∨ t.head? = some '/' ∧ 2 ≤ scan.lexeme.length := by
  obtain ⟨-, tail, split⟩ := lineComment?_covers found
  obtain ⟨mark, body, rfl | rfl, shape⟩ := exists_mark_of_lineComment? found
  · rw [← split, shape]
    exact .inl rfl
  · rw [← split, shape]
    exact .inr ⟨rfl, by simp⟩

theorem blockComment?_length {t : Text} {scan : Scan} (found : blockComment? t = some scan) :
    t.head? = some '/' ∧ 2 ≤ scan.lexeme.length := by
  unfold blockComment? at found
  split at found
  · dsimp only at found
    split at found <;> cases found <;> exact ⟨rfl, by simp⟩
  · cases found

theorem outreads_of_sign (spelled : kind.sign? = some lexeme) (shape : lexeme ++ tail = c :: cs) :
    (Body.scan c cs).Outreads kind lexeme := by
  obtain ⟨other, read, outreads⟩ := exists_operator?_outreads spelled tail
  have member := mem_operators_iff.mpr spelled
  obtain ⟨noWord, plain, less, slash⟩ := operators_start _ member
  obtain ⟨d, ds, rfl⟩ := List.exists_cons_of_ne_nil (operators_ne_nil _ member)
  rw [List.headD_cons] at noWord plain less slash
  rw [shape] at read
  obtain ⟨rfl, -⟩ := List.cons_eq_cons.mp shape
  simp only [List.mem_cons, List.not_mem_nil, or_false, not_or] at plain
  obtain ⟨feed, carriage, space, tab, hash, quote⟩ := plain
  rw [startsWord, Bool.or_eq_false_iff] at noWord
  rw [Body.scan]
  cases found : Scan.first? Body.rules (d :: cs) with
  | none =>
    have refused := Scan.first?_eq_none.mp found operator? (by simp [Body.rules])
    rw [refused] at read
    cases read
  | some scan =>
    rw [Option.getD_some]
    obtain ⟨rule, member, found⟩ := List.exists_of_findSome?_eq_some found
    simp only [Body.rules, List.mem_cons, List.not_mem_nil, or_false] at member
    -- a rule in front of that for operators reads something longer, or does not apply
    rcases member with rfl | rfl | rfl | rfl | rfl | rfl | rfl | rfl | rfl
    · obtain ⟨head, long⟩ := heredocOpen?_length found
      have short := less (Option.some.inj head)
      exact .inl (Nat.lt_of_le_of_lt short long)
    · simp [newline?, Text.lineBreak?_cons, feed, carriage] at found
    · simp [blanks?, startsBlank, Text.isIndent, space, tab, carriage] at found
    · rcases lineComment?_length found with head | ⟨head, long⟩
      · exact absurd (Option.some.inj head) hash
      · have single := slash (Option.some.inj head)
        exact .inl (Nat.lt_of_le_of_lt single.le long)
    · obtain ⟨head, long⟩ := blockComment?_length found
      have single := slash (Option.some.inj head)
      exact .inl (Nat.lt_of_le_of_lt single.le long)
    · simp [Body.openQuote?, quote] at found
    · simp [identifier?, identifier, noWord.1] at found
    · simp [number?, noWord.2] at found
    · cases found.symm.trans read
      exact outreads

theorem body_scan_of_rule {rule : Text → Option Scan} {scan : Scan}
    {before after : List (Text → Option Scan)} (order : Body.rules = before ++ rule :: after)
    (found : rule (c :: cs) = some scan) (refused : ∀ other ∈ before, other (c :: cs) = none) :
    Body.scan c cs = scan := by
  have first := Scan.first?_append_cons found before after refused
  rw [← order] at first
  rw [Body.scan, first, Option.getD_some]

theorem outreads_of_blanks (nonempty : lexeme ≠ [])
    (blank : ∀ c ∈ lexeme, c = ' ' ∨ c = '\t' ∨ c = '\r') (inLine : lexeme.InLine tail)
    (shape : lexeme ++ tail = c :: cs) : (Body.scan c cs).Outreads .whitespace lexeme := by
  have goesOn (d : Char) (s : Text) (suffix : d :: s <:+ lexeme) :
      (!startsBlank (d :: (s ++ tail))) = false := by
    have noBreak := Text.inLine_iff.mp inLine d s suffix
    rcases blank d (suffix.mem List.mem_cons_self) with rfl | rfl | rfl
    · rfl
    · rfl
    · simp [startsBlank, Text.atLineBreak, noBreak]
  have run : Text.takeBefore (fun rest => !startsBlank rest) (lexeme ++ tail) = lexeme ++ _ :=
    Text.takeBefore_append_of_goesOn goesOn
  have starts : startsBlank (c :: cs) := by
    obtain ⟨d, s, rfl⟩ := List.exists_cons_of_ne_nil nonempty
    obtain ⟨rfl, rfl⟩ := List.cons_eq_cons.mp shape
    simpa using goesOn d s List.suffix_rfl
  have found := body_scan_of_startsBlank starts
  rw [blanks?, if_pos starts, Option.some_inj, ← shape, run] at found
  rw [← found]
  exact Scan.outreads_of_isPrefix (List.prefix_append lexeme _) rfl

theorem inLine_mark_append {mark body : Text} (isMark : mark = ['#'] ∨ mark = ['/', '/'])
    (inLine : body.InLine tail) : (mark ++ body).InLine tail := by
  rcases isMark with rfl | rfl
  · exact Text.inLine_cons_iff.mpr ⟨rfl, inLine⟩
  · exact Text.inLine_cons_iff.mpr ⟨rfl, Text.inLine_cons_iff.mpr ⟨rfl, inLine⟩⟩

theorem outreads_of_lineComment {mark body : Text} (isMark : mark = ['#'] ∨ mark = ['/', '/'])
    (inLine : body.InLine tail) (shape : mark ++ body ++ tail = c :: cs) :
    (Body.scan c cs).Outreads .comment (mark ++ body) := by
  have whole : (mark ++ body).InLine tail := inLine_mark_append isMark inLine
  have run : Text.takeBefore Text.atLineBreak (mark ++ body ++ tail) = mark ++ body ++ _ :=
    Text.takeBefore_append_of_goesOn fun d s suffix => by
      rw [Text.atLineBreak, Text.inLine_iff.mp whole d s suffix]
      rfl
  have starts : startsLineComment (c :: cs) := by
    rw [← shape]
    rcases isMark with rfl | rfl <;> rfl
  have found : lineComment? (c :: cs) = some _ := if_pos starts
  have refused : ∀ other ∈ [heredocOpen?, newline?, blanks?], other (c :: cs) = none := by
    simp only [List.forall_mem_cons]
    rcases isMark with rfl | rfl
    · cases shape
      exact ⟨rfl, rfl, rfl, List.forall_mem_nil _⟩
    · cases shape
      exact ⟨rfl, rfl, rfl, List.forall_mem_nil _⟩
  rw [body_scan_of_rule rfl found refused, ← shape, run]
  exact Scan.outreads_of_isPrefix (List.prefix_append _ _) rfl

theorem outreads_of_blockComment {body : Text}
    (first : ∀ before, before ++ ['*', '/'] <+: body ++ ['*', '/'] ++ tail →
      body.length ≤ before.length)
    (shape : ['/', '*'] ++ body ++ ['*', '/'] ++ tail = c :: cs) :
    (Body.scan c cs).Outreads .comment (['/', '*'] ++ body ++ ['*', '/']) := by
  have searched : Text.takeBefore commentEnd.isPrefixOf (body ++ commentEnd ++ tail) = body :=
    takeBefore_commentEnd_iff.mpr first
  have found : blockComment? ('/' :: '*' :: (body ++ commentEnd ++ tail)) =
      some { kind := .comment, lexeme := '/' :: '*' :: body ++ commentEnd } := by
    rw [blockComment?, searched]
    refine if_pos ?_
    simp [commentEnd]
  have split : '/' :: '*' :: (body ++ commentEnd ++ tail) = c :: cs := by
    rw [← shape]
    simp [commentEnd]
  obtain ⟨rfl, rfl⟩ := List.cons_eq_cons.mp split
  rw [body_scan_of_blockComment? found]
  exact .inr ⟨rfl, rfl⟩

theorem outreads_of_identifier (name : IsIdentifier lexeme) (shape : lexeme ++ tail = c :: cs) :
    (Body.scan c cs).Outreads .ident lexeme := by
  obtain ⟨d, ds, rfl, start, continued⟩ := name
  rw [List.cons_append] at shape
  obtain ⟨rfl, rfl⟩ := List.cons_eq_cons.mp shape
  have word : startsWord d := by simp [startsWord, start]
  have whole : identifier (d :: (ds ++ tail)) =
      d :: ds ++ tail.takeWhile isIdentifierContinue := by
    rw [identifier, if_pos start, List.takeWhile_append_of_pos continued]
    rfl
  have scanned : Body.scan d (ds ++ tail) =
      { kind := .ident, lexeme := d :: ds ++ tail.takeWhile isIdentifierContinue } := by
    rw [body_scan_word word]
    simp [Scan.first?, identifier?, whole]
  rw [scanned]
  exact Scan.outreads_of_isPrefix (List.prefix_append _ _) rfl

/-- A body reads more than any lexeme that its text starts with, or just that. -/
theorem body_scan_outreads (isLexeme : IsLexeme kind lexeme tail)
    (shape : lexeme ++ tail = c :: cs) : (Body.scan c cs).Outreads kind lexeme := by
  cases isLexeme with
  | sign spelled => exact outreads_of_sign spelled shape
  | lineBreak spelled =>
    rcases spelled with rfl | rfl
    · cases shape
      exact .inr ⟨rfl, rfl⟩
    · cases shape
      exact .inr ⟨rfl, rfl⟩
  | blanks nonempty blank inLine => exact outreads_of_blanks nonempty blank inLine shape
  | lineComment isMark inLine => exact outreads_of_lineComment isMark inLine shape
  | blockComment first => exact outreads_of_blockComment first shape
  | quote =>
    cases shape
    exact .inr ⟨rfl, rfl⟩
  | identifier name => exact outreads_of_identifier name shape
  | heredocOpen stripIndent name endsLine =>
    have found := heredocOpen?_append stripIndent name endsLine
    rw [shape] at found
    rw [body_scan_of_heredocOpen? found]
    exact .inr ⟨rfl, rfl⟩

theorem not_startsWith_of_noRule (noRule : Scan.first? Body.rules (c :: cs) = none)
    (kind : TokenKind) (lexeme : Text) : ¬ StartsWith (c :: cs) kind lexeme := by
  rintro ⟨tail, split, isLexeme⟩
  have unrecognized : Body.scan c cs = Body.unrecognized c := by
    rw [Body.scan, noRule, Option.getD_none]
  have outreads := body_scan_outreads isLexeme split.symm
  rw [unrecognized] at outreads
  rcases outreads with shorter | ⟨same, -⟩
  · exact isLexeme.ne_nil (List.length_eq_zero_iff.mp (Nat.lt_one_iff.mp shorter))
  · exact isLexeme.kind_ne_error _ same

end Lexeme

structure IsLongestLexeme (t : Text) (kind : TokenKind) (lexeme : Text) : Prop where
  startsWith : StartsWith t kind lexeme
  others : ∀ kind' lexeme', StartsWith t kind' lexeme' →
    lexeme'.length < lexeme.length ∨ kind' = kind ∧ lexeme' = lexeme

/-- Comments without an end and numbers apart, a body reads the longest lexeme that the text ahead
starts with. A character is unrecognized just where no lexeme starts, and a comment without an end
is an error that covers all of the text. -/
theorem body_scan_isLongestLexeme (c : Char) (cs : Text) (noDigit : ¬ c.isDigit) :
    (¬ IsUnclosedComment (c :: cs) →
      ((∃ kind lexeme, StartsWith (c :: cs) kind lexeme) →
        IsLongestLexeme (c :: cs) (Body.scan c cs).kind (Body.scan c cs).lexeme) ∧
      (Body.scan c cs = { kind := .error (.unrecognizedCharacter c), lexeme := [c] } ↔
        ∀ kind lexeme, ¬ StartsWith (c :: cs) kind lexeme)) ∧
    (IsUnclosedComment (c :: cs) →
      Body.scan c cs = { kind := .error .unterminatedComment, lexeme := c :: cs }) := by
  refine ⟨fun closed => ?_, body_scan_of_isUnclosedComment⟩
  have others (kind : TokenKind) (lexeme : Text) (starts : StartsWith (c :: cs) kind lexeme) :
      (Body.scan c cs).Outreads kind lexeme := by
    obtain ⟨tail, split, isLexeme⟩ := starts
    exact body_scan_outreads isLexeme split.symm
  cases found : Scan.first? Body.rules (c :: cs) with
  | none =>
    have unrecognized : Body.scan c cs = Body.unrecognized c := by
      rw [Body.scan, found, Option.getD_none]
    have noLexeme := not_startsWith_of_noRule found
    refine ⟨?_, iff_of_true unrecognized noLexeme⟩
    rintro ⟨kind, lexeme, starts⟩
    exact absurd starts (noLexeme kind lexeme)
  | some scan =>
    have scanned : Body.scan c cs = scan := by rw [Body.scan, found, Option.getD_some]
    obtain ⟨rule, member, read⟩ := List.exists_of_findSome?_eq_some found
    have starts := startsWith_of_rule noDigit closed member read
    rw [scanned] at others ⊢
    refine ⟨fun _ => ⟨starts, others⟩, iff_of_false ?_ fun none => none _ _ starts⟩
    intro same
    obtain ⟨tail, -, isLexeme⟩ := starts
    exact isLexeme.kind_ne_error _ (congrArg Scan.kind same)

/-- A comment that ends where the signs of its start overlap those of an end. -/
def overlappingComment : Text := ['/', '*', '/', ' ', '*', '/', '/']

theorem isLongestLexeme_overlappingComment :
    IsLongestLexeme overlappingComment .comment ['/', '*', '/', ' ', '*', '/'] ∧
      Body.scan '/' ['*', '/'] =
        { kind := .error .unterminatedComment, lexeme := ['/', '*', '/'] } := by
  have closed : ¬ IsUnclosedComment overlappingComment := by
    rintro ⟨rest, shape, noEnd⟩
    cases shape
    exact noEnd (by decide)
  have unclosed : IsUnclosedComment ['/', '*', '/'] := ⟨['/'], rfl, by decide⟩
  have starts : ∃ kind lexeme, StartsWith overlappingComment kind lexeme :=
    ⟨.slash, ['/'], _, rfl, .sign rfl _⟩
  have longest := body_scan_isLongestLexeme '/' ['*', '/', ' ', '*', '/', '/'] (by decide)
  exact ⟨(longest.1 closed).1 starts,
    (body_scan_isLongestLexeme '/' ['*', '/'] (by decide)).2 unclosed⟩

end HclLexis
