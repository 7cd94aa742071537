import HclLexis.Proofs.Replay

/-! Where a heredoc closes. The lines of its own body start behind the line breaks that are read
while it is the innermost construct; it closes at the first of them that is its terminator and
nowhere else, whatever is opened and closed in between. -/

namespace HclLexis

namespace Text

/-- The text up to the next line feed or the end is `line`, but for one carriage return. -/
def StartsWithLine (t line : Text) : Prop :=
  ∃ whole tail, t = whole ++ tail ∧ '\n' ∉ whole ∧ (tail = [] ∨ tail.head? = some '\n') ∧
    (whole = line ++ ['\r'] ∨ whole = line ∧ line.getLast? ≠ some '\r')

theorem StartsWithLine.eq_line {t line : Text} (h : t.StartsWithLine line) : line = t.line := by
  obtain ⟨whole, tail, rfl, noFeed, ends, trimmed⟩ := h
  have stops : tail.takeWhile (fun c => c != '\n') = [] := by
    rcases ends with rfl | feed
    · rfl
    · obtain ⟨rest, rfl⟩ := List.head?_eq_some_iff.mp feed
      rfl
  have taken : (whole ++ tail).takeWhile (fun c => c != '\n') = whole := by
    have kept : ∀ c ∈ whole, (c != '\n') = true := by
      intro c member
      rw [bne_iff_ne]
      rintro rfl
      exact noFeed member
    rw [List.takeWhile_append_of_pos kept, stops, List.append_nil]
  rw [Text.line, taken]
  rcases trimmed with rfl | ⟨rfl, noReturn⟩
  · simp
  · rw [if_neg noReturn]

theorem startsWithLine_iff {t line : Text} : t.StartsWithLine line ↔ line = t.line := by
  constructor
  · exact StartsWithLine.eq_line
  · rintro rfl
    refine ⟨t.takeWhile (fun c => c != '\n'), t.dropWhile (fun c => c != '\n'),
      List.takeWhile_append_dropWhile.symm, fun feed => ?_, ?_, ?_⟩
    · have kept := List.all_eq_true.mp List.all_takeWhile '\n' feed
      cases kept
    · have stops := List.head?_dropWhile_not (fun c => c != '\n') t
      cases behind : t.dropWhile (fun c => c != '\n') with
      | nil => exact .inl rfl
      | cons c cs => simpa [behind] using stops
    · rw [line]
      split
      · rename_i last
        obtain ⟨trimmed, same⟩ := List.getLast?_eq_some_iff.mp last
        rw [same, List.dropLast_concat]
        exact .inl rfl
      · rename_i other
        exact .inr ⟨rfl, other⟩

end Text

namespace Lexer

open Rules.HeredocBody

variable {t : Text} {lexer next : Lexer} {token : Token} {i n : Nat}

def Opens (lexer : Lexer) (i : Nat) : Prop :=
  (lexer.skip (i + 1)).modes.depth = (lexer.skip i).modes.depth + 1

/-- The construct that token `i` opens is still open after `n` calls: the stack has not been lower
since. -/
def IsOpen (lexer : Lexer) (i n : Nat) : Prop :=
  i < n ∧ ∀ m ≤ n, i < m → (lexer.skip (i + 1)).modes.depth ≤ (lexer.skip m).modes.depth

instance : Decidable (lexer.IsOpen i n) :=
  inferInstanceAs (Decidable (_ ∧ ∀ m ≤ n, _ → _))

def IsInnermost (lexer : Lexer) (i n : Nat) : Prop :=
  lexer.IsOpen i n ∧ (lexer.skip n).modes.depth = (lexer.skip (i + 1)).modes.depth

instance : Decidable (lexer.IsInnermost i n) := inferInstanceAs (Decidable (_ ∧ _))

def FollowsOwnLineBreak (lexer : Lexer) (i n : Nat) : Prop :=
  ∃ m, n = m + 1 ∧ lexer.IsInnermost i m ∧ (lexer.token m).kind = .newline

/-- A line of the construct's own starts after `n` calls. -/
def IsOwnLineStart (lexer : Lexer) (i n : Nat) : Prop :=
  lexer.FollowsOwnLineBreak i n ∧ ¬ lexer.EndsAt n

def Closes (lexer : Lexer) (i n : Nat) : Prop :=
  (∃ minIndent, (lexer.token n).kind = .heredocClose minIndent) ∧
    lexer.IsOpen i n ∧ ¬ lexer.IsOpen i (n + 1)

def IsTerminator (stripIndent : Bool) (terminator line : Text) : Prop :=
  (if stripIndent then line.dropWhile Text.isIndent else line) = terminator

theorem IsOpen.of_le {m : Nat} (isOpen : lexer.IsOpen i n) (less : i < m) (le : m ≤ n) :
    lexer.IsOpen i m :=
  ⟨less, fun other upper lower => isOpen.2 other (by omega) lower⟩

theorem IsOpen.succ_iff (isOpen : lexer.IsOpen i n) : lexer.IsOpen i (n + 1) ↔
    (lexer.skip (i + 1)).modes.depth ≤ (lexer.skip (n + 1)).modes.depth := by
  have less := isOpen.1
  constructor
  · intro still
    exact still.2 (n + 1) (Nat.le_refl _) (by omega)
  · intro high
    refine ⟨by omega, fun m upper lower => ?_⟩
    by_cases last : m = n + 1
    · exact last ▸ high
    · exact isOpen.2 m (by omega) lower

theorem Turn.of_heredocOpen (turn : Turn lexer token next) {stripIndent : Bool}
    (opener : token.kind = .heredocOpen stripIndent) :
    ∃ terminator, token.terminator? = some terminator ∧
      next.modes = lexer.modes.push (.heredocTemplate { terminator, stripIndent }) token.start := by
  cases turn with
  | atEnd => cases opener
  | scanned _ _ outcome =>
    generalize current : lexer.modes.current = mode at outcome
    have stays := ModeStack.setCurrent_current current
    cases outcome with
    | heredocOpen _ _ _ =>
      cases opener
      refine ⟨_, Token.terminator?_heredocOpen rfl rfl, ?_⟩
      dsimp only
      rw [stays]
      rfl
    | neutral _ _ neutral => cases opener; cases neutral
    | stringText _ neutral => cases opener; cases neutral
    | bodyBrace _ brace => cases opener; cases brace
    | stringSequence _ opens => cases opener; cases opens
    | heredocSequence _ _ opens => cases opener; cases opens
    | _ => cases opener

structure ReadsClosingLine (lexer next : Lexer) (token : Token) (heredoc : Heredoc)
    (below : List Frame) : Prop where
  lineStart : heredoc.atLineStart
  isTerminator : heredoc.closesAt (Text.line lexer.cursor.rest)
  kind : token.kind = .heredocClose heredoc.closingIndent
  text : token.text = Text.line lexer.cursor.rest
  frames : next.modes.frames = below

/-- A call in a heredoc that stays in it and leaves it as `heredoc'`, under a sequence if one
opens. -/
structure StaysInside (lexer next : Lexer) (token : Token) (heredoc heredoc' : Heredoc)
    (openedAt : Location) (above below : List Frame) : Prop where
  noTerminator : heredoc.atLineStart → ¬ heredoc.closesAt (Text.line lexer.cursor.rest)
  kind : ∀ minIndent, token.kind ≠ .heredocClose minIndent
  frames : next.modes.frames = above ++ ⟨.heredocTemplate heredoc', openedAt⟩ :: below
  terminator : heredoc'.terminator = heredoc.terminator
  stripIndent : heredoc'.stripIndent = heredoc.stripIndent
  covered : above ≠ [] → heredoc'.atLineStart = false
  onTop : above = [] → (heredoc'.atLineStart ↔ token.kind = .newline)

theorem Turn.of_heredoc (turn : Turn lexer token next) {heredoc : Heredoc} {openedAt : Location}
    {below : List Frame} (ahead : lexer.cursor.rest ≠ [])
    (frames : lexer.modes.frames = ⟨.heredocTemplate heredoc, openedAt⟩ :: below) :
    ReadsClosingLine lexer next token heredoc below ∨
      ∃ heredoc' above, StaysInside lexer next token heredoc heredoc' openedAt above below := by
  cases turn with
  | atEnd ended => exact absurd ended ahead
  | scanned split nonempty outcome =>
    have current : lexer.modes.current = .heredocTemplate heredoc := by
      rw [ModeStack.current, frames]
    rw [current] at outcome
    have replaced := ModeStack.frames_setCurrent frames
    cases outcome with
    | heredocClose lineStart closes =>
      have left := ModeStack.frames_follow_leave (replaced (.heredocTemplate heredoc))
        lexer.cursor.location
      exact .inl ⟨lineStart, closes, rfl, rfl, left⟩
    | heredocLineBreak lexeme inside =>
      have notClose : ∀ minIndent, TokenKind.newline ≠ .heredocClose minIndent := by
        rintro minIndent ⟨⟩
      exact .inr ⟨_, [], inside, notClose, replaced _, by simp, by simp, by simp, by simp⟩
    | @heredocSequence _ kind lexeme inside opens =>
      have notClose : ∀ minIndent, kind ≠ .heredocClose minIndent := by
        rintro minIndent rfl
        cases opens
      have entered : ((lexer.modes.setCurrent
          (.heredocTemplate (enterLine heredoc lexer.cursor.rest))).follow lexer.cursor.location
            (.enter (.interpolation 0))).frames =
          [⟨.interpolation 0, lexer.cursor.location⟩] ++
            ⟨.heredocTemplate (enterLine heredoc lexer.cursor.rest), openedAt⟩ :: below := by
        rw [ModeStack.follow, ModeStack.push, replaced]
        rfl
      exact .inr ⟨_, _, inside, notClose, entered, by simp, by simp, by simp, by simp⟩
    | heredocText lexeme inside =>
      have notClose : ∀ minIndent, TokenKind.templateLiteral ≠ .heredocClose minIndent := by
        rintro minIndent ⟨⟩
      exact .inr ⟨_, [], inside, notClose, replaced _, by simp, by simp, by simp, by simp⟩
    | openQuote reads | heredocOpen reads | neutral reads => cases reads

/-- The stack holds the heredoc of token `i` as the run needs it: under `above`, on the frames that
the token found, with its flag raised just where a line of its own starts. -/
structure HoldsHeredoc (lexer : Lexer) (i n : Nat) (terminator : Text) (stripIndent : Bool)
    (above : List Frame) (heredoc : Heredoc) : Prop where
  frames : (lexer.skip n).modes.frames = above ++
    ⟨.heredocTemplate heredoc, (lexer.token i).start⟩ :: (lexer.skip i).modes.frames
  terminator : heredoc.terminator = terminator
  stripIndent : heredoc.stripIndent = stripIndent
  covered : above ≠ [] → heredoc.atLineStart = false
  onTop : above = [] → ¬ lexer.EndsAt n →
    (heredoc.atLineStart ↔ lexer.FollowsOwnLineBreak i n)

section

variable {terminator : Text} {stripIndent : Bool} {above : List Frame} {heredoc : Heredoc}

theorem HoldsHeredoc.closesAt_iff
    (holds : lexer.HoldsHeredoc i n terminator stripIndent above heredoc) {line : Text} :
    heredoc.closesAt line ↔ IsTerminator stripIndent terminator line := by
  rw [Heredoc.closesAt, IsTerminator, holds.stripIndent, holds.terminator, beq_iff_eq]

theorem HoldsHeredoc.depth_eq (opened : lexer.Opens i)
    (holds : lexer.HoldsHeredoc i n terminator stripIndent above heredoc) :
    (lexer.skip n).modes.depth = above.length + (lexer.skip (i + 1)).modes.depth := by
  rw [opened, ModeStack.depth, ModeStack.depth, holds.frames, List.length_append,
    List.length_cons]
  omega

theorem HoldsHeredoc.isOpen_succ (opened : lexer.Opens i)
    (isOpen : lexer.IsOpen i n)
    (holds : lexer.HoldsHeredoc i (n + 1) terminator stripIndent above heredoc) :
    lexer.IsOpen i (n + 1) := by
  have depth := holds.depth_eq opened
  apply isOpen.succ_iff.mpr
  omega

theorem HoldsHeredoc.step_covered (reads : Reads t lexer) (opened : lexer.Opens i)
    (holds : lexer.HoldsHeredoc i n terminator stripIndent above heredoc) (covered : above ≠ []) :
    ∃ above', lexer.HoldsHeredoc i (n + 1) terminator stripIndent above' heredoc := by
  have flag := holds.covered covered
  have frames := holds.frames
  obtain ⟨frame, above, rfl⟩ := List.exists_cons_of_ne_nil covered
  have depth := holds.depth_eq opened
  have notOwn : ¬ lexer.FollowsOwnLineBreak i (n + 1) := by
    rintro ⟨m, same, innermost, -⟩
    cases same
    have level := innermost.2
    rw [depth, List.length_cons] at level
    omega
  -- a call reaches the innermost frame only, which is not that of the heredoc
  have kept : ∃ above', (lexer.skip (n + 1)).modes.frames = above' ++
      ⟨.heredocTemplate heredoc, (lexer.token i).start⟩ :: (lexer.skip i).modes.frames := by
    have turn := reads.turn_token n
    generalize lexer.token n = token at turn
    generalize lexer.skip (n + 1) = next at turn ⊢
    cases turn with
    | atEnd => exact ⟨frame :: above, frames⟩
    | @scanned mode scan _ _ _ _ =>
      obtain ⟨stepped, kept⟩ := ModeStack.frames_step frames mode
        (lexer.skip n).cursor.location scan.move
      exact ⟨stepped ++ above, by rw [kept, List.append_assoc]; rfl⟩
  obtain ⟨above', kept⟩ := kept
  exact ⟨above', kept, holds.terminator, holds.stripIndent, fun _ => flag, fun _ _ => by
    rw [flag]
    exact iff_of_false Bool.false_ne_true notOwn⟩

theorem ReadsClosingLine.not_isOpen (opened : lexer.Opens i)
    (closing : ReadsClosingLine (lexer.skip n) (lexer.skip (n + 1)) (lexer.token n) heredoc
      (lexer.skip i).modes.frames) : ¬ lexer.IsOpen i (n + 1) := by
  rintro ⟨less, high⟩
  have depth := high (n + 1) (Nat.le_refl _) less
  rw [opened, ModeStack.depth, ModeStack.depth, closing.frames] at depth
  omega

theorem IsInnermost.succ_of_newline (reads : Reads t lexer) (innermost : lexer.IsInnermost i n)
    (newline : (lexer.token n).kind = .newline) : lexer.IsInnermost i (n + 1) := by
  have replayed := (reads.turn_token n).replay? (reads.skip n)
  rw [Token.replay?_of_neutral (by rw [newline]; rfl), Option.some_inj] at replayed
  have level : (lexer.skip (n + 1)).modes.depth = (lexer.skip (i + 1)).modes.depth := by
    rw [← innermost.2, ← ModeStack.depth_outline, ← replayed, ModeStack.depth_outline]
  exact ⟨innermost.1.succ_iff.mpr (Nat.le_of_eq level.symm), level⟩

theorem Reads.opens (reads : Reads t lexer)
    (opener : (lexer.token i).kind = .heredocOpen stripIndent) : lexer.Opens i := by
  obtain ⟨terminator, -, pushed⟩ := (reads.turn_token i).of_heredocOpen opener
  rw [Opens, pushed]
  rfl

theorem endsAt_succ (ended : lexer.EndsAt n) : lexer.skip (n + 1) = lexer.skip n := by
  rw [skip_succ, pull_of_ended ended]

theorem HoldsHeredoc.step_onTop (reads : Reads t lexer) (opened : lexer.Opens i)
    (isOpen : lexer.IsOpen i n)
    (holds : lexer.HoldsHeredoc i n terminator stripIndent [] heredoc) (ahead : ¬ lexer.EndsAt n) :
    ReadsClosingLine (lexer.skip n) (lexer.skip (n + 1)) (lexer.token n) heredoc
        (lexer.skip i).modes.frames ∨
      (heredoc.atLineStart → ¬ heredoc.closesAt (Text.line (lexer.skip n).cursor.rest)) ∧
        (∀ minIndent, (lexer.token n).kind ≠ .heredocClose minIndent) ∧
        ∃ above heredoc', lexer.HoldsHeredoc i (n + 1) terminator stripIndent above heredoc' := by
  have turn := reads.turn_token n
  rcases turn.of_heredoc ahead holds.frames with closing | ⟨heredoc', above, stays⟩
  · exact .inl closing
  · have level : (lexer.skip n).modes.depth = (lexer.skip (i + 1)).modes.depth := by
      rw [holds.depth_eq opened, List.length_nil, Nat.zero_add]
    refine .inr ⟨stays.noTerminator, stays.kind, above, heredoc', ?_⟩
    exact {
      frames := stays.frames
      terminator := by rw [stays.terminator, holds.terminator]
      stripIndent := by rw [stays.stripIndent, holds.stripIndent]
      covered := stays.covered
      onTop := fun bare _ => by
        rw [stays.onTop bare]
        constructor
        · intro newline
          exact ⟨n, rfl, ⟨isOpen, level⟩, newline⟩
        · rintro ⟨m, same, -, newline⟩
          cases same
          exact newline }

theorem HoldsHeredoc.step_ended (holds : lexer.HoldsHeredoc i n terminator stripIndent [] heredoc)
    (ended : lexer.EndsAt n) : lexer.HoldsHeredoc i (n + 1) terminator stripIndent [] heredoc := by
  have stays := endsAt_succ ended
  have still : lexer.EndsAt (n + 1) := by
    rwa [EndsAt, stays]
  exact {
    frames := by rw [stays]; exact holds.frames
    terminator := holds.terminator
    stripIndent := holds.stripIndent
    covered := holds.covered
    onTop := fun _ ahead => absurd still ahead }

theorem Reads.holdsHeredoc_opened (reads : Reads t lexer)
    (opener : (lexer.token i).kind = .heredocOpen stripIndent)
    (name : (lexer.token i).terminator? = some terminator) :
    lexer.HoldsHeredoc i (i + 1) terminator stripIndent [] { terminator, stripIndent } := by
  obtain ⟨_, same, pushed⟩ := (reads.turn_token i).of_heredocOpen opener
  rw [name] at same
  cases same
  -- the heredoc is not open yet where its opener is read
  have notOwn : ¬ lexer.FollowsOwnLineBreak i (i + 1) := by
    rintro ⟨m, same, innermost, -⟩
    cases same
    exact Nat.lt_irrefl i innermost.1.1
  exact {
    frames := by rw [pushed]; rfl
    terminator := rfl
    stripIndent := rfl
    covered := fun _ => rfl
    onTop := fun _ _ => iff_of_false Bool.false_ne_true notOwn }

theorem exists_holdsHeredoc (reads : Reads t lexer)
    (opener : (lexer.token i).kind = .heredocOpen stripIndent)
    (name : (lexer.token i).terminator? = some terminator) (isOpen : lexer.IsOpen i n) :
    ∃ above heredoc, lexer.HoldsHeredoc i n terminator stripIndent above heredoc := by
  have opened := reads.opens opener
  -- from the opener on, call by call; only a closing line would let go of the heredoc
  induction n with
  | zero => exact absurd isOpen.1 (Nat.not_lt_zero i)
  | succ n ih =>
    by_cases first : i = n
    · subst first
      exact ⟨[], _, reads.holdsHeredoc_opened opener name⟩
    · have less : i < n := by
        have := isOpen.1
        omega
      have before := isOpen.of_le less (Nat.le_succ n)
      obtain ⟨above, heredoc, holds⟩ := ih before
      by_cases covered : above = []
      · subst covered
        by_cases ended : lexer.EndsAt n
        · exact ⟨[], heredoc, holds.step_ended ended⟩
        · rcases holds.step_onTop reads opened before ended with closing | ⟨-, -, stays⟩
          · exact absurd isOpen (closing.not_isOpen opened)
          · exact stays
      · obtain ⟨above', stays⟩ := holds.step_covered reads opened covered
        exact ⟨above', heredoc, stays⟩

theorem HoldsHeredoc.closes (reads : Reads t lexer) (opened : lexer.Opens i)
    (holds : lexer.HoldsHeredoc i n terminator stripIndent above heredoc)
    (closes : lexer.Closes i n) :
    lexer.IsOwnLineStart i n ∧ heredoc.closesAt (Text.line (lexer.skip n).cursor.rest) := by
  obtain ⟨⟨minIndent, kind⟩, isOpen, shut⟩ := closes
  have ahead : ¬ lexer.EndsAt n := by
    intro ended
    apply shut
    rw [isOpen.succ_iff, endsAt_succ ended, holds.depth_eq opened]
    omega
  by_cases covered : above = []
  · subst covered
    rcases holds.step_onTop reads opened isOpen ahead with closing | ⟨-, notClose, -⟩
    · have own := (holds.onTop rfl ahead).mp closing.lineStart
      exact ⟨⟨own, ahead⟩, closing.isTerminator⟩
    · exact absurd kind (notClose minIndent)
  · obtain ⟨above', stays⟩ := holds.step_covered reads opened covered
    exact absurd (stays.isOpen_succ opened isOpen) shut

theorem HoldsHeredoc.onTop_of_own (reads : Reads t lexer) (opened : lexer.Opens i)
    (holds : lexer.HoldsHeredoc i n terminator stripIndent above heredoc)
    (own : lexer.FollowsOwnLineBreak i n) : above = [] := by
  obtain ⟨m, rfl, innermost, newline⟩ := own
  have depth := holds.depth_eq opened
  rw [(innermost.succ_of_newline reads newline).2] at depth
  exact List.eq_nil_of_length_eq_zero (by omega)

theorem HoldsHeredoc.closes_of_terminator (reads : Reads t lexer) (opened : lexer.Opens i)
    (holds : lexer.HoldsHeredoc i n terminator stripIndent above heredoc)
    (own : lexer.IsOwnLineStart i n)
    (isTerminator : heredoc.closesAt (Text.line (lexer.skip n).cursor.rest)) :
    lexer.Closes i n ∧ (lexer.token n).text = Text.line (lexer.skip n).cursor.rest := by
  obtain rfl := holds.onTop_of_own reads opened own.1
  obtain ⟨⟨m, rfl, innermost, newline⟩, ahead⟩ := own
  have innermost' := innermost.succ_of_newline reads newline
  have lineStart := (holds.onTop rfl ahead).mpr ⟨m, rfl, innermost, newline⟩
  rcases holds.step_onTop reads opened innermost'.1 ahead with closing | ⟨noTerminator, -, -⟩
  · exact ⟨⟨⟨_, closing.kind⟩, innermost'.1, closing.not_isOpen opened⟩, closing.text⟩
  · exact absurd isTerminator (noTerminator lineStart)

end

theorem EndsAt.mono {m : Nat} (ended : lexer.EndsAt n) (le : n ≤ m) : lexer.EndsAt m := by
  induction le with
  | refl => exact ended
  | step _ ih => rwa [EndsAt, endsAt_succ ih]

/-- Where a line of a heredoc's own starts it closes just if the line is its terminator, nothing
closes it anywhere else, and one that is open at the end of the text has met no such line. -/
theorem heredoc_closes_at_own_terminator_line (t : Text) {i : Nat} {stripIndent : Bool}
    {terminator : Text} (opener : ((ofText t).token i).kind = .heredocOpen stripIndent)
    (name : ((ofText t).token i).terminator? = some terminator) :
    (∀ n line, (ofText t).IsOwnLineStart i n →
      Text.StartsWithLine ((ofText t).skip n).cursor.rest line →
      ((ofText t).Closes i n ∧ ((ofText t).token n).text = line ↔
        IsTerminator stripIndent terminator line)) ∧
    (∀ n, (ofText t).Closes i n → (ofText t).IsOwnLineStart i n) ∧
    (∀ n, (ofText t).IsOpen i n → (ofText t).EndsAt n → ∀ m line, (ofText t).IsOwnLineStart i m →
      Text.StartsWithLine ((ofText t).skip m).cursor.rest line →
      ¬ IsTerminator stripIndent terminator line) := by
  have reads := reads_ofText t
  have opened := reads.opens opener
  have closes_iff : ∀ n line, (ofText t).IsOwnLineStart i n →
      Text.StartsWithLine ((ofText t).skip n).cursor.rest line →
      ((ofText t).Closes i n ∧ ((ofText t).token n).text = line ↔
        IsTerminator stripIndent terminator line) := by
    intro n line own starts
    have isOpen : (ofText t).IsOpen i n := by
      obtain ⟨⟨m, rfl, innermost, newline⟩, -⟩ := own
      exact (innermost.succ_of_newline reads newline).1
    obtain ⟨above, heredoc, holds⟩ := exists_holdsHeredoc reads opener name isOpen
    rw [Text.startsWithLine_iff.mp starts, ← holds.closesAt_iff]
    constructor
    · intro closing
      exact (holds.closes reads opened closing.1).2
    · intro isTerminator
      exact holds.closes_of_terminator reads opened own isTerminator
  refine ⟨closes_iff, fun n closing => ?_, fun n isOpen ended m line own starts same => ?_⟩
  · obtain ⟨above, heredoc, holds⟩ := exists_holdsHeredoc reads opener name closing.2.1
    exact (holds.closes reads opened closing).1
  · obtain ⟨⟨-, openAt, shut⟩, -⟩ := (closes_iff m line own starts).mpr same
    have less : m < n := by
      apply Nat.lt_of_not_le
      intro late
      exact own.2 (ended.mono late)
    exact shut (isOpen.of_le (Nat.lt_succ_of_lt openAt.1) less)

def nestedHeredocs : Text :=
  ['<', '<', 'E', '\n', '$', '{', '<', '<', 'E', '\n', 'E', '\n', '}', '\n', 'E', '\n']

theorem nestedHeredocs_close_apart :
    (ofText nestedHeredocs).Closes 0 9 ∧ ¬ (ofText nestedHeredocs).Closes 0 5 := by
  have opener : ((ofText nestedHeredocs).token 0).kind = .heredocOpen false := by decide
  have name : ((ofText nestedHeredocs).token 0).terminator? = some ['E'] := by decide
  obtain ⟨atOwnLines, onlyThere, -⟩ := heredoc_closes_at_own_terminator_line _ opener name
  constructor
  · have own : (ofText nestedHeredocs).IsOwnLineStart 0 9 :=
      ⟨⟨8, rfl, by decide, by decide⟩, by decide⟩
    exact ((atOwnLines 9 ['E'] own ⟨['E'], ['\n'], by decide⟩).mpr rfl).1
  · intro closes
    obtain ⟨⟨m, same, innermost, -⟩, -⟩ := onlyThere 5 closes
    cases same
    have covered : ¬ (ofText nestedHeredocs).IsInnermost 0 4 := by decide
    exact covered innermost

end Lexer

end HclLexis
