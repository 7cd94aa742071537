import HclLexis.Proofs.PrefixStability
import HclLexis.Proofs.Relocation

/-! Expressions inside of template sequences. A sequence reads what a body reads, except that it
counts the braces that a body reads right in its base mode; as long as none of them closes what the
expression has not opened, both give the same tokens. -/

namespace HclLexis

open Rules Lexeme

namespace Location

def shift (n : Nat) (here : Location) : Location :=
  ⟨here.offset + n, here.line, if here.line = 1 then here.column + n else here.column⟩

theorem shift_eq_startingAt (n : Nat) : shift n = startingAt ⟨n, 1, n + 1⟩ := rfl

theorem shift_advanceOver {here : Location} (positive : 0 < here.line) (n : Nat) (t : Text) :
    (here.advanceOver t).shift n = (here.shift n).advanceOver t := by
  rw [shift_eq_startingAt]
  exact startingAt_advanceOver positive _ t

end Location

def TokenKind.braceDepth (depth : Nat) : TokenKind → Nat
  | openBrace => depth + 1
  | closeBrace => depth - 1
  | _ => depth

theorem TokenKind.braceDepth_add_count {kind : TokenKind} {depth : Nat}
    (nested : kind = .closeBrace → 0 < depth) (kinds : List TokenKind) :
    kind.braceDepth depth + (kind :: kinds).count .closeBrace + kinds.count .openBrace =
      depth + (kind :: kinds).count .openBrace + kinds.count .closeBrace := by
  rw [List.count_cons, List.count_cons]
  by_cases opens : kind = .openBrace
  · subst opens
    simp [braceDepth]
    omega
  by_cases closes : kind = .closeBrace
  · subst closes
    have positive := nested rfl
    simp [braceDepth]
    omega
  have stays : kind.braceDepth depth = depth := by
    cases kind <;> simp_all [braceDepth]
  simp [opens, closes, stays]
  omega

theorem Mode.Scans.sequence_of_structural {mode : Mode} {scan : Scan} {tail : Text} {depth : Nat}
    (scans : structural.Scans mode scan tail) (nested : scan.kind = .closeBrace → 0 < depth)
    (noStrip : depth = 0 → ∀ rest, scan.lexeme ++ tail ≠ '~' :: '}' :: rest) :
    (interpolation depth).Scans (interpolation (scan.kind.braceDepth depth)) scan tail := by
  obtain ⟨c, cs, shape, scanned⟩ := scans
  refine ⟨c, cs, shape, ?_⟩
  rw [Mode.scan, Prod.mk.injEq] at scanned
  obtain ⟨-, rfl⟩ := scanned
  by_cases opens : c = '{'
  · subst opens
    rfl
  by_cases closes : c = '}'
  · subst closes
    obtain ⟨depth, rfl⟩ := Nat.exists_eq_succ_of_ne_zero (Nat.ne_zero_of_lt (nested rfl))
    rfl
  have strips : ¬ (c = '~' && depth = 0 && cs.head? = some '}') := by
    simp only [Bool.and_eq_true, decide_eq_true_eq]
    rintro ⟨⟨rfl, none⟩, head⟩
    obtain ⟨rest, rfl⟩ := List.head?_eq_some_iff.mp head
    exact noStrip none rest shape
  have sequence : Sequence.scan depth c cs = (depth, Body.scan c cs) := by
    simp only [Sequence.scan, if_neg opens, if_neg closes, if_neg strips]
  -- no other lexeme of a body is a brace
  have stays : (Body.scan c cs).kind.braceDepth depth = depth := by
    have outcome : Outcome (c :: cs) (.interpolation 0) (.interpolation 0) (Body.scan c cs) :=
      .of_body rfl c cs fun _ => ⟨opens, closes⟩
    generalize Body.scan c cs = scan at outcome
    cases outcome with
    | neutral _ _ neutral =>
      rename_i kind lexeme _
      cases kind <;> first | rfl | cases neutral
    | _ => rfl
  rw [Mode.scan, sequence, stays]

theorem Mode.scans_interpolation_open {tail : Text} (noStrip : tail.head? ≠ some '~') :
    Mode.Scans .quotedTemplate .quotedTemplate
      { kind := .templateInterp, lexeme := ['$', '{'], move := .enter (.interpolation 0) }
      tail := by
  have opens : sequenceOpen? ('$' :: '{' :: tail) = some
      { kind := .templateInterp, lexeme := ['$', '{'], move := .enter (.interpolation 0) } := by
    rw [sequenceOpen?, stripMarker_eq, if_neg noStrip]
  refine ⟨'$', '{' :: tail, rfl, ?_⟩
  rw [Mode.scan, string_scan_eq (by decide), opens]
  rfl

namespace ModeStack

/-- The modes of a body above those of a sequence: what is open in the body lies on the sequence,
which counts the braces in place of the body's base. -/
def inSequence (modes : ModeStack) (place : Location → Location) (below : ModeStack)
    (openedAt : Location) (depth : Nat) : ModeStack :=
  { below with frames := modes.frames.map (·.relocate place) ++
      ⟨.interpolation depth, openedAt⟩ :: below.frames }

variable {place : Location → Location} {below modes : ModeStack} {openedAt : Location} {depth : Nat}

theorem current_inSequence (notBalanced : ¬ modes.isBalanced) :
    (modes.inSequence place below openedAt depth).current = modes.current := by
  obtain ⟨base, frames⟩ := modes
  cases frames with
  | nil => exact absurd rfl notBalanced
  | cons => rfl

theorem current_inSequence_of_isBalanced (isBalanced : modes.isBalanced) :
    (modes.inSequence place below openedAt depth).current = .interpolation depth := by
  rw [ModeStack.isBalanced, List.isEmpty_iff] at isBalanced
  rw [inSequence, isBalanced]
  rfl

theorem step_inSequence (notBalanced : ¬ modes.isBalanced) (mode : Mode) (here : Location)
    (move : Move) :
    ((modes.inSequence place below openedAt depth).setCurrent mode).follow (place here) move =
      ((modes.setCurrent mode).follow here move).inSequence place below openedAt depth := by
  obtain ⟨base, frames⟩ := modes
  cases frames with
  | nil => exact absurd rfl notBalanced
  | cons => cases move <;> rfl

theorem step_inSequence_of_isBalanced (isBalanced : modes.isBalanced) {mode : Mode}
    (depth' : Nat) (here : Location) {move : Move} (stays : move ≠ .leave) :
    ((modes.inSequence place below openedAt depth).setCurrent (.interpolation depth')).follow
        (place here) move =
      ((modes.setCurrent mode).follow here move).inSequence place below openedAt depth' := by
  obtain ⟨base, frames⟩ := modes
  rw [ModeStack.isBalanced, List.isEmpty_iff] at isBalanced
  dsimp only at isBalanced
  subst isBalanced
  cases move with
  | leave => exact absurd rfl stays
  | _ => rfl

end ModeStack

namespace Lexer

/-- The kinds of the tokens that the next `n` calls read right in the base mode. -/
def baseKinds (lexer : Lexer) : Nat → List TokenKind
  | 0 => []
  | n + 1 =>
    if lexer.modes.isBalanced then lexer.pull.1.kind :: lexer.pull.2.baseKinds n
    else lexer.pull.2.baseKinds n

/-- With `depth` braces open, the calls to come close none in the base mode that is not open. -/
def NestsBraces (lexer : Lexer) (depth : Nat) : Prop :=
  ∀ n, (lexer.baseKinds n).count .closeBrace ≤ depth + (lexer.baseKinds n).count .openBrace

/-- What is ahead of a lexer is ahead of the other one in a sequence with `depth` open braces, with
more text behind. -/
structure InSequence (lexer other : Lexer) (place : Location → Location) (below : ModeStack)
    (openedAt : Location) (more : Text) (depth : Nat) : Prop where
  rest : other.cursor.rest = lexer.cursor.rest ++ more
  location : other.cursor.location = place lexer.cursor.location
  modes : other.modes = lexer.modes.inSequence place below openedAt depth

variable {t more : Text} {lexer other : Lexer} {shift depth : Nat} {below : ModeStack}
  {openedAt : Location}

theorem NestsBraces.pull (nests : lexer.NestsBraces depth) :
    (lexer.modes.isBalanced → lexer.pull.1.kind = .closeBrace → 0 < depth) ∧
      lexer.pull.2.NestsBraces
        (if lexer.modes.isBalanced then lexer.pull.1.kind.braceDepth depth else depth) := by
  by_cases isBalanced : lexer.modes.isBalanced
  · have kinds (n : Nat) : lexer.baseKinds (n + 1) =
        lexer.pull.1.kind :: lexer.pull.2.baseKinds n := if_pos isBalanced
    have opens : 0 < depth ∨ lexer.pull.1.kind ≠ .closeBrace := by
      by_contra neither
      rw [not_or, not_not] at neither
      have one := nests 1
      rw [kinds, neither.2] at one
      simp [baseKinds] at one
      omega
    have nested (close : lexer.pull.1.kind = .closeBrace) : 0 < depth :=
      opens.resolve_right (not_not.mpr close)
    refine ⟨fun _ => nested, fun n => ?_⟩
    rw [if_pos isBalanced]
    have bound := nests (n + 1)
    have count := TokenKind.braceDepth_add_count nested (lexer.pull.2.baseKinds n)
    rw [kinds] at bound
    omega
  · refine ⟨fun balanced => absurd balanced isBalanced, fun n => ?_⟩
    have bound := nests (n + 1)
    rw [baseKinds, if_neg isBalanced] at bound
    rwa [if_neg isBalanced]

theorem Reads.current_of_isBalanced (reads : Reads t lexer) (isBalanced : lexer.modes.isBalanced) :
    lexer.modes.current = .structural := by
  rw [ModeStack.isBalanced, List.isEmpty_iff] at isBalanced
  rw [ModeStack.current, isBalanced]
  exact reads.base

theorem IsSettled.ne_nil (settled : lexer.IsSettled) : lexer.cursor.rest ≠ [] := by
  intro ended
  rw [IsSettled, pull_of_ended ended, ended] at settled
  rcases settled with newline | feed
  · cases newline
  · cases feed

theorem Reads.not_strips (reads : Reads t lexer) (settled : lexer.IsSettled)
    (nests : lexer.NestsBraces 0) (isBalanced : lexer.modes.isBalanced) (rest : Text) :
    lexer.cursor.rest ++ more ≠ '~' :: '}' :: rest := by
  intro shape
  obtain ⟨c, cs, ahead⟩ := List.exists_cons_of_ne_nil settled.ne_nil
  rw [ahead, List.cons_append] at shape
  obtain ⟨rfl, next⟩ := List.cons_eq_cons.mp shape
  have current := reads.current_of_isBalanced isBalanced
  have tilde : lexer.pull = (_, lexer.behind .structural (Body.unrecognized '~') cs) :=
    pull_of_scans ⟨'~', cs, rfl, by rw [current]; rfl⟩ ahead
  rw [IsSettled, tilde] at settled
  have faulty : (Body.unrecognized '~').kind ≠ .newline := by decide
  obtain ⟨d, ds, rfl⟩ := List.exists_cons_of_ne_nil
    (List.ne_nil_of_mem (settled.resolve_left faulty))
  rw [List.cons_append] at next
  obtain ⟨rfl, -⟩ := List.cons_eq_cons.mp next
  -- the closing brace is read next, still in the base mode
  have nests := nests.pull.2
  rw [if_pos isBalanced, tilde] at nests
  have stack : (lexer.behind .structural (Body.unrecognized '~') ('}' :: ds)).modes = lexer.modes :=
    ModeStack.setCurrent_current current
  have close : (lexer.behind .structural (Body.unrecognized '~') ('}' :: ds)).pull =
      (_, Lexer.behind _ .structural { kind := .closeBrace, lexeme := ['}'] } ds) :=
    pull_of_scans ⟨'}', ds, rfl, by rw [stack, current]; rfl⟩ rfl
  have positive := nests.pull.1 (by rw [stack]; exact isBalanced) (by rw [close])
  exact Nat.lt_irrefl 0 positive

/-- What a call reads is scanned in the sequence too, and the modes go on as in it. -/
theorem Reads.scans_inSequence (reads : Reads t lexer) (settled : lexer.IsSettled)
    (nests : lexer.NestsBraces depth) {place : Location → Location}
    (inside : lexer.InSequence other place below openedAt more depth)
    {mode : Mode} {scan : Scan} {tail : Text} (scans : lexer.modes.current.Scans mode scan tail)
    (split : lexer.cursor.rest = scan.lexeme ++ tail) :
    ∃ mode', other.modes.current.Scans mode' scan (tail ++ more) ∧
      (other.modes.setCurrent mode').follow (place lexer.cursor.location) scan.move =
        (lexer.behind mode scan tail).modes.inSequence place below openedAt
          (if lexer.modes.isBalanced then scan.kind.braceDepth depth else depth) := by
  have pulled := pull_of_scans scans split
  have settled' := settled
  rw [IsSettled, pulled] at settled'
  have scansMore := scans.append reads.named.current settled' more
  rw [inside.modes]
  by_cases isBalanced : lexer.modes.isBalanced
  · have outcome := outcome_of_scans scans
    rw [reads.current_of_isBalanced isBalanced] at scansMore outcome
    have stays : scan.move ≠ .leave := by
      intro leaves
      cases outcome <;> cases leaves
    have nested : scan.kind = .closeBrace → 0 < depth := by
      have closes := nests.pull.1 isBalanced
      rwa [pulled] at closes
    have noStrip (none : depth = 0) (rest : Text) :
        scan.lexeme ++ (tail ++ more) ≠ '~' :: '}' :: rest := by
      rw [← List.append_assoc, ← split]
      exact reads.not_strips settled (none ▸ nests) isBalanced rest
    rw [ModeStack.current_inSequence_of_isBalanced isBalanced, if_pos isBalanced]
    exact ⟨_, scansMore.sequence_of_structural nested noStrip,
      ModeStack.step_inSequence_of_isBalanced isBalanced _ _ stays⟩
  · rw [ModeStack.current_inSequence isBalanced, if_neg isBalanced]
    exact ⟨mode, scansMore, ModeStack.step_inSequence isBalanced mode _ _⟩

theorem Reads.pull_inSequence (reads : Reads t lexer)
    (settled : lexer.IsSettled) (nests : lexer.NestsBraces depth)
    (inside : lexer.InSequence other (Location.shift shift) below openedAt more depth) :
    other.pull.1 = lexer.pull.1.relocate (Location.shift shift) ∧
      lexer.pull.2.InSequence other.pull.2 (Location.shift shift) below openedAt more
        (if lexer.modes.isBalanced then lexer.pull.1.kind.braceDepth depth else depth) := by
  obtain ⟨mode, scan, tail, scans, split, nonempty⟩ := reads.exists_scans settled.ne_nil
  obtain ⟨mode', scansInside, modes⟩ := reads.scans_inSequence settled nests inside scans split
  have splitInside : other.cursor.rest = scan.lexeme ++ (tail ++ more) := by
    rw [inside.rest, split, List.append_assoc]
  have moved := Location.shift_advanceOver reads.line_pos shift scan.lexeme
  have running : ¬ scan.kind.isEof := (outcome_of_scans scans).not_isEof
  rw [pull_of_scans scansInside splitInside, pull_of_scans scans split]
  refine ⟨?_, rfl, ?_, ?_⟩
  · simp only [Token.relocate, TokenKind.relocate_of_not_isEof _ running, inside.location, moved]
  · simp only [Lexer.behind, inside.location, moved]
  · rw [← modes, Lexer.behind, inside.location]

theorem Reads.skip_inSequence (reads : Reads t lexer) {n : Nat}
    (settled : ∀ m < n, (lexer.skip m).IsSettled) (nests : lexer.NestsBraces depth)
    (inside : lexer.InSequence other (Location.shift shift) below openedAt more depth) :
    other.pulls n = (lexer.pulls n).map (·.relocate (Location.shift shift)) ∧
      ∃ depth', depth' + (lexer.baseKinds n).count .closeBrace =
          depth + (lexer.baseKinds n).count .openBrace ∧
        (lexer.skip n).InSequence (other.skip n) (Location.shift shift) below openedAt more
          depth' := by
  induction n generalizing lexer other depth with
  | zero => exact ⟨rfl, depth, rfl, inside⟩
  | succ n ih =>
    have first := settled 0 (Nat.succ_pos n)
    obtain ⟨token, next⟩ := reads.pull_inSequence first nests inside
    obtain ⟨tokens, depth', count, last⟩ := ih reads.pull
      (fun m less => settled (m + 1) (Nat.succ_lt_succ less)) nests.pull.2 next
    refine ⟨?_, depth', ?_, last⟩
    · rw [pulls, pulls, List.map_cons, token, tokens]
    · have nested := nests.pull.1
      rw [baseKinds]
      by_cases isBalanced : lexer.modes.isBalanced
      · have here := TokenKind.braceDepth_add_count (nested isBalanced) (lexer.pull.2.baseKinds n)
        rw [if_pos isBalanced] at count ⊢
        omega
      · rwa [if_neg isBalanced] at count ⊢

theorem baseKinds_add (lexer : Lexer) (m n : Nat) :
    lexer.baseKinds (m + n) = lexer.baseKinds m ++ (lexer.skip m).baseKinds n := by
  induction m generalizing lexer with
  | zero => rw [Nat.zero_add, baseKinds, skip, List.nil_append]
  | succ m ih =>
    rw [Nat.succ_add, baseKinds, baseKinds, ih, skip]
    split <;> rfl

theorem count_baseKinds_of_ended (ended : lexer.cursor.rest = []) {kind : TokenKind}
    (other : ¬ kind.isEof) (n : Nat) : (lexer.baseKinds n).count kind = 0 := by
  induction n with
  | zero => rfl
  | succ n ih =>
    have different : lexer.endToken.kind ≠ kind := by
      rintro rfl
      exact other rfl
    rw [baseKinds, pull_of_ended ended]
    split
    · rw [List.count_cons_of_ne different, ih]
    · exact ih

theorem nestsBraces_of_endsAt {n : Nat} (ended : lexer.EndsAt n)
    (nests : ∀ m ≤ n, (lexer.baseKinds m).count .closeBrace ≤
      (lexer.baseKinds m).count .openBrace) : lexer.NestsBraces 0 := by
  intro m
  rw [Nat.zero_add]
  by_cases before : m ≤ n
  · exact nests m before
  · obtain ⟨k, rfl⟩ : ∃ k, m = n + k := ⟨m - n, by omega⟩
    rw [baseKinds_add, List.count_append, List.count_append,
      count_baseKinds_of_ended ended (by decide), count_baseKinds_of_ended ended (by decide)]
    exact nests n (Nat.le_refl n)

def openedSequence (t : Text) : Lexer :=
  ⟨⟨['{', '$', '"'], t, ⟨3, 1, 4⟩⟩,
    ⟨.structural, [⟨.interpolation 0, ⟨1, 1, 2⟩⟩, ⟨.quotedTemplate, ⟨0, 1, 1⟩⟩]⟩, false⟩

theorem inSequence_openedSequence {e : Text} (input : Text.withoutMark e = e) :
    (ofText e).InSequence (openedSequence (e ++ ['}', '"'])) (Location.shift 3)
      ⟨.structural, [⟨.quotedTemplate, ⟨0, 1, 1⟩⟩]⟩ ⟨1, 1, 2⟩ ['}', '"'] 0 := by
  refine ⟨?_, rfl, rfl⟩
  rw [ofText, Cursor.ofText, input]
  rfl

theorem drains_openedSequence {t : Text} (noStrip : t.head? ≠ some '~') {tokens : List Token}
    (others : (openedSequence t).Drains tokens) :
    (ofText (['"', '$', '{'] ++ t)).Drains
      (⟨.openQuote, ['"'], ⟨0, 1, 1⟩, ⟨1, 1, 2⟩⟩ ::
        ⟨.templateInterp, ['$', '{'], ⟨1, 1, 2⟩, ⟨3, 1, 4⟩⟩ :: tokens) := by
  have sequence := Drains.of_scans ((ofText (['"', '$', '{'] ++ t)).behind .structural
      { kind := .openQuote, lexeme := ['"'], move := .enter .quotedTemplate } ('$' :: '{' :: t))
    (Mode.scans_interpolation_open noStrip) rfl (by simp) others
  exact Drains.of_scans (ofText (['"', '$', '{'] ++ t))
    (Mode.scans_openQuote rfl ('$' :: '{' :: t)) rfl (by simp) sequence

theorem drains_sequenceEnd {lexer : Lexer} {sequence string : Location}
    (ahead : lexer.cursor.rest = ['}', '"'])
    (modes : lexer.modes =
      ⟨.structural, [⟨.interpolation 0, sequence⟩, ⟨.quotedTemplate, string⟩]⟩) :
    let here := lexer.cursor.location
    lexer.Drains [
      ⟨.templateSeqEnd, ['}'], here, here.advance '}'⟩,
      ⟨.closeQuote, ['"'], here.advance '}', (here.advance '}').advance '"'⟩,
      ⟨.eof [], [], (here.advance '}').advance '"', (here.advance '}').advance '"'⟩] := by
  obtain ⟨⟨consumed, rest, here⟩, stack, done⟩ := lexer
  dsimp only at ahead modes
  subst ahead modes
  have ended : Drains ⟨⟨['"', '}'] ++ consumed, [], (here.advance '}').advance '"'⟩,
      ⟨.structural, []⟩, done⟩ _ := .ended rfl
  have close := Drains.of_scans
    ⟨⟨'}' :: consumed, ['"'], here.advance '}'⟩, ⟨.structural, [⟨.quotedTemplate, string⟩]⟩, done⟩
    (Mode.scans_closeQuote []) rfl (by simp) ended
  exact Drains.of_scans
    ⟨⟨consumed, ['}', '"'], here⟩,
      ⟨.structural, [⟨.interpolation 0, sequence⟩, ⟨.quotedTemplate, string⟩]⟩, done⟩
    (Mode.scans_sequenceEnd ['"']) rfl (by simp) close

theorem Reads.location_of_ended (reads : Reads t lexer) (ended : lexer.cursor.rest = []) :
    lexer.cursor.location = Location.start.advanceOver (Text.withoutMark t) := by
  have all := reads.input
  rw [Cursor.input, ended, List.append_nil] at all
  rw [reads.location, all]

theorem frames_eq_nil_of_eof {e : Text} (closed : ∃ token ∈ tokenize e, token.kind = .eof [])
    (whole : tokenize e = tokensBeforeEnd e ++ [lexer.endToken]) : lexer.modes.frames = [] := by
  obtain ⟨token, member, kind⟩ := closed
  rw [whole, List.mem_append, List.mem_singleton] at member
  rcases member with before | rfl
  · rw [tokensBeforeEnd, List.mem_filter, Token.isEof, kind] at before
    cases before.2
  · have none : lexer.modes.unclosed = [] := TokenKind.eof.inj kind
    simpa [ModeStack.unclosed] using none

/-- A text whose braces nest is read inside of a sequence as it is read alone. -/
theorem tokenize_sequence (e : Text) (noStrip : e.head? ≠ some '~')
    (noMark : e.head? ≠ some Text.byteOrderMark) {last : Token}
    (ends : (tokensBeforeEnd e).getLast? = some last) (newline : last.kind = .newline)
    (closed : ∃ token ∈ tokenize e, token.kind = .eof [])
    (nests : ∀ n ≤ (tokensBeforeEnd e).length, ((ofText e).baseKinds n).count .closeBrace ≤
      ((ofText e).baseKinds n).count .openBrace)
    (matched : ((ofText e).baseKinds (tokensBeforeEnd e).length).count .closeBrace =
      ((ofText e).baseKinds (tokensBeforeEnd e).length).count .openBrace) :
    let here := Location.advanceOver ⟨3, 1, 4⟩ e
    tokenize (['"', '$', '{'] ++ e ++ ['}', '"']) =
      [⟨.openQuote, ['"'], ⟨0, 1, 1⟩, ⟨1, 1, 2⟩⟩,
        ⟨.templateInterp, ['$', '{'], ⟨1, 1, 2⟩, ⟨3, 1, 4⟩⟩] ++
      (tokensBeforeEnd e).map (·.relocate (Location.shift 3)) ++
      [⟨.templateSeqEnd, ['}'], here, here.advance '}'⟩,
        ⟨.closeQuote, ['"'], here.advance '}', (here.advance '}').advance '"'⟩,
        ⟨.eof [], [], (here.advance '}').advance '"', (here.advance '}').advance '"'⟩] := by
  intro here
  have reads := reads_ofText e
  obtain ⟨nonempty, n, ended, -, settled, before, whole, -⟩ := exists_settled e ends newline
  rw [← before, length_pulls] at nests matched
  rw [← before]
  have input : Text.withoutMark e = e := Text.withoutMark_eq noMark
  -- the calls on `e` alone are followed in the sequence, up to the end of `e`
  have run {m : Nat} (le : m ≤ n) := reads.skip_inSequence
    (fun k less => settled k (Nat.lt_of_lt_of_le less le)) (nestsBraces_of_endsAt ended nests)
    (inSequence_openedSequence input)
  obtain ⟨tokens, depth, count, final⟩ := run (Nat.le_refl n)
  have ahead : ∀ m < n, ¬ (openedSequence (e ++ ['}', '"'])).EndsAt m := by
    intro m less ended
    obtain ⟨-, depth, -, inside⟩ := run (Nat.le_of_lt less)
    rw [EndsAt, inside.rest] at ended
    exact absurd ended (by simp)
  have location : ((openedSequence (e ++ ['}', '"'])).skip n).cursor.location = here := by
    rw [final.location, (reads.skip n).location_of_ended ended, input,
      Location.shift_advanceOver Nat.one_pos]
    rfl
  have modes : ((openedSequence (e ++ ['}', '"'])).skip n).modes =
      ⟨.structural, [⟨.interpolation 0, ⟨1, 1, 2⟩⟩, ⟨.quotedTemplate, ⟨0, 1, 1⟩⟩]⟩ := by
    -- all braces of `e` are matched, so that the sequence has none of its own open
    have closedDepth : depth = 0 := by omega
    rw [final.modes, ModeStack.inSequence, frames_eq_nil_of_eof closed whole, closedDepth]
    rfl
  have last := drains_sequenceEnd (by rw [final.rest, ended]; rfl) modes
  rw [location] at last
  have sequence := Drains.of_skip ahead last
  rw [tokens] at sequence
  have noStrip : (e ++ ['}', '"']).head? ≠ some '~' := by
    cases e with
    | nil => exact absurd rfl nonempty
    | cons => exact noStrip
  have whole := drains_openedSequence noStrip sequence
  exact (drains_tokenize _).eq (by simpa using whole)

def objectExpression : Text :=
  ['{', 'a', '=', '"', '$', '{', 'b', '}', '"', '\n', '}', '\n']

theorem tokenize_objectSequence :
    tokenize (['"', '$', '{'] ++ objectExpression ++ ['}', '"']) =
      [⟨.openQuote, ['"'], ⟨0, 1, 1⟩, ⟨1, 1, 2⟩⟩,
        ⟨.templateInterp, ['$', '{'], ⟨1, 1, 2⟩, ⟨3, 1, 4⟩⟩] ++
      (tokensBeforeEnd objectExpression).map (·.relocate (Location.shift 3)) ++
      [⟨.templateSeqEnd, ['}'], ⟨15, 3, 1⟩, ⟨16, 3, 2⟩⟩,
        ⟨.closeQuote, ['"'], ⟨16, 3, 2⟩, ⟨17, 3, 3⟩⟩,
        ⟨.eof [], [], ⟨17, 3, 3⟩, ⟨17, 3, 3⟩⟩] := by
  have count : (tokensBeforeEnd objectExpression).length = 11 := by decide
  have last : (tokensBeforeEnd objectExpression).getLast? =
      some ⟨.newline, ['\n'], ⟨11, 2, 2⟩, ⟨12, 3, 1⟩⟩ := by decide
  exact tokenize_sequence objectExpression (by decide) (by decide) last rfl (by decide)
    (by rw [count]; decide) (by decide)

end Lexer

end HclLexis
