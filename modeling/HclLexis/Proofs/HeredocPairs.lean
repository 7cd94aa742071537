import HclLexis.Proofs.Calls

/-! Openers and closing lines of heredocs in pairs. Walking a token list, each opener is put on a
stack and each closing line takes the top away. The heredocs on the mode stack are those of the
openers on that stack, in the same order, so a closing line belongs to the opener on top. -/

namespace HclLexis

/-- The places of the heredoc openers that are not closed yet, the innermost first, behind the token
at place `n` if these are the places in front of it. -/
def TokenKind.stackHeredocs (kind : TokenKind) (n : Nat) (places : List Nat) : List Nat :=
  match kind with
  | .heredocOpen _ => n :: places
  | .heredocClose _ => places.tail
  | _ => places

def openHeredocs (tokens : List Token) : Nat → List Nat
  | 0 => []
  | n + 1 => match tokens[n]? with
    | some token => token.kind.stackHeredocs n (openHeredocs tokens n)
    | none => openHeredocs tokens n

/-- The place of the opener that a closing line at place `n` belongs to: the latest that is not
closed yet. -/
def heredocOpener? (tokens : List Token) (n : Nat) : Option Nat := (openHeredocs tokens n).head?

theorem openHeredocs_succ {tokens : List Token} {n : Nat} {token : Token}
    (found : tokens[n]? = some token) :
    openHeredocs tokens (n + 1) = token.kind.stackHeredocs n (openHeredocs tokens n) := by
  rw [openHeredocs, found]

theorem mem_openHeredocs_succ {tokens : List Token} {i n : Nat}
    (member : i ∈ openHeredocs tokens (n + 1)) : i = n ∨ i ∈ openHeredocs tokens n := by
  rw [openHeredocs] at member
  split at member
  · unfold TokenKind.stackHeredocs at member
    split at member
    · exact List.mem_cons.mp member
    · exact .inr (List.mem_of_mem_tail member)
    · exact .inr member
  · exact .inr member

theorem lt_of_mem_openHeredocs {tokens : List Token} {i n : Nat}
    (member : i ∈ openHeredocs tokens n) : i < n := by
  induction n with
  | zero => cases member
  | succ n ih =>
    rcases mem_openHeredocs_succ member with rfl | member
    · exact Nat.lt_succ_self i
    · exact Nat.lt_succ_of_lt (ih member)

theorem mem_openHeredocs_of_le {tokens : List Token} {i m n : Nat}
    (member : i ∈ openHeredocs tokens n) (less : i < m) (le : m ≤ n) :
    i ∈ openHeredocs tokens m := by
  induction le with
  | refl => exact member
  | @step n le ih =>
    rcases mem_openHeredocs_succ member with rfl | member
    · exact absurd (Nat.lt_of_lt_of_le less le) (Nat.lt_irrefl i)
    · exact ih member

theorem Outcome.heredoc_of_heredocClose {t : Text} {mode mode' : Mode} {scan : Scan}
    (outcome : Outcome t mode mode' scan) {minIndent : Option Nat}
    (closer : scan.kind = .heredocClose minIndent) :
    ∃ heredoc, mode = .heredocTemplate heredoc := by
  cases outcome with
  | heredocClose => exact ⟨_, rfl⟩
  | neutral _ _ neutral => cases closer; cases neutral
  | stringText _ neutral => cases closer; cases neutral
  | bodyBrace _ brace => cases closer; cases brace
  | stringSequence _ opens => cases closer; cases opens
  | heredocSequence _ _ opens => cases closer; cases opens
  | _ => cases closer

namespace Lexer

variable {t : Text} {lexer next : Lexer} {token : Token} {i n : Nat} {places : List Nat}
  {tokens : List Token}

theorem Turn.of_heredocClose (turn : Turn lexer token next) (reads : Reads t lexer)
    {minIndent : Option Nat} (closer : token.kind = .heredocClose minIndent) :
    ∃ heredoc openedAt below, lexer.modes.frames = ⟨.heredocTemplate heredoc, openedAt⟩ :: below ∧
      ReadsClosingLine lexer next token heredoc below := by
  have inHeredoc : ∃ heredoc, lexer.modes.current = .heredocTemplate heredoc := by
    cases turn with
    | atEnd => cases closer
    | scanned _ _ outcome => exact outcome.heredoc_of_heredocClose closer
  obtain ⟨heredoc, current⟩ := inHeredoc
  obtain ⟨openedAt, below, onTop⟩ := ModeStack.eq_cons_of_current reads.base current nofun
  have frames : lexer.modes.frames = ⟨.heredocTemplate heredoc, openedAt⟩ :: below := by
    rw [onTop]
  have ahead : lexer.cursor.rest ≠ [] := by
    intro ended
    cases turn with
    | atEnd => cases closer
    | scanned split nonempty => simp [ended, nonempty] at split
  refine ⟨heredoc, openedAt, below, frames, ?_⟩
  rcases turn.of_heredoc ahead frames with closing | ⟨_, _, stays⟩
  · exact closing
  · exact absurd closer (stays.kind minIndent)

/-- The heredocs among frames, the innermost first, are those that the tokens at the places open,
each on the frames that its opener found. Of a heredoc the frames tell its name and its form. -/
inductive OpenedBy (lexer : Lexer) : List Nat → List Frame → Prop
  | nil : OpenedBy lexer [] []
  | other {places : List Nat} {frame : Frame} {frames : List Frame}
      (other : frame.mode.kind ≠ .heredocTemplate) (outer : OpenedBy lexer places frames) :
      OpenedBy lexer places (frame :: frames)
  | heredoc {places : List Nat} {i : Nat} {terminator : Text} {stripIndent : Bool}
      (opener : (lexer.token i).kind = .heredocOpen stripIndent)
      (name : (lexer.token i).terminator? = some terminator)
      (outer : OpenedBy lexer places (lexer.skip i).modes.outline.frames) :
      OpenedBy lexer (i :: places) (⟨.heredocTemplate { terminator, stripIndent },
        (lexer.token i).start⟩ :: (lexer.skip i).modes.outline.frames)

theorem OpenedBy.recount {frames : List Frame} {depth : Nat} {openedAt : Location}
    (opened : lexer.OpenedBy places (⟨.interpolation depth, openedAt⟩ :: frames)) (depth' : Nat) :
    lexer.OpenedBy places (⟨.interpolation depth', openedAt⟩ :: frames) := by
  cases opened with
  | other _ outer => exact .other (by rintro ⟨⟩) outer

theorem OpenedBy.step {modes : ModeStack}
    (opened : lexer.OpenedBy places (lexer.skip n).modes.outline.frames)
    (replayed : (lexer.token n).replay? (lexer.skip n).modes.outline = some modes) :
    lexer.OpenedBy ((lexer.token n).kind.stackHeredocs n places) modes.frames := by
  generalize found : (lexer.skip n).modes.outline = before at opened replayed
  obtain ⟨base, frames⟩ := before
  cases kind : (lexer.token n).kind with
  | openQuote | templateInterp | templateControl =>
    simp only [Token.replay?, kind] at replayed
    cases replayed
    exact .other (by rintro ⟨⟩) opened
  | heredocOpen stripIndent =>
    simp only [Token.replay?, kind] at replayed
    obtain ⟨terminator, name, rfl⟩ := Option.map_eq_some_iff.mp replayed
    have outer : frames = (lexer.skip n).modes.outline.frames := by
      rw [found]
    subst outer
    exact .heredoc kind name opened
  | heredocClose =>
    simp only [Token.replay?, kind] at replayed
    rcases frames with _ | ⟨⟨_ | _ | _ | _, openedAt⟩, below⟩ <;> cases replayed
    cases opened with
    | other other => exact absurd rfl other
    | heredoc _ _ outer => exact outer
  | closeQuote | templateSeqEnd =>
    simp only [Token.replay?, kind] at replayed
    rcases frames with _ | ⟨⟨_ | _ | _ | _, openedAt⟩, below⟩ <;> cases replayed
    cases opened with
    | other _ outer => exact outer
  | openBrace =>
    simp only [Token.replay?, kind] at replayed
    rcases frames with _ | ⟨⟨_ | _ | _ | depth, openedAt⟩, below⟩ <;> cases replayed
    case openBrace.cons.interpolation.refl => exact opened.recount _
    all_goals exact opened
  | closeBrace =>
    simp only [Token.replay?, kind] at replayed
    rcases frames with _ | ⟨⟨_ | _ | _ | _ | depth, openedAt⟩, below⟩ <;> cases replayed
    case closeBrace.cons.interpolation.succ.refl => exact opened.recount _
    all_goals exact opened
  | _ =>
    simp only [Token.replay?, kind] at replayed
    cases replayed
    exact opened

/-- The heredocs on the mode stack are those whose openers the tokens leave open. -/
theorem openedBy_skip (t : Text) (read : ∀ m < n, tokens[m]? = some ((ofText t).token m)) :
    (ofText t).OpenedBy (openHeredocs tokens n) ((ofText t).skip n).modes.outline.frames := by
  induction n with
  | zero => exact .nil
  | succ n ih =>
    have replayed := ((reads_ofText t).turn_token n).replay? ((reads_ofText t).skip n)
    rw [openHeredocs_succ (read n (Nat.lt_succ_self n))]
    exact (ih fun m less => read m (Nat.lt_succ_of_lt less)).step replayed

theorem OpenedBy.of_heredoc {frames : List Frame} {heredoc : Heredoc} {openedAt : Location}
    (opened : lexer.OpenedBy places (⟨.heredocTemplate heredoc, openedAt⟩ :: frames)) :
    ∃ i outer, places = i :: outer ∧ (lexer.token i).kind = .heredocOpen heredoc.stripIndent ∧
      (lexer.token i).terminator? = some heredoc.terminator ∧
      frames = (lexer.skip i).modes.outline.frames := by
  cases opened with
  | other other => exact absurd rfl other
  | heredoc opener name => exact ⟨_, _, rfl, opener, name, rfl⟩

theorem OpenedBy.of_mem {frames : List Frame} (opened : lexer.OpenedBy places frames)
    (member : i ∈ places) :
    (∃ stripIndent, (lexer.token i).kind = .heredocOpen stripIndent) ∧
      (lexer.skip i).modes.frames.length < frames.length := by
  induction opened with
  | nil => cases member
  | other _ _ ih =>
    obtain ⟨opener, deeper⟩ := ih member
    exact ⟨opener, Nat.lt_succ_of_lt deeper⟩
  | @heredoc places j terminator stripIndent opener _ _ ih =>
    have size : (lexer.skip j).modes.outline.frames.length =
        (lexer.skip j).modes.frames.length := List.length_map _
    rcases List.mem_cons.mp member with rfl | member
    · refine ⟨⟨stripIndent, opener⟩, ?_⟩
      rw [List.length_cons, size]
      exact Nat.lt_succ_self _
    · obtain ⟨opener, deeper⟩ := ih member
      exact ⟨opener, Nat.lt_succ_of_lt deeper⟩

theorem isOpen_of_mem (t : Text) (read : ∀ m < n, tokens[m]? = some ((ofText t).token m))
    (member : i ∈ openHeredocs tokens n) : (ofText t).IsOpen i n := by
  obtain ⟨⟨stripIndent, opener⟩, -⟩ := (openedBy_skip t read).of_mem member
  have opens := (reads_ofText t).opens opener
  refine ⟨lt_of_mem_openHeredocs member, fun m le less => ?_⟩
  have then' := openedBy_skip t fun k less => read k (Nat.lt_of_lt_of_le less le)
  obtain ⟨-, deeper⟩ := then'.of_mem (mem_openHeredocs_of_le member less le)
  rw [ModeStack.outline, List.length_map] at deeper
  rw [opens, ModeStack.depth, ModeStack.depth]
  omega

structure IsClosedBy (lexer : Lexer) (i n : Nat) (heredoc : Heredoc) : Prop where
  opener : (lexer.token i).kind = .heredocOpen heredoc.stripIndent
  name : (lexer.token i).terminator? = some heredoc.terminator
  isOpen : lexer.IsOpen i n
  holds : lexer.HoldsHeredoc i n heredoc.terminator heredoc.stripIndent [] heredoc
  closing : ReadsClosingLine (lexer.skip n) (lexer.skip (n + 1)) (lexer.token n) heredoc
    (lexer.skip i).modes.frames

theorem getElem?_pulls (lexer : Lexer) {m n : Nat} (less : m < n) :
    (lexer.pulls n)[m]? = some (lexer.token m) := by
  induction n with
  | zero => cases less
  | succ n ih =>
    have size := length_pulls lexer n
    rw [pulls_succ]
    by_cases last : m = n
    · rw [List.getElem?_append_right (by omega), size, last, Nat.sub_self]
      rfl
    · rw [List.getElem?_append_left (by omega)]
      exact ih (by omega)

theorem getElem?_tokenize {t : Text} {n : Nat} (within : n < (tokenize t).length) :
    (tokenize t)[n]? = some ((ofText t).token n) := by
  obtain ⟨last, -, -, -, drained⟩ := tokenize_eq_pulls t
  rw [tokenize, drained] at within ⊢
  rw [length_pulls] at within
  exact getElem?_pulls _ within

theorem exists_isClosedBy {t : Text} {n : Nat} {minIndent : Option Nat}
    (closer : (tokenize t)[n]?.map Token.kind = some (.heredocClose minIndent)) :
    ∃ i heredoc, heredocOpener? (tokenize t) n = some i ∧ i < n ∧ n < (tokenize t).length ∧
      (ofText t).IsClosedBy i n heredoc := by
  have reads := reads_ofText t
  obtain ⟨token, found, kind⟩ := Option.map_eq_some_iff.mp closer
  obtain ⟨within, -⟩ := List.getElem?_eq_some_iff.mp found
  have read : ∀ m < n, (tokenize t)[m]? = some ((ofText t).token m) := fun m less =>
    getElem?_tokenize (Nat.lt_trans less within)
  rw [getElem?_tokenize within, Option.some_inj] at found
  subst found
  obtain ⟨heredoc, openedAt, below, frames, closing⟩ :=
    (reads.turn_token n).of_heredocClose (reads.skip n) kind
  have opened := openedBy_skip t read
  rw [ModeStack.outline, frames] at opened
  obtain ⟨i, outer, places, opener, name, outline⟩ := opened.of_heredoc
  have member : i ∈ openHeredocs (tokenize t) n := by
    rw [places]
    exact List.mem_cons_self
  have isOpen := isOpen_of_mem t read member
  obtain ⟨above, heredoc', holds⟩ := exists_holdsHeredoc reads opener name isOpen
  have size : below.length = ((ofText t).skip i).modes.frames.length := by
    have size := congrArg List.length outline
    rwa [ModeStack.outline, List.length_map, List.length_map] at size
  have same : [] ++ _ :: below = _ := frames.symm.trans holds.frames
  obtain ⟨rfl, same⟩ := List.append_inj' same (congrArg (· + 1) size)
  obtain ⟨top, rfl⟩ := List.cons_eq_cons.mp same
  cases top
  refine ⟨i, heredoc, ?_, isOpen.1, within, opener, name, isOpen, holds, closing⟩
  rw [heredocOpener?, places, List.head?_cons]

end Lexer

end HclLexis
