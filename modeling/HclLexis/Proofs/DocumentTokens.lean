import HclLexis.Proofs.HeredocLines

/-! The text of a clean document falls into its pieces, however deep its items lie in each other.
Each construct is read from the modes it starts in to the same modes behind it, so that readings
can be joined along the tree. -/

namespace HclLexis.Document

open Lexeme

def startsItem (c : Char) : Bool := startsWord c || ['{', '"', '<'].contains c

theorem Item.exists_text_eq_cons (item : Item) :
    ∃ c cs, item.text = c :: cs ∧ startsItem c := by
  cases item with
  | identifier name =>
    obtain ⟨c, cs, same, start, -⟩ := name.isIdentifier
    exact ⟨c, cs, same, by simp [startsItem, startsWord, start]⟩
  | number numeral =>
    obtain ⟨d, ds, same, digit⟩ := numeral.exists_text_eq_cons
    exact ⟨d, ds, same, by simp [startsItem, startsWord, digit]⟩
  | group | string => exact ⟨_, _, rfl, rfl⟩
  | heredoc stripIndent => cases stripIndent <;> exact ⟨_, _, rfl, rfl⟩

def skippedSigns : Text := [' ', '\t', '\r', Text.byteOrderMark]

theorem ne_of_startsItem {c : Char} (starts : startsItem c) : ∀ d ∈ skippedSigns, c ≠ d := by
  have fail : skippedSigns.any startsItem = false := by decide +kernel
  exact Text.ne_of_any_eq_false fail starts

theorem startsBlank_itemsText (items : List Item) {tail : Text}
    (noBlank : startsBlank tail = false) : startsBlank (itemsText items ++ tail) = false := by
  cases items with
  | nil => exact noBlank
  | cons item items =>
    obtain ⟨c, cs, same, starts⟩ := item.exists_text_eq_cons
    have other := ne_of_startsItem starts
    simp only [skippedSigns, List.forall_mem_cons] at other
    simp [itemsText, same, startsBlank, Text.isIndent, other]

theorem withoutMark_itemsText (items : List Item) :
    Text.withoutMark (itemsText items) = itemsText items := by
  cases items with
  | nil => rfl
  | cons item items =>
    obtain ⟨c, cs, same, starts⟩ := item.exists_text_eq_cons
    have noMark := ne_of_startsItem starts Text.byteOrderMark (by decide)
    simp [itemsText, same, Text.withoutMark, noMark]

theorem endsText_partsText (closing : Char) {parts : List Part}
    (noPlain : parts.head?.any Part.isPlain = false) (tail : Text) :
    Mode.EndsText closing (partsText parts ++ closing :: tail) := by
  cases parts with
  | nil => exact .inl ⟨tail, rfl⟩
  | cons part parts =>
    cases part with
    | plain t => cases noPlain
    | sequence isControl items =>
      have shape : partsText (.sequence isControl items :: parts) ++ closing :: tail =
          sequenceMarker isControl ++
            ([' '] ++ itemsText items ++ ['}'] ++ partsText parts ++ closing :: tail) := by
        simp [partsText, Part.text]
      exact .inr ⟨isControl, _, shape⟩

mutual

theorem Item.splits (item : Item) (clean : item.isClean) {lexer : Lexer} {tail : Text}
    (reads : lexer.modes.current.readsExpressions)
    (ahead : lexer.cursor.rest = item.text ++ ' ' :: tail) :
    lexer.Splits item.pieces lexer.modes (' ' :: tail) := by
  cases item with
  | identifier name => exact Lexer.splits_stay (Mode.scans_identifier reads name tail) ahead
  | number numeral => exact Lexer.splits_stay (Mode.scans_number reads numeral tail) ahead
  | group items =>
    obtain ⟨inner, innerReads, opens, closes⟩ := Mode.exists_scans_braces reads
    have shape : lexer.cursor.rest = ['{'] ++ ' ' :: (itemsText items ++ '}' :: ' ' :: tail) := by
      simpa [Item.text] using ahead
    have insideReads : (lexer.modes.setCurrent inner).current.readsExpressions := by
      rwa [ModeStack.current_setCurrent]
    have opened : lexer.Splits [(.openBrace, ['{'])] (lexer.modes.setCurrent inner) _ :=
      Lexer.splits_scan (opens _) shape
    have spaced := opened.append_space insideReads (startsBlank_itemsText items rfl)
    have inside := spaced.append_kept fun next same rest =>
      splits_items items clean (by rwa [same]) rfl rest
    have closed : lexer.Splits (Item.group items).pieces
        ((lexer.modes.setCurrent inner).setCurrent lexer.modes.current) (' ' :: tail) :=
      inside.append_stay (by rw [ModeStack.current_setCurrent]; exact closes _) rfl
    rwa [ModeStack.setCurrent_setCurrent, ModeStack.setCurrent_current rfl] at closed
  | string parts =>
    have shape : lexer.cursor.rest = ['"'] ++ (partsText parts ++ '"' :: ' ' :: tail) := by
      simpa [Item.text] using ahead
    have opened := Lexer.splits_open (Mode.scans_openQuote reads _) shape
    have inside := opened.append_kept fun next same rest =>
      splits_parts parts clean (by rw [same]; exact .string) rest
    exact inside.append_leave (Mode.scans_closeQuote _) rfl
  | heredoc stripIndent terminator lines =>
    have shape : lexer.cursor.rest = heredocMarker stripIndent ++ terminator.text ++
        '\n' :: (linesText lines ++ (terminator.text ++ '\n' :: ' ' :: tail)) := by
      simpa [Item.text] using ahead
    have opened := Lexer.splits_open (Mode.scans_heredocOpen reads stripIndent terminator _) shape
    have started : lexer.Splits _ (lexer.modes.push (.heredocTemplate
        (bodyStart stripIndent terminator none)) lexer.cursor.location) _ :=
      opened.append_stay (insideLine_scans_lineBreak stripIndent terminator none _) rfl
    have inside := started.append fun next same rest => splits_lines lines clean same rest
    have closed := inside.append_leave (Mode.scans_heredocClose rfl rfl _) rfl
    have ended := closed.append_stay (Mode.scans_newline reads (' ' :: tail)) rfl
    rw [ModeStack.setCurrent_current rfl, List.append_assoc _ [_] [_]] at ended
    exact ended

theorem splits_items (items : List Item) (clean : itemsClean items) {lexer : Lexer} {tail : Text}
    (reads : lexer.modes.current.readsExpressions) (noBlank : startsBlank tail = false)
    (ahead : lexer.cursor.rest = itemsText items ++ tail) :
    lexer.Splits (itemsPieces items) lexer.modes tail := by
  cases items with
  | nil =>
    obtain rfl : lexer.cursor.rest = tail := ahead
    exact .nil lexer
  | cons item items =>
    simp only [itemsClean, Bool.and_eq_true] at clean
    have shape : lexer.cursor.rest = item.text ++ ' ' :: (itemsText items ++ tail) := by
      simpa [itemsText] using ahead
    have first := item.splits clean.1 reads shape
    have spaced := first.append_space reads (startsBlank_itemsText items noBlank)
    exact spaced.append_kept fun next same rest =>
      splits_items items clean.2 (by rwa [same]) noBlank rest

theorem Part.splits {isText : Char → Bool} {closing : Char} (part : Part)
    (clean : part.isClean isText) {lexer : Lexer} {tail : Text}
    (template : lexer.modes.current.IsTemplate isText closing)
    (ends : part.isPlain → Mode.EndsText closing tail)
    (ahead : lexer.cursor.rest = part.text ++ tail) :
    lexer.Splits part.pieces lexer.modes tail := by
  cases part with
  | plain t =>
    simp only [Part.isClean, Bool.and_eq_true, List.all_eq_true] at clean
    have nonempty : t ≠ [] := by simpa using clean.1
    exact Lexer.splits_stay (template.scans_text nonempty clean.2 (ends rfl)) ahead
  | sequence isControl items =>
    have shape : lexer.cursor.rest =
        sequenceMarker isControl ++ ' ' :: (itemsText items ++ '}' :: tail) := by
      simpa [Part.text] using ahead
    have opened := Lexer.splits_open (template.scans_sequenceOpen isControl _) shape
    have spaced := opened.append_space rfl (startsBlank_itemsText items rfl)
    have inside := spaced.append_kept fun next same rest =>
      splits_items items clean (by rw [same]; rfl) rfl rest
    exact inside.append_leave (Mode.scans_sequenceEnd _) rfl

theorem splits_parts {isText : Char → Bool} {closing : Char} (parts : List Part)
    (clean : partsClean isText parts) {lexer : Lexer} {tail : Text}
    (template : lexer.modes.current.IsTemplate isText closing)
    (ahead : lexer.cursor.rest = partsText parts ++ closing :: tail) :
    lexer.Splits (partsPieces parts) lexer.modes (closing :: tail) := by
  cases parts with
  | nil =>
    have same : lexer.cursor.rest = closing :: tail := ahead
    rw [← same]
    exact .nil lexer
  | cons part parts =>
    simp only [partsClean, Bool.and_eq_true, Bool.not_eq_true'] at clean
    obtain ⟨⟨partClean, apart⟩, clean⟩ := clean
    have ends : part.isPlain → Mode.EndsText closing (partsText parts ++ closing :: tail) := by
      intro isPlain
      rw [isPlain, Bool.true_and] at apart
      exact endsText_partsText closing apart tail
    have first := part.splits partClean template ends (by rw [ahead, partsText, List.append_assoc])
    exact first.append_kept fun next same rest =>
      splits_parts parts clean (by rwa [same]) rest

theorem splits_lines {stripIndent : Bool} {terminator : Name} (lines : List (List Part))
    (clean : linesClean stripIndent terminator lines) {lexer : Lexer} {below : ModeStack}
    {openedAt : Location} {minIndent : Option Nat} {tail : Text}
    (modes : lexer.modes =
      below.push (.heredocTemplate (bodyStart stripIndent terminator minIndent)) openedAt)
    (ahead : lexer.cursor.rest = linesText lines ++ tail) :
    lexer.Splits (linesPieces lines)
      (below.push (.heredocTemplate (bodyStart stripIndent terminator
        (minIndent.toList ++ lines.filterMap lineIndent?).min?)) openedAt) tail := by
  cases lines with
  | nil =>
    have same : lexer.cursor.rest = tail := ahead
    have kept : (minIndent.toList ++ List.filterMap lineIndent? []).min? = minIndent := by
      cases minIndent <;> rfl
    rw [kept, ← modes, ← same]
    exact .nil lexer
  | cons line lines =>
    simp only [linesClean, Bool.and_eq_true, Bool.not_eq_true'] at clean
    obtain ⟨⟨lineClean, other⟩, clean⟩ := clean
    have shape : lexer.cursor.rest = partsText line ++ '\n' :: (linesText lines ++ tail) := by
      simpa [linesText] using ahead
    -- the first call of the line also enters it, so the line is read as one that is entered
    obtain ⟨noted, note⟩ : ∃ noted, noted = (minIndent.toList ++ (lineIndent? line).toList).min? :=
      ⟨_, rfl⟩
    have inLine : Lexer.Splits { lexer with
        modes := below.push (.heredocTemplate (insideLine stripIndent terminator noted)) openedAt }
        (partsPieces line) _ _ :=
      splits_parts line lineClean (.heredocLine rfl) shape
    have broken : lexer.Splits (partsPieces line ++ [lineBreak])
        (below.push (.heredocTemplate (bodyStart stripIndent terminator noted)) openedAt)
        (linesText lines ++ tail) := by
      have same := pull_enterLine lineClean other note modes shape
      refine .of_pull_eq same (by simp [shape]) (by simp) ?_
      exact inLine.append_stay (insideLine_scans_lineBreak stripIndent terminator noted _) rfl
    have all := broken.append fun next same rest => splits_lines lines clean same rest
    have widths : List.filterMap lineIndent? (line :: lines) =
        (lineIndent? line).toList ++ lines.filterMap lineIndent? := by
      cases found : lineIndent? line <;> simp [found]
    rw [note, min?_toList_min?_append] at all
    rw [widths, ← List.append_assoc]
    exact all

end

/-- The tokens of the text of a clean document are its pieces and an end that leaves nothing
open. -/
theorem tokenize_itemsText (items : List Item) (clean : itemsClean items) :
    (tokenize (itemsText items)).map Token.piece = itemsPieces items ++ [(.eof [], [])] := by
  have ahead : (Lexer.ofText (itemsText items)).cursor.rest = itemsText items ++ [] := by
    rw [List.append_nil]
    exact withoutMark_itemsText items
  have splits := splits_items items clean rfl rfl ahead
  obtain ⟨n, before, pieces, modes, rest⟩ := splits.exists_skip
  obtain ⟨m, -, ends, first, drained⟩ := Lexer.tokenize_eq_pulls (itemsText items)
  -- the reading ends where the text first ends, and there the run of tokens ends too
  have same : m = n := by
    apply Nat.le_antisymm
    · exact Nat.le_of_not_lt fun less => first n less rest
    · exact Nat.le_of_not_lt fun less => before m less ends
  subst same
  have last : ((Lexer.ofText (itemsText items)).token m).piece = (.eof [], []) := by
    rw [Lexer.token, Lexer.pull_of_ended ends, Lexer.endToken, modes]
    rfl
  rw [tokenize, drained, Lexer.pulls_succ, List.map_append, pieces, List.map_singleton, last]

/-- A heredoc around a group, a string and, inside the string, a heredoc of the same name. -/
def nestedItems : List Item :=
  let name : Name := ⟨['E'], 'E', [], rfl, by decide, by simp⟩
  let digits : Digits := ⟨['1'], by decide, by simp⟩
  [.heredoc true name [
      [.plain [' ', ' ', '"'], .sequence false [
        .group [],
        .string [.plain ['b'], .sequence true [.heredoc false name []]]]],
      []],
    .number ⟨digits, some digits, some ⟨'e', ['+'], digits, by decide, by decide⟩⟩]

theorem tokenize_nestedItems :
    itemsText nestedItems =
        "<<-E\n  \"$\x7b \x7b \x7d \"b%\x7b <<E\nE\n \x7d\" \x7d\n\nE\n 1.1e+1 ".toList ∧
      (tokenize (itemsText nestedItems)).map Token.piece = [
        (.heredocOpen true, "<<-E".toList), lineBreak,
        (.templateLiteral, "  \"".toList), (.templateInterp, ['$', '{']), space,
        (.openBrace, ['{']), space, (.closeBrace, ['}']), space,
        (.openQuote, ['"']), (.templateLiteral, ['b']),
        (.templateControl, ['%', '{']), space,
        (.heredocOpen false, "<<E".toList), lineBreak,
        (.heredocClose none, ['E']), lineBreak, space,
        (.templateSeqEnd, ['}']), (.closeQuote, ['"']), space,
        (.templateSeqEnd, ['}']), lineBreak, lineBreak,
        (.heredocClose (some 2), ['E']), lineBreak, space,
        (.number, "1.1e+1".toList), space, (.eof [], [])] := by
  refine ⟨by decide, ?_⟩
  rw [tokenize_itemsText nestedItems (by decide)]
  decide

end HclLexis.Document
