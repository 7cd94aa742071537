import HclLexis.Listing
import HclLexis.Proofs.Quoting
import HclLexis.Proofs.StringUnits

/-! The listing of a file's tokens can be read back. It has a line for the path and one for each
token, and a reader that knows no kinds of tokens finds the text of a token behind the first double
quote of its line. So the listing holds the text of the file. -/

namespace HclLexis

namespace Text

def IsPlain (t : Text) : Prop := '"' ∉ t ∧ '\n' ∉ t

instance (t : Text) : Decidable (IsPlain t) := inferInstanceAs (Decidable (_ ∧ _))

variable {s t : Text}

@[simp] theorem isPlain_append : (s ++ t).IsPlain ↔ s.IsPlain ∧ t.IsPlain := by
  simp only [IsPlain, List.mem_append, not_or]
  exact and_and_and_comm

theorem isPlain_toString (n : Nat) : IsPlain (toString n).toList := by
  have digits {d : Char} (noDigit : d.isDigit = false) : d ∉ (toString n).toList := by
    intro member
    rw [Nat.toString_eq_repr, Nat.toList_repr] at member
    rw [Nat.isDigit_of_mem_toDigits (by decide) (by decide) member] at noDigit
    cases noDigit
  exact ⟨digits rfl, digits rfl⟩

theorem isPlain_intercalate {separator : String} (plain : IsPlain separator.toList)
    {items : List String} (each : ∀ item ∈ items, IsPlain item.toList) :
    IsPlain (separator.intercalate items).toList := by
  rw [String.toList_intercalate]
  induction items with
  | nil => exact ⟨List.not_mem_nil, List.not_mem_nil⟩
  | cons item items ih =>
    obtain ⟨first, others⟩ := List.forall_mem_cons.mp each
    cases items with
    | nil => simpa using first
    | cons next items =>
      rw [List.map_cons, List.map_cons, List.intercalate_cons_cons, isPlain_append, isPlain_append]
      exact ⟨⟨first, plain⟩, ih others⟩

theorem isPlain_quotedChar {c : Char} (other : c ≠ '"') :
    IsPlain (String.ofList (quotedChar c)).toList := by
  rw [String.toList_ofList, quotedChar]
  constructor
  · simp [quote_notMem_escape _ other]
  · simp [feed_notMem_escape]

theorem splitOn_flatMap_lines {lines : List Text} (inLine : ∀ line ∈ lines, '\n' ∉ line) :
    (lines.flatMap (· ++ ['\n'])).splitOn '\n' = lines ++ [[]] := by
  induction lines with
  | nil => rfl
  | cons line lines ih =>
    obtain ⟨first, others⟩ := List.forall_mem_cons.mp inLine
    rw [List.flatMap_cons, List.append_assoc, List.singleton_append, List.splitOn,
      List.splitOnP_append_cons _ _ (by decide), ← List.splitOn, ← List.splitOn, ih others,
      List.splitOn_eq_singleton first]
    rfl

end Text

theorem Token.withoutMarker?_append (marker t : Text) :
    withoutMarker? marker (marker ++ t) = some t := by
  have starts : marker.isPrefixOf (marker ++ t) :=
    List.isPrefixOf_iff_prefix.mpr (List.prefix_append marker t)
  rw [withoutMarker?, if_pos starts, List.drop_left]

namespace Lexeme

open Rules

variable (c : Char) (cs : Text)

theorem body_scan_recognizes_quote :
    (Body.scan c cs).kind ≠ .error (.unrecognizedCharacter '"') := by
  intro unrecognized
  rcases body_scan_error unrecognized with faulty | faulty | ⟨same, noQuote⟩
  · cases faulty
  · cases faulty
  · cases same
    exact noQuote rfl

theorem IsStop.recognizes_quote {t : Text} {scan : Scan} (isStop : IsStop t scan) :
    scan.kind ≠ .error (.unrecognizedCharacter '"') := by
  cases isStop with
  | sequence isControl => cases isControl <;> exact nofun
  | _ => exact nofun

theorem string_scan_recognizes_quote :
    (QuotedString.scan c cs).kind ≠ .error (.unrecognizedCharacter '"') := by
  cases found : QuotedString.unit? c cs with
  | some pending => simp [string_scan_of_unit? found, literal]
  | none => exact (string_scan_stops found).recognizes_quote

end Lexeme

open Lexeme

theorem Mode.Scans.recognizes_quote {mode mode' : Mode} {scan : Scan} {tail : Text}
    (scans : mode.Scans mode' scan tail) : scan.kind ≠ .error (.unrecognizedCharacter '"') := by
  intro unrecognized
  obtain ⟨c, cs, -, rfl | ⟨-, rfl⟩⟩ := scans.of_numberOrError (.inr ⟨_, unrecognized⟩)
  · exact body_scan_recognizes_quote c cs unrecognized
  · exact string_scan_recognizes_quote c cs unrecognized

namespace Listing

open Text

theorem isPlain_modeName (mode : ModeKind) : IsPlain mode.name.toList := by
  cases mode <;> decide

theorem isPlain_location (here : Location) : IsPlain (location here).toList := by
  unfold location
  simp only [String.toList_append, isPlain_append, and_assoc]
  exact ⟨by decide, isPlain_toString _, by decide, isPlain_toString _, by decide,
    isPlain_toString _, by decide⟩

theorem isPlain_construct (item : OpenConstruct) : IsPlain (construct item).toList := by
  unfold construct
  simp only [String.toList_append, isPlain_append, and_assoc]
  exact ⟨by decide, isPlain_modeName _, by decide, isPlain_location _, by decide⟩

theorem isPlain_optional (n : Option Nat) : IsPlain (optional n).toList := by
  cases n with
  | none => decide
  | some n =>
    simp only [optional, String.toList_append, isPlain_append, and_assoc]
    exact ⟨by decide, isPlain_toString n, by decide⟩

theorem isPlain_errorKind {kind : LexErrorKind} (noQuote : kind ≠ .unrecognizedCharacter '"') :
    IsPlain (errorKind kind).toList := by
  cases kind with
  | unrecognizedCharacter c =>
    have other : c ≠ '"' := fun same => noQuote (by rw [same])
    simp only [errorKind, LexErrorKind.name, String.toList_append, isPlain_append, and_assoc]
    exact ⟨by decide, by decide, isPlain_quotedChar other, by decide⟩
  | unterminated mode =>
    simp only [errorKind, LexErrorKind.name, String.toList_append, isPlain_append, and_assoc]
    exact ⟨by decide, by decide, isPlain_modeName mode, by decide⟩
  | _ => decide

theorem isPlain_kind {kind : TokenKind} (noQuote : kind ≠ .error (.unrecognizedCharacter '"')) :
    IsPlain (Listing.kind kind).toList := by
  cases kind with
  | eof unterminated =>
    have items : ∀ item ∈ unterminated.map construct, IsPlain item.toList := by
      intro item member
      obtain ⟨open', -, rfl⟩ := List.mem_map.mp member
      exact isPlain_construct open'
    simp only [Listing.kind, TokenKind.name, String.toList_append, isPlain_append, and_assoc]
    exact ⟨by decide, by decide, isPlain_intercalate (by decide) items, by decide⟩
  | heredocOpen stripIndent => cases stripIndent <;> decide
  | heredocClose minIndent =>
    simp only [Listing.kind, TokenKind.name, String.toList_append, isPlain_append, and_assoc]
    exact ⟨by decide, by decide, isPlain_optional minIndent, by decide⟩
  | error error =>
    have other : error ≠ .unrecognizedCharacter '"' := fun same => noQuote (by rw [same])
    simp only [Listing.kind, TokenKind.name, String.toList_append, isPlain_append, and_assoc]
    exact ⟨by decide, by decide, isPlain_errorKind other, by decide⟩
  | _ => decide

structure Entry where
  line : Nat
  column : Nat
  kind : Text
  text : Text
deriving DecidableEq

def Entry.ofToken (item : Token) : Entry :=
  ⟨item.start.line, item.start.column, (Listing.kind item.kind).toList, item.text⟩

def readNumber (t : Text) : Nat × Text :=
  (Nat.ofDigitChars 10 (t.takeWhile Char.isDigit) 0, t.dropWhile Char.isDigit)

/-- Reads a line of a listing. The kind is what is in front of the first double quote, less a
space. -/
def readLine? (line : Text) : Option Entry := do
  let behind ← Token.withoutMarker? [' ', ' '] line
  let (line, behind) := readNumber behind
  let behind ← Token.withoutMarker? [':'] behind
  let (column, behind) := readNumber behind
  let behind ← Token.withoutMarker? [' '] behind
  let text ← unquote? (behind.dropWhile (· != '"'))
  return ⟨line, column, (behind.takeWhile (· != '"')).dropLast, text⟩

def read? (listing : String) : Option (List Entry) :=
  (listing.toList.splitOn '\n').tail.dropLast.mapM readLine?

def line (item : Token) : Text := ("  " ++ token item).toList

theorem line_eq (item : Token) : line item = [' ', ' '] ++ ((toString item.start.line).toList ++
    ([':'] ++ ((toString item.start.column).toList ++ ([' '] ++
      ((Listing.kind item.kind).toList ++ [' '] ++ quoted item.text))))) := by
  unfold line token
  simp only [String.toList_append, text, String.toList_ofList, List.append_assoc]
  rfl

theorem toList_file (path : String) (tokens : List Token) : (file path tokens).toList =
    ((path ++ ":").toList :: tokens.map line).flatMap (· ++ ['\n']) := by
  unfold file
  rw [String.toList_append, String.toList_join, List.flatMap_map, List.flatMap_cons,
    List.flatMap_map]
  simp only [String.toList_append, line, List.append_assoc]
  rfl

theorem readNumber_toString (n : Nat) {t : Text} (stops : t.takeWhile Char.isDigit = []) :
    readNumber ((toString n).toList ++ t) = (n, t) := by
  have digits : ∀ d ∈ Nat.toDigits 10 n, d.isDigit := fun d =>
    Nat.isDigit_of_mem_toDigits (by decide) (by decide)
  rw [Nat.toString_eq_repr, Nat.toList_repr, readNumber, takeWhile_append_stop digits stops,
    dropWhile_append_stop digits stops, Nat.ofDigitChars_toDigits (by decide) (by decide)]

theorem readLine?_line {item : Token} (noQuote : item.kind ≠ .error (.unrecognizedCharacter '"')) :
    readLine? (line item) = some (Entry.ofToken item) := by
  have plain : IsPlain ((Listing.kind item.kind).toList ++ [' ']) :=
    isPlain_append.mpr ⟨isPlain_kind noQuote, by decide⟩
  have shown : ∀ c ∈ (Listing.kind item.kind).toList ++ [' '], (c != '"') = true :=
    fun c member => bne_iff_ne.mpr fun same => plain.1 (same ▸ member)
  have quote : (quoted item.text).takeWhile (· != '"') = [] := rfl
  simp only [line_eq, readLine?, Token.withoutMarker?_append, Option.bind_eq_bind, Option.bind_some]
  rw [readNumber_toString item.start.line rfl]
  simp only [Token.withoutMarker?_append, Option.bind_some]
  rw [readNumber_toString item.start.column rfl]
  simp only [Token.withoutMarker?_append, Option.bind_some]
  rw [dropWhile_append_stop shown quote, takeWhile_append_stop shown quote, unquote?_quoted,
    List.dropLast_concat]
  rfl

theorem feed_notMem_tokenLine {item : Token}
    (noQuote : item.kind ≠ .error (.unrecognizedCharacter '"')) : '\n' ∉ line item := by
  simp only [line_eq, List.mem_append, not_or]
  exact ⟨by decide, (isPlain_toString _).2, by decide, (isPlain_toString _).2, by decide,
    ⟨(isPlain_kind noQuote).2, by decide⟩, feed_notMem_quoted _⟩

variable {tokens : List Token}

theorem splitOn_file {path : String} (inLine : '\n' ∉ path.toList)
    (noQuote : ∀ token ∈ tokens, token.kind ≠ .error (.unrecognizedCharacter '"')) :
    (file path tokens).toList.splitOn '\n' =
      (path ++ ":").toList :: tokens.map line ++ [[]] := by
  rw [toList_file, splitOn_flatMap_lines]
  intro line member
  rcases List.mem_cons.mp member with rfl | member
  · rw [String.toList_append, List.mem_append, not_or]
    exact ⟨inLine, by decide⟩
  · obtain ⟨token, inTokens, rfl⟩ := List.mem_map.mp member
    exact feed_notMem_tokenLine (noQuote token inTokens)

theorem read?_file {path : String} (inLine : '\n' ∉ path.toList)
    (noQuote : ∀ token ∈ tokens, token.kind ≠ .error (.unrecognizedCharacter '"')) :
    read? (file path tokens) = some (tokens.map Entry.ofToken) := by
  rw [read?, splitOn_file inLine noQuote, List.cons_append, List.tail_cons, List.dropLast_concat]
  induction tokens with
  | nil => rfl
  | cons token tokens ih =>
    obtain ⟨first, others⟩ := List.forall_mem_cons.mp noQuote
    rw [List.map_cons, List.mapM_cons, readLine?_line first, ih others]
    rfl

end Listing

namespace Lexer

theorem recognizes_quote {t : Text} {token : Token} (member : token ∈ tokenize t) :
    token.kind ≠ .error (.unrecognizedCharacter '"') := by
  obtain ⟨n, rfl⟩ := exists_token_of_mem member
  have reads := (reads_ofText t).skip n
  by_cases ended : ((ofText t).skip n).cursor.rest = []
  · rw [Lexer.token, pull_of_ended ended]
    intro unrecognized
    cases unrecognized
  · obtain ⟨mode, scan, tail, scans, split, -⟩ := reads.exists_scans ended
    rw [Lexer.token, pull_of_scans scans split]
    exact scans.recognizes_quote

theorem Drains.flatMap_text {t : Text} {lexer : Lexer} {tokens : List Token}
    (drains : lexer.Drains tokens) (reads : Reads t lexer) :
    tokens.flatMap Token.text = lexer.cursor.rest := by
  induction drains with
  | ended ended =>
    rw [ended]
    rfl
  | next ahead _ ih => rw [List.flatMap_cons, ih reads.pull, ← reads.turn.rest]

end Lexer

open Listing

/-- A listing can be read back: where each token starts, its kind as it is shown, and its text. So
the texts put together are the text that was listed, but for a byte-order mark in front, and no
other text has the same listing. -/
theorem listing_readBack {path : String} (inLine : '\n' ∉ path.toList) (t : Text) :
    (file path (tokenize t)).toList.splitOn '\n' =
      (path ++ ":").toList :: (tokenize t).map line ++ [[]] ∧
    read? (file path (tokenize t)) = some ((tokenize t).map Entry.ofToken) ∧
    (read? (file path (tokenize t))).map (·.flatMap Entry.text) = some (Text.withoutMark t) ∧
    ∀ (path' : String) (t' : Text), '\n' ∉ path'.toList →
      file path' (tokenize t') = file path (tokenize t) →
      Text.withoutMark t' = Text.withoutMark t := by
  have reads {path : String} (inLine : '\n' ∉ path.toList) (t : Text) :
      read? (file path (tokenize t)) = some ((tokenize t).map Entry.ofToken) :=
    read?_file inLine fun _ => Lexer.recognizes_quote
  have joined {path : String} (inLine : '\n' ∉ path.toList) (t : Text) :
      (read? (file path (tokenize t))).map (·.flatMap Entry.text) = some (Text.withoutMark t) := by
    rw [reads inLine t, Option.map_some, List.flatMap_map]
    exact congrArg some ((Lexer.drains_tokenize t).flatMap_text (Lexer.reads_ofText t))
  refine ⟨splitOn_file inLine fun _ => Lexer.recognizes_quote, reads inLine t, joined inLine t, ?_⟩
  intro path' t' inLine' same
  have both := joined inLine' t'
  rw [same, joined inLine t] at both
  exact (Option.some.inj both).symm

/-- An accent that stands for nothing, and a string with an escaped quote: the accent is escaped both
in the kind and in the text, and the backslash and the quote each by another backslash. -/
def accentedText : Text := ['@', Char.ofNat 0x301, '"', '\\', '"', '"']

theorem listing_readBack_accentedText :
    '\n' ∉ "a.tf".toList ∧
    (file "a.tf" (tokenize accentedText)).toList.splitOn '\n' =
      "a.tf:".toList :: (tokenize accentedText).map line ++ [[]] ∧
    read? (file "a.tf" (tokenize accentedText)) = some [
      ⟨1, 1, "Error(UnrecognizedCharacter('@'))".toList, ['@']⟩,
      ⟨1, 2, "Error(UnrecognizedCharacter('\\u\x7b301\x7d'))".toList, [Char.ofNat 0x301]⟩,
      ⟨1, 3, "OpenQuote".toList, ['"']⟩,
      ⟨1, 4, "TemplateLiteral".toList, ['\\', '"']⟩,
      ⟨1, 6, "CloseQuote".toList, ['"']⟩,
      ⟨1, 7, "Eof \x7b unterminated: [] \x7d".toList, []⟩] := by
  have inLine : '\n' ∉ "a.tf".toList := by decide
  obtain ⟨lines, reads, -⟩ := listing_readBack inLine accentedText
  refine ⟨inLine, lines, reads.trans (congrArg some ?_)⟩
  decide +kernel

end HclLexis
