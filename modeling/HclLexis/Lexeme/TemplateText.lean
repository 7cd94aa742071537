import HclLexis.Scan

/-! The text of templates, in quoted strings and heredocs alike. A dollar or percent sign before a
brace introduces a sequence; a doubled sign before a brace is literal text. Literal text is read
in units, so that a unit of several characters is not split. -/

namespace HclLexis.Lexeme

def stripMarker : Text → Text
  | '~' :: _ => ['~']
  | _ => []

def sequenceOpen? : Text → Option Scan
  | '$' :: '{' :: rest => some {
      kind := .templateInterp
      lexeme := '$' :: '{' :: stripMarker rest
      move := .enter (.interpolation 0) }
  | '%' :: '{' :: rest => some {
      kind := .templateControl
      lexeme := '%' :: '{' :: stripMarker rest
      move := .enter (.interpolation 0) }
  | _ => none

theorem stripMarker_isPrefix (t : Text) : stripMarker t <+: t := by
  unfold stripMarker
  split <;> simp

theorem sequenceOpen?_covers {t : Text} {scan : Scan} (h : sequenceOpen? t = some scan) :
    scan.Covers t := by
  unfold sequenceOpen? at h
  split at h
  · cases h
    exact ⟨by simp, by simpa using stripMarker_isPrefix _⟩
  · cases h
    exact ⟨by simp, by simpa using stripMarker_isPrefix _⟩
  · cases h

def opensSequence (t : Text) : Bool := (sequenceOpen? t).isSome

theorem opensSequence_cons_iff (c : Char) (cs : Text) :
    opensSequence (c :: cs) ↔ (c = '$' ∨ c = '%') ∧ cs.head? = some '{' := by
  cases cs with
  | nil => simp [opensSequence, sequenceOpen?]
  | cons d ds =>
    by_cases brace : d = '{'
    · by_cases dollar : c = '$'
      · simp [opensSequence, sequenceOpen?, dollar, brace]
      · by_cases percent : c = '%' <;>
          simp [opensSequence, sequenceOpen?, dollar, percent, brace]
    · simp [opensSequence, sequenceOpen?, brace]

/-- Whether the text ahead starts with doubled signs, which open nothing. -/
def isDoubledOpen (t : Text) : Bool :=
  ['$', '$', '{'].isPrefixOf t || ['%', '%', '{'].isPrefixOf t

theorem isDoubledOpen_iff_exists (t : Text) : isDoubledOpen t ↔
    ∃ sign tail, (sign = '$' ∨ sign = '%') ∧ t = sign :: sign :: '{' :: tail := by
  rw [isDoubledOpen, Bool.or_eq_true, List.isPrefixOf_iff_prefix, List.isPrefixOf_iff_prefix]
  constructor
  · rintro (⟨tail, rfl⟩ | ⟨tail, rfl⟩)
    · exact ⟨'$', tail, .inl rfl, rfl⟩
    · exact ⟨'%', tail, .inr rfl, rfl⟩
  · rintro ⟨sign, tail, rfl | rfl, rfl⟩
    · exact .inl ⟨tail, rfl⟩
    · exact .inr ⟨tail, rfl⟩

/-- The number of characters behind `c` that form a unit of literal text with it, if `c` is
literal text by the rules that all templates share. -/
def sharedUnit? (c : Char) (cs : Text) : Option Nat :=
  if Text.atLineBreak (c :: cs) || opensSequence (c :: cs) then none
  else if isDoubledOpen (c :: cs) then some 2
  else some 0

theorem isSome_sharedUnit? {c : Char} {cs : Text} (inLine : Text.lineBreak? (c :: cs) = none)
    (noOpen : sequenceOpen? (c :: cs) = none) : (sharedUnit? c cs).isSome := by
  simp only [sharedUnit?, Text.atLineBreak, opensSequence, inLine, noOpen]
  simp only [Option.isSome_none, Bool.or_self, Bool.false_eq_true, if_false]
  split <;> rfl

theorem sharedUnit?_eq_none_iff (c : Char) (cs : Text) : sharedUnit? c cs = none ↔
    Text.atLineBreak (c :: cs) || opensSequence (c :: cs) := by
  rw [sharedUnit?]
  split
  · simp [*]
  · split <;> simp [*]

/-- The units at the head of a text, after `pending` characters that belong to the last one. -/
def literalRun (unit? : Char → Text → Option Nat) : Nat → Text → Text
  | _, [] => []
  | pending + 1, c :: cs => c :: literalRun unit? pending cs
  | 0, c :: cs => match unit? c cs with
    | none => []
    | some pending => c :: literalRun unit? pending cs

theorem literalRun_cons_eq_nil_iff {unit? : Char → Text → Option Nat} {pending : Nat} {c : Char}
    {cs : Text} : literalRun unit? pending (c :: cs) = [] ↔ pending = 0 ∧ unit? c cs = none := by
  cases pending with
  | succ pending => simp [literalRun]
  | zero =>
    rw [literalRun]
    cases unit? c cs <;> simp

theorem literalRun_pending (unit? : Char → Text → Option Nat) (pending : Nat) (t : Text) :
    literalRun unit? pending t = t.take pending ++ literalRun unit? 0 (t.drop pending) := by
  induction pending generalizing t with
  | zero => rfl
  | succ pending ih =>
    cases t with
    | nil => rfl
    | cons c cs => rw [literalRun, ih, List.take_succ_cons, List.drop_succ_cons, List.cons_append]

theorem literalRun_isPrefix (unit? : Char → Text → Option Nat) (pending : Nat) (t : Text) :
    literalRun unit? pending t <+: t := by
  fun_induction literalRun unit? pending t with
  | case1 => exact List.prefix_rfl
  | case2 _ _ _ ih => exact List.cons_prefix_cons.mpr ⟨rfl, ih⟩
  | case3 => exact List.nil_prefix
  | case4 _ _ _ _ ih => exact List.cons_prefix_cons.mpr ⟨rfl, ih⟩

def literal (unit? : Char → Text → Option Nat) (t : Text) : Scan :=
  { kind := .templateLiteral, lexeme := literalRun unit? 0 t }

theorem literal_covers {unit? : Char → Text → Option Nat} {c : Char} {cs : Text}
    (h : (unit? c cs).isSome) : (literal unit? (c :: cs)).Covers (c :: cs) := by
  refine ⟨?_, literalRun_isPrefix unit? 0 _⟩
  obtain ⟨pending, unit⟩ := Option.isSome_iff_exists.mp h
  simp [literal, literalRun, unit]

end HclLexis.Lexeme
