import HclLexis.Proofs.Places

/-! Locations of one text have one order. The offset, or the line with the column in it, decides
between two of them as all three numbers do, so that whatever is located in the text is sorted alike
by either. -/

namespace HclLexis

namespace Location

def compareLines (a b : Location) : Ordering :=
  (compare a.line b.line).then (compare a.column b.column)

structure Before (a b : Location) : Prop where
  offset : a.offset < b.offset
  lines : a.line < b.line ∨ a.line = b.line ∧ a.column < b.column

variable {a b c : Location} {s t : Text}

theorem Before.trans (first : a.Before b) (second : b.Before c) : a.Before c where
  offset := Nat.lt_trans first.offset second.offset
  lines := by
    have front := first.lines
    have back := second.lines
    omega

theorem before_advance (here : Location) (char : Char) : here.Before (here.advance char) := by
  constructor
  · rw [offset_advance]
    exact Nat.lt_add_of_pos_right char.utf8Size_pos
  · rw [advance]
    split
    · exact .inl (Nat.lt_succ_self _)
    · exact .inr ⟨rfl, Nat.lt_succ_self _⟩

theorem before_advanceOver (here : Location) (nonempty : s ≠ []) :
    here.Before (here.advanceOver s) := by
  induction s generalizing here with
  | nil => exact absurd rfl nonempty
  | cons char s ih =>
    have front := here.before_advance char
    by_cases single : s = []
    · rw [single]
      exact front
    · exact front.trans (ih (here.advance char) single)

theorem Counts.eq_advanceOver (counts : a.Counts s) : a = start.advanceOver s := by
  have same := counts_advanceOver s
  obtain ⟨offset, line, column⟩ := a
  rw [mk.injEq]
  exact ⟨counts.offset.trans same.offset.symm, counts.line.trans same.line.symm,
    counts.column.trans same.column.symm⟩

theorem before_or_eq_of_isPrefix {s' : Text} (isPrefix : s <+: s') (ha : a.Counts s)
    (hb : b.Counts s') : a.Before b ∨ a = b := by
  obtain ⟨piece, rfl⟩ := isPrefix
  rw [hb.eq_advanceOver, ha.eq_advanceOver, advanceOver_append]
  by_cases empty : piece = []
  · rw [empty]
    exact .inr rfl
  · exact .inl (before_advanceOver _ empty)

theorem IsPlaceIn.before_or_eq (ha : a.IsPlaceIn t) (hb : b.IsPlaceIn t) :
    a.Before b ∨ a = b ∨ b.Before a := by
  obtain ⟨s, isPrefix, counts⟩ := ha
  obtain ⟨s', isPrefix', counts'⟩ := hb
  rcases List.prefix_or_prefix_of_prefix isPrefix isPrefix' with shorter | longer
  · exact (before_or_eq_of_isPrefix shorter counts counts').imp_right .inl
  · rcases before_or_eq_of_isPrefix longer counts' counts with before | same
    · exact .inr (.inr before)
    · exact .inr (.inl same.symm)

theorem Before.compare_offset (before : a.Before b) :
    compare a.offset b.offset = .lt ∧ compare b.offset a.offset = .gt :=
  ⟨Nat.compare_eq_lt.mpr before.offset, Nat.compare_eq_gt.mpr before.offset⟩

theorem Before.compareLines (before : a.Before b) :
    a.compareLines b = .lt ∧ b.compareLines a = .gt := by
  rw [Location.compareLines, Location.compareLines]
  rcases before.lines with above | ⟨same, left⟩
  · rw [Nat.compare_eq_lt.mpr above, Nat.compare_eq_gt.mpr above]
    exact ⟨rfl, rfl⟩
  · rw [same, Nat.compare_eq_eq.mpr rfl, Nat.compare_eq_lt.mpr left, Nat.compare_eq_gt.mpr left]
    exact ⟨rfl, rfl⟩

theorem Before.compare (before : a.Before b) :
    Ord.compare a b = .lt ∧ Ord.compare b a = .gt := by
  have offsets := before.compare_offset
  constructor
  · change (Ord.compare a.offset b.offset).then _ = _
    rw [offsets.1]
    rfl
  · change (Ord.compare b.offset a.offset).then _ = _
    rw [offsets.2]
    rfl

theorem compare_self (a : Location) :
    compare a a = .eq ∧ compare a.offset a.offset = .eq ∧ a.compareLines a = .eq := by
  have same (n : Nat) : compare n n = .eq := Nat.compare_eq_eq.mpr rfl
  refine ⟨?_, same _, ?_⟩
  · change (compare a.offset a.offset).then
      ((compare a.line a.line).then (compare a.column a.column)) = _
    rw [same, same, same]
    rfl
  · rw [compareLines, same, same]
    rfl

theorem IsPlaceIn.compare_eq (ha : a.IsPlaceIn t) (hb : b.IsPlaceIn t) :
    compare a b = compare a.offset b.offset ∧ compare a b = a.compareLines b := by
  rcases ha.before_or_eq hb with before | rfl | behind
  · rw [before.compare.1, before.compare_offset.1, before.compareLines.1]
    exact ⟨rfl, rfl⟩
  · obtain ⟨all, offset, lines⟩ := compare_self a
    rw [all, offset, lines]
    exact ⟨rfl, rfl⟩
  · rw [behind.compare.2, behind.compare_offset.2, behind.compareLines.2]
    exact ⟨rfl, rfl⟩

theorem IsPlaceIn.eq_of_line_of_column (ha : a.IsPlaceIn t) (hb : b.IsPlaceIn t)
    (line : a.line = b.line) (column : a.column = b.column) : a = b := by
  rcases ha.before_or_eq hb with before | same | behind
  · have lines := before.lines
    omega
  · exact same
  · have lines := behind.lines
    omega

end Location

/-- The locations that come up with a text: where its tokens start and stop, where constructs that
are open after any number of calls or at the end were opened, and where errors are. -/
inductive Located (t : Text) : Location → Prop
  | start {token : Token} (member : token ∈ tokenize t) : Located t token.start
  | stop {token : Token} (member : token ∈ tokenize t) : Located t token.stop
  | opened (n : Nat) {construct : OpenConstruct}
      (member : construct ∈ ((Lexer.ofText t).skip n).modes.unclosed) :
      Located t construct.openedAt
  | unterminated {token : Token} (member : token ∈ tokenize t) {unterminated : List OpenConstruct}
      (eof : token.kind = .eof unterminated) {construct : OpenConstruct}
      (unclosed : construct ∈ unterminated) : Located t construct.openedAt
  | error {error : LexError} (member : error ∈ LexError.ofTokens (tokenize t)) :
      Located t error.location
  | refused {error : LexError} (failed : tokensOrError t = .error error) :
      Located t error.location

theorem Located.isPlaceIn {t : Text} {here : Location} (located : Located t here) :
    here.IsPlaceIn (Text.withoutMark t) := by
  obtain ⟨-, spans, ends, errors, first⟩ := locations_isPlaceIn t
  cases located with
  | start member => exact (spans _ member).1
  | stop member => exact (spans _ member).2
  | opened n member => exact (Lexer.isStacked_skip t n).openedAt_isPlaceIn member
  | unterminated member eof unclosed => exact (ends _ member _ eof).1 _ unclosed
  | error member => exact errors _ member
  | refused failed => exact first _ failed

theorem mergeSort_congr {α : Type} {le le' : α → α → Bool} {items : List α}
    (same : ∀ x ∈ items, ∀ y ∈ items, le x y = le' x y) :
    items.mergeSort le = items.mergeSort le' := by
  have mapped := List.map_mergeSort (f := id) same
  rwa [List.map_id, List.map_id] at mapped

/-- The locations of a text have one order: by all three numbers, by offset, or by line and column,
and no two of them have the same line and column. So whatever is located in the text is sorted
alike by each of these. -/
theorem locations_inOneOrder (t : Text) :
    (∀ a b, Located t a → Located t b →
      compare a b = compare a.offset b.offset ∧ compare a b = a.compareLines b ∧
      (a.line = b.line → a.column = b.column → a = b)) ∧
    ∀ (α : Type) (place : α → Location) (items : List α),
      (∀ item ∈ items, Located t (place item)) →
      items.mergeSort (fun x y => (compare (place x) (place y)).isLE) =
        items.mergeSort (fun x y => (compare (place x).offset (place y).offset).isLE) ∧
      items.mergeSort (fun x y => (compare (place x) (place y)).isLE) =
        items.mergeSort fun x y => ((place x).compareLines (place y)).isLE := by
  refine ⟨fun a b ha hb => ?_, fun α place items located => ?_⟩
  · obtain ⟨offset, lines⟩ := ha.isPlaceIn.compare_eq hb.isPlaceIn
    exact ⟨offset, lines, ha.isPlaceIn.eq_of_line_of_column hb.isPlaceIn⟩
  · have orders (x : α) (hx : x ∈ items) (y : α) (hy : y ∈ items) :=
      (located x hx).isPlaceIn.compare_eq (located y hy).isPlaceIn
    constructor
    · exact mergeSort_congr fun x hx y hy => by rw [(orders x hx y hy).1]
    · exact mergeSort_congr fun x hx y hy => by rw [(orders x hx y hy).2]

theorem locations_inOneOrder_stringBehindComment :
    Located ['#', 'é', '\r', '\n', '"', '$', '{'] ⟨3, 1, 3⟩ ∧
    Located ['#', 'é', '\r', '\n', '"', '$', '{'] ⟨5, 2, 1⟩ ∧
    compare (⟨3, 1, 3⟩ : Location) ⟨5, 2, 1⟩ = .lt ∧
    compare (⟨3, 1, 3⟩ : Location) ⟨5, 2, 1⟩ = compare 3 5 ∧
    compare (⟨3, 1, 3⟩ : Location) ⟨5, 2, 1⟩ = Location.compareLines ⟨3, 1, 3⟩ ⟨5, 2, 1⟩ ∧
    compare 3 1 = .gt := by
  have lineBreak : Located ['#', 'é', '\r', '\n', '"', '$', '{'] ⟨3, 1, 3⟩ :=
    @Located.start _ ⟨.newline, ['\r', '\n'], ⟨3, 1, 3⟩, ⟨5, 2, 1⟩⟩ (by decide)
  have string : Located ['#', 'é', '\r', '\n', '"', '$', '{'] ⟨5, 2, 1⟩ :=
    @Located.opened _ 4 ⟨.quotedTemplate, ⟨5, 2, 1⟩⟩ (by decide)
  obtain ⟨offset, lines, -⟩ := (locations_inOneOrder _).1 _ _ lineBreak string
  exact ⟨lineBreak, string, rfl, offset, lines, rfl⟩

end HclLexis
