import Calculator.Proofs.Moves
import Calculator.Proofs.Trimming

/-!
The reading of an expression skips spaces by itself. So it makes no difference whether the spaces of
a text are taken out before, where they do not part digits and points: a cursor stands for one of
the stripped text, and every turn of the reading for one there.
-/

namespace Calculator

open Cursor

namespace Text

/-- The place in the stripped text for a place in the text. -/
def stripPlace (t : Text) (place : Nat) : Nat := (strip (t.take place)).length

/-- The place in the text of the character at a place in the stripped text; the end of the text for
the end. -/
def origin : Text → (place : Nat) → Nat
  | [], _ => 0
  | a :: t, place =>
    if isSeparator a then origin t place + 1
    else match place with
      | 0 => 0
      | place + 1 => origin t place + 1

/-- The same character stands at both places, or both are the end. -/
theorem getElem?_origin (t : Text) (place : Nat) : t[origin t place]? = (strip t)[place]? := by
  induction t generalizing place with
  | nil => rfl
  | cons a t ih =>
    by_cases separator : isSeparator a = true
    · simp [origin, strip, separator, ih]
    · cases place with
      | zero => simp [origin, strip, separator]
      | succ place => simpa [origin, strip, separator] using ih place

/-- What stands before the place in the stripped text stands before its origin. -/
theorem stripPlace_origin {t : Text} {place : Nat} (inside : place ≤ (strip t).length) :
    stripPlace t (origin t place) = place := by
  induction t generalizing place with
  | nil => exact (Nat.le_zero.1 inside).symm
  | cons a t ih =>
    by_cases separator : isSeparator a = true
    · have rest := ih (by simpa [strip, separator] using inside)
      simpa [origin, stripPlace, strip, separator] using rest
    · cases place with
      | zero => simp [origin, stripPlace, strip, separator]
      | succ place =>
        have rest := ih (Nat.le_of_succ_le_succ (by simpa [strip, separator] using inside))
        simpa [origin, stripPlace, strip, separator] using rest

/-- The origin of the end is the end, also where the text ends in separators. -/
theorem origin_length (t : Text) : origin t (strip t).length = t.length := by
  induction t with
  | nil => rfl
  | cons a t ih =>
    by_cases separator : isSeparator a = true
    · simpa [origin, strip, separator] using ih
    · simpa [origin, strip, separator] using ih

/-- A place before no separator is the origin of its own place in the stripped text. -/
theorem origin_stripPlace {t : Text} {place : Nat} (inside : place ≤ t.length)
    (settled : ∀ a, t[place]? = some a → isSeparator a = false) :
    origin t (stripPlace t place) = place := by
  induction t generalizing place with
  | nil => exact (Nat.le_zero.1 inside).symm
  | cons a t ih =>
    cases place with
    | zero =>
      have other : isSeparator a = false := settled a rfl
      simp [origin, stripPlace, other, strip]
    | succ place =>
      have rest := ih (Nat.le_of_succ_le_succ inside) settled
      by_cases separator : isSeparator a = true
      · simpa [origin, stripPlace, strip, separator] using rest
      · simpa [origin, stripPlace, strip, separator] using rest

/-- There is nothing but spaces between the two places. -/
def SpacesBetween (t : Text) (i j : Nat) : Prop := ∀ k < j, i < k → t[k]? = some ' '

instance (t : Text) (i j : Nat) : Decidable (SpacesBetween t i j) :=
  inferInstanceAs (Decidable (∀ k < j, i < k → t[k]? = some ' '))

/-- There are no separators but spaces, and no spaces between two digits or points that have nothing
else between them. -/
structure KeepsRuns (t : Text) : Prop where
  isSpace : ∀ a ∈ t, isSeparator a = true → a = ' '
  whole : ∀ j < t.length, ∀ i < j, t[i]?.any isNumeric = true → t[j]?.any isNumeric = true →
    SpacesBetween t i j → j = i + 1

/-- Between two digits or points there is something other than spaces, or nothing. -/
theorem KeepsRuns.eq_nil {t u s v : Text} {a b : Char} (keeps : KeepsRuns t)
    (split : t = u ++ a :: (s ++ b :: v)) (numeric : isNumeric a = true)
    (numeric' : isNumeric b = true) (spaces : ∀ c ∈ s, c = ' ') : s = [] := by
  have first : t[u.length]? = some a := by simp [split]
  have behind (k : Nat) : t[u.length + (k + 1)]? = (s ++ b :: v)[k]? := by
    rw [split, List.getElem?_append_right (Nat.le_add_right _ _), Nat.add_sub_cancel_left,
      List.getElem?_cons_succ]
  have last : t[u.length + (s.length + 1)]? = some b := by
    rw [behind, List.getElem?_append_right (le_refl _), Nat.sub_self, List.getElem?_cons_zero]
  have between (k : Nat) (lt : k < u.length + (s.length + 1)) (gt : u.length < k) :
      t[k]? = some ' ' := by
    obtain ⟨n, rfl⟩ : ∃ n, k = u.length + (n + 1) := ⟨k - u.length - 1, by omega⟩
    have inside : n < s.length := by omega
    rw [behind, List.getElem?_append_left inside, List.getElem?_eq_getElem inside,
      spaces _ (List.getElem_mem inside)]
  have length : u.length + (s.length + 1) < t.length := (List.getElem?_eq_some_iff.1 last).1
  have next := keeps.whole _ length u.length (by omega) (by rw [first]; exact numeric)
    (by rw [last]; exact numeric') between
  exact List.eq_nil_of_length_eq_zero (by omega)

theorem isSeparator_of_isNumeric {a : Char} (numeric : isNumeric a = true) :
    isSeparator a = false := by
  have decimal : a.isDigit = true ∨ a = '.' := by simpa [isNumeric] using numeric
  rcases decimal with digit | rfl
  · exact isSeparator_of_isDigit digit
  · decide

end Text

/-- The error at another place. -/
def ParseError.relocate (f : Nat → Nat) : ParseError → ParseError
  | mismatchedParentheses position found => mismatchedParentheses (f position) found
  | unexpectedCharacter position found => unexpectedCharacter (f position) found
  | invalidNumberLiteral literal position => invalidNumberLiteral literal (f position)

theorem ParseError.relocate_relocate {f g : Nat → Nat} {e : ParseError}
    (same : f (g e.position) = e.position) : (e.relocate g).relocate f = e := by
  cases e <;> simp_all [relocate, position]

namespace Cursor

/-- The cursor on the stripped text, before the character that comes next. -/
def strip (c : Cursor) : Cursor where
  text := Text.strip c.text
  pos := Text.stripPlace c.text c.pos
  rest := Text.strip c.rest
  rest_eq := by
    have split : Text.strip c.text =
        Text.strip (c.text.take c.pos) ++ Text.strip (c.text.drop c.pos) := by
      rw [← Text.strip_append, List.take_append_drop]
    rw [split, Text.stripPlace, List.drop_left, c.rest_eq]

@[simp] theorem pos_strip (c : Cursor) : c.strip.pos = c.text.stripPlace c.pos := rfl

theorem text_eq_of_signs {c d : Cursor} {odd : Bool} (signs : c.signs = (odd, d)) :
    d.text = c.text := by
  obtain ⟨u, spans⟩ := exists_spans_of_signs signs
  exact spans.text_eq

theorem text_eq_of_skipSpaces {c d : Cursor} (spaces : c.skipSpaces = d) : d.text = c.text := by
  obtain ⟨u, spans⟩ := exists_spans_of_skipSpaces spaces
  exact spans.text_eq

theorem spaceless_strip (c : Cursor) : c.strip.Spaceless :=
  spaceless_start_strip c.text

variable {c d : Cursor} {u : Text} {p : Char → Bool}

/-- What stands between two cursors stands between those on the stripped text, without its
separators. -/
theorem Spans.strip (spans : Spans c u d) : Spans c.strip (Text.strip u) d.strip := by
  refine ⟨?_, ?_⟩
  · change Text.strip c.rest = Text.strip u ++ Text.strip d.rest
    rw [spans.rest_eq, Text.strip_append]
  · have next : (c.text.drop c.pos).take u.length = u := by
      rw [← c.rest_eq, spans.rest_eq, List.take_left]
    ext1
    · rw [spans.forward]
      rfl
    · change Text.stripPlace d.text d.pos = Text.stripPlace c.text c.pos + (Text.strip u).length
      rw [spans.text_eq, spans.pos_eq, Text.stripPlace, List.take_add, next, Text.strip_append,
        List.length_append, Text.stripPlace]

theorem isSeparator_of_char {a : Char} (keeps : c.text.KeepsRuns) (noSpace : c.char ≠ some ' ')
    (here : c.char = some a) : Text.isSeparator a = false := by
  have member : a ∈ c.text := mem_text_of_mem_rest (List.mem_of_head? here)
  refine Bool.eq_false_iff.2 fun separator => noSpace ?_
  rw [here, keeps.isSpace a member separator]

/-- The same character comes next, for there is no space before it. -/
theorem char_strip (keeps : c.text.KeepsRuns) (noSpace : c.char ≠ some ' ') :
    c.strip.char = c.char := by
  change (Text.strip c.rest).head? = c.char
  cases here : c.char with
  | none =>
    rw [char, List.head?_eq_none_iff] at here
    rw [here]
    rfl
  | some a =>
    have other := isSeparator_of_char keeps noSpace here
    rw [rest_eq_cons_iff.1 here, Text.strip, List.filter_cons_of_pos (by simp [other])]
    rfl

theorem char_strip_of_signs {odd : Bool} (keeps : c.text.KeepsRuns) (signs : c.signs = (odd, d)) :
    d.strip.char = d.char :=
  char_strip (text_eq_of_signs signs ▸ keeps) (char_ne_of_signs signs)

theorem char_strip_of_skipSpaces (keeps : c.text.KeepsRuns) (spaces : c.skipSpaces = d) :
    d.strip.char = d.char :=
  char_strip (text_eq_of_skipSpaces spaces ▸ keeps) (char_ne_of_skipSpaces spaces)

/-- The place of a cursor before no space is given back by its place in the stripped text. -/
theorem origin_pos_strip (keeps : c.text.KeepsRuns) (noSpace : c.char ≠ some ' ')
    (inside : c.pos ≤ c.text.length) : c.text.origin c.strip.pos = c.pos := by
  refine Text.origin_stripPlace inside fun a here => ?_
  rw [← c.char_eq] at here
  exact isSeparator_of_char keeps noSpace here

theorem advance_strip {a : Char} (here : c.char = some a) (other : Text.isSeparator a = false) :
    c.advance.strip = c.strip.advance := by
  have spans := (Spans.of_char here).strip
  rw [spans.forward, Text.strip_eq_self (by simpa using other)]
  rfl

/-- A run on the stripped text is the stripped run, if it does not go on behind what parts it. -/
theorem run_strip (stop : ∀ a, (c.skip p).strip.char = some a → p a = false) :
    c.strip.run p = Text.strip (c.run p) := by
  have spans := (Spans.of_run c p).strip
  rw [run, spans.rest_eq]
  exact Text.takeWhile_run (fun a member => of_mem_run (Text.mem_strip.1 member).1) stop

theorem skip_strip (stop : ∀ a, (c.skip p).strip.char = some a → p a = false) :
    (c.skip p).strip = c.strip.skip p := by
  rw [(Spans.of_run c p).strip.forward, skip, run_strip stop]

/-- Spaces among signs do not count. -/
theorem signs_strip {odd : Bool} (keeps : c.text.KeepsRuns) (signs : c.signs = (odd, d)) :
    c.strip.signs = (odd, d.strip) := by
  have noSpace := char_ne_of_signs signs
  obtain ⟨rfl, rfl⟩ := Prod.mk.inj signs
  -- All separators among the signs are spaces, which are no minus signs.
  have stop (a : Char) (here : (c.skip fun a => a = ' ' || a = '+' || a = '-').strip.char = some a) :
      (a = ' ' || a = '+' || a = '-') = false := by
    rw [char_strip (c := c.skip _) keeps noSpace] at here
    exact eq_false_of_char_skip here
  rw [Cursor.signs, run_strip stop, skip_strip stop, negates, negates, Text.strip,
    List.count_filter (by decide)]

theorem skipSpaces_strip (spaces : c.skipSpaces = d) : c.strip.skipSpaces = d.strip := by
  subst spaces
  have spans := (Spans.of_run c (· = ' ')).strip
  have nothing : Text.strip (c.run (· = ' ')) = [] := by
    rw [Text.strip, List.filter_eq_nil_iff]
    intro a member
    have space : a = ' ' := by simpa using of_mem_run member
    simp [space, Text.isSeparator]
  rw [nothing] at spans
  rw [c.spaceless_strip.skipSpaces_eq, ← c.strip.forward_zero]
  exact spans.forward.symm

/-- What comes next behind a run of digits and points and behind the spaces there belongs to no
number. -/
theorem stop_strip (keeps : c.text.KeepsRuns) (here : c.char.any isNumeric = true) :
    ∀ b, (c.skip isNumeric).strip.char = some b → isNumeric b = false := by
  intro b next
  refine Bool.eq_false_iff.2 fun numeric => ?_
  have found : (c.skip isNumeric).rest.find? (fun a => !Text.isSeparator a) = some b := by
    rw [← List.head?_filter]
    exact next
  obtain ⟨-, spaces, behind, rest, separators⟩ := List.find?_eq_some_iff_append.1 found
  obtain ⟨front, a, run⟩ := (List.eq_nil_or_concat' _).resolve_left (run_ne_nil here)
  have split : c.text = (c.text.take c.pos ++ front) ++ a :: (spaces ++ b :: behind) := by
    have whole := c.run_append_rest_skip isNumeric
    rw [run, rest, c.rest_eq] at whole
    rw [List.append_assoc, ← List.singleton_append, ← List.append_assoc front, whole,
      List.take_append_drop]
  have last : isNumeric a = true := of_mem_run (c := c) (by rw [run]; simp)
  have none : spaces = [] := by
    refine keeps.eq_nil split last numeric fun x member => ?_
    exact keeps.isSpace x (by rw [split]; simp [member]) (by simpa using separators x member)
  have char : (c.skip isNumeric).char = some b := by
    rw [char, rest, none]
    rfl
  rw [eq_false_of_char_skip char] at numeric
  cases numeric

/-- A run of digits and points is the same on the stripped text. -/
theorem run_numeric_strip (keeps : c.text.KeepsRuns) (here : c.char.any isNumeric = true) :
    c.strip.run isNumeric = c.run isNumeric := by
  rw [run_strip (stop_strip keeps here)]
  exact Text.strip_eq_self fun a member => Text.isSeparator_of_isNumeric (of_mem_run member)

end Cursor

/-! ## Readings -/

variable {α : Type}

def Reading.strip : Reading α → Reading α
  | factor stack group c => factor stack group c.strip
  | behind stack group value c => behind stack group value c.strip

def Progress.strip : Progress α → Progress α
  | next r => next r.strip
  | stop outcome c => stop (outcome.mapError (ParseError.relocate c.text.stripPlace)) c.strip

/-- The place of the error, or the one behind the value. -/
def stopPlace (outcome : Except ParseError α) (c : Cursor) : Nat :=
  match outcome with
  | .error e => e.position
  | .ok _ => c.pos

variable [Arithmetic α]

namespace Reading

variable {r : Reading α} {p : Progress α}

/-- A turn on a text is a turn on the stripped text. -/
theorem Turn.strip (turn : Turn r p) (keeps : r.cursor.text.KeepsRuns) :
    Turn r.strip p.strip := by
  have operatorSymbol {op : Operator} : Text.isSeparator op.symbol = false := by
    cases op <;> decide
  cases turn with
  | @opening stack group c odd d signs here =>
    have char := char_strip_of_signs keeps signs
    simp only [Reading.strip, Progress.strip, advance_strip here (by decide)]
    exact .opening (signs_strip keeps signs) (char.trans here)
  | @literal stack group c odd d value signs here found =>
    have keeps' : d.text.KeepsRuns := text_eq_of_signs signs ▸ keeps
    have char := char_strip_of_signs keeps signs
    have run := run_numeric_strip keeps' here
    simp only [Reading.strip, Progress.strip, skip_strip (stop_strip keeps' here)]
    exact .literal (signs_strip keeps signs) (by rwa [char]) (by rwa [run])
  | @noLiteral stack group c odd d signs here valueless =>
    have keeps' : d.text.KeepsRuns := text_eq_of_signs signs ▸ keeps
    have char := char_strip_of_signs keeps signs
    have run := run_numeric_strip keeps' here
    change Turn (factor stack group c.strip)
      (.stop (.error (.invalidNumberLiteral (d.run isNumeric) d.strip.pos)) (d.skip isNumeric).strip)
    rw [skip_strip (stop_strip keeps' here), ← run]
    exact .noLiteral (signs_strip keeps signs) (by rwa [char]) (by rwa [run])
  | @noFactor stack group c odd d signs noGroup noNumber =>
    have char := char_strip_of_signs keeps signs
    change Turn (factor stack group c.strip)
      (.stop (.error (.unexpectedCharacter d.strip.pos d.char)) d.strip)
    rw [← char] at noGroup noNumber ⊢
    exact .noFactor (signs_strip keeps signs) noGroup noNumber
  | @operator stack group value c d op spaces here =>
    have char := char_strip_of_skipSpaces keeps spaces
    simp only [Reading.strip, Progress.strip, advance_strip here operatorSymbol]
    exact .operator (skipSpaces_strip spaces) (char.trans here)
  | @result group value c d spaces noOperator =>
    have char := char_strip_of_skipSpaces keeps spaces
    rw [← char] at noOperator
    exact .result (skipSpaces_strip spaces) noOperator
  | @closing outer stack group value c d spaces here =>
    have char := char_strip_of_skipSpaces keeps spaces
    simp only [Reading.strip, Progress.strip, advance_strip here (by decide)]
    exact .closing (skipSpaces_strip spaces) (char.trans here)
  | @unclosed outer stack group value c d spaces noOperator noClosing =>
    have char := char_strip_of_skipSpaces keeps spaces
    change Turn (behind (outer :: stack) group value c.strip)
      (.stop (.error (.mismatchedParentheses d.strip.pos d.char)) d.strip)
    rw [← char] at noOperator noClosing ⊢
    exact .unclosed (skipSpaces_strip spaces) noOperator noClosing

/-- A run on a text is the run on the stripped text, with the places of the text. -/
theorem run_strip (keeps : r.cursor.text.KeepsRuns) :
    r.strip.run =
      (r.run.1.mapError (ParseError.relocate r.cursor.text.stripPlace), r.run.2.strip) := by
  have kept {s q : Reading α}
      (same : s.cursor.text = r.cursor.text ∧ s.strip.run = r.strip.run)
      (turn : Turn s (.next q)) :
      q.cursor.text = r.cursor.text ∧ q.strip.run = r.strip.run :=
    ⟨turn.text_eq.trans same.1, (turn.strip (same.1 ▸ keeps)).run_eq.symm.trans same.2⟩
  obtain ⟨s, ⟨text, run⟩, stop⟩ := exists_turn_stop _ kept ⟨rfl, rfl⟩
  have place : r.run.2.text = r.cursor.text := stop.text_eq.trans text
  rw [← run, (stop.strip (text ▸ keeps)).run_eq_stop, place]

/-- The place of an error, or the one where the text of a value ends, is that of a cursor on no
space. -/
theorem Turn.exists_place {outcome : Except ParseError α} {c : Cursor}
    (turn : Turn r (.stop outcome c)) :
    ∃ u d, Spans r.cursor u d ∧ d.char ≠ some ' ' ∧ stopPlace outcome c = d.pos := by
  cases turn with
  | @noLiteral stack group c odd d signs here valueless =>
    obtain ⟨u, spans⟩ := exists_spans_of_signs signs
    exact ⟨u, d, spans, char_ne_of_signs signs, rfl⟩
  | noFactor signs noGroup noNumber =>
    obtain ⟨u, spans⟩ := exists_spans_of_signs signs
    exact ⟨u, c, spans, char_ne_of_signs signs, rfl⟩
  | result spaces noOperator =>
    obtain ⟨u, spans⟩ := exists_spans_of_skipSpaces spaces
    exact ⟨u, c, spans, char_ne_of_skipSpaces spaces, rfl⟩
  | unclosed spaces noOperator noClosing =>
    obtain ⟨u, spans⟩ := exists_spans_of_skipSpaces spaces
    exact ⟨u, c, spans, char_ne_of_skipSpaces spaces, rfl⟩

theorem exists_place_run (r : Reading α) :
    ∃ u d, Spans r.cursor u d ∧ d.char ≠ some ' ' ∧ stopPlace r.run.1 r.run.2 = d.pos := by
  obtain ⟨u, s, before, stop⟩ := r.exists_spans_stop
  obtain ⟨v, d, after, noSpace, place⟩ := stop.exists_place
  exact ⟨_, d, before.trans after, noSpace, place⟩

/-- The place where a run stops is the one given back by its place in the stripped text. -/
theorem origin_stopPlace_run (keeps : r.cursor.text.KeepsRuns)
    (inside : r.cursor.pos ≤ r.cursor.text.length) :
    r.cursor.text.origin (r.cursor.text.stripPlace (stopPlace r.run.1 r.run.2)) =
      stopPlace r.run.1 r.run.2 := by
  obtain ⟨u, d, spans, noSpace, place⟩ := r.exists_place_run
  have reached : d.pos ≤ r.cursor.text.length := spans.pos_le_length inside
  rw [place]
  rw [← spans.text_eq] at keeps reached ⊢
  exact origin_pos_strip keeps noSpace reached

end Reading

/-- An expression is read as the stripped text is: to the same value or the same error. The place of
the error, or the one behind the value, is the origin of the place in the stripped text: the same
character stands at both, with as much of the stripped text before it, and the end is the origin of
the end. -/
theorem expression_strip {t : Text} (keeps : t.KeepsRuns) :
    let raw : Except ParseError α × Cursor := (start t).expression
    let stripped : Except ParseError α × Cursor := (start (Text.strip t)).expression
    raw.1 = stripped.1.mapError (ParseError.relocate t.origin) ∧
      (∀ value, stripped.1 = .ok value → raw.2.pos = t.origin stripped.2.pos) ∧
      (∀ place, t[t.origin place]? = (Text.strip t)[place]?) ∧
      (∀ place ≤ (Text.strip t).length, t.stripPlace (t.origin place) = place) ∧
      t.origin (Text.strip t).length = t.length := by
  let r : Reading α := .factor [] (.opened false) (start t)
  intro raw stripped
  have same : stripped = (raw.1.mapError (ParseError.relocate t.stripPlace), raw.2.strip) :=
    r.run_strip keeps
  have text : raw.2.text = t := by
    obtain ⟨u, spans⟩ := r.exists_spans_run
    exact spans.text_eq
  have back : t.origin (t.stripPlace (stopPlace raw.1 raw.2)) = stopPlace raw.1 raw.2 :=
    r.origin_stopPlace_run keeps (Nat.zero_le _)
  rw [← and_assoc]
  refine ⟨?_, t.getElem?_origin, fun _ => Text.stripPlace_origin, t.origin_length⟩
  rw [same]
  cases outcome : raw.1 with
  | error e =>
    rw [outcome] at back
    have given : (e.relocate t.stripPlace).relocate t.origin = e :=
      ParseError.relocate_relocate back
    refine ⟨congrArg Except.error given.symm, fun value found => ?_⟩
    cases found
  | ok value =>
    rw [outcome] at back
    refine ⟨rfl, fun _ _ => ?_⟩
    have place : raw.2.strip.pos = t.stripPlace raw.2.pos := by rw [pos_strip, text]
    exact (congrArg t.origin place).trans back |>.symm

/-- The end of the text is behind a space in the one, and the literal behind one in the other. -/
theorem expression_strip_around_group :
    (Text.KeepsRuns " ( 1 + .5 )  * 4 ".toList ∧
      (start "(1+.5)*4".toList).expression =
        (.ok (6 : Float), (start "(1+.5)*4".toList).forward 8) ∧
      ((start " ( 1 + .5 )  * 4 ".toList).expression : Except ParseError Float × Cursor).1 = .ok 6 ∧
      ((start " ( 1 + .5 )  * 4 ".toList).expression : Except ParseError Float × Cursor).2.pos
        = 17) ∧
    (Text.KeepsRuns "-( 1..2  )".toList ∧
      ((start "-(1..2)".toList).expression : Except ParseError Float × Cursor) =
        (.error (.invalidNumberLiteral "1..2".toList 2), (start "-(1..2)".toList).forward 6) ∧
      ((start "-( 1..2  )".toList).expression : Except ParseError Float × Cursor).1 =
        .error (.invalidNumberLiteral "1..2".toList 3)) := by
  have group : Text.KeepsRuns " ( 1 + .5 )  * 4 ".toList := ⟨by simp [Text.isSeparator], by decide⟩
  have literal : Text.KeepsRuns "-( 1..2  )".toList := ⟨by simp [Text.isSeparator], by decide⟩
  have value : (start "(1+.5)*4".toList).expression =
      (.ok (6 : Float), (start "(1+.5)*4".toList).forward 8) := by decide +kernel
  have error : ((start "-(1..2)".toList).expression : Except ParseError Float × Cursor) =
      (.error (.invalidNumberLiteral "1..2".toList 2), (start "-(1..2)".toList).forward 6) := by
    decide +kernel
  have given := expression_strip (α := Float) group
  rw [show Text.strip " ( 1 + .5 )  * 4 ".toList = "(1+.5)*4".toList by decide, value] at given
  have refused := expression_strip (α := Float) literal
  rw [show Text.strip "-( 1..2  )".toList = "-(1..2)".toList by decide, error] at refused
  exact ⟨⟨group, value, given.1, given.2.1 6 rfl⟩, literal, error, refused.1⟩

end Calculator
