import Calculator.Proofs.Moves

namespace Calculator

/-- The texts are the same before the place, and at it: the same character or the end of both. -/
structure Text.AgreesUpTo (place : Nat) (s t : Text) : Prop where
  before : t.take place = s.take place
  here : t[place]? = s[place]?

/-- Up to the place every character is known. -/
theorem Text.AgreesUpTo.getElem?_eq {place i : Nat} {s t : Text} (agrees : AgreesUpTo place s t)
    (le : i ≤ place) : t[i]? = s[i]? := by
  rcases Nat.lt_or_eq_of_le le with lt | rfl
  · have same := congrArg (·[i]?) agrees.before
    simpa [lt] using same
  · exact agrees.here

/-- A run that ends before the texts differ is the same in both. -/
theorem takeWhile_eq_of_getElem? {p : Char → Bool} {s t : Text}
    (same : ∀ i ≤ (s.takeWhile p).length, t[i]? = s[i]?) : t.takeWhile p = s.takeWhile p := by
  induction s generalizing t with
  | nil =>
    have empty : t[0]? = none := same 0 (Nat.zero_le _)
    rw [List.getElem?_eq_none_iff] at empty
    rw [List.eq_nil_of_length_eq_zero (Nat.le_zero.1 empty)]
  | cons a s ih =>
    have first : t.head? = some a := by
      rw [List.head?_eq_getElem?]
      exact same 0 (Nat.zero_le _)
    obtain ⟨t, rfl⟩ := List.head?_eq_some_iff.1 first
    by_cases inside : p a = true
    · rw [List.takeWhile_cons_of_pos inside, List.takeWhile_cons_of_pos inside, ih]
      intro i le
      refine same (i + 1) ?_
      rw [List.takeWhile_cons_of_pos inside, List.length_cons]
      omega
    · rw [List.takeWhile_cons_of_neg inside, List.takeWhile_cons_of_neg inside]

open Text (AgreesUpTo)

namespace Cursor

/-- The same place in another text. -/
def within (t : Text) (c : Cursor) : Cursor where
  text := t
  pos := c.pos
  rest := t.drop c.pos
  rest_eq := rfl

@[simp] theorem pos_within (t : Text) (c : Cursor) : (c.within t).pos = c.pos := rfl

theorem within_forward (t : Text) (c : Cursor) (n : Nat) :
    (c.forward n).within t = (c.within t).forward n := by
  ext1 <;> rfl

theorem within_advance (t : Text) (c : Cursor) : c.advance.within t = (c.within t).advance :=
  within_forward t c 1

/-- The text of the cursor agrees with the other one up to a place that the cursor has not passed.
-/
structure Known (place : Nat) (t : Text) (c : Cursor) : Prop where
  pos_le : c.pos ≤ place
  agrees : AgreesUpTo place c.text t

variable {place : Nat} {t u : Text} {c d : Cursor} {p : Char → Bool}

/-- What is known behind a text is known before it. -/
theorem Known.of_spans (known : Known place t d) (spans : Spans c u d) : Known place t c := by
  obtain ⟨pos_le, agrees⟩ := known
  rw [spans.forward] at pos_le agrees
  exact ⟨le_trans (Nat.le_add_right _ _) pos_le, agrees⟩

theorem Known.char_within (known : Known place t c) : (c.within t).char = c.char := by
  rw [char_eq, char_eq]
  exact known.agrees.getElem?_eq known.pos_le

theorem Known.run_within (known : Known place t (c.skip p)) : (c.within t).run p = c.run p := by
  refine takeWhile_eq_of_getElem? fun i inside => ?_
  have reach : c.pos + (c.rest.takeWhile p).length ≤ place := known.pos_le
  rw [c.rest_eq, (c.within t).rest_eq, List.getElem?_drop, List.getElem?_drop]
  exact known.agrees.getElem?_eq (by rw [pos_within]; omega)

/-- A run that has been known to its end is passed in the other text too. -/
theorem Known.skip_within (known : Known place t (c.skip p)) :
    (c.skip p).within t = (c.within t).skip p := by
  rw [skip, within_forward, skip, known.run_within]

theorem Known.signs_within {odd : Bool} (known : Known place t d) (signs : c.signs = (odd, d)) :
    (c.within t).signs = (odd, d.within t) := by
  obtain ⟨rfl, rfl⟩ := Prod.mk.inj signs
  rw [Cursor.signs, known.run_within, known.skip_within]

theorem Known.skipSpaces_within (known : Known place t d) (spaces : c.skipSpaces = d) :
    (c.within t).skipSpaces = d.within t := by
  subst spaces
  exact known.skip_within.symm

end Cursor

open Cursor

variable {α : Type}

/-- The same reading in another text. -/
def Reading.within (t : Text) : Reading α → Reading α
  | factor stack group c => factor stack group (c.within t)
  | behind stack group value c => behind stack group value (c.within t)

def Progress.within (t : Text) : Progress α → Progress α
  | next r => next (r.within t)
  | stop outcome c => stop outcome (c.within t)

variable [Arithmetic α]

namespace Reading

variable {place : Nat} {s t : Text} {r : Reading α} {p : Progress α}

/-- A step that does not get beyond the place is the same step in the other text. -/
theorem Turn.within (turn : Turn r p) (known : p.cursor.Known place t) :
    Turn (r.within t) (p.within t) := by
  cases turn with
  | opening signs here =>
    have before := known.of_spans (.of_char here)
    simp only [Reading.within, Progress.within, within_advance]
    exact .opening (before.signs_within signs) (before.char_within.trans here)
  | @literal stack group c odd d value signs here found =>
    have before : d.Known place t := known.of_spans (.of_run d isNumeric)
    have run : (d.within t).run isNumeric = d.run isNumeric := known.run_within
    have skip : (d.skip isNumeric).within t = (d.within t).skip isNumeric := known.skip_within
    simp only [Reading.within, Progress.within, skip]
    exact .literal (before.signs_within signs) (by rwa [before.char_within]) (by rwa [run])
  | @noLiteral stack group c odd d signs here valueless =>
    have before : d.Known place t := known.of_spans (.of_run d isNumeric)
    have run : (d.within t).run isNumeric = d.run isNumeric := known.run_within
    have skip : (d.skip isNumeric).within t = (d.within t).skip isNumeric := known.skip_within
    simp only [Reading.within, Progress.within, skip]
    rw [← run]
    exact .noLiteral (before.signs_within signs) (by rwa [before.char_within]) (by rwa [run])
  | @noFactor stack group c odd d signs noGroup noNumber =>
    have char : (d.within t).char = d.char := known.char_within
    rw [Progress.within, ← char]
    rw [← char] at noGroup noNumber
    exact .noFactor (Known.signs_within known signs) noGroup noNumber
  | operator spaces here =>
    have before := known.of_spans (.of_char here)
    simp only [Reading.within, Progress.within, within_advance]
    exact .operator (before.skipSpaces_within spaces) (before.char_within.trans here)
  | @result group value c d spaces noOperator =>
    have char : (d.within t).char = d.char := known.char_within
    rw [← char] at noOperator
    exact .result (Known.skipSpaces_within known spaces) noOperator
  | closing spaces here =>
    have before := known.of_spans (.of_char here)
    simp only [Reading.within, Progress.within, within_advance]
    exact .closing (before.skipSpaces_within spaces) (before.char_within.trans here)
  | @unclosed outer stack group value c d spaces noOperator noClosing =>
    have char : (d.within t).char = d.char := known.char_within
    rw [Progress.within, ← char]
    rw [← char] at noOperator noClosing
    exact .unclosed (Known.skipSpaces_within known spaces) noOperator noClosing

theorem pos_le_run (r : Reading α) : r.cursor.pos ≤ r.run.2.pos := by
  obtain ⟨u, spans⟩ := r.exists_spans_run
  rw [spans.pos_eq]
  exact Nat.le_add_right _ _

/-- A run that stops before the texts differ is the same run in both. -/
theorem run_within (agrees : AgreesUpTo r.run.2.pos r.cursor.text t) :
    (r.within t).run = (r.run.1, r.run.2.within t) := by
  let Invariant (s : Reading α) : Prop :=
    s.cursor.text = r.cursor.text ∧ s.run = r.run ∧ (s.within t).run = (r.within t).run
  have known {c : Cursor} (text : c.text = r.cursor.text) (pos_le : c.pos ≤ r.run.2.pos) :
      c.Known r.run.2.pos t :=
    ⟨pos_le, text ▸ agrees⟩
  have kept {s q : Reading α} (same : Invariant s) (turn : Turn s (.next q)) : Invariant q := by
    obtain ⟨text, run, within⟩ := same
    have text : q.cursor.text = r.cursor.text := turn.text_eq.trans text
    have run : q.run = r.run := turn.run_eq.symm.trans run
    have reached : q.cursor.pos ≤ r.run.2.pos := run ▸ q.pos_le_run
    exact ⟨text, run, (turn.within (known text reached)).run_eq.symm.trans within⟩
  obtain ⟨s, ⟨text, -, within⟩, stop⟩ := exists_turn_stop Invariant kept ⟨rfl, rfl, rfl⟩
  rw [← within]
  exact (stop.within (known (stop.text_eq.trans text) (le_refl _))).run_eq_stop

end Reading

/-- What comes behind the character where the reading of an expression stops has no part in it: in
every text that is the same up to there, the value or the first error is the same, and so is the
place, which is not beyond the end. -/
theorem expression_of_agreesUpTo {s t : Text} {outcome : Except ParseError α} {c : Cursor}
    (stops : (Cursor.start s).expression = (outcome, c)) (agrees : AgreesUpTo c.pos s t) :
    c.pos ≤ s.length ∧
      ∃ d, (Cursor.start t).expression = (outcome, d) ∧ d.pos = c.pos := by
  let r : Reading α := .factor [] (.opened false) (Cursor.start s)
  have run : r.run = (outcome, c) := stops
  constructor
  · obtain ⟨u, spans⟩ := r.exists_spans_run
    rw [run] at spans
    exact spans.pos_le_length (Nat.zero_le _)
  · have same := Reading.run_within (r := r) (t := t) (by rw [run]; exact agrees)
    rw [run] at same
    exact ⟨c.within t, same, rfl⟩

/-- Any text may stand behind the character where a value ends, and behind the one where a run of
digits and points ends that is no number. -/
theorem expression_of_agreesUpTo_behind_group :
    (((Cursor.start "2*(3)4)".toList).expression =
        (.ok (6 : Float), (Cursor.start "2*(3)4)".toList).forward 5) ∧
      AgreesUpTo 5 "2*(3)4)".toList "2*(3)45..6".toList) ∧
      ∃ d, (Cursor.start "2*(3)45..6".toList).expression = (.ok (6 : Float), d) ∧ d.pos = 5) ∧
    ((((Cursor.start "-1..(".toList).expression : Except ParseError Float × Cursor) =
        (.error (.invalidNumberLiteral "1..".toList 1), (Cursor.start "-1..(".toList).forward 4) ∧
      AgreesUpTo 4 "-1..(".toList "-1..(2+3".toList) ∧
      ∃ d, ((Cursor.start "-1..(2+3".toList).expression : Except ParseError Float × Cursor) =
        (.error (.invalidNumberLiteral "1..".toList 1), d) ∧ d.pos = 4) := by
  have value : (Cursor.start "2*(3)4)".toList).expression =
      (.ok (6 : Float), (Cursor.start "2*(3)4)".toList).forward 5) := by decide +kernel
  have literal : ((Cursor.start "-1..(".toList).expression : Except ParseError Float × Cursor) =
      (.error (.invalidNumberLiteral "1..".toList 1), (Cursor.start "-1..(".toList).forward 4) := by
    decide +kernel
  have behindValue : AgreesUpTo 5 "2*(3)4)".toList "2*(3)45..6".toList := ⟨by decide, by decide⟩
  have behindLiteral : AgreesUpTo 4 "-1..(".toList "-1..(2+3".toList := ⟨by decide, by decide⟩
  exact ⟨⟨⟨value, behindValue⟩, (expression_of_agreesUpTo value behindValue).2⟩,
    ⟨literal, behindLiteral⟩, (expression_of_agreesUpTo literal behindLiteral).2⟩

end Calculator
