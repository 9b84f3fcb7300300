import Calculator.Text.Quoted

namespace Calculator

/-- A message on the terminal is its text and a line feed. This takes the terminal to be as wide as
the longest message, which it would break into several lines otherwise, and to show no styles. -/
def Terminal.line (message : String) : String := message ++ "\n"

namespace Text.Markup

/-- Whether an opening bracket with this text behind it starts a tag: with one of the letters a to
z, `#`, `/` or `@`, and with a closing bracket before the next opening one. -/
def opensTag : Text → Bool
  | [] => false
  | c :: rest =>
    (('a' ≤ c && c ≤ 'z') || c = '#' || c = '/' || c = '@') &&
      (rest.find? fun d => d = '[' || d = ']') == some ']'

/-- Doubles the backslashes before each tag and adds one; `pending` of them are already read. -/
def escapeTags : (pending : Nat) → Text → Text
  | pending, [] => List.replicate pending backslash
  | pending, c :: rest =>
    if c = backslash then escapeTags (pending + 1) rest
    else if c = '[' ∧ opensTag rest then
      List.replicate (2 * pending + 1) backslash ++ c :: escapeTags 0 rest
    else List.replicate pending backslash ++ c :: escapeTags 0 rest

/-- The number of backslashes at the end. -/
def trailingBackslashes (t : Text) : Nat :=
  (t.reverse.takeWhile (· = backslash)).length

/-- The markup that shows the text; a single backslash at its end is doubled, so that it does not
take the effect off a tag that follows. -/
def escape (t : Text) : Text :=
  let e := escapeTags 0 t
  if trailingBackslashes e = 1 then e ++ [backslash] else e

/-- Drops the tags and the backslashes that stand before a bracket for its sake. An odd number of
backslashes before a tag makes it plain text. -/
def displayTags : (pending : Nat) → (inTag : Bool) → Text → Text
  | _, true, [] => []
  | pending, true, c :: rest => displayTags pending (c != ']') rest
  | pending, false, [] => List.replicate pending backslash
  | pending, false, c :: rest =>
    if c = backslash then displayTags (pending + 1) false rest
    else if c = '[' then
      if opensTag rest then
        if pending % 2 = 1 then
          List.replicate (pending / 2) backslash ++ c :: displayTags 0 false rest
        else List.replicate (pending / 2) backslash ++ displayTags 0 true rest
      else List.replicate (pending - 1) backslash ++ c :: displayTags 0 false rest
    else List.replicate pending backslash ++ c :: displayTags 0 false rest

/-- What a terminal without styles shows. This is said of the markup alone: the terminal also puts
emoji in the place of their names between colons and leaves out the bell and the backspace, of which
nothing is known here. -/
def display (t : Text) : Text :=
  displayTags 0 false t

/-- There is no markup in the text. -/
def IsPlain (t : Text) : Prop := ∀ c ∈ t, c ≠ '[' ∧ c ≠ backslash

/-- There is nothing in the text that a terminal shows as something else, separators apart: no
markup, no name of an emoji, no bell and no backspace. -/
def IsVerbatim (t : Text) : Prop :=
  ∀ c ∈ t, (c ≠ '[' ∧ c ≠ backslash) ∧ c ≠ ':' ∧ c ≠ '\x07' ∧ c ≠ '\x08'

theorem IsVerbatim.isPlain {t : Text} (verbatim : IsVerbatim t) : IsPlain t :=
  fun c member => (verbatim c member).1

theorem escapeTags_of_isPlain {t : Text} (plain : IsPlain t) : escapeTags 0 t = t := by
  induction t with
  | nil => rfl
  | cons c t ih =>
    obtain ⟨noBracket, noBackslash⟩ := plain c List.mem_cons_self
    have rest : escapeTags 0 t = t := ih fun d member => plain d (.tail _ member)
    rw [escapeTags, if_neg noBackslash, if_neg fun opens => noBracket opens.1, rest]
    rfl

theorem escape_of_isPlain {t : Text} (plain : IsPlain t) : escape t = t := by
  have none : trailingBackslashes t = 0 := by
    unfold trailingBackslashes
    cases backwards : t.reverse with
    | nil => rfl
    | cons c u =>
      have inside : c ∈ t := by
        rw [← List.mem_reverse, backwards]
        exact List.mem_cons_self
      simp [(plain c inside).2]
  simp [escape, escapeTags_of_isPlain plain, none]

theorem displayTags_append_of_isPlain {t : Text} (plain : IsPlain t) (rest : Text) :
    displayTags 0 false (t ++ rest) = t ++ displayTags 0 false rest := by
  induction t with
  | nil => rfl
  | cons c t ih =>
    obtain ⟨noBracket, noBackslash⟩ := plain c List.mem_cons_self
    rw [List.cons_append, displayTags, if_neg noBackslash, if_neg noBracket,
      ih fun d member => plain d (.tail _ member)]
    rfl

theorem display_escape_of_isPlain {t : Text} (plain : IsPlain t) : display (escape t) = t := by
  rw [escape_of_isPlain plain, display]
  simpa [displayTags] using displayTags_append_of_isPlain plain []

end Text.Markup

end Calculator
