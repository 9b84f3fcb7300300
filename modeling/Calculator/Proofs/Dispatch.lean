import Calculator.Proofs.Transcript

/-!
A line is compared with keywords in its lower-case form, but cut in its own. Behind a keyword in
such a form stands the same keyword in the line, letter by letter, because no keyword has a `k` or
ends in an `i`.
-/

namespace Calculator

namespace Text

/-- Each letter is the letter of the word or its ASCII upper case. -/
def IsCased (word t : Text) : Prop :=
  List.Forall₂ (fun a b => b = a ∨ b = a.toUpper) word t

/-- A letter is the lower case of itself and of its upper case, and of nothing else. -/
theorem toLower_eq_iff {a b : Char} (lower : a.toLower = a) :
    b.toLower = a ↔ b = a ∨ b = a.toUpper := by
  constructor
  · rintro rfl
    by_cases upper : b.isUpper = true
    · right
      rw [Char.toUpper_toLower_eq_toUpper,
        Char.toUpper_eq_of_not_isLower (Char.not_isLower_of_isUpper upper)]
    · left
      exact (Char.toLower_eq_of_not_isUpper upper).symm
  · rintro (rfl | rfl)
    · exact lower
    · rw [Char.toLower_toUpper_eq_toLower, lower]

theorem isCased_iff {word t : Text} (lower : ∀ a ∈ word, a.toLower = a) :
    IsCased word t ↔ t.map Char.toLower = word := by
  induction word generalizing t with
  | nil => simp [IsCased]
  | cons a word ih =>
    rw [List.forall_mem_cons] at lower
    have rest (u : Text) := ih (t := u) lower.2
    simp only [IsCased] at rest
    cases t with
    | nil => simp [IsCased]
    | cons b u => simp [IsCased, rest, toLower_eq_iff lower.1]

/-- A letter and what it is in lower case. Beyond ASCII only the dotted capital I and the Kelvin
sign have an ASCII letter there. -/
inductive LowersChar : Char → Text → Prop
  | ascii {c : Char} (ascii : c.toNat < 128) : LowersChar c [c.toLower]
  | dotted : LowersChar '\u0130' ['i', '\u0307']
  | kelvin : LowersChar '\u212A' ['k']
  | other {c : Char} {s : Text} (beyond : 128 ≤ c.toNat) (nonempty : s ≠ [])
      (all : ∀ a ∈ s, 128 ≤ a.toNat) : LowersChar c s

/-- A text and a lower-case form of it. One letter may have different forms in different places. -/
inductive Lowers : Text → Text → Prop
  | nil : Lowers [] []
  | cons {c : Char} {s t u : Text} (first : LowersChar c s) (rest : Lowers t u) :
      Lowers (c :: t) (s ++ u)

theorem lowersChar_lowerChar (c : Char) : LowersChar c (lowerChar c) := by
  rw [lowerChar]
  split_ifs with dotted kelvin
  · subst dotted; exact .dotted
  · subst kelvin; exact .kelvin
  · by_cases ascii : c.toNat < 128
    · exact .ascii ascii
    · rw [toLower_eq_self (by omega)]
      exact .other (by omega) (by simp) (by simpa using ascii)

/-- The form in which the session looks for keywords is a lower-case form. -/
theorem lowers_lower (t : Text) : Lowers t (lower t) := by
  induction t with
  | nil => exact .nil
  | cons c t ih => exact .cons (lowersChar_lowerChar c) ih

/-- Two letters sigma, of which only the last one ends a word. -/
example : Lowers ['Σ', 'A', 'Σ'] ['σ', 'a', 'ς'] := by
  have first : LowersChar 'Σ' ['σ'] := .other (by decide) (by simp) (by simp)
  have last : LowersChar 'Σ' ['ς'] := .other (by decide) (by simp) (by simp)
  exact .cons first (.cons (.ascii (by decide)) (.cons last .nil))

theorem LowersChar.ne_nil {c : Char} {s : Text} (lowers : LowersChar c s) : s ≠ [] := by
  cases lowers with
  | ascii => simp
  | dotted => simp
  | kelvin => simp
  | other beyond nonempty => exact nonempty

theorem Lowers.eq_nil {t : Text} (lowers : Lowers t []) : t = [] := by
  generalize lowered : ([] : Text) = u at lowers
  cases lowers with
  | nil => rfl
  | cons first rest => exact absurd (List.append_eq_nil_iff.1 lowered.symm).1 first.ne_nil

/-! ## Keywords -/

/-- A word in lower case that nothing but its own letters can be lowered to. -/
structure IsKeyword (word : Text) : Prop where
  ascii : ∀ a ∈ word, a.toNat < 128
  lower : ∀ a ∈ word, a.toLower = a
  noKelvin : 'k' ∉ word
  noDotted : word.getLast? ≠ some 'i'

theorem IsKeyword.tail {a : Char} {word : Text} (keyword : IsKeyword (a :: word)) :
    IsKeyword word where
  ascii b member := keyword.ascii b (.tail _ member)
  lower b member := keyword.lower b (.tail _ member)
  noKelvin member := keyword.noKelvin (.tail _ member)
  noDotted last := keyword.noDotted (by rw [List.getLast?_cons, last]; rfl)

/-- An ASCII letter has one lower-case form. -/
theorem LowersChar.eq_of_ascii {c : Char} {s : Text} (lowers : LowersChar c s)
    (ascii : c.toNat < 128) : s = [c.toLower] := by
  cases lowers with
  | ascii => rfl
  | dotted => exact absurd ascii (by decide)
  | kelvin => exact absurd ascii (by decide)
  | other beyond => omega

/-- The first letter of a keyword is the lower case of an ASCII letter. -/
theorem LowersChar.eq_of_append {c a : Char} {s u word more : Text} (lowers : LowersChar c s)
    (keyword : IsKeyword (a :: word)) (same : s ++ u = a :: word ++ more) :
    s = [a] ∧ c.toLower = a := by
  cases lowers with
  | ascii ascii =>
    have first : c.toLower = a := (List.cons.inj same).1
    exact ⟨by rw [first], first⟩
  | dotted =>
    obtain ⟨rfl, behind⟩ := List.cons.inj same
    cases word with
    | nil => exact absurd rfl keyword.noDotted
    | cons b word =>
      obtain ⟨rfl, -⟩ := List.cons.inj behind
      exact absurd (keyword.ascii '\u0307' (by simp)) (by decide)
  | kelvin =>
    obtain ⟨rfl, -⟩ := List.cons.inj same
    exact absurd List.mem_cons_self keyword.noKelvin
  | other beyond nonempty all =>
    obtain ⟨b, s, rfl⟩ := List.exists_cons_of_ne_nil nonempty
    obtain ⟨rfl, -⟩ := List.cons.inj same
    have := all b List.mem_cons_self
    have := keyword.ascii b List.mem_cons_self
    omega

/-- A keyword at the front of a lower-case form stands at the front of the text. -/
theorem Lowers.exists_of_append {t u word more : Text} (lowers : Lowers t u)
    (keyword : IsKeyword word) (same : u = word ++ more) :
    ∃ v rest, t = v ++ rest ∧ IsCased word v ∧ Lowers rest more := by
  simp only [isCased_iff keyword.lower]
  induction lowers generalizing word with
  | nil =>
    obtain ⟨rfl, rfl⟩ := List.append_eq_nil_iff.1 same.symm
    exact ⟨[], [], rfl, rfl, .nil⟩
  | @cons c s t u first rest ih =>
    cases word with
    | nil =>
      rw [List.nil_append] at same
      subst same
      exact ⟨[], c :: t, rfl, rfl, .cons first rest⟩
    | cons a word =>
      obtain ⟨rfl, lowered⟩ := first.eq_of_append keyword same
      obtain ⟨v, rest', rfl, cased, lowers'⟩ := ih keyword.tail (List.cons.inj same).2
      exact ⟨c :: v, rest', rfl, by rw [List.map_cons, lowered, cased], lowers'⟩

/-- A keyword in any case at the front of a text stands at the front of its lower-case form. -/
theorem Lowers.exists_append {t u v word rest : Text} (lowers : Lowers t u)
    (keyword : IsKeyword word) (cased : IsCased word v) (whole : t = v ++ rest) :
    ∃ more, u = word ++ more ∧ Lowers rest more := by
  rw [isCased_iff keyword.lower] at cased
  induction v generalizing t u word with
  | nil =>
    subst cased whole
    exact ⟨u, rfl, lowers⟩
  | cons c v ih =>
    subst cased whole
    cases lowers with
    | @cons _ s _ u first lowers =>
      have low : c.toLower.toNat < 128 := keyword.ascii c.toLower (by simp)
      have ascii : c.toNat < 128 := by
        by_contra beyond
        rw [toLower_eq_self (by omega)] at low
        omega
      obtain ⟨more, rfl, lowers'⟩ := ih lowers keyword.tail rfl rfl
      exact ⟨more, by rw [first.eq_of_ascii ascii]; rfl, lowers'⟩

/-- A text has a keyword as its lower-case form if it is the keyword in any case. -/
theorem Lowers.eq_iff {t u word : Text} (lowers : Lowers t u) (keyword : IsKeyword word) :
    u = word ↔ IsCased word t := by
  constructor
  · rintro rfl
    obtain ⟨v, rest, rfl, cased, nothing⟩ := lowers.exists_of_append keyword (List.append_nil u).symm
    rw [nothing.eq_nil, List.append_nil]
    exact cased
  · intro cased
    obtain ⟨more, rfl, nothing⟩ := lowers.exists_append keyword cased (List.append_nil t).symm
    cases nothing
    exact List.append_nil word

/-- What is trimmed ends in no character of the class. -/
theorem of_getLast?_trim {p : Char → Bool} {t : Text} {a : Char}
    (last : (trim p t).getLast? = some a) : p a = false := by
  rw [trim_eq_rdropWhile] at last
  have nonempty : (t.dropWhile p).rdropWhile p ≠ [] := by
    intro empty
    rw [empty] at last
    cases last
  have stays := List.rdropWhile_last_not p (t.dropWhile p) nonempty
  rw [List.getLast?_eq_some_getLast nonempty] at last
  cases last
  simpa using stays

end Text

namespace Session

open Text

theorem isKeyword_exit : IsKeyword "exit".toList := by
  constructor <;> simp

/-- The keyword is the name with the space behind it. -/
theorem isKeyword_name (f : NamedFunction) : IsKeyword (f.name.toList ++ [' ']) := by
  cases f <;> constructor <;> simp [NamedFunction.name]

theorem isCased_name_append {f : NamedFunction} {v : Text} :
    IsCased (f.name.toList ++ [' ']) v ↔ ∃ w, v = w ++ [' '] ∧ IsCased f.name.toList w := by
  have lower := (isKeyword_name f).lower
  have lower' : ∀ a ∈ f.name.toList, a.toLower = a := fun a member => lower a (by simp [member])
  simp only [isCased_iff lower, isCased_iff lower']
  constructor
  · intro cased
    obtain ⟨w, space, rfl, name, last⟩ := List.map_eq_append_iff.1 cased
    obtain ⟨b, rfl, blank⟩ := List.map_eq_singleton_iff.1 last
    refine ⟨w, ?_, name⟩
    rcases (toLower_eq_iff (by decide)).1 blank with rfl | rfl <;> rfl
  · rintro ⟨w, rfl, name⟩
    rw [List.map_append, name]
    rfl

theorem length_of_isCased_name {f : NamedFunction} {w : Text} (cased : IsCased f.name.toList w) :
    f.name.length + 1 = (w ++ [' ']).length := by
  have length : f.name.toList.length = w.length := List.Forall₂.length_eq cased
  rw [← String.length_toList, length, List.length_append]
  rfl

/-- A line calls a function if its name in any case and a space stand in front, whatever the
lower-case form makes of the argument. -/
theorem callAs?_eq_some_iff {s lowered argument : Text} {f : NamedFunction}
    (lowers : Lowers s lowered) :
    callAs? s lowered = some (f, argument) ↔
      ∃ w, IsCased f.name.toList w ∧ s = w ++ ' ' :: argument := by
  constructor
  · intro calls
    obtain ⟨g, found, same⟩ := Option.map_eq_some_iff.1 calls
    obtain ⟨rfl, rfl⟩ := Prod.mk.inj same
    have starts := List.find?_some found
    obtain ⟨more, whole⟩ := List.isPrefixOf_iff_prefix.1 starts
    obtain ⟨v, rest, rfl, cased, -⟩ := lowers.exists_of_append (isKeyword_name g) whole.symm
    obtain ⟨w, rfl, name⟩ := isCased_name_append.1 cased
    refine ⟨w, name, ?_⟩
    rw [length_of_isCased_name name, List.drop_left, List.append_assoc]
    rfl
  · rintro ⟨w, name, rfl⟩
    have cased := isCased_name_append.2 ⟨w, rfl, name⟩
    have whole : w ++ ' ' :: argument = w ++ [' '] ++ argument := by simp
    obtain ⟨more, rfl, -⟩ := lowers.exists_append (isKeyword_name f) cased whole
    rw [callAs?, List.append_assoc, List.singleton_append, f.find?_all, whole, Option.map_some,
      length_of_isCased_name name, List.drop_left]

/-- What a line does is said of the line as it was typed, without the blanks around it. -/
structure Dispatches (line : Text) (exits : Bool) (command : Option NamedFunction × Text) :
    Prop where
  exits_iff : exits = true ↔ IsCased "exit".toList (trim isBlank line)
  calls_iff : ∀ f argument, command = (some f, argument) ↔
    ∃ w, IsCased f.name.toList w ∧ trim isBlank line = w ++ ' ' :: argument
  argument : ∀ f argument, command = (some f, argument) →
    argument ≠ [] ∧ ∀ a, argument.getLast? = some a → isBlank a = false
  unique : ∀ (f g : NamedFunction) (v w s t : Text),
    IsCased f.name.toList v → IsCased g.name.toList w →
    trim isBlank line = v ++ ' ' :: s → trim isBlank line = w ++ ' ' :: t → f = g ∧ s = t
  otherwise : command.1 = none → command.2 = line

theorem commandAs_eq_iff {line lowered argument : Text} {f : NamedFunction} :
    commandAs line lowered = (some f, argument) ↔
      callAs? (trim isBlank line) lowered = some (f, argument) := by
  rw [commandAs]
  cases callAs? (trim isBlank line) lowered with
  | none => simp
  | some p => simp [Prod.ext_iff]

/-- Any lower-case form leads to what the trimmed line says. -/
theorem dispatches_of_lowers {line lowered : Text} (lowers : Lowers (trim isBlank line) lowered) :
    Dispatches line (decide (lowered = "exit".toList)) (commandAs line lowered) := by
  have calls (f : NamedFunction) (argument : Text) :
      commandAs line lowered = (some f, argument) ↔
        ∃ w, IsCased f.name.toList w ∧ trim isBlank line = w ++ ' ' :: argument :=
    commandAs_eq_iff.trans (callAs?_eq_some_iff lowers)
  constructor
  case exits_iff =>
    rw [decide_eq_true_iff]
    exact lowers.eq_iff isKeyword_exit
  case calls_iff => exact calls
  case argument =>
    intro f argument command
    obtain ⟨w, -, whole⟩ := (calls f argument).1 command
    have last (a : Char) (isLast : (w ++ ' ' :: argument).getLast? = some a) : isBlank a = false :=
      of_getLast?_trim (whole ▸ isLast)
    constructor
    · rintro rfl
      exact absurd (last ' ' (by simp)) (by decide)
    · intro a isLast
      exact last a (by simp [List.getLast?_append, List.getLast?_cons, isLast])
  case unique =>
    intro f g v w s t casedV casedW front back
    have first := (calls f s).2 ⟨v, casedV, front⟩
    have second := (calls g t).2 ⟨w, casedW, back⟩
    simpa using first.symm.trans second
  case otherwise =>
    rw [commandAs]
    cases callAs? (trim isBlank line) lowered with
    | none => exact fun _ => rfl
    | some p => simp

/-- The trimmed line alone decides what a line does: only the word `exit` in any case ends the
session, only the name of a function in any case and a space call a function, with all that stands
behind the space, and any other line is an expression as it stands. The lower-case form in which the
keywords are looked for may be any that letters can have. -/
theorem dispatches (settings : Settings) (line : Text) :
    Dispatches line (reply settings line).done (command line) ∧
    (reply settings line =
      if (reply settings line).done then .farewell
      else match command line with
        | (some f, argument) =>
          replyWith settings ((f.call argument).mapError ArgumentError.advice)
        | (none, rest) =>
          replyWith settings
            ((evaluate rest : Except ParseError Float).mapError ParseError.advice)) ∧
    ∀ lowered, Lowers (trim isBlank line) lowered →
      Dispatches line (decide (lowered = "exit".toList)) (commandAs line lowered) := by
  refine ⟨?_, ?_, fun lowered lowers => dispatches_of_lowers lowers⟩
  · rw [done_reply]
    exact dispatches_of_lowers (lowers_lower _)
  · rw [done_reply]
    cases exits : isExit line with
    | true => exact reply_of_isExit exits settings
    | false => exact reply_of_not_isExit exits settings

end Session

end Calculator
