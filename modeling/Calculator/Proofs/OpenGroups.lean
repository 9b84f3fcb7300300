import Calculator.Proofs.Chains
import Calculator.Proofs.ErrorCause

/-!
What is done to the groups is followed beside a reading (`Watched`): a group is what the calls on it
make of it. Each group that is not closed has been given factors and operators in turn and lacks a
factor (`Tracked.IsUnfinished`), so that it is closed only with a whole chain and no term of it is
closed before its last factor is there.
-/

namespace Calculator

open Cursor

variable {α : Type}

namespace Group

/-- The calls by which the group closes a term. -/
def Step.closesTerm : Step α → Bool
  | .factor _ => false
  | .operator op => !op.isProduct
  | .result => true

/-- The calls for a chain of which nothing is missing but the result. -/
def taken (c : Chain α) : List (Step α) := .factor c.first :: links c.others

theorem steps_eq (c : Chain α) : c.steps = taken c ++ [.result] := rfl

/-- A factor behind an operator lengthens the chain. -/
theorem taken_concat (c : Chain α) (op : Operator) (value : α) :
    taken c ++ [.operator op, .factor value] = taken ⟨c.first, c.others ++ [(op, value)]⟩ := by
  simp [taken, links]

theorem exists_taken_eq_concat (c : Chain α) :
    ∃ earlier value, taken c = earlier ++ [.factor value] := by
  obtain ⟨first, others⟩ := c
  rcases List.eq_nil_or_concat' others with rfl | ⟨before, ⟨op, value⟩, rfl⟩
  · exact ⟨[], first, rfl⟩
  · exact ⟨taken ⟨first, before⟩ ++ [.operator op], value, by simp [taken, links]⟩

/-- Before every call but a factor, a chain has been taken. -/
theorem exists_taken_of_append {c : Chain α} {before later : List (Step α)} {s last : Step α}
    (split : taken c ++ [last] = before ++ s :: later) (other : ∀ value, s ≠ .factor value) :
    ∃ c', before = taken c' := by
  obtain ⟨first, others⟩ := c
  induction others generalizing first before with
  | nil =>
    rcases before with _ | ⟨_, _ | ⟨_, before⟩⟩
    · exact absurd (List.cons.inj split).1.symm (other first)
    · obtain ⟨rfl, _⟩ := List.cons.inj split
      exact ⟨⟨first, []⟩, rfl⟩
    · simp [taken, links] at split
  | cons p others ih =>
    rcases before with _ | ⟨_, _ | ⟨_, before⟩⟩
    · exact absurd (List.cons.inj split).1.symm (other first)
    · obtain ⟨rfl, _⟩ := List.cons.inj split
      exact ⟨⟨first, []⟩, rfl⟩
    · -- the rest of the calls is a chain that begins with the second factor
      obtain ⟨rfl, tail⟩ := List.cons.inj split
      obtain ⟨rfl, rest⟩ := List.cons.inj tail
      obtain ⟨c', rfl⟩ := ih p.2 rest
      exact ⟨⟨first, (p.1, c'.first) :: c'.others⟩, rfl⟩

variable [Arithmetic α]

theorem after_append (g : Group α) (steps steps' : List (Step α)) :
    g.after (steps ++ steps') = (g.after steps).after steps' :=
  List.foldl_append

/-- A group that has taken a chain has the value of the chain, and waits for no factor. -/
theorem after_taken (negate : Bool) (c : Chain α) :
    ((opened negate).after (taken c)).mulOp = none ∧
      ((opened negate).after (taken c)).result = c.value := by
  have whole := after_links (mulOp_addFactor (opened negate) c.first) c.others
  exact ⟨whole.1, whole.2.trans (finished_first (opened negate) c)⟩

end Group

/-! ## What is done to the groups -/

/-- A group by its sign and the calls on it. -/
structure Tracked (α : Type) where
  negate : Bool
  calls : List (Group.Step α)

namespace Tracked

/-- The group with more calls on it. -/
def call (g : Tracked α) (steps : List (Group.Step α)) : Tracked α :=
  { g with calls := g.calls ++ steps }

variable [Arithmetic α]

/-- What the calls make of a group that has just been opened. -/
def group (g : Tracked α) : Group α := (Group.opened g.negate).after g.calls

/-- No factor has come yet, and no operator waits; or an operator has come last. -/
def Waits (g : Tracked α) : Prop :=
  ((∀ value, .factor value ∉ g.calls) ∧ g.group.addOp = none ∧ g.group.mulOp = none) ∨
    ∃ op, g.calls.getLast? = some (.operator op)

/-- Wherever the group closes a term, a factor has come last, and no operator waits for one. -/
def ClosesWholeTerms (g : Tracked α) : Prop :=
  ∀ before s later, g.calls = before ++ s :: later → s.closesTerm = true →
    (∃ earlier value, before = earlier ++ [.factor value]) ∧
      ((Group.opened g.negate).after before).mulOp = none

/-- The calls on the group are those for a chain, whose value the last one gives. -/
def Gives (g : Tracked α) (x : α) : Prop :=
  ∃ c : Chain α, g.calls = c.steps ∧ c.value = x ∧
    ∃ closed, ((Group.opened g.negate).trace g.calls).getLast? = some (some x, closed)

end Tracked

/-- The groups that have been closed, the last one first, and those that wait, the current one
first. -/
structure Watch (α : Type) where
  closed : List (Tracked α)
  waiting : List (Tracked α)

/-- What a step of the reading does to the groups. -/
def Watch.step (w : Watch α) : Reading α → Watch α
  | .factor _ _ c =>
    if (c.signs.2.eat '(').1 then { w with waiting := ⟨c.signs.1, []⟩ :: w.waiting } else w
  | .behind _ _ value c =>
    match w.waiting with
    | [] => w
    | g :: outer =>
      match c.operator.1 with
      | some op => { w with waiting := g.call [.factor value, .operator op] :: outer }
      | none => { closed := g.call [.factor value, .result] :: w.closed, waiting := outer }

/-- The reading of an expression gets so far from a cursor, and has done so much to the groups. -/
inductive Watched [Arithmetic α] (c : Cursor) : Progress α → Watch α → Prop
  | start : Watched c (.next (.factor [] (.opened false) c)) ⟨[], [⟨false, []⟩]⟩
  | step {r w} (before : Watched c (.next r) w) : Watched c r.step (w.step r)

namespace Tracked

variable {g : Tracked α}

/-- Nothing has been called, or the calls for a chain have, with an operator behind them. -/
def IsUnfinished (g : Tracked α) : Prop :=
  g.calls = [] ∨ ∃ c op, g.calls = Group.taken c ++ [.operator op]

/-- A factor makes the calls those for a chain. -/
theorem IsUnfinished.exists_taken (unfinished : g.IsUnfinished) (value : α) :
    ∃ c, g.calls ++ [.factor value] = Group.taken c := by
  rcases unfinished with none | ⟨c, op, calls⟩
  · exact ⟨⟨value, []⟩, by rw [none]; rfl⟩
  · exact ⟨_, by rw [calls, List.append_assoc]; exact Group.taken_concat c op value⟩

theorem isUnfinished_opened (negate : Bool) : IsUnfinished (⟨negate, []⟩ : Tracked α) := .inl rfl

/-- With the factor that it lacks and an operator behind it, a group lacks a factor again. -/
theorem IsUnfinished.call_operator (unfinished : g.IsUnfinished) (value : α) (op : Operator) :
    (g.call [.factor value, .operator op]).IsUnfinished := by
  obtain ⟨c, calls⟩ := unfinished.exists_taken value
  refine .inr ⟨c, op, ?_⟩
  rw [← calls, List.append_assoc]
  rfl

variable [Arithmetic α]

theorem group_call (g : Tracked α) (steps : List (Group.Step α)) :
    (g.call steps).group = g.group.after steps :=
  Group.after_append _ _ _

/-- What lacks a factor waits for one. -/
theorem IsUnfinished.waits (unfinished : g.IsUnfinished) : g.Waits := by
  rcases unfinished with none | ⟨c, op, calls⟩
  · refine .inl ⟨fun value => ?_, ?_, ?_⟩
    · rw [none]
      exact List.not_mem_nil
    · rw [group, none]
      rfl
    · rw [group, none]
      rfl
  · exact .inr ⟨op, by rw [calls, List.getLast?_concat]⟩

/-- A group is closed with the value of the chain that it was given. -/
theorem IsUnfinished.gives (unfinished : g.IsUnfinished) (value : α) :
    (g.call [.factor value, .result]).Gives (g.group.addFactor value).result := by
  obtain ⟨c, calls⟩ := unfinished.exists_taken value
  have whole : (g.call [.factor value, .result]).calls = c.steps := by
    rw [Group.steps_eq, ← calls, List.append_assoc]
    rfl
  have same : g.group.addFactor value = (Group.opened g.negate).after (Group.taken c) := by
    rw [← calls, Group.after_append]
    rfl
  have value_eq : c.value = (g.group.addFactor value).result := by
    rw [same, (Group.after_taken g.negate c).2]
  refine ⟨c, whole, value_eq, (g.group.addFactor value).closeTerm, ?_⟩
  rw [whole, Group.steps_eq, Group.getLast?_trace_concat]
  change some (((Group.opened g.negate).after (Group.taken c)).step .result) = _
  rw [← same]
  rfl

/-- In front of what closes a term, the calls are those for a chain. -/
theorem closesWholeTerms_of_append {c : Chain α} {last : Group.Step α}
    (calls : g.calls = Group.taken c ++ [last]) : g.ClosesWholeTerms := by
  intro before s later split closes
  have other (value : α) : s ≠ .factor value := by
    rintro rfl
    cases closes
  obtain ⟨c', rfl⟩ := Group.exists_taken_of_append (calls.symm.trans split) other
  exact ⟨Group.exists_taken_eq_concat c', (Group.after_taken g.negate c').1⟩

theorem IsUnfinished.closesWholeTerms (unfinished : g.IsUnfinished) : g.ClosesWholeTerms := by
  rcases unfinished with none | ⟨c, op, calls⟩
  · intro before s later split
    simp [none] at split
  · exact closesWholeTerms_of_append calls

theorem Gives.closesWholeTerms {x : α} (gives : g.Gives x) : g.ClosesWholeTerms := by
  obtain ⟨c, calls, _⟩ := gives
  exact closesWholeTerms_of_append calls

end Tracked

/-- A run without parentheses opens and closes nothing. -/
theorem balance_run (c : Cursor) {p : Char → Bool} (noOpening : p '(' = false)
    (noClosing : p ')' = false) : Text.balance (c.run p) = 0 :=
  Text.balance_eq_zero (fun member => Bool.eq_false_iff.1 noOpening (of_mem_run member))
    (fun member => Bool.eq_false_iff.1 noClosing (of_mem_run member))

namespace Reading

/-- The groups of a reading, the current one first. -/
def groups : Reading α → List (Group α)
  | factor stack group _ => group :: stack
  | behind stack group _ _ => group :: stack

variable [Arithmetic α] {r s : Reading α}

/-- A turn opens and closes as many groups as there are parentheses in its text. -/
theorem Turn.exists_spans_balance (turn : Turn r (.next s)) :
    ∃ u, Spans r.cursor u s.cursor ∧ (r.depth : Int) + Text.balance u = s.depth := by
  have ofSigns {c d : Cursor} {odd : Bool} (signs : c.signs = (odd, d)) :
      ∃ u, Spans c u d ∧ Text.balance u = 0 := by
    obtain rfl : c.signs.2 = d := by rw [signs]
    exact ⟨_, .of_run c _, balance_run c (by decide) (by decide)⟩
  have ofSpaces {c d : Cursor} (spaces : c.skipSpaces = d) :
      ∃ u, Spans c u d ∧ Text.balance u = 0 := by
    subst spaces
    exact ⟨_, .of_run c _, balance_run c (by decide) (by decide)⟩
  cases turn with
  | opening signs here =>
    obtain ⟨u, spans, level⟩ := ofSigns signs
    refine ⟨u ++ ['('], spans.trans (.of_char here), ?_⟩
    rw [Text.balance_append, level, Text.balance_opening]
    simp [depth, Text.balance]
  | @literal _ _ _ _ d _ signs here found =>
    obtain ⟨u, spans, level⟩ := ofSigns signs
    refine ⟨u ++ d.run isNumeric, spans.trans (.of_run d _), ?_⟩
    rw [Text.balance_append, level, balance_run d (by decide) (by decide)]
    simp [depth]
  | @operator _ _ _ _ _ op spaces here =>
    obtain ⟨u, spans, level⟩ := ofSpaces spaces
    refine ⟨u ++ [op.symbol], spans.trans (.of_char here), ?_⟩
    have plain : op.symbol ≠ '(' ∧ op.symbol ≠ ')' := by cases op <;> decide
    rw [Text.balance_append, level, Text.balance_cons plain.1 plain.2]
    simp [depth, Text.balance]
  | closing spaces here =>
    obtain ⟨u, spans, level⟩ := ofSpaces spaces
    refine ⟨u ++ [')'], spans.trans (.of_char here), ?_⟩
    rw [Text.balance_append, level, Text.balance_closing]
    simp [depth, Text.balance]

end Reading

namespace Watch

variable {w : Watch α}

/-- Every group that waits lacks a factor, and every closed one has had a whole chain. -/
structure Sound [Arithmetic α] (w : Watch α) : Prop where
  waiting : ∀ g ∈ w.waiting, g.IsUnfinished
  closed : ∀ g ∈ w.closed, ∃ x, g.Gives x

variable [Arithmetic α]

/-- No step closes a group without the factor that it lacks. -/
theorem Sound.step (sound : w.Sound) (r : Reading α) : (w.step r).Sound := by
  -- the case splits are those of the watch, so the groups of the reading are not needed yet
  obtain ⟨closed, waiting⟩ := w
  cases r with
  | factor stack group c =>
    rw [Watch.step]
    split
    case isTrue =>
      exact ⟨List.forall_mem_cons.2 ⟨Tracked.isUnfinished_opened _, sound.waiting⟩, sound.closed⟩
    case isFalse => exact sound
  | behind stack group value c =>
    cases waiting with
    | nil => exact sound
    | cons g outer =>
      obtain ⟨current, others⟩ := List.forall_mem_cons.1 sound.waiting
      simp only [Watch.step]
      split
      case h_1 op found =>
        exact ⟨List.forall_mem_cons.2 ⟨current.call_operator value op, others⟩, sound.closed⟩
      case h_2 =>
        exact ⟨others, List.forall_mem_cons.2 ⟨⟨_, current.gives value⟩, sound.closed⟩⟩

open Reading in
/-- The groups of the reading are what the calls make of them, before the step and after it. -/
theorem groups_step {r s : Reading α} (turn : Turn r (.next s))
    (same : r.groups = w.waiting.map Tracked.group) :
    s.groups = (w.step r).waiting.map Tracked.group := by
  obtain ⟨closed, waiting⟩ := w
  cases turn with
  | opening signs here =>
    simp only [Watch.step, signs, eat_eq (char_ne_of_signs signs), here, ↓reduceIte]
    exact congrArg _ same
  | @literal _ _ _ _ d _ signs here found =>
    have noGroup := ne_opening_of_numeric here
    simp only [Watch.step, signs, eat_eq (char_ne_of_signs signs), noGroup, ↓reduceIte]
    exact same
  | operator spaces here =>
    obtain ⟨g, outer, rfl, rfl, rfl⟩ := List.map_eq_cons_iff.1 same.symm
    simp only [Watch.step, operator_eq_some spaces here]
    rw [List.map_cons, Tracked.group_call]
    rfl
  | closing spaces here =>
    obtain ⟨g, outer, rfl, rfl, rest⟩ := List.map_eq_cons_iff.1 same.symm
    simp only [Watch.step, operator_eq_none spaces (ne_symbol_of_closing here)]
    exact rest.symm

end Watch

namespace Watched

open Reading

variable [Arithmetic α] {c d : Cursor} {p : Progress α} {r : Reading α} {w : Watch α}

theorem of_turn {w' : Watch α} (before : Watched c (.next r) w) (turn : Turn r p)
    (does : w.step r = w') : Watched c p w' := by
  subst does
  rw [← turn.step_eq]
  exact before.step

/-- The invariant along the reading, by induction on how far it has got. -/
theorem sound (watched : Watched c p w) : w.Sound := by
  induction watched with
  | start =>
    exact ⟨List.forall_mem_singleton.2 (Tracked.isUnfinished_opened false), List.forall_mem_nil _⟩
  | @step r _ _ ih => exact ih.step r

theorem groups_eq (watched : Watched c (.next r) w) :
    r.groups = w.waiting.map Tracked.group := by
  generalize at_next : Progress.next r = p at watched
  induction watched generalizing r with
  | start => cases at_next; rfl
  | @step q _ _ ih =>
    have turn := turn_step q
    rw [← at_next] at turn
    exact Watch.groups_step turn (ih rfl)

/-- As many groups are open as parentheses before the cursor. -/
theorem exists_spans_depth (watched : Watched c (.next r) w) :
    ∃ u, Spans c u r.cursor ∧ (r.depth : Int) = Text.balance u := by
  generalize at_next : Progress.next r = p at watched
  induction watched generalizing r with
  | start => cases at_next; exact ⟨[], .refl c, rfl⟩
  | @step q _ _ ih =>
    have turn := turn_step q
    rw [← at_next] at turn
    obtain ⟨u, before, level⟩ := ih rfl
    obtain ⟨v, after, change⟩ := turn.exists_spans_balance
    refine ⟨u ++ v, before.trans after, ?_⟩
    rw [Text.balance_append, ← level, change]

/-- The value of an expression is that of the chain that was given to the group closed last. -/
theorem exists_gives {x : α} (watched : Watched c (.stop (.ok x) d) w) :
    ∃ g, w.closed.head? = some g ∧ g.Gives x := by
  generalize at_stop : Progress.stop (.ok x) d = p at watched
  cases watched with
  | start => cases at_stop
  | @step q w before =>
    have turn := turn_step q
    rw [← at_stop] at turn
    obtain ⟨closed, waiting⟩ := w
    cases turn with
    | result spaces noOperator =>
      obtain ⟨g, outer, rfl, rfl, _⟩ := List.map_eq_cons_iff.1 before.groups_eq.symm
      have unfinished := before.sound.waiting g List.mem_cons_self
      refine ⟨_, ?_, unfinished.gives _⟩
      simp only [Watch.step, operator_eq_none spaces noOperator]
      rfl

/-- Every reading is followed to where it stops. -/
theorem exists_stop (c : Cursor) :
    ∃ w, Watched c (.stop (c.expression (α := α)).1 (c.expression (α := α)).2) w := by
  have kept {r s : Reading α} (before : ∃ w, Watched c (.next r) w) (turn : Turn r (.next s)) :
      ∃ w, Watched c (.next s) w := by
    obtain ⟨w, before⟩ := before
    exact ⟨_, before.of_turn turn rfl⟩
  obtain ⟨s, ⟨w, before⟩, stop⟩ := exists_turn_stop _ kept ⟨_, .start⟩
  exact ⟨_, before.of_turn stop rfl⟩

end Watched

/-! ## The zero that a group starts from -/

/-- Groups that differ only in a sum or a product for which no operator waits. -/
structure Group.Alike (g h : Group α) : Prop where
  negate : g.negate = h.negate
  addOp : g.addOp = h.addOp
  mulOp : g.mulOp = h.mulOp
  total : g.addOp ≠ none → g.total = h.total
  product : g.mulOp ≠ none → g.product = h.product

namespace Group.Alike

variable [Arithmetic α] {g h : Group α}

/-- With the same factor, groups that are alike come to the same product. -/
theorem addFactor (alike : g.Alike h) (value : α) :
    (g.addFactor value).Alike (h.addFactor value) ∧
      (g.addFactor value).product = (h.addFactor value).product := by
  obtain ⟨negate, total, addOp, product, mulOp⟩ := g
  obtain ⟨_, total', _, product', _⟩ := h
  obtain ⟨rfl, rfl, rfl, sameTotal, sameProduct⟩ := alike
  cases mulOp with
  | none => exact ⟨⟨rfl, rfl, rfl, sameTotal, fun waits => absurd rfl waits⟩, rfl⟩
  | some op =>
    obtain rfl : product = product' := sameProduct (Option.some_ne_none op)
    exact ⟨⟨rfl, rfl, rfl, sameTotal, fun waits => absurd rfl waits⟩, rfl⟩

theorem result_eq (alike : g.Alike h) (same : g.product = h.product) : g.result = h.result := by
  obtain ⟨negate, total, addOp, product, mulOp⟩ := g
  obtain ⟨_, total', _, product', _⟩ := h
  obtain ⟨rfl, rfl, rfl, sameTotal, _⟩ := alike
  obtain rfl : product = product' := same
  cases addOp with
  | none => rfl
  | some op =>
    obtain rfl : total = total' := sameTotal (Option.some_ne_none op)
    rfl

theorem signed_eq (alike : g.Alike h) (same : g.product = h.product) :
    g.signed g.result = h.signed h.result := by
  rw [alike.result_eq same, Group.signed, Group.signed, alike.negate]

/-- A sum for which an operator waits from now on has just been made of the product. -/
theorem addOperator (alike : g.Alike h) (same : g.product = h.product) (op : Operator) :
    (g.addOperator op).Alike (h.addOperator op) := by
  have sum := alike.result_eq same
  rw [Group.addOperator, Group.addOperator]
  cases op.isProduct with
  | true => exact ⟨alike.negate, alike.addOp, rfl, alike.total, fun _ => same⟩
  | false =>
    refine ⟨?_, rfl, ?_, fun _ => sum, fun _ => ?_⟩
    · simpa using alike.negate
    · simpa using alike.mulOp
    · simpa using same

end Group.Alike

/-- The arithmetic with another zero. -/
@[reducible] def Arithmetic.startingFrom [Arithmetic α] (zero : α) : Arithmetic α :=
  { ‹Arithmetic α› with zero }

namespace Reading

/-- Readings at the same place, with groups that are alike. -/
inductive Alike : Reading α → Reading α → Prop
  | factor {stack stack' group group' c} (current : group.Alike group')
      (outer : List.Forall₂ Group.Alike stack stack') :
      Alike (.factor stack group c) (.factor stack' group' c)
  | behind {stack stack' group group' value c} (current : group.Alike group')
      (outer : List.Forall₂ Group.Alike stack stack') :
      Alike (.behind stack group value c) (.behind stack' group' value c)

variable [Arithmetic α] {r r' s : Reading α} (zero : α)

/-- Groups that have just been opened are alike, whatever they start from. -/
theorem alike_opened (odd : Bool) :
    (Group.opened odd).Alike (@Group.opened α (.startingFrom zero) odd) :=
  ⟨rfl, rfl, rfl, fun waits => absurd rfl waits, fun waits => absurd rfl waits⟩

/-- From readings that are alike the same turn is taken. -/
theorem Turn.exists_alike (alike : Alike r r') (turn : Turn r (.next s)) :
    ∃ s', Alike s s' ∧ @Turn α (.startingFrom zero) r' (.next s') := by
  -- only the turn that opens a group looks at the zero; the others are the same in both arithmetics
  cases turn with
  | opening signs here =>
    cases alike with | factor current outer =>
    exact ⟨_, .factor (alike_opened zero _) (.cons current outer),
      letI := Arithmetic.startingFrom zero; .opening signs here⟩
  | literal signs here found =>
    cases alike with | factor current outer =>
    exact ⟨_, .behind current outer,
      letI := Arithmetic.startingFrom zero; .literal signs here found⟩
  | operator spaces here =>
    cases alike with | behind current outer =>
    obtain ⟨taken, product⟩ := current.addFactor _
    exact ⟨_, .factor (taken.addOperator product _) outer,
      letI := Arithmetic.startingFrom zero; .operator spaces here⟩
  | @closing _ _ group value _ _ spaces here =>
    cases alike with | @behind _ _ _ group' _ _ current outer =>
    cases outer with | cons first outer =>
    obtain ⟨taken, product⟩ := current.addFactor value
    refine ⟨_, .behind first outer, ?_⟩
    rw [taken.signed_eq product]
    exact letI := Arithmetic.startingFrom zero; .closing spaces here

theorem Turn.stop_alike {outcome : Except ParseError α} {c : Cursor} (alike : Alike r r')
    (turn : Turn r (.stop outcome c)) : @Turn α (.startingFrom zero) r' (.stop outcome c) := by
  cases turn with
  | noLiteral signs here valueless =>
    cases alike with | factor current outer =>
    exact letI := Arithmetic.startingFrom zero; .noLiteral signs here valueless
  | noFactor signs noGroup noNumber =>
    cases alike with | factor current outer =>
    exact letI := Arithmetic.startingFrom zero; .noFactor signs noGroup noNumber
  | @result group value _ _ spaces noOperator =>
    cases alike with | behind current outer =>
    cases outer
    obtain ⟨taken, product⟩ := current.addFactor value
    rw [taken.result_eq product]
    exact letI := Arithmetic.startingFrom zero; .result spaces noOperator
  | unclosed spaces noOperator noClosing =>
    cases alike with | behind current outer =>
    cases outer
    exact letI := Arithmetic.startingFrom zero; .unclosed spaces noOperator noClosing

theorem Alike.run_eq (alike : Alike r r') : @Reading.run α (.startingFrom zero) r' = r.run := by
  induction r using Reading.run.induct generalizing r' with
  | case1 r s next ih =>
    have turn := turn_step r
    rw [next] at turn
    obtain ⟨s', alike', turn'⟩ := turn.exists_alike zero alike
    rw [turn.run_eq, @Turn.run_eq α (.startingFrom zero) _ _ turn']
    exact ih alike'
  | case2 r outcome c stop =>
    have turn := turn_step r
    rw [stop] at turn
    have turn' := turn.stop_alike zero alike
    rw [turn.run_eq_stop, @Turn.run_eq_stop α (.startingFrom zero) _ _ _ turn']

end Reading

/-- The zero that the groups start from is never looked at. -/
theorem expression_startingFrom [Arithmetic α] (zero : α) (c : Cursor) :
    @Cursor.expression α (.startingFrom zero) c = c.expression :=
  Reading.Alike.run_eq zero (.factor (Reading.alike_opened zero false) .nil)

section

variable [Arithmetic α]

/-- What is true of the groups wherever a reading gets. -/
structure Disciplined (c : Cursor) (p : Progress α) (w : Watch α) : Prop where
  /-- The calls that have been followed make up the groups of the reading. -/
  groups : ∀ r, p = .next r → r.groups = w.waiting.map Tracked.group
  /-- Where a factor comes next, as many groups are stacked as parentheses have been left open. -/
  stacked : ∀ stack group d, p = .next (.factor stack group d) →
    (stack.length : Int) = Text.balance ((c.text.take d.pos).drop c.pos)
  waits : ∀ g ∈ w.waiting, g.Waits
  closesWholeTerms : ∀ g ∈ w.closed ++ w.waiting, g.ClosesWholeTerms
  /-- No operator is dropped. -/
  gives : ∀ g ∈ w.closed, ∃ x, g.Gives x
  value : ∀ x d, p = .stop (.ok x) d → ∃ g, w.closed.head? = some g ∧ g.Gives x

/-- Wherever the reading of an expression gets, as many groups are stacked as parentheses are open,
each of them waits for a factor, and no group has closed a term before the last factor of it was
there. So what a group is closed with is the value of a whole chain, and the zero that it starts
from never counts. A reading is followed so up to where it stops. -/
theorem groups_disciplined (c : Cursor) :
    (∀ (p : Progress α) (w : Watch α), Watched c p w → Disciplined c p w) ∧
      (∃ w, Watched c (.stop (c.expression (α := α)).1 (c.expression (α := α)).2) w) ∧
      ∀ zero : α, @Cursor.expression α (.startingFrom zero) c = c.expression := by
  refine ⟨fun p w watched => ?_, Watched.exists_stop c, fun zero => expression_startingFrom zero c⟩
  obtain ⟨waiting, closed⟩ := watched.sound
  refine ⟨?_, ?_, fun g member => (waiting g member).waits, fun g member => ?_, closed, ?_⟩
  · rintro r rfl
    exact watched.groups_eq
  · rintro stack group d rfl
    obtain ⟨u, spans, level⟩ := watched.exists_spans_depth
    have consumed : (c.text.take d.pos).drop c.pos = u := spans.drop_take_eq
    rw [consumed]
    exact level
  · rcases List.mem_append.1 member with before | now
    · obtain ⟨x, gives⟩ := closed g before
      exact gives.closesWholeTerms
    · exact (waiting g now).closesWholeTerms
  · rintro x d rfl
    exact watched.exists_gives

end

/-- Behind an operator in a group that is negated, which is inside another one. -/
theorem groups_disciplined_product :
    let c := start "-(2*".toList
    let w : Watch Float := ⟨[], [⟨true, [.factor 2, .operator .multiply]⟩, ⟨false, []⟩]⟩
    let p : Progress Float :=
      .next (.factor [.opened false] ⟨true, 0, none, 2, some .multiply⟩ (c.forward 4))
    Watched c p w ∧ Disciplined c p w := by
  intro c w p
  have two : (Arithmetic.literal ['2'] : Option Float) = some 2 := by decide +kernel
  have noSign : (c.forward 2).signs = (false, c.forward 2) := by decide
  have noSpace : (c.forward 3).skipSpaces = c.forward 3 := by decide
  have times : (c.forward 3).char = some (Operator.symbol .multiply) := by decide
  have opening : Reading.Turn (.factor [] (.opened false) c)
      (.next (.factor [.opened false] (.opened (α := Float) true) (c.forward 2))) :=
    .opening (d := c.forward 1) (by decide) (by decide)
  have literal : Reading.Turn (.factor [.opened false] (.opened true) (c.forward 2))
      (.next (.behind [.opened false] (.opened true) (2 : Float) (c.forward 3))) :=
    .literal noSign (by decide) two
  have operator : Reading.Turn
      (.behind [.opened false] (.opened true) (2 : Float) (c.forward 3)) p :=
    .operator noSpace times
  have watched : Watched c p w :=
    ((Watched.start.of_turn opening rfl).of_turn literal rfl).of_turn operator rfl
  exact ⟨watched, (groups_disciplined c).1 p w watched⟩

end Calculator
