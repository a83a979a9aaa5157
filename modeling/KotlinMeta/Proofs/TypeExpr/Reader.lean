import Mathlib.Order.Filter.AtTopBot.Basic
import KotlinMeta.Identifier
import KotlinMeta.Proofs.Text.Segments
import KotlinMeta.TypeExpr.Notation

/-! # A reader for the notation of types

`Notation.type` takes a type from the front of a text and leaves what follows. Whether parentheses
enclose the parameters of a function type, a receiver or a nullable function type is not known until
they are closed, so that what they hold is read first. Every name is taken for that of a class
without package.

Here are the parts that the reader is made of: names (`spanName_dotted`), lists of items
(`items_commaSeparated`) and words in front of a type (`afterWord?_word`, `afterWord?_name`), and
what the first character of a text decides.
-/

set_option autoImplicit false

namespace KotlinMeta

open Filter (atTop)

/-! ## The reader -/

namespace Notation

/-- A name goes on with a character of an identifier, or with a point and such a character. -/
def goesOn : List Char → Bool
  | [] => false
  | c :: rest => Identifier.canContinue c || (c == '.' && rest.head?.any Identifier.canContinue)

/-- The name at the front of a text, and what follows it. -/
def spanName : List Char → List Char × List Char
  | [] => ([], [])
  | c :: rest =>
    if goesOn (c :: rest) then (c :: (spanName rest).1, (spanName rest).2) else ([], c :: rest)

/-- What follows a word and a space at the front of a text. -/
def afterWord? (word : String) (cs : List Char) : Option (List Char) :=
  match spanName cs with
  | (name, ' ' :: rest) => if name = word.toList then some rest else none
  | _ => none

/-- A named type, nullable if a question mark follows. -/
def marked (name : List Char) (arguments : List TypeArg) : List Char → TypeExpr × List Char
  | '?' :: rest => (.named ⟨"", [String.ofList name]⟩ arguments true, rest)
  | rest => (.named ⟨"", [String.ofList name]⟩ arguments false, rest)

/-- Reads one item or more, with a comma and a space between them, and the closing bracket. -/
def items {α : Type} (close : Char) (read : List Char → Option (α × List Char)) :
    Nat → List Char → Option (List α × List Char)
  | 0, _ => none
  | fuel + 1, cs =>
    match read cs with
    | none => none
    | some (a, ',' :: ' ' :: rest) =>
      (items close read fuel rest).map fun (as, after) => (a :: as, after)
    | some (a, c :: rest) => if c = close then some ([a], rest) else none
    | some (_, []) => none

mutual

/-- Reads a type. -/
def type : Nat → List Char → Option (TypeExpr × List Char)
  | 0, _ => none
  | fuel + 1, cs =>
    match afterWord? "suspend" cs with
    | some rest => (unsuspended fuel rest).map fun (t, after) => (t.withSuspend true, after)
    | none => unsuspended fuel cs

/-- Reads a type without a mark for suspension. -/
def unsuspended : Nat → List Char → Option (TypeExpr × List Char)
  | 0, _ => none
  | fuel + 1, '(' :: cs =>
    match parameters fuel cs with
    | some ([t], '.' :: '(' :: rest) => extension fuel t rest
    | some ([t], '?' :: rest) => some (t.withNullable true, rest)
    | some (ts, after) => result fuel none ts after
    | none => none
  | fuel + 1, cs =>
    match named fuel cs with
    | some (t, '.' :: '(' :: rest) => extension fuel t rest
    | found => found

/-- Reads the rest of a function type with a receiver, after the bracket that opens the
parameters. -/
def extension : Nat → TypeExpr → List Char → Option (TypeExpr × List Char)
  | 0, _, _ => none
  | fuel + 1, receiver, cs =>
    match parameters fuel cs with
    | some (ts, after) => result fuel (some receiver) ts after
    | none => none

/-- Reads the arrow and the result of a function type. -/
def result : Nat → Option TypeExpr → List TypeExpr → List Char → Option (TypeExpr × List Char)
  | 0, _, _, _ => none
  | fuel + 1, receiver, ts, ' ' :: '-' :: '>' :: ' ' :: rest =>
    (type fuel rest).map fun (t, after) => (.function receiver ts t false false, after)
  | _, _, _, _ => none

/-- Reads types up to the bracket that closes the parameters. -/
def parameters : Nat → List Char → Option (List TypeExpr × List Char)
  | 0, _ => none
  | _ + 1, ')' :: rest => some ([], rest)
  | fuel + 1, cs => items ')' (type fuel) fuel cs

/-- Reads a name with its arguments. -/
def named : Nat → List Char → Option (TypeExpr × List Char)
  | 0, _ => none
  | fuel + 1, cs =>
    match spanName cs with
    | (name, '<' :: rest) =>
      (items '>' (argument fuel) fuel rest).map fun (arguments, after) =>
        marked name arguments after
    | (name, after) => some (marked name [] after)

/-- Reads a type argument. -/
def argument : Nat → List Char → Option (TypeArg × List Char)
  | 0, _ => none
  | _ + 1, '*' :: rest => some (.star, rest)
  | fuel + 1, cs =>
    match afterWord? "in" cs, afterWord? "out" cs with
    | some rest, _ => (type fuel rest).map fun (t, after) => (.contravariant t, after)
    | none, some rest => (type fuel rest).map fun (t, after) => (.covariant t, after)
    | none, none => (type fuel cs).map fun (t, after) => (.invariant t, after)

end

/-! ## Names -/

/-- Runs of letters, digits and underscores with points between them, none of them empty. -/
def IsDotted (name : String) : Prop :=
  ∀ run ∈ Text.segments '.' name.toList,
    run ≠ [] ∧ ∀ c ∈ run, Identifier.canContinue c = true

instance (name : String) : Decidable (IsDotted name) :=
  decidable_of_iff
    ((Text.segments '.' name.toList).all fun run =>
      !run.isEmpty && run.all Identifier.canContinue)
    (by simp [IsDotted])

theorem canContinue_sign {c : Char} (h : c ∈ [' ', '(', ')', ',', '.', '<', '>', '?', '*']) :
    Identifier.canContinue c = false := by
  have hall : [' ', '(', ')', ',', '.', '<', '>', '?', '*'].all
      (fun c => !Identifier.canContinue c) = true := by decide +kernel
  simpa using List.all_eq_true.mp hall c h

theorem spanName_of_not_goesOn {cs : List Char} (h : goesOn cs = false) :
    spanName cs = ([], cs) := by
  cases cs with
  | nil => rfl
  | cons c rest => rw [spanName, h]; rfl

theorem spanName_run {run : List Char} (hrun : ∀ c ∈ run, Identifier.canContinue c = true)
    (rest : List Char) :
    spanName (run ++ rest) = (run ++ (spanName rest).1, (spanName rest).2) := by
  induction run with
  | nil => rfl
  | cons c run ih =>
      obtain ⟨hc, hrun⟩ := List.forall_mem_cons.mp hrun
      rw [List.cons_append, spanName, goesOn, hc, ih hrun]
      rfl

theorem spanName_joined {runs : List (List Char)} (hne : runs ≠ [])
    (hruns : ∀ run ∈ runs, run ≠ [] ∧ ∀ c ∈ run, Identifier.canContinue c = true)
    {rest : List Char} (hrest : goesOn rest = false) :
    spanName (Text.joined '.' runs ++ rest) = (Text.joined '.' runs, rest) := by
  induction runs with
  | nil => exact absurd rfl hne
  | cons run runs ih =>
      obtain ⟨⟨-, hrun⟩, hruns⟩ := List.forall_mem_cons.mp hruns
      cases runs with
      | nil => rw [Text.joined, spanName_run hrun, spanName_of_not_goesOn hrest, List.append_nil]
      | cons next runs =>
          have hpoint : goesOn ('.' :: (Text.joined '.' (next :: runs) ++ rest)) = true := by
            obtain ⟨hnext, hchars⟩ := hruns next List.mem_cons_self
            obtain ⟨c, next, rfl⟩ := List.exists_cons_of_ne_nil hnext
            rw [Text.joined_cons_cons, List.cons_append, goesOn]
            simp [hchars c List.mem_cons_self]
          rw [Text.joined, List.append_assoc, spanName_run hrun, List.cons_append, spanName,
            if_pos hpoint, ih (by simp) hruns]

/-- **A name is read** up to where no name goes on. -/
theorem spanName_dotted {name : String} (h : IsDotted name) {rest : List Char}
    (hrest : goesOn rest = false) : spanName (name.toList ++ rest) = (name.toList, rest) := by
  have hspan := spanName_joined (Text.segments_ne_nil '.' name.toList) h hrest
  rwa [Text.joined_segments] at hspan

/-- A name starts with a character of an identifier. -/
theorem exists_cons_of_dotted {name : String} (h : IsDotted name) :
    ∃ c cs, name.toList = c :: cs ∧ Identifier.canContinue c = true := by
  obtain ⟨run, runs, hsegments⟩ :=
    List.exists_cons_of_ne_nil (Text.segments_ne_nil '.' name.toList)
  obtain ⟨hne, hchars⟩ := h run (by simp [hsegments])
  obtain ⟨c, run, rfl⟩ := List.exists_cons_of_ne_nil hne
  refine ⟨c, Text.joined '.' (run :: runs), ?_, hchars c List.mem_cons_self⟩
  rw [← Text.joined_segments '.' name.toList, hsegments, Text.joined_cons_cons]

/-! ## What follows a type -/

/-- Nothing goes on after a type: the text ends, or a comma or a closing bracket follows. -/
def Ends (rest : List Char) : Prop :=
  rest = [] ∨ ∃ c after, rest = c :: after ∧ (c = ',' ∨ c = ')' ∨ c = '>')

/-- Nothing but the parameters of a function type, whose receiver it is, goes on after a type. -/
def Stops (rest : List Char) : Prop := Ends rest ∨ ∃ after, rest = '.' :: '(' :: after

theorem goesOn_sign {c : Char} (h : c ∈ [' ', '(', ')', ',', '<', '>', '?', '*'])
    (rest : List Char) : goesOn (c :: rest) = false := by
  have hpoint : c ≠ '.' := by
    rintro rfl
    revert h
    decide
  have hc : Identifier.canContinue c = false := canContinue_sign (by
    revert h
    simp only [List.mem_cons]
    tauto)
  rw [goesOn, hc, beq_eq_false_iff_ne.mpr hpoint]
  rfl

theorem goesOn_receiver (rest : List Char) : goesOn ('.' :: '(' :: rest) = false := by
  rw [goesOn, List.head?_cons, Option.any_some, canContinue_sign (by decide),
    canContinue_sign (by decide)]
  rfl

/-- What comes behind a type and before anything else cannot belong to a name and is no space,
no question mark and no bracket that opens arguments. -/
theorem Stops.signs {rest : List Char} (h : Stops rest) :
    goesOn rest = false ∧ (∀ after, rest ≠ ' ' :: after) ∧ (∀ after, rest ≠ '?' :: after) ∧
      ∀ after, rest ≠ '<' :: after := by
  rcases h with (rfl | ⟨c, after, rfl, rfl | rfl | rfl⟩) | ⟨after, rfl⟩
  · simp [goesOn]
  · simp [goesOn_sign]
  · simp [goesOn_sign]
  · simp [goesOn_sign]
  · simp [goesOn_receiver]

/-! ## Fuel -/

/-- What holds of all fuel but some holds with one piece more as well. -/
theorem eventually_of_succ {P : Nat → Prop} (h : ∀ᶠ fuel in atTop, P (fuel + 1)) :
    ∀ᶠ fuel in atTop, P fuel := by
  rw [← Filter.map_add_atTop_eq_nat 1, Filter.eventually_map]
  exact h

theorem eventually_forall_mem {α : Type} {P : α → Nat → Prop} {as : List α}
    (h : ∀ a ∈ as, ∀ᶠ fuel in atTop, P a fuel) : ∀ᶠ fuel in atTop, ∀ a ∈ as, P a fuel := by
  induction as with
  | nil => simp
  | cons a as ih =>
      obtain ⟨ha, has⟩ := List.forall_mem_cons.mp h
      filter_upwards [ha, ih has] with fuel ha has
      exact List.forall_mem_cons.mpr ⟨ha, has⟩

/-! ## Lists -/

/-- **Items are read** one after another, if each can be read where an item can end. -/
theorem items_commaSeparated {α β : Type} {close : Char} (hclose : close = ')' ∨ close = '>')
    {read : List Char → Option (β × List Char)} {display : α → String} {value : α → β}
    {as : List α} (hne : as ≠ [])
    (hread : ∀ a ∈ as, ∀ rest, Ends rest →
      read ((display a).toList ++ rest) = some (value a, rest))
    {fuel : Nat} (hfuel : as.length ≤ fuel) (rest : List Char) :
    items close read fuel ((commaSeparated (as.map display)).toList ++ close :: rest) =
      some (as.map value, rest) := by
  induction as generalizing fuel with
  | nil => exact absurd rfl hne
  | cons a as ih =>
      obtain ⟨ha, has⟩ := List.forall_mem_cons.mp hread
      rw [List.length_cons] at hfuel
      obtain ⟨fuel, rfl⟩ : ∃ k, fuel = k + 1 := ⟨fuel - 1, by omega⟩
      cases as with
      | nil =>
          have hends : Ends (close :: rest) := Or.inr ⟨close, rest, rfl, Or.inr hclose⟩
          have hcomma : close ≠ ',' := by
            rcases hclose with rfl | rfl <;> decide
          rw [List.map_singleton, List.map_singleton, commaSeparated, String.intercalate_singleton,
            items, ha _ hends]
          simp [hcomma]
      | cons b as =>
          have htext : (commaSeparated ((a :: b :: as).map display)).toList ++ close :: rest =
              (display a).toList ++ ',' :: ' ' ::
                ((commaSeparated ((b :: as).map display)).toList ++ close :: rest) := by
            simp [commaSeparated, String.intercalate_cons_cons]
          have hends : ∀ cs, Ends (',' :: cs) := fun cs => Or.inr ⟨',', cs, rfl, Or.inl rfl⟩
          rw [htext, items, ha _ (hends _)]
          simp only
          rw [ih (by simp) has (by omega)]
          rfl

/-! ## Words in front of a type -/

theorem afterWord?_paren (word : String) (cs : List Char) : afterWord? word ('(' :: cs) = none := by
  rw [afterWord?, spanName_of_not_goesOn (goesOn_sign (by decide) cs)]
  rfl

/-- A name with no space behind it is no word of that sort. -/
theorem afterWord?_name {name : String} (h : IsDotted name) {rest : List Char}
    (hrest : goesOn rest = false) (hspace : ∀ after, rest ≠ ' ' :: after) (word : String) :
    afterWord? word (name.toList ++ rest) = none := by
  rw [afterWord?, spanName_dotted h hrest]
  split
  · rename_i heq
    cases heq
    exact absurd rfl (hspace _)
  · rfl

/-- A name with a space behind it is one word and no other. -/
theorem afterWord?_word {name : String} (h : IsDotted name) (word : String) (rest : List Char) :
    afterWord? word (name.toList ++ ' ' :: rest) = if name = word then some rest else none := by
  rw [afterWord?, spanName_dotted h (goesOn_sign (by decide) rest)]
  simp only [String.toList_inj]

/-! ## What the front of a text decides -/

/-- The text starts with a name, with a word or with a bracket that opens. -/
def Opens (cs : List Char) : Prop :=
  ∃ c cs', cs = c :: cs' ∧ (Identifier.canContinue c = true ∨ c = '(')

theorem Opens.append {cs : List Char} (h : Opens cs) (rest : List Char) : Opens (cs ++ rest) := by
  obtain ⟨c, cs', rfl, hc⟩ := h
  exact ⟨c, cs' ++ rest, rfl, hc⟩

theorem Opens.ne_cons {cs : List Char} (h : Opens cs) {c : Char} (hc : c = ')' ∨ c = '*')
    (rest : List Char) : cs ≠ c :: rest := by
  rintro rfl
  obtain ⟨c', cs', heq, hopen⟩ := h
  cases heq
  rcases hc with rfl | rfl <;> simp [canContinue_sign] at hopen

/-- Without a bracket in front a name is read, which may be that of a receiver. -/
theorem unsuspended_name {cs : List Char} (h : ∀ cs', cs ≠ '(' :: cs') (fuel : Nat) :
    unsuspended (fuel + 1) cs =
      match named fuel cs with
      | some (t, '.' :: '(' :: rest) => extension fuel t rest
      | found => found := by
  rw [unsuspended]
  exact fun cs' heq => h cs' heq

theorem ne_paren {c : Char} {cs : List Char} (hc : Identifier.canContinue c = true)
    (cs' : List Char) : c :: cs ≠ '(' :: cs' := by
  rintro heq
  cases heq
  simp [canContinue_sign] at hc

/-- What does not start with an asterisk is read as a type, behind a word or without one. -/
theorem argument_typed {cs : List Char} (h : Opens cs) (fuel : Nat) :
    argument (fuel + 1) cs =
      match afterWord? "in" cs, afterWord? "out" cs with
      | some rest, _ => (type fuel rest).map fun (t, after) => (.contravariant t, after)
      | none, some rest => (type fuel rest).map fun (t, after) => (.covariant t, after)
      | none, none => (type fuel cs).map fun (t, after) => (.invariant t, after) := by
  rw [argument]
  exact fun rest heq => h.ne_cons (Or.inr rfl) rest heq

theorem parameters_typed {cs : List Char} (h : Opens cs) (fuel : Nat) :
    parameters (fuel + 1) cs = items ')' (type fuel) fuel cs := by
  rw [parameters]
  exact fun rest heq => h.ne_cons (Or.inl rfl) rest heq

end Notation

end KotlinMeta
