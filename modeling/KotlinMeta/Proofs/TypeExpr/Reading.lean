import KotlinMeta.Proofs.TypeExpr.AsWritten
import KotlinMeta.Proofs.TypeExpr.Parts

/-! # Reading the notation of types

The reader takes every type that is `Readable` back from its text, as far as the text tells it. It
does so for named types (`Read.of_named`) and for function types (`Read.of_function`) if it does for
their parts, and by induction for all (`read_of_readable`). The main result is
`TypeExpr.display_unambiguous`: types with the same text are the same, but for what names do not
show.
-/

set_option autoImplicit false

namespace KotlinMeta

open Filter (atTop)

namespace Notation

/-! ## Named types -/

/-- What is written behind the name of a named type. -/
def tail (arguments : List TypeArg) (nullable : Bool) : String :=
  (if arguments.isEmpty then "" else "<" ++ commaSeparated (TypeArg.displays arguments) ++ ">") ++
    nullMark nullable

theorem display_named (name : ClassName) (arguments : List TypeArg) (nullable : Bool) :
    (TypeExpr.named name arguments nullable).display =
      name.qualified ++ tail arguments nullable := by
  rw [TypeExpr.display, String.append_assoc]
  rfl

theorem display_var (v : TypeVar) (nullable : Bool) :
    (TypeExpr.var v nullable).display = v.name ++ tail [] nullable := by
  rw [TypeExpr.display]
  simp [tail]

/-- A name does not go on behind its type, and no space follows it. -/
theorem Stops.tail {rest : List Char} (h : Stops rest) (arguments : List TypeArg)
    (nullable : Bool) :
    goesOn ((tail arguments nullable).toList ++ rest) = false ∧
      ∀ after, (Notation.tail arguments nullable).toList ++ rest ≠ ' ' :: after := by
  obtain ⟨hgo, hspace, -, -⟩ := h.signs
  cases arguments <;> cases nullable <;> simp [Notation.tail, nullMark, goesOn_sign, hgo, hspace]

/-- A type that is no function type starts with its name. -/
theorem exists_name {t : TypeExpr} (h : t.Readable) (hfunction : t.isFunction = false) :
    ∃ name arguments nullable, t.display = name ++ tail arguments nullable ∧ IsDotted name := by
  cases h with
  | named dotted parts => exact ⟨_, _, _, display_named _ _ _, dotted⟩
  | var dotted => exact ⟨_, _, _, display_var _ _, dotted⟩
  | function => cases hfunction

theorem marked_nullMark (name : List Char) (arguments : List TypeArg) (nullable : Bool)
    {rest : List Char} (hrest : Stops rest) :
    marked name arguments ((nullMark nullable).toList ++ rest) =
      (.named ⟨"", [String.ofList name]⟩ arguments nullable, rest) := by
  obtain ⟨-, -, hmark, -⟩ := hrest.signs
  cases nullable with
  | true => rfl
  | false =>
      show marked name arguments rest = _
      unfold marked
      split
      · exact absurd rfl (hmark _)
      · rfl

/-- The arguments of a named type are read with it. -/
theorem named_tail {name : String} (h : IsDotted name) (arguments : List TypeArg) (nullable : Bool)
    (hread : ∀ᶠ fuel in atTop, ∀ a ∈ arguments, ∀ rest, Ends rest →
      argument fuel (a.display.toList ++ rest) = some (a.asWritten, rest)) :
    ∀ᶠ fuel in atTop, ∀ rest, Stops rest →
      named fuel ((name ++ tail arguments nullable).toList ++ rest) =
        some (.named ⟨"", [name]⟩ (arguments.map TypeArg.asWritten) nullable, rest) := by
  refine eventually_of_succ ?_
  filter_upwards [hread, Filter.eventually_ge_atTop arguments.length] with fuel hread hfuel
  intro rest hrest
  have hspan := spanName_dotted h (hrest.tail arguments nullable).1
  rw [String.toList_append, List.append_assoc, named, hspan]
  cases arguments with
  | nil =>
      obtain ⟨-, -, -, hbracket⟩ := hrest.signs
      have htail : tail [] nullable = nullMark nullable := by simp [tail]
      have hmarked := marked_nullMark name.toList [] nullable hrest
      rw [htail]
      split
      · rename_i heq
        cases nullable <;> simp [nullMark] at heq
        exact absurd heq.2 (hbracket _)
      · rename_i heq
        cases heq
        rw [hmarked, String.ofList_toList]
        rfl
  | cons a arguments =>
      have htail : (tail (a :: arguments) nullable).toList ++ rest =
          '<' :: ((commaSeparated ((a :: arguments).map TypeArg.display)).toList ++
            '>' :: ((nullMark nullable).toList ++ rest)) := by
        simp [tail, TypeArg.displays_eq_map]
      rw [htail]
      simp only
      rw [items_commaSeparated (Or.inr rfl) (by simp) hread hfuel, Option.map_some,
        marked_nullMark _ _ _ hrest, String.ofList_toList]

/-! ## The front of a type -/

/-- The text of a function type without marks for suspension and nullability. -/
theorem toList_function (receiver : Option TypeExpr) (ts : List TypeExpr) (t : TypeExpr)
    (rest : List Char) :
    (TypeExpr.function receiver ts t false false).display.toList ++ rest =
      (TypeExpr.receiverDisplay receiver).toList ++ '(' ::
        ((commaSeparated (ts.map TypeExpr.display)).toList ++
          ')' :: ' ' :: '-' :: '>' :: ' ' :: (t.display.toList ++ rest)) := by
  simp [TypeExpr.display, TypeExpr.displays_eq_map]

theorem toList_suspend (receiver : Option TypeExpr) (ts : List TypeExpr) (t : TypeExpr)
    (rest : List Char) :
    (TypeExpr.function receiver ts t true false).display.toList ++ rest =
      "suspend".toList ++ ' ' ::
        ((TypeExpr.function receiver ts t false false).display.toList ++ rest) := by
  simp [TypeExpr.display]

theorem toList_nullable (receiver : Option TypeExpr) (ts : List TypeExpr) (t : TypeExpr)
    (isSuspend : Bool) (rest : List Char) :
    (TypeExpr.function receiver ts t isSuspend true).display.toList ++ rest =
      '(' :: ((TypeExpr.function receiver ts t isSuspend false).display.toList ++
        ')' :: '?' :: rest) := by
  simp [TypeExpr.display]

/-- A function type as receiver stands in brackets. -/
theorem toList_functionReceiver {r : TypeExpr} (h : r.isFunction = true) (rest : List Char) :
    (TypeExpr.receiverDisplay (some r)).toList ++ rest =
      '(' :: (r.display.toList ++ ')' :: '.' :: rest) := by
  rw [TypeExpr.receiverDisplay, if_pos h]
  simp

theorem toList_namedReceiver {r : TypeExpr} (h : r.isFunction = false) (rest : List Char) :
    (TypeExpr.receiverDisplay (some r)).toList ++ rest = r.display.toList ++ '.' :: rest := by
  rw [TypeExpr.receiverDisplay, if_neg (by simp [h])]
  simp

/-- A name in front is none of the words that stand before types. -/
theorem opening_name {t : TypeExpr} (h : t.Readable) (hfunction : t.isFunction = false)
    {rest : List Char} (hrest : Stops rest) :
    (∀ word, afterWord? word (t.display.toList ++ rest) = none) ∧
      ∃ c cs, t.display.toList = c :: cs ∧ Identifier.canContinue c = true := by
  obtain ⟨name, arguments, nullable, htext, hdotted⟩ := exists_name h hfunction
  obtain ⟨hgo, hspace⟩ := hrest.tail arguments nullable
  obtain ⟨c, cs, hname, hc⟩ := exists_cons_of_dotted hdotted
  rw [htext, String.toList_append]
  constructor
  · intro word
    rw [List.append_assoc]
    exact afterWord?_name hdotted hgo hspace word
  · exact ⟨c, _, by rw [hname, List.cons_append], hc⟩

theorem opening_function {receiver : Option TypeExpr} (hreceiver : ∀ t ∈ receiver, t.Readable)
    (ts : List TypeExpr) (t : TypeExpr) (rest : List Char) :
    (∀ word, afterWord? word
      ((TypeExpr.function receiver ts t false false).display.toList ++ rest) = none) ∧
      Opens ((TypeExpr.function receiver ts t false false).display.toList ++ rest) := by
  rw [toList_function]
  cases receiver with
  | none => exact ⟨fun word => afterWord?_paren word _, '(', _, rfl, Or.inr rfl⟩
  | some r =>
      cases hr : r.isFunction with
      | true =>
          rw [toList_functionReceiver hr]
          exact ⟨fun word => afterWord?_paren word _, '(', _, rfl, Or.inr rfl⟩
      | false =>
          have hstops : ∀ cs, Stops ('.' :: '(' :: cs) := fun cs => Or.inr ⟨cs, rfl⟩
          obtain ⟨hword, c, cs, htext, hc⟩ := opening_name (hreceiver r rfl) hr (hstops _)
          rw [toList_namedReceiver hr]
          exact ⟨hword, c, _, by rw [htext]; rfl, Or.inl hc⟩

theorem isDotted_words : IsDotted "in" ∧ IsDotted "out" ∧ IsDotted "suspend" := by
  decide +kernel

theorem opens_word {name : String} (h : IsDotted name) (rest : List Char) :
    Opens (name.toList ++ rest) := by
  obtain ⟨c, cs, hname, hc⟩ := exists_cons_of_dotted h
  exact ⟨c, cs ++ rest, by rw [hname]; rfl, Or.inl hc⟩

/-- **No type starts with a word** and a space, except for `suspend`. -/
theorem opening {t : TypeExpr} (h : t.Readable) {rest : List Char} (hrest : Ends rest) :
    (∀ word ≠ "suspend", afterWord? word (t.display.toList ++ rest) = none) ∧
      Opens (t.display.toList ++ rest) := by
  cases hfunction : t.isFunction with
  | false =>
      obtain ⟨hword, c, cs, htext, hc⟩ := opening_name h hfunction (Or.inl hrest)
      exact ⟨fun word _ => hword word, c, cs ++ rest, by rw [htext]; rfl, Or.inl hc⟩
  | true =>
      cases h with
      | named => cases hfunction
      | var => cases hfunction
      | @function receiver ts t isSuspend nullable receives takes returns =>
          cases nullable with
          | true =>
              rw [toList_nullable]
              exact ⟨fun word _ => afterWord?_paren word _, '(', _, rfl, Or.inr rfl⟩
          | false =>
              cases isSuspend with
              | false =>
                  obtain ⟨hword, hopens⟩ := opening_function receives ts t rest
                  exact ⟨fun word _ => hword word, hopens⟩
              | true =>
                  have hsuspend := isDotted_words.2.2
                  rw [toList_suspend]
                  refine ⟨fun word hne => ?_, opens_word hsuspend _⟩
                  exact (afterWord?_word hsuspend word _).trans (if_neg (Ne.symm hne))

/-! ## Types -/

/-- The type can be read wherever a type can stand. -/
structure Read (t : TypeExpr) : Prop where
  named : t.isFunction = false → ∀ᶠ fuel in atTop, ∀ rest, Stops rest →
    named fuel (t.display.toList ++ rest) = some (t.asWritten, rest)
  type : ∀ᶠ fuel in atTop, ∀ rest, Ends rest →
    type fuel (t.display.toList ++ rest) = some (t.asWritten, rest)

/-- What is read as a name is read as a type. -/
theorem Read.of_named {t : TypeExpr} (h : t.Readable) (hfunction : t.isFunction = false)
    (hnamed : ∀ᶠ fuel in atTop, ∀ rest, Stops rest →
      Notation.named fuel (t.display.toList ++ rest) = some (t.asWritten, rest)) : Read t where
  named _ := hnamed
  type := by
    refine eventually_of_succ (eventually_of_succ ?_)
    filter_upwards [hnamed] with fuel hnamed rest hrest
    obtain ⟨hword, c, cs, htext, hc⟩ := opening_name h hfunction (Or.inl hrest)
    have hparen : ∀ cs', t.display.toList ++ rest ≠ '(' :: cs' := by
      rw [htext]
      exact ne_paren hc
    rw [Notation.type, hword]
    simp only
    rw [unsuspended_name hparen, hnamed rest (Or.inl hrest)]
    rcases hrest with rfl | ⟨c, after, rfl, rfl | rfl | rfl⟩ <;> rfl

/-! ## Arguments -/

/-- **An argument is read** with its variance. -/
theorem argument_display {a : TypeArg} (h : a.Readable) (hread : ∀ t ∈ a.type, Read t) :
    ∀ᶠ fuel in atTop, ∀ rest, Ends rest →
      argument fuel (a.display.toList ++ rest) = some (a.asWritten, rest) := by
  obtain ⟨hin, hout, -⟩ := isDotted_words
  cases h with
  | star => exact eventually_of_succ (.of_forall fun fuel rest _ => rfl)
  | @typed variance t projects readable =>
      refine eventually_of_succ ?_
      filter_upwards [(hread t rfl).type] with fuel htype rest hrest
      have hfound := htype rest hrest
      cases variance with
      | contravariant =>
          have htext : (TypeArg.display ⟨.contravariant, some t⟩).toList ++ rest =
              "in".toList ++ ' ' :: (t.display.toList ++ rest) := by
            simp [TypeArg.display, Variance.keyword?]
          rw [htext, argument_typed (opens_word hin _), afterWord?_word hin, if_pos rfl]
          simp only
          rw [hfound]
          rfl
      | covariant =>
          have htext : (TypeArg.display ⟨.covariant, some t⟩).toList ++ rest =
              "out".toList ++ ' ' :: (t.display.toList ++ rest) := by
            simp [TypeArg.display, Variance.keyword?]
          rw [htext, argument_typed (opens_word hout _), afterWord?_word hout,
            afterWord?_word hout, if_neg (by decide), if_pos rfl]
          simp only
          rw [hfound]
          rfl
      | invariant =>
          have htext : TypeArg.display ⟨.invariant, some t⟩ = t.display := rfl
          obtain ⟨hword, hopens⟩ := opening readable hrest
          rw [htext, argument_typed hopens, hword "in" (by decide), hword "out" (by decide)]
          simp only
          rw [hfound]
          rfl
      | star => exact absurd rfl projects

/-! ## Function types -/

theorem opens_parameters {t : TypeExpr} (h : t.Readable) (ts : List TypeExpr) (rest : List Char) :
    Opens ((commaSeparated ((t :: ts).map TypeExpr.display)).toList ++ rest) := by
  have hopens := (opening h (Or.inl rfl)).2
  rw [List.append_nil] at hopens
  cases ts with
  | nil => exact hopens.append rest
  | cons u ts =>
      have htext : (commaSeparated ((t :: u :: ts).map TypeExpr.display)).toList ++ rest =
          t.display.toList ++
            (',' :: ' ' :: (commaSeparated ((u :: ts).map TypeExpr.display)).toList ++ rest) := by
        simp [commaSeparated, String.intercalate_cons_cons]
      rw [htext]
      exact hopens.append _

section
variable {ts : List TypeExpr} {t : TypeExpr}

/-- **Parameters are read** up to their closing bracket. -/
theorem parameters_display (hreadable : ∀ u ∈ ts, u.Readable) (hread : ∀ u ∈ ts, Read u) :
    ∀ᶠ fuel in atTop, ∀ rest,
      parameters fuel ((commaSeparated (ts.map TypeExpr.display)).toList ++ ')' :: rest) =
        some (ts.map TypeExpr.asWritten, rest) := by
  refine eventually_of_succ ?_
  cases ts with
  | nil => exact .of_forall fun fuel rest => rfl
  | cons u ts =>
      have htypes := eventually_forall_mem fun v hv => (hread v hv).type
      filter_upwards [htypes, Filter.eventually_ge_atTop (u :: ts).length] with fuel htypes hfuel
      intro rest
      rw [parameters_typed (opens_parameters (hreadable u List.mem_cons_self) ts _)]
      exact items_commaSeparated (Or.inl rfl) (List.cons_ne_nil u ts) htypes hfuel rest

/-- What stands in brackets of its own is read like a single parameter. -/
theorem parameters_single (hreadable : t.Readable) (hread : Read t) :
    ∀ᶠ fuel in atTop, ∀ rest,
      parameters fuel (t.display.toList ++ ')' :: rest) = some ([t.asWritten], rest) := by
  have hts : ∀ u ∈ [t], u = t := fun u hu => List.mem_singleton.mp hu
  have h := parameters_display (fun u hu => hts u hu ▸ hreadable) fun u hu => hts u hu ▸ hread
  simp only [List.map_cons, List.map_nil, commaSeparated, String.intercalate_singleton] at h
  exact h

theorem result_display (hread : Read t) :
    ∀ᶠ fuel in atTop, ∀ receiver us rest, Ends rest →
      result fuel receiver us (' ' :: '-' :: '>' :: ' ' :: (t.display.toList ++ rest)) =
        some (.function receiver us t.asWritten false false, rest) := by
  refine eventually_of_succ ?_
  filter_upwards [hread.type] with fuel htype
  intro receiver us rest hrest
  rw [result, htype rest hrest]
  rfl

theorem extension_display (hreadable : ∀ u ∈ ts, u.Readable) (hts : ∀ u ∈ ts, Read u)
    (ht : Read t) :
    ∀ᶠ fuel in atTop, ∀ receiver rest, Ends rest →
      extension fuel receiver ((commaSeparated (ts.map TypeExpr.display)).toList ++
          ')' :: ' ' :: '-' :: '>' :: ' ' :: (t.display.toList ++ rest)) =
        some (.function (some receiver) (ts.map TypeExpr.asWritten) t.asWritten false false,
          rest) := by
  refine eventually_of_succ ?_
  filter_upwards [parameters_display hreadable hts, result_display ht] with fuel hparameters hresult
  intro receiver rest hrest
  rw [extension, hparameters]
  exact hresult _ _ rest hrest

variable {receiver : Option TypeExpr}

/-- **A function type is read**, if its receiver, its parameters and its result can be. -/
theorem unsuspended_function (h : (TypeExpr.function receiver ts t false false).Readable)
    (hreceiver : ∀ u ∈ receiver, Read u) (hts : ∀ u ∈ ts, Read u) (ht : Read t) :
    ∀ᶠ fuel in atTop, ∀ rest, Ends rest →
      unsuspended fuel
          ((TypeExpr.function receiver ts t false false).display.toList ++ rest) =
        some ((TypeExpr.function receiver ts t false false).asWritten, rest) := by
  cases h with | function receives takes returns =>
  refine eventually_of_succ ?_
  rw [TypeExpr.asWritten, TypeExpr.listAsWritten_eq_map]
  cases receiver with
  | none =>
      filter_upwards [parameters_display takes hts, result_display ht] with fuel hparameters hresult
      intro rest hrest
      rw [toList_function]
      simp only [TypeExpr.receiverDisplay, String.toList_empty, List.nil_append]
      rw [unsuspended, hparameters]
      rw [TypeExpr.optionAsWritten, ← hresult none _ rest hrest]
      -- what follows the bracket is neither a point nor a question mark
      rcases ts with _ | ⟨u, _ | ⟨v, ts⟩⟩ <;> rfl
  | some r =>
      have hextension := extension_display takes hts ht
      cases hr : r.isFunction with
      | true =>
          have hsingle := parameters_single (receives r rfl) (hreceiver r rfl)
          filter_upwards [hsingle, hextension] with fuel hsingle hextension
          intro rest hrest
          rw [toList_function, toList_functionReceiver hr, unsuspended, hsingle]
          exact hextension _ rest hrest
      | false =>
          filter_upwards [(hreceiver r rfl).named hr, hextension] with fuel hnamed hextension
          intro rest hrest
          have hstops : ∀ cs, Stops ('.' :: '(' :: cs) := fun cs => Or.inr ⟨cs, rfl⟩
          obtain ⟨-, c, cs, htext, hc⟩ := opening_name (receives r rfl) hr (hstops [])
          have hparen : ∀ cs' rest', r.display.toList ++ rest' ≠ '(' :: cs' := by
            rw [htext]
            exact fun cs' rest' => ne_paren hc cs'
          rw [toList_function, toList_namedReceiver hr,
            unsuspended_name (fun cs' => hparen cs' _), hnamed _ (hstops _)]
          exact hextension _ rest hrest

end

/-! ## All types -/

theorem Read.of_function {receiver : Option TypeExpr} {ts : List TypeExpr} {t : TypeExpr}
    {isSuspend nullable : Bool}
    (h : (TypeExpr.function receiver ts t isSuspend nullable).Readable)
    (hreceiver : ∀ u ∈ receiver, Read u) (hts : ∀ u ∈ ts, Read u) (ht : Read t) :
    Read (.function receiver ts t isSuspend nullable) := by
  cases h with | function receives takes returns =>
  have hplain := unsuspended_function (.function receives takes returns) hreceiver hts ht
  have hnonnull : Read (.function receiver ts t isSuspend false) := by
    refine ⟨nofun, eventually_of_succ ?_⟩
    filter_upwards [hplain] with fuel hplain rest hrest
    cases isSuspend with
    | false =>
        have hword := (opening_function receives ts t rest).1 "suspend"
        rw [Notation.type, hword]
        exact hplain rest hrest
    | true =>
        have hsuspend := isDotted_words.2.2
        rw [toList_suspend, Notation.type, afterWord?_word hsuspend, if_pos rfl]
        simp only
        rw [hplain rest hrest]
        rfl
  cases nullable with
  | false => exact hnonnull
  | true =>
      have hsingle := parameters_single (.function receives takes returns) hnonnull
      refine ⟨nofun, eventually_of_succ (eventually_of_succ ?_)⟩
      filter_upwards [hsingle] with fuel hsingle rest hrest
      rw [toList_nullable, Notation.type, afterWord?_paren]
      simp only
      rw [unsuspended, hsingle]
      rfl

/-- **Every type that has no wildcards and names that can be told is read from its text.** -/
theorem read_of_readable (t : TypeExpr) : t.Readable → Read t := by
  induction t using TypeExpr.induction_on_children with
  | step t ih =>
      intro h
      cases h with
      | @named name arguments nullable dotted parts =>
          have hread : ∀ a ∈ arguments, ∀ᶠ fuel in atTop, ∀ rest, Ends rest →
              argument fuel (a.display.toList ++ rest) = some (a.asWritten, rest) := by
            intro a ha
            refine argument_display (parts a ha) fun u hu => ?_
            have hchild : u ∈ (TypeExpr.named name arguments nullable).children :=
              List.mem_filterMap.mpr ⟨a, ha, hu⟩
            refine ih u hchild ?_
            cases parts a ha with
            | star => cases hu
            | typed _ readable => cases hu; exact readable
          have hnamed := named_tail dotted arguments nullable (eventually_forall_mem hread)
          refine Read.of_named (.named dotted parts) rfl ?_
          rwa [display_named, TypeExpr.asWritten, TypeArg.listAsWritten_eq_map]
      | @var v nullable dotted =>
          have hnamed := named_tail dotted [] nullable (by simp)
          refine Read.of_named (.var dotted) rfl ?_
          rwa [display_var]
      | @function receiver ts u isSuspend nullable receives takes returns =>
          have hchildren : ∀ v, v ∈ receiver ∨ v ∈ ts ∨ v = u →
              v ∈ (TypeExpr.function receiver ts u isSuspend nullable).children := by
            intro v hv
            simpa [TypeExpr.children, or_assoc] using hv
          refine Read.of_function (.function receives takes returns) ?_ ?_ ?_
          · intro v hv
            exact ih v (hchildren v (Or.inl hv)) (receives v hv)
          · intro v hv
            exact ih v (hchildren v (Or.inr (Or.inl hv))) (takes v hv)
          · exact ih u (hchildren u (Or.inr (Or.inr rfl))) returns

end Notation

namespace TypeExpr

/-! ## Types with the same text -/

variable {a b : TypeExpr}

/-- Types with the same text are read alike. -/
theorem asWritten_eq_of_display (ha : a.Readable) (hb : b.Readable)
    (h : a.display = b.display) : a.asWritten = b.asWritten := by
  have hread := (Notation.read_of_readable a ha).type
  have hread' := (Notation.read_of_readable b hb).type
  obtain ⟨fuel, hfuel, hfuel'⟩ := (hread.and hread').exists
  have hsame := hfuel [] (Or.inl rfl)
  rw [h, hfuel' [] (Or.inl rfl), Option.some_inj, Prod.mk.injEq] at hsame
  exact hsame.1.symm

/-- **The notation of types is unambiguous.** Types without wildcards, with dotted names, have the
same text exactly if they are the same but for what their names do not show: where the package of a
class ends, and whether a name without arguments is that of a class or of a type parameter. So a
text tells of a function type its receiver, its parameters, its result and both nullabilities and
whether it is suspending, and of a class that is applied the variance of each argument. -/
theorem display_unambiguous (ha : a.Readable) (hb : b.Readable) :
    (a.display = b.display ↔ a.asWritten = b.asWritten) ∧
    (∀ receiver parameters returnType isSuspend nullable,
      a = .function receiver parameters returnType isSuspend nullable → a.display = b.display →
        ∃ receiver' parameters' returnType',
          b = .function receiver' parameters' returnType' isSuspend nullable ∧
          receiver'.map asWritten = receiver.map asWritten ∧
          parameters'.map asWritten = parameters.map asWritten ∧
          returnType'.asWritten = returnType.asWritten ∧
          returnType'.isNullable = returnType.isNullable) ∧
    ∀ name arguments nullable,
      a = .named name arguments nullable → arguments ≠ [] → a.display = b.display →
        ∃ name' arguments', b = .named name' arguments' nullable ∧
          name'.qualified = name.qualified ∧
          arguments'.map TypeArg.variance = arguments.map TypeArg.variance ∧
          arguments'.map TypeArg.asWritten = arguments.map TypeArg.asWritten := by
  refine ⟨⟨asWritten_eq_of_display ha hb, ?_⟩, ?_, ?_⟩
  · intro h
    rw [← a.display_asWritten, h, b.display_asWritten]
  · rintro receiver parameters returnType isSuspend nullable rfl h
    have hsame := asWritten_eq_of_display ha hb h
    cases b with
    | function receiver' parameters' returnType' isSuspend' nullable' =>
        simp only [asWritten, optionAsWritten_eq_map, listAsWritten_eq_map, function.injEq] at hsame
        obtain ⟨hreceiver, hparameters, hreturn, rfl, rfl⟩ := hsame
        refine ⟨_, _, _, rfl, hreceiver.symm, hparameters.symm, hreturn.symm, ?_⟩
        rw [← isNullable_asWritten, ← hreturn, isNullable_asWritten]
    | named | var | wildcard => simp [asWritten] at hsame
  · rintro name arguments nullable rfl hne h
    have hsame := asWritten_eq_of_display ha hb h
    cases b with
    | named name' arguments' nullable' =>
        simp only [asWritten, TypeArg.listAsWritten_eq_map, named.injEq, ClassName.mk.injEq,
          List.cons.injEq, and_true, true_and] at hsame
        obtain ⟨hname, harguments, rfl⟩ := hsame
        have hvariance : TypeArg.variance ∘ TypeArg.asWritten = TypeArg.variance :=
          funext fun ⟨_, _⟩ => rfl
        refine ⟨_, _, rfl, hname.symm, ?_, harguments.symm⟩
        rw [← hvariance, ← List.map_map, ← harguments, List.map_map]
    | var v nullable' =>
        simp only [asWritten, TypeArg.listAsWritten_eq_map, named.injEq,
          List.map_eq_nil_iff] at hsame
        exact absurd hsame.2.1 hne
    | function | wildcard => simp [asWritten] at hsame

/-- A nullable function type with a receiver, the same with other classes of these names, and a
function type whose result is nullable instead. -/
theorem display_unambiguous_receiverTypes :
    let text := TypeExpr.ofClass ⟨"kotlin", ["String"]⟩
    let text' := TypeExpr.ofClass ⟨"", ["kotlin", "String"]⟩
    let item := TypeExpr.ofVar (.plain default "T" 0)
    let a := TypeExpr.function (some text) [item] text false true
    let b := TypeExpr.function (some text') [.ofClass ⟨"", ["T"]⟩] text' false true
    let c := TypeExpr.function (some text) [item] (text.withNullable true) false false
    a.Readable ∧ b.Readable ∧ c.Readable ∧ a.display = b.display ∧ a.display ≠ c.display := by
  intro text text' item a b c
  have htext : text.Readable := .named (by decide +kernel) nofun
  have htext' : text'.Readable := .named (by decide +kernel) nofun
  have hitem : item.Readable := .var (by decide +kernel)
  have hitem' : (TypeExpr.ofClass ⟨"", ["T"]⟩).Readable := .named (by decide +kernel) nofun
  have ha : a.Readable := by
    refine .function ?_ ?_ htext
    · simpa using htext
    · simpa using hitem
  have hb : b.Readable := by
    refine .function ?_ ?_ htext'
    · simpa using htext'
    · simpa using hitem'
  have hc : c.Readable := by
    refine .function ?_ ?_ (.named (by decide +kernel) nofun)
    · simpa using htext
    · simpa using hitem
  obtain ⟨hsame, -, -⟩ := display_unambiguous ha hb
  obtain ⟨hdifferent, -, -⟩ := display_unambiguous ha hc
  refine ⟨ha, hb, hc, hsame.mpr rfl, fun h => ?_⟩
  have hnullable := hdifferent.mp h
  simp [a, c, asWritten] at hnullable

end TypeExpr

end KotlinMeta
