import KotlinMeta.TypeExpr.Basic

/-! # The outline of a type

The outline of a type is what it says apart from its variables, from left to right: class names,
variances of arguments, directions of wildcards, suspend marks and nullability. A type is
determined by its outline together with its variables (`TypeExpr.eq_of_outline`).
-/

set_option autoImplicit false

namespace KotlinMeta

/-! ## Outlines -/

/-- What a type says at one place, apart from the variable: what it is, and which parts follow. -/
inductive OutlineEntry where
  /-- Each argument with its variance, and whether it has a type. -/
  | named (name : ClassName) (arguments : List (Variance × Bool)) (nullable : Bool)
  | var (nullable : Bool)
  | function (hasReceiver : Bool) (parameterCount : Nat) (isSuspend nullable : Bool)
  | wildcard (hasBound : Bool) (direction : Direction) (nullable : Bool)

/-- The variance of an argument, and whether it has a type. -/
def TypeArg.entry (a : TypeArg) : Variance × Bool := (a.variance, a.type.isSome)

mutual

/-- What a type says apart from its variables, from left to right. -/
def TypeExpr.outline : TypeExpr → List OutlineEntry
  | .named name arguments nullable =>
    .named name (arguments.map TypeArg.entry) nullable :: TypeArg.listOutline arguments
  | .var _ nullable => [.var nullable]
  | .function receiver parameters returnType isSuspend nullable =>
    .function receiver.isSome parameters.length isSuspend nullable ::
      (TypeExpr.optionOutline receiver ++ TypeExpr.listOutline parameters ++ returnType.outline)
  | .wildcard bound direction nullable =>
    .wildcard bound.isSome direction nullable :: TypeExpr.optionOutline bound

def TypeExpr.optionOutline : Option TypeExpr → List OutlineEntry
  | none => []
  | some t => t.outline

def TypeExpr.listOutline : List TypeExpr → List OutlineEntry
  | [] => []
  | t :: rest => t.outline ++ TypeExpr.listOutline rest

def TypeArg.listOutline : List TypeArg → List OutlineEntry
  | [] => []
  | ⟨_, t⟩ :: rest => TypeExpr.optionOutline t ++ TypeArg.listOutline rest

end

/-! ## Outline and variables make the type -/

mutual

/-- Where a type stands first, its outline and its variables tell which type it is and where it
ends. -/
theorem TypeExpr.eq_of_outline_append :
    ∀ (t u : TypeExpr) {es es' : List OutlineEntry} {vs vs' : List TypeVar},
      t.outline ++ es = u.outline ++ es' → t.variables ++ vs = u.variables ++ vs' →
      t = u ∧ es = es' ∧ vs = vs'
  | .named name arguments nullable, u, _, _, _, _, houtline, hvariables => by
    cases u with
    | named name' arguments' nullable' =>
        simp only [TypeExpr.outline, List.cons_append, List.cons.injEq,
          OutlineEntry.named.injEq] at houtline
        obtain ⟨⟨hname, hentries, hnullable⟩, houtline⟩ := houtline
        obtain ⟨harguments, hrest⟩ :=
          TypeArg.eq_of_listOutline_append arguments arguments' hentries houtline hvariables
        exact ⟨by rw [hname, harguments, hnullable], hrest⟩
    | _ => cases houtline
  | .var v nullable, u, _, _, _, _, houtline, hvariables => by
    cases u with
    | var v' nullable' =>
        simp only [TypeExpr.outline, List.cons_append, List.nil_append, List.cons.injEq,
          OutlineEntry.var.injEq] at houtline
        obtain ⟨hv, hvariables⟩ := List.cons.inj hvariables
        exact ⟨by rw [hv, houtline.1], houtline.2, hvariables⟩
    | _ => cases houtline
  | .function receiver parameters returnType isSuspend nullable, u, _, _, _, _,
      houtline, hvariables => by
    cases u with
    | function receiver' parameters' returnType' isSuspend' nullable' =>
        simp only [TypeExpr.outline, List.cons_append, List.append_assoc, List.cons.injEq,
          OutlineEntry.function.injEq] at houtline
        simp only [TypeExpr.variables, List.append_assoc] at hvariables
        obtain ⟨⟨hreceiver, hcount, hsuspend, hnullable⟩, houtline⟩ := houtline
        obtain ⟨hreceiver, houtline, hvariables⟩ :=
          TypeExpr.eq_of_optionOutline_append receiver receiver' hreceiver houtline hvariables
        obtain ⟨hparameters, houtline, hvariables⟩ :=
          TypeExpr.eq_of_listOutline_append parameters parameters' hcount houtline hvariables
        obtain ⟨hreturn, hrest⟩ :=
          TypeExpr.eq_of_outline_append returnType returnType' houtline hvariables
        exact ⟨by rw [hreceiver, hparameters, hreturn, hsuspend, hnullable], hrest⟩
    | _ => cases houtline
  | .wildcard bound direction nullable, u, _, _, _, _, houtline, hvariables => by
    cases u with
    | wildcard bound' direction' nullable' =>
        simp only [TypeExpr.outline, List.cons_append, List.cons.injEq,
          OutlineEntry.wildcard.injEq] at houtline
        obtain ⟨⟨hbound, hdirection, hnullable⟩, houtline⟩ := houtline
        obtain ⟨hbound, hrest⟩ :=
          TypeExpr.eq_of_optionOutline_append bound bound' hbound houtline hvariables
        exact ⟨by rw [hbound, hdirection, hnullable], hrest⟩
    | _ => cases houtline

theorem TypeExpr.eq_of_optionOutline_append :
    ∀ (t u : Option TypeExpr) {es es' : List OutlineEntry} {vs vs' : List TypeVar},
      t.isSome = u.isSome →
      TypeExpr.optionOutline t ++ es = TypeExpr.optionOutline u ++ es' →
      TypeExpr.optionVariables t ++ vs = TypeExpr.optionVariables u ++ vs' →
      t = u ∧ es = es' ∧ vs = vs'
  | none, none, _, _, _, _, _, houtline, hvariables => ⟨rfl, houtline, hvariables⟩
  | some t, some u, _, _, _, _, _, houtline, hvariables => by
    obtain ⟨ht, hrest⟩ := TypeExpr.eq_of_outline_append t u houtline hvariables
    exact ⟨congrArg some ht, hrest⟩

theorem TypeExpr.eq_of_listOutline_append :
    ∀ (ts us : List TypeExpr) {es es' : List OutlineEntry} {vs vs' : List TypeVar},
      ts.length = us.length →
      TypeExpr.listOutline ts ++ es = TypeExpr.listOutline us ++ es' →
      TypeExpr.listVariables ts ++ vs = TypeExpr.listVariables us ++ vs' →
      ts = us ∧ es = es' ∧ vs = vs'
  | [], [], _, _, _, _, _, houtline, hvariables => ⟨rfl, houtline, hvariables⟩
  | t :: ts, u :: us, _, _, _, _, hlength, houtline, hvariables => by
    simp only [TypeExpr.listOutline, TypeExpr.listVariables, List.append_assoc]
      at houtline hvariables
    obtain ⟨ht, houtline, hvariables⟩ := TypeExpr.eq_of_outline_append t u houtline hvariables
    obtain ⟨hts, hrest⟩ :=
      TypeExpr.eq_of_listOutline_append ts us (Nat.succ.inj hlength) houtline hvariables
    exact ⟨by rw [ht, hts], hrest⟩

theorem TypeArg.eq_of_listOutline_append :
    ∀ (as bs : List TypeArg) {es es' : List OutlineEntry} {vs vs' : List TypeVar},
      as.map TypeArg.entry = bs.map TypeArg.entry →
      TypeArg.listOutline as ++ es = TypeArg.listOutline bs ++ es' →
      TypeArg.listVariables as ++ vs = TypeArg.listVariables bs ++ vs' →
      as = bs ∧ es = es' ∧ vs = vs'
  | [], [], _, _, _, _, _, houtline, hvariables => ⟨rfl, houtline, hvariables⟩
  | ⟨variance, t⟩ :: as, ⟨variance', u⟩ :: bs, _, _, _, _, hentries, houtline, hvariables => by
    simp only [List.map_cons, List.cons.injEq, TypeArg.entry, Prod.mk.injEq] at hentries
    simp only [TypeArg.listOutline, TypeArg.listVariables, List.append_assoc]
      at houtline hvariables
    obtain ⟨⟨hvariance, hsome⟩, hentries⟩ := hentries
    obtain ⟨ht, houtline, hvariables⟩ :=
      TypeExpr.eq_of_optionOutline_append t u hsome houtline hvariables
    obtain ⟨has, hrest⟩ :=
      TypeArg.eq_of_listOutline_append as bs hentries houtline hvariables
    exact ⟨by rw [hvariance, ht, has], hrest⟩

end

/-- **Outline and variables determine a type.** -/
theorem TypeExpr.eq_of_outline {t u : TypeExpr} (houtline : t.outline = u.outline)
    (hvariables : t.variables = u.variables) : t = u :=
  (TypeExpr.eq_of_outline_append t u (congrArg (· ++ []) houtline)
    (congrArg (· ++ []) hvariables)).1

end KotlinMeta
