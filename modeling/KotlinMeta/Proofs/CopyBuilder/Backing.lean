import KotlinMeta.CopyBuilder.Basic
import KotlinMeta.Proofs.Sequence

/-! # What a copy builder is generated from

A synthesis that succeeds has found a property for each parameter of the primary constructor and
a name for the instance, and gives the file that these determine.
-/

set_option autoImplicit false

namespace KotlinMeta

/-! ## The property of a name -/

/-- The first of these properties with this name. -/
def IsFirst (name : String) (properties : List PropertyDecl) (p : PropertyDecl) : Prop :=
  ∃ before after, properties = before ++ p :: after ∧ p.name = name ∧
    ∀ q ∈ before, q.name ≠ name

/-- A property that peers of the class can read. -/
def PropertyDecl.isReadable (p : PropertyDecl) : Bool :=
  p.flags.visibility == .publicAccess || p.flags.visibility == .internalAccess

theorem IsFirst.mem {name : String} {properties : List PropertyDecl} {p : PropertyDecl}
    (h : IsFirst name properties p) : p ∈ properties := by
  obtain ⟨before, after, rfl, -, -⟩ := h
  simp

theorem IsFirst.name_eq {name : String} {properties : List PropertyDecl} {p : PropertyDecl}
    (h : IsFirst name properties p) : p.name = name := by
  obtain ⟨-, -, -, hname, -⟩ := h
  exact hname

/-- The first property of a name is one property. -/
theorem IsFirst.unique {name : String} {properties : List PropertyDecl} {p q : PropertyDecl}
    (hp : IsFirst name properties p) (hq : IsFirst name properties q) : p = q := by
  obtain ⟨before, after, hsplit, hname, hbefore⟩ := hp
  obtain ⟨before', after', hsplit', hname', hbefore'⟩ := hq
  rw [hsplit] at hsplit'
  rcases split_cases hsplit' with hmem | ⟨-, heq⟩ | hmem
  · exact absurd hname' (hbefore q hmem)
  · exact heq
  · exact absurd hname (hbefore' p hmem)

theorem property?_eq_none_iff {d : ClassDecl} {name : String} :
    d.property? name = none ↔ ∀ q ∈ d.properties, q.name ≠ name := by
  simp [ClassDecl.property?]

theorem property?_eq_some_iff {d : ClassDecl} {name : String} {p : PropertyDecl} :
    d.property? name = some p ↔ IsFirst name d.properties p := by
  rw [ClassDecl.property?, List.find?_eq_some_iff_append]
  constructor
  · rintro ⟨hname, before, after, hsplit, hbefore⟩
    refine ⟨before, after, hsplit, by simpa using hname, fun q hq => ?_⟩
    simpa using hbefore q hq
  · rintro ⟨before, after, hsplit, hname, hbefore⟩
    refine ⟨by simpa using hname, before, after, hsplit, fun q hq => ?_⟩
    simpa using hbefore q hq

namespace CopyBuilder

open Source

/-! ## The properties behind the constructor -/

theorem backingProperty_of_isFirst {d : ClassDecl} {p : Parameter} {q : PropertyDecl}
    (h : IsFirst p.name d.properties q) :
    backingProperty d p =
      if q.isReadable then .ok q
      else .error (.hiddenProperty d.name.qualified q.name q.flags.visibility) := by
  rw [backingProperty, property?_eq_some_iff.mpr h, PropertyDecl.isReadable]
  dsimp only
  cases q.flags.visibility <;> rfl

theorem backingProperty_eq_ok_iff {d : ClassDecl} {p : Parameter} {q : PropertyDecl} :
    backingProperty d p = .ok q ↔ IsFirst p.name d.properties q ∧ q.isReadable = true := by
  constructor
  · intro h
    cases hfind : d.property? p.name with
    | none =>
        rw [backingProperty, hfind] at h
        cases h
    | some found =>
        have hfirst := property?_eq_some_iff.mp hfind
        rw [backingProperty_of_isFirst hfirst] at h
        split at h
        · rename_i hreadable
          cases h
          exact ⟨hfirst, hreadable⟩
        · cases h
  · rintro ⟨hfirst, hreadable⟩
    rw [backingProperty_of_isFirst hfirst, if_pos hreadable]

/-- The properties behind the constructor are found if each of them can be read. -/
theorem backingProperties_eq_ok_iff {d : ClassDecl} {backing : List PropertyDecl} :
    backingProperties d = .ok backing ↔ ∃ constructor, d.primaryConstructor? = some constructor ∧
      List.Forall₂ (fun p q => IsFirst p.name d.properties q ∧ q.isReadable = true)
        constructor.parameters backing := by
  rw [backingProperties]
  cases d.primaryConstructor? with
  | none => simp
  | some constructor =>
      show constructor.parameters.mapM (backingProperty d) = .ok backing ↔ _
      simp only [mapM_eq_ok_iff, backingProperty_eq_ok_iff, Option.some.injEq, exists_eq_left']

/-- The properties behind the constructor are those with the names of its parameters, in order. -/
theorem backingProperties_eq_ok {c : ClassDecl} {backing : List PropertyDecl}
    (h : backingProperties c = .ok backing) :
    ∃ constructor, c.primaryConstructor? = some constructor ∧
      List.Forall₂ (fun p property => property ∈ c.properties ∧ property.name = p.name)
        constructor.parameters backing := by
  obtain ⟨constructor, hconstructor, hall⟩ := backingProperties_eq_ok_iff.mp h
  exact ⟨constructor, hconstructor, hall.imp fun p q hq => ⟨hq.1.mem, hq.1.name_eq⟩⟩

theorem backingProperties_names {c : ClassDecl} {backing : List PropertyDecl}
    (h : backingProperties c = .ok backing) :
    ∃ constructor, c.primaryConstructor? = some constructor ∧
      backing.map (·.name) = constructor.parameters.map (·.name) := by
  obtain ⟨constructor, hc, hall⟩ := backingProperties_eq_ok h
  refine ⟨constructor, hc, ?_⟩
  clear h hc
  generalize constructor.parameters = parameters at hall ⊢
  induction hall with
  | nil => rfl
  | cons hp _ ih => rw [List.map_cons, List.map_cons, hp.2, ih]

/-- A synthesis that succeeds gives the file of the properties behind the constructor. -/
theorem synthesize_eq_ok {options : SynthesisOptions} {c : ClassDecl} {file : File}
    (h : synthesize options c = .ok file) :
    ∃ backing source, backingProperties c = .ok backing ∧
      sourceName (backing.map (·.name)) = .ok source ∧
      file = builderFile options c backing source := by
  obtain ⟨backing, hbacking, h⟩ := Except.bind_eq_ok.mp h
  obtain ⟨source, hsource, h⟩ := Except.bind_eq_ok.mp h
  cases h
  exact ⟨backing, source, hbacking, hsource, rfl⟩

end CopyBuilder

end KotlinMeta
