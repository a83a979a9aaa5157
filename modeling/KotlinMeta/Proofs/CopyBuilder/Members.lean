import KotlinMeta.Proofs.CopyBuilder.TypeVariables

/-! # The properties behind a constructor

A class can declare a property of its own and any number of extension properties of the same name.
The builder takes the first property with the name of a parameter, whichever it is. This is the
property of the class if no other one comes before it (`backingProperties_members`); else the
builder reads a property of another type, or there is no builder
(`extension_taken_for_member`).
-/

set_option autoImplicit false

namespace KotlinMeta

/-- A property of the class itself: no extension, and without type parameters of its own. -/
def PropertyDecl.isMember (p : PropertyDecl) : Bool :=
  p.receiverType.isNone && p.typeParameters.isEmpty

theorem PropertyDecl.isMember_iff {p : PropertyDecl} :
    p.isMember = true ↔ p.receiverType = none ∧ p.typeParameters = [] := by
  rw [isMember, Bool.and_eq_true, Option.isNone_iff_eq_none, List.isEmpty_iff]

/-- Before any other property of this name there is a member of the name. -/
def MemberFirst (name : String) (properties : List PropertyDecl) : Prop :=
  ∀ before p after, properties = before ++ p :: after → p.name = name → p.isMember = false →
    ∃ m ∈ before, m.name = name ∧ m.isMember = true

/-! ## The first property of a name -/

/-- The first property of a name is a member exactly if a member comes before the others. -/
theorem IsFirst.isMember_iff {name : String} {properties : List PropertyDecl} {p : PropertyDecl}
    (h : IsFirst name properties p) : p.isMember = true ↔ MemberFirst name properties := by
  obtain ⟨before, after, hsplit, hname, hbefore⟩ := h
  constructor
  · intro hmember before' q after' hsplit' hqname hq
    rw [hsplit] at hsplit'
    -- `q` is not before `p`, and it is not `p` itself
    rcases split_cases hsplit' with hmem | ⟨-, rfl⟩ | hmem
    · exact absurd hqname (hbefore q hmem)
    · rw [hmember] at hq
      cases hq
    · exact ⟨p, hmem, hname, hmember⟩
  · intro hfirst
    by_contra hmember
    obtain ⟨m, hm, hmname, -⟩ := hfirst before p after hsplit hname (by simpa using hmember)
    exact hbefore m hm hmname

namespace CopyBuilder

open Source

/-! ## Backing properties -/

/-- With the properties behind the constructor there is a builder. -/
theorem exists_synthesize_eq_ok (settings : SynthesisOptions) {d : ClassDecl}
    {backing : List PropertyDecl} (h : backingProperties d = .ok backing) :
    ∃ file, synthesize settings d = .ok file := by
  obtain ⟨k, hsource, -⟩ := sourceName_eq (backing.map (·.name))
  exact ⟨_, Except.bind_eq_ok.mpr ⟨backing, h, Except.bind_eq_ok.mpr ⟨_, hsource, rfl⟩⟩⟩

/-! ## Members behind the constructor -/

/-- Among the properties with the name of a parameter a member comes first. -/
def MembersFirst (constructor : ConstructorDecl) (d : ClassDecl) : Prop :=
  ∀ p ∈ constructor.parameters, MemberFirst p.name d.properties

/-- **The property behind a parameter is a member if a member comes first**, and then a class in
which every parameter has one that can be read has a builder, whatever other properties of the same
names it declares. The builder reads the first property of the name in any case. -/
theorem backingProperties_members {options : DecodeOptions} {c : ClassNode} {d : ClassDecl}
    (hdecode : c.decode options = .ok d) {constructor : ConstructorDecl}
    (hconstructor : d.primaryConstructor? = some constructor) (settings : SynthesisOptions) :
    (∀ file, synthesize settings d = .ok file → ∃ backing source,
      backingProperties d = .ok backing ∧
        List.Forall₂ (fun p q => IsFirst p.name d.properties q ∧ q.isReadable = true)
          constructor.parameters backing ∧
        List.Forall₂ (fun q b => b.name = q.name ∧
          b.initializer = some (.member (.name source) q.name))
          backing file.builder.properties.tail ∧
        ((∀ q ∈ backing, q.isMember = true) ↔ MembersFirst constructor d) ∧
        ∀ q ∈ backing, q.isMember = true → q.type.Within d.typeParameters) ∧
      (MembersFirst constructor d →
        ((d.properties.filter PropertyDecl.isMember).map (·.name)).Nodup →
        (∀ p ∈ constructor.parameters, ∃ m ∈ d.properties,
          m.name = p.name ∧ m.isMember = true ∧ m.isReadable = true) →
        ∃ file, synthesize settings d = .ok file) := by
  constructor
  · intro file hfile
    obtain ⟨backing, source, hbacking, -, rfl⟩ := synthesize_eq_ok hfile
    obtain ⟨constructor', hconstructor', hall⟩ := backingProperties_eq_ok_iff.mp hbacking
    rw [hconstructor] at hconstructor'
    cases hconstructor'
    refine ⟨backing, source, hbacking, hall, ?_, ?_, ?_⟩
    · show List.Forall₂ _ backing (backing.map (builderProperty _ source))
      rw [List.forall₂_map_right_iff, List.forall₂_same]
      exact fun q _ => ⟨rfl, rfl⟩
    · constructor
      · intro hmembers p hp
        obtain ⟨q, hq, hfirst, -⟩ := exists_of_mem_left hall hp
        exact hfirst.isMember_iff.mp (hmembers q hq)
      · intro hmembers q hq
        obtain ⟨p, hp, hfirst, -⟩ := exists_of_mem_right hall hq
        exact hfirst.isMember_iff.mpr (hmembers p hp)
    · intro q hq hmember
      obtain ⟨p, -, hfirst, -⟩ := exists_of_mem_right hall hq
      have hplain := (PropertyDecl.isMember_iff.mp hmember).2
      exact within_of_property (properlyScoped_of_decode hdecode) hfirst.mem hplain
  · intro hmembers hdistinct hreadable
    have hfound : ∀ p ∈ constructor.parameters, ∃ q, backingProperty d p = .ok q := by
      intro p hp
      obtain ⟨m, hm, hname, hmember, hvisible⟩ := hreadable p hp
      cases hfind : d.property? p.name with
      | none =>
          have hnone := List.find?_eq_none.mp hfind m hm
          simp [hname] at hnone
      | some q =>
          have hfirst := property?_eq_some_iff.mp hfind
          have hq : q.isMember = true := hfirst.isMember_iff.mpr (hmembers p hp)
          -- the first property of the name is a member, and there is only one
          have hsame : q = m := List.inj_on_of_nodup_map hdistinct
            (List.mem_filter.mpr ⟨hfirst.mem, hq⟩) (List.mem_filter.mpr ⟨hm, hmember⟩)
            (hfirst.name_eq.trans hname.symm)
          subst hsame
          exact ⟨q, backingProperty_eq_ok_iff.mpr ⟨hfirst, hvisible⟩⟩
    obtain ⟨backing, hall⟩ := exists_mapM_eq_ok_iff.mpr hfound
    have hbacking : backingProperties d = .ok backing := by
      rw [backingProperties, hconstructor]
      exact hall
    exact exists_synthesize_eq_ok settings hbacking

/-- A class with a number, and other properties. -/
def numberedClass (properties : List PropertyNode) : ClassNode :=
  { ClassNode.of Flags.none "sample/Numbered" with
    constructors := [⟨Flags.none.withOwnBit 0, [.of "number" (.ofClass "kotlin/Int")]⟩]
    properties }

/-- The number of the class. -/
def numberProperty : PropertyNode := .of Flags.none "number" (.ofClass "kotlin/Int")

/-- An extension property of the same name on texts. -/
def numberOfText (flags : Flags) : PropertyNode :=
  { PropertyNode.of flags "number" (.ofClass "kotlin/Long") with
    receiverType := some (.ofClass "kotlin/String") }

/-- The flags of a private property. -/
def privateFlags : Flags := ⟨4⟩

/-- The number of the class, decoded. -/
def numberDecl : PropertyDecl :=
  { flags := Flags.none, name := "number", typeParameters := [], receiverType := none
    type := .ofClass ⟨"kotlin", ["Int"]⟩, getterFlags := Flags.none, setterFlags := none }

/-- The extension property, decoded. -/
def numberOfTextDecl (flags : Flags) : PropertyDecl :=
  { numberDecl with
    flags
    receiverType := some (.ofClass ⟨"kotlin", ["String"]⟩)
    type := .ofClass ⟨"kotlin", ["Long"]⟩ }

/-- The member comes before a private extension, and the builder reads it. -/
theorem backingProperties_members_numberedClass : ∃ d constructor,
    (numberedClass [numberProperty, numberOfText privateFlags]).decode ⟨false⟩ = .ok d ∧
      d.primaryConstructor? = some constructor ∧ MembersFirst constructor d ∧
      ∃ file backing, synthesize ⟨none⟩ d = .ok file ∧ backingProperties d = .ok backing ∧
        ∀ q ∈ backing, q.isMember = true := by
  obtain ⟨d, constructor, hd, hconstructor, hproperties, hparameters⟩ : ∃ d constructor,
      (numberedClass [numberProperty, numberOfText privateFlags]).decode ⟨false⟩ = .ok d ∧
        d.primaryConstructor? = some constructor ∧
        d.properties = [numberDecl, numberOfTextDecl privateFlags] ∧
        constructor.parameters.map (·.name) = ["number"] := ⟨_, _, rfl, rfl, rfl, rfl⟩
  have hname : ∀ p ∈ constructor.parameters, p.name = "number" := by
    intro p hp
    have hmem := List.mem_map_of_mem (f := fun p : Parameter => p.name) hp
    rw [hparameters] at hmem
    exact List.mem_singleton.mp hmem
  have hfirst : IsFirst "number" d.properties numberDecl :=
    ⟨[], [numberOfTextDecl privateFlags], hproperties, rfl, nofun⟩
  have hmembers : MembersFirst constructor d := by
    intro p hp
    rw [hname p hp]
    exact hfirst.isMember_iff.mp rfl
  obtain ⟨hchosen, hbuilder⟩ := backingProperties_members hd hconstructor ⟨none⟩
  obtain ⟨file, hfile⟩ := hbuilder hmembers (by rw [hproperties]; decide) fun p hp =>
    ⟨numberDecl, hfirst.mem, (hname p hp).symm, rfl, rfl⟩
  obtain ⟨backing, source, hbacking, -, -, hiff, -⟩ := hchosen file hfile
  exact ⟨d, constructor, hd, hconstructor, hmembers, file, backing, hfile, hbacking,
    hiff.mpr hmembers⟩

/-- **An extension in the place of the member.** If it comes first, the builder reads a number of
the type of the extension; if it is private, there is no builder, though the member is public. -/
theorem extension_taken_for_member :
    (∃ d file backing,
      (numberedClass [numberOfText Flags.none, numberProperty]).decode ⟨false⟩ = .ok d ∧
        synthesize ⟨none⟩ d = .ok file ∧ backingProperties d = .ok backing ∧
        ∃ q ∈ backing, q.receiverType ≠ none) ∧
      ∃ d constructor,
        (numberedClass [numberOfText privateFlags, numberProperty]).decode ⟨false⟩ = .ok d ∧
          d.primaryConstructor? = some constructor ∧
          ((d.properties.filter PropertyDecl.isMember).map (·.name)).Nodup ∧
          (∀ p ∈ constructor.parameters, ∃ m ∈ d.properties,
            m.name = p.name ∧ m.isMember = true ∧ m.isReadable = true) ∧
          synthesize ⟨none⟩ d =
            .error (.hiddenProperty "sample.Numbered" "number" .privateAccess) := by
  constructor
  · obtain ⟨d, hd, hbacking⟩ : ∃ d,
        (numberedClass [numberOfText Flags.none, numberProperty]).decode ⟨false⟩ = .ok d ∧
          backingProperties d = .ok [numberOfTextDecl Flags.none] := ⟨_, rfl, rfl⟩
    obtain ⟨file, hfile⟩ := exists_synthesize_eq_ok ⟨none⟩ hbacking
    exact ⟨d, file, _, hd, hfile, hbacking, _, List.mem_singleton_self _, nofun⟩
  · refine ⟨_, _, rfl, rfl, by decide, ?_, rfl⟩
    intro p hp
    refine ⟨numberDecl, .tail _ (.head _), ?_, rfl, rfl⟩
    rw [List.mem_singleton.mp hp]
    rfl

end CopyBuilder

end KotlinMeta
