import KotlinMeta.Header.Json
import KotlinMeta.Node.Build
import KotlinMeta.Proofs.TypeNode.Json

/-! # JSON forms of declarations and headers

The forms of the nodes that hold types, in the manner of `Proofs/TypeNode/Json`, and those of
headers. The main result `nodes_roundTrip` says of every kind of node that each of its forms is
read as the node: fields with their default may be missing and unknown members may be there, at any
depth.
-/

set_option autoImplicit false

namespace KotlinMeta

open Json (Exactly ListForm RoundTrips)

/-! ## Parts of declarations -/

namespace TypeNode

theorem roundTrips_list : RoundTrips (ListForm JsonForm) listJson (Json.readList read) :=
  roundTrips.list

theorem roundTrips_option :
    RoundTrips (Json.OptionForm JsonForm) optionJson (Json.readNullable read) := by
  have hwrite : optionJson = Json.orNull toJson := by
    funext t
    cases t <;> rfl
  rw [hwrite]
  exact roundTrips.option rfl

end TypeNode

namespace TypeParameterNode

/-- The JSON values that stand for a type parameter. -/
def JsonForm (p : TypeParameterNode) : Json → Prop :=
  Json.RecordForm
    [.defaulted "flags" (Exactly Flags.toJson) Flags.none p.flags,
     .required "name" (Exactly .str) p.name,
     .required "id" (Exactly .word) p.id,
     .defaulted "variance" (Exactly NodeVariance.toJson) .invariant p.variance,
     .defaulted "upperBounds" (ListForm TypeNode.JsonForm) [] p.upperBounds]

theorem roundTrips : RoundTrips JsonForm toJson read where
  written p :=
    ⟨_, rfl, .field rfl <| .field rfl <| .field rfl <| .field rfl <|
      .field (TypeNode.roundTrips_list.written p.upperBounds) .nil⟩
  read_eq p j h := by
    obtain ⟨members, hmembers, hfields⟩ :=
      h.exists_members ["flags", "name", "id", "variance", "upperBounds"] rfl (by decide)
    simp only [List.forall_mem_cons] at hfields
    obtain ⟨hflags, hname, hid, hvariance, hbounds, -⟩ := hfields
    have hflags := Flags.roundTrips.defaulted hflags
    have hname := Json.roundTrips_str.required hname
    have hid := Json.roundTrips_word.required hid
    have hvariance := NodeVariance.roundTrips.defaulted hvariance
    have hbounds := TypeNode.roundTrips_list.defaulted hbounds
    simp [read, hmembers, hflags, hname, hid, hvariance, hbounds]

end TypeParameterNode

namespace ValueParameterNode

/-- The JSON values that stand for a value parameter. -/
def JsonForm (p : ValueParameterNode) : Json → Prop :=
  Json.RecordForm
    [.defaulted "flags" (Exactly Flags.toJson) Flags.none p.flags,
     .required "name" (Exactly .str) p.name,
     .optional "type" TypeNode.JsonForm p.type,
     .optional "varargElementType" TypeNode.JsonForm p.varargElementType]

theorem roundTrips : RoundTrips JsonForm toJson read where
  written p :=
    ⟨_, rfl, .field rfl <| .field rfl <|
      .field (TypeNode.roundTrips_option.written p.type) <|
      .field (TypeNode.roundTrips_option.written p.varargElementType) .nil⟩
  read_eq p j h := by
    obtain ⟨members, hmembers, hfields⟩ :=
      h.exists_members ["flags", "name", "type", "varargElementType"] rfl (by decide)
    simp only [List.forall_mem_cons] at hfields
    obtain ⟨hflags, hname, htype, helement, -⟩ := hfields
    have hflags := Flags.roundTrips.defaulted hflags
    have hname := Json.roundTrips_str.required hname
    have htype := TypeNode.roundTrips_option.optional htype
    have helement := TypeNode.roundTrips_option.optional helement
    simp [read, hmembers, hflags, hname, htype, helement]

end ValueParameterNode

/-! ## Declarations -/

namespace ConstructorNode

/-- The JSON values that stand for a constructor. -/
def JsonForm (c : ConstructorNode) : Json → Prop :=
  Json.RecordForm
    [.defaulted "flags" (Exactly Flags.toJson) Flags.none c.flags,
     .defaulted "valueParameters" (ListForm ValueParameterNode.JsonForm) [] c.valueParameters]

theorem roundTrips : RoundTrips JsonForm toJson read where
  written c :=
    ⟨_, rfl, .field rfl <|
      .field (ValueParameterNode.roundTrips.list.written c.valueParameters) .nil⟩
  read_eq c j h := by
    obtain ⟨members, hmembers, hfields⟩ :=
      h.exists_members ["flags", "valueParameters"] rfl (by decide)
    simp only [List.forall_mem_cons] at hfields
    obtain ⟨hflags, hparameters, -⟩ := hfields
    have hflags := Flags.roundTrips.defaulted hflags
    have hparameters := ValueParameterNode.roundTrips.list.defaulted hparameters
    simp [read, hmembers, hflags, hparameters]

end ConstructorNode

namespace FunctionNode

/-- The JSON values that stand for a function. -/
def JsonForm (f : FunctionNode) : Json → Prop :=
  Json.RecordForm
    [.defaulted "flags" (Exactly Flags.toJson) Flags.none f.flags,
     .required "name" (Exactly .str) f.name,
     .defaulted "typeParameters" (ListForm TypeParameterNode.JsonForm) [] f.typeParameters,
     .optional "receiverParameterType" TypeNode.JsonForm f.receiverType,
     .defaulted "valueParameters" (ListForm ValueParameterNode.JsonForm) [] f.valueParameters,
     .required "returnType" TypeNode.JsonForm f.returnType]

theorem roundTrips : RoundTrips JsonForm toJson read where
  written f :=
    ⟨_, rfl, .field rfl <| .field rfl <|
      .field (TypeParameterNode.roundTrips.list.written f.typeParameters) <|
      .field (TypeNode.roundTrips_option.written f.receiverType) <|
      .field (ValueParameterNode.roundTrips.list.written f.valueParameters) <|
      .field (TypeNode.roundTrips.written f.returnType) .nil⟩
  read_eq f j h := by
    obtain ⟨members, hmembers, hfields⟩ :=
      h.exists_members
        ["flags", "name", "typeParameters", "receiverParameterType", "valueParameters",
          "returnType"] rfl (by decide)
    simp only [List.forall_mem_cons] at hfields
    obtain ⟨hflags, hname, htypes, hreceiver, hparameters, hreturn, -⟩ := hfields
    have hflags := Flags.roundTrips.defaulted hflags
    have hname := Json.roundTrips_str.required hname
    have htypes := TypeParameterNode.roundTrips.list.defaulted htypes
    have hreceiver := TypeNode.roundTrips_option.optional hreceiver
    have hparameters := ValueParameterNode.roundTrips.list.defaulted hparameters
    have hreturn := TypeNode.roundTrips.required hreturn
    simp [read, hmembers, hflags, hname, htypes, hreceiver, hparameters, hreturn]

end FunctionNode

namespace PropertyNode

/-- The JSON values that stand for a property. -/
def JsonForm (p : PropertyNode) : Json → Prop :=
  Json.RecordForm
    [.defaulted "flags" (Exactly Flags.toJson) Flags.none p.flags,
     .required "name" (Exactly .str) p.name,
     .defaulted "getterFlags" (Exactly Flags.toJson) Flags.none p.getterFlags,
     .defaulted "setterFlags" (Exactly Flags.toJson) Flags.none p.setterFlags,
     .defaulted "typeParameters" (ListForm TypeParameterNode.JsonForm) [] p.typeParameters,
     .optional "receiverParameterType" TypeNode.JsonForm p.receiverType,
     .required "returnType" TypeNode.JsonForm p.returnType]

theorem roundTrips : RoundTrips JsonForm toJson read where
  written p :=
    ⟨_, rfl, .field rfl <| .field rfl <| .field rfl <| .field rfl <|
      .field (TypeParameterNode.roundTrips.list.written p.typeParameters) <|
      .field (TypeNode.roundTrips_option.written p.receiverType) <|
      .field (TypeNode.roundTrips.written p.returnType) .nil⟩
  read_eq p j h := by
    obtain ⟨members, hmembers, hfields⟩ :=
      h.exists_members
        ["flags", "name", "getterFlags", "setterFlags", "typeParameters",
          "receiverParameterType", "returnType"] rfl (by decide)
    simp only [List.forall_mem_cons] at hfields
    obtain ⟨hflags, hname, hgetter, hsetter, htypes, hreceiver, hreturn, -⟩ := hfields
    have hflags := Flags.roundTrips.defaulted hflags
    have hname := Json.roundTrips_str.required hname
    have hgetter := Flags.roundTrips.defaulted hgetter
    have hsetter := Flags.roundTrips.defaulted hsetter
    have htypes := TypeParameterNode.roundTrips.list.defaulted htypes
    have hreceiver := TypeNode.roundTrips_option.optional hreceiver
    have hreturn := TypeNode.roundTrips.required hreturn
    simp [read, hmembers, hflags, hname, hgetter, hsetter, htypes, hreceiver, hreturn]

end PropertyNode

namespace ClassNode

/-- The JSON values that stand for a class. -/
def JsonForm (c : ClassNode) : Json → Prop :=
  Json.RecordForm
    [.defaulted "flags" (Exactly Flags.toJson) Flags.none c.flags,
     .required "name" (Exactly .str) c.name,
     .defaulted "typeParameters" (ListForm TypeParameterNode.JsonForm) [] c.typeParameters,
     .defaulted "supertypes" (ListForm TypeNode.JsonForm) [] c.supertypes,
     .defaulted "constructors" (ListForm ConstructorNode.JsonForm) [] c.constructors,
     .defaulted "properties" (ListForm PropertyNode.JsonForm) [] c.properties,
     .defaulted "functions" (ListForm FunctionNode.JsonForm) [] c.functions,
     .optional "companionObject" (Exactly .str) c.companionObject,
     .defaulted "nestedClasses" (ListForm (Exactly .str)) [] c.nestedClasses,
     .defaulted "enumEntries" (ListForm (Exactly .str)) [] c.enumEntries,
     .defaulted "sealedSubclasses" (ListForm (Exactly .str)) [] c.sealedSubclasses]

theorem roundTrips : RoundTrips JsonForm toJson read where
  written c :=
    ⟨_, rfl, .field rfl <| .field rfl <|
      .field (TypeParameterNode.roundTrips.list.written c.typeParameters) <|
      .field (TypeNode.roundTrips_list.written c.supertypes) <|
      .field (ConstructorNode.roundTrips.list.written c.constructors) <|
      .field (PropertyNode.roundTrips.list.written c.properties) <|
      .field (FunctionNode.roundTrips.list.written c.functions) <|
      .field ((Json.roundTrips_str.option rfl).written c.companionObject) <|
      .field (Json.roundTrips_strs.written c.nestedClasses) <|
      .field (Json.roundTrips_strs.written c.enumEntries) <|
      .field (Json.roundTrips_strs.written c.sealedSubclasses) .nil⟩
  read_eq c j h := by
    obtain ⟨members, hmembers, hfields⟩ :=
      h.exists_members
        ["flags", "name", "typeParameters", "supertypes", "constructors", "properties",
          "functions", "companionObject", "nestedClasses", "enumEntries", "sealedSubclasses"]
        rfl (by decide)
    simp only [List.forall_mem_cons] at hfields
    obtain ⟨hflags, hname, htypes, hsupers, hconstructors, hproperties, hfunctions, hcompanion,
      hnested, hentries, hsealed, -⟩ := hfields
    have hflags := Flags.roundTrips.defaulted hflags
    have hname := Json.roundTrips_str.required hname
    have htypes := TypeParameterNode.roundTrips.list.defaulted htypes
    have hsupers := TypeNode.roundTrips_list.defaulted hsupers
    have hconstructors := ConstructorNode.roundTrips.list.defaulted hconstructors
    have hproperties := PropertyNode.roundTrips.list.defaulted hproperties
    have hfunctions := FunctionNode.roundTrips.list.defaulted hfunctions
    have hcompanion := (Json.roundTrips_str.option rfl).optional hcompanion
    have hnested := Json.roundTrips_strs.defaulted hnested
    have hentries := Json.roundTrips_strs.defaulted hentries
    have hsealed := Json.roundTrips_strs.defaulted hsealed
    simp [read, hmembers, hflags, hname, htypes, hsupers, hconstructors, hproperties, hfunctions,
      hcompanion, hnested, hentries, hsealed]

end ClassNode

/-! ## Headers -/

theorem MetadataKind.roundTrips : RoundTrips (Exactly toJson) toJson read := by
  refine Json.roundTrips_exactly fun k => ?_
  cases k with
  | unknown n =>
      have hn := Json.roundTrips_signed.read_eq n _ rfl
      show (Json.readInt32 (Json.signed n)).map unknown = _
      rw [hn]
      rfl
  | _ => rfl

namespace Header

/-- The JSON values that stand for a header. -/
def JsonForm (h : Header) : Json → Prop :=
  Json.RecordForm
    [.defaulted "kind" (Exactly Json.signed) 0 h.kind,
     .defaulted "metadataVersion" (ListForm (Exactly .word)) [] h.metadataVersion,
     .defaulted "bytecodeVersion" (ListForm (Exactly .word)) [] h.bytecodeVersion,
     .defaulted "data1" (ListForm (Exactly .str)) [] h.data1,
     .defaulted "data2" (ListForm (Exactly .str)) [] h.data2,
     .optional "extraString" (Exactly .str) h.extraString,
     .optional "packageName" (Exactly .str) h.packageName,
     .defaulted "extraInt" (Exactly Json.signed) 0 h.extraInt]

theorem roundTrips : RoundTrips JsonForm toJson read where
  written h :=
    ⟨_, rfl, .field rfl <|
      .field (Json.roundTrips_word.list.written h.metadataVersion) <|
      .field (Json.roundTrips_word.list.written h.bytecodeVersion) <|
      .field (Json.roundTrips_strs.written h.data1) <|
      .field (Json.roundTrips_strs.written h.data2) <|
      .field ((Json.roundTrips_str.option rfl).written h.extraString) <|
      .field ((Json.roundTrips_str.option rfl).written h.packageName) <|
      .field rfl .nil⟩
  read_eq h j hj := by
    obtain ⟨members, hmembers, hfields⟩ :=
      hj.exists_members
        ["kind", "metadataVersion", "bytecodeVersion", "data1", "data2", "extraString",
          "packageName", "extraInt"] rfl (by decide)
    simp only [List.forall_mem_cons] at hfields
    obtain ⟨hkind, hversion, hbytecode, hdata1, hdata2, hstring, hpackage, hint, -⟩ := hfields
    have hkind := Json.roundTrips_signed.defaulted hkind
    have hversion := Json.roundTrips_word.list.defaulted hversion
    have hbytecode := Json.roundTrips_word.list.defaulted hbytecode
    have hdata1 := Json.roundTrips_strs.defaulted hdata1
    have hdata2 := Json.roundTrips_strs.defaulted hdata2
    have hstring := (Json.roundTrips_str.option rfl).optional hstring
    have hpackage := (Json.roundTrips_str.option rfl).optional hpackage
    have hint := Json.roundTrips_signed.defaulted hint
    simp [read, hmembers, hkind, hversion, hbytecode, hdata1, hdata2, hstring, hpackage, hint]

end Header

/-! ## The result -/

/-- Every node is written in one of its forms and read back from each of them: as it is written, and
also with fields left out that have their default and members added that no field has the key of,
in any object at any depth. -/
theorem nodes_roundTrip :
    RoundTrips ClassNode.JsonForm ClassNode.toJson ClassNode.read ∧
      RoundTrips ConstructorNode.JsonForm ConstructorNode.toJson ConstructorNode.read ∧
      RoundTrips FunctionNode.JsonForm FunctionNode.toJson FunctionNode.read ∧
      RoundTrips PropertyNode.JsonForm PropertyNode.toJson PropertyNode.read ∧
      RoundTrips ValueParameterNode.JsonForm ValueParameterNode.toJson ValueParameterNode.read ∧
      RoundTrips TypeParameterNode.JsonForm TypeParameterNode.toJson TypeParameterNode.read ∧
      RoundTrips (Exactly NodeVariance.toJson) NodeVariance.toJson NodeVariance.read ∧
      RoundTrips TypeNode.JsonForm TypeNode.toJson TypeNode.read ∧
      RoundTrips (Exactly Classifier.toJson) Classifier.toJson Classifier.read ∧
      RoundTrips ProjectionNode.JsonForm ProjectionNode.toJson TypeNode.readProjection ∧
      RoundTrips FlexibleBoundNode.JsonForm FlexibleBoundNode.toJson TypeNode.readBound ∧
      RoundTrips Header.JsonForm Header.toJson Header.read ∧
      RoundTrips (Exactly MetadataKind.toJson) MetadataKind.toJson MetadataKind.read ∧
      RoundTrips (Exactly Flags.toJson) Flags.toJson Flags.read :=
  ⟨ClassNode.roundTrips, ConstructorNode.roundTrips, FunctionNode.roundTrips,
    PropertyNode.roundTrips, ValueParameterNode.roundTrips, TypeParameterNode.roundTrips,
    NodeVariance.roundTrips, TypeNode.roundTrips, Classifier.roundTrips,
    ProjectionNode.roundTrips, FlexibleBoundNode.roundTrips, Header.roundTrips,
    MetadataKind.roundTrips, Flags.roundTrips⟩

/-- `class Box<out T : Any>`. -/
def boxClass : ClassNode :=
  { ClassNode.of Flags.none "pkg/Box" with
    typeParameters :=
      [{ TypeParameterNode.of "T" 0 .covariant with upperBounds := [.ofClass "kotlin/Any"] }] }

/-- The class in a form that leaves out what it can and says more than is asked for. -/
def boxClassJson : Json :=
  .obj
    [("name", .str "pkg/Box"), ("comment", .null),
     ("typeParameters",
       .arr
         [.obj
           [("name", .str "T"), ("id", .int 0), ("variance", .str "out"),
            ("upperBounds",
              .arr
                [.obj
                  [("line", .int 3), ("classifier", .obj [("class", .str "kotlin/Any")])]])]])]

theorem nodes_roundTrip_boxClass :
    ClassNode.JsonForm boxClass boxClassJson ∧ ClassNode.read boxClassJson = some boxClass := by
  have hbound : TypeNode.JsonForm (.ofClass "kotlin/Any")
      (.obj [("line", .int 3), ("classifier", .obj [("class", .str "kotlin/Any")])]) :=
    ⟨_, rfl, .unknown (by decide) <| .default rfl <| .field rfl <| .default rfl <|
      .default rfl <| .default rfl <| .default rfl <| .default rfl .nil⟩
  have hparameter : TypeParameterNode.JsonForm
      { TypeParameterNode.of "T" 0 .covariant with upperBounds := [.ofClass "kotlin/Any"] }
      (.obj
        [("name", .str "T"), ("id", .int 0), ("variance", .str "out"),
         ("upperBounds",
           .arr
             [.obj [("line", .int 3), ("classifier", .obj [("class", .str "kotlin/Any")])]])]) :=
    ⟨_, rfl, .default rfl <| .field rfl <| .field rfl <| .field rfl <|
      .field ⟨_, rfl, .cons hbound .nil⟩ .nil⟩
  have hclass : ClassNode.JsonForm boxClass boxClassJson :=
    ⟨_, rfl, .default rfl <| .field rfl <| .unknown (by decide) <|
      .field ⟨_, rfl, .cons hparameter .nil⟩ <| .default rfl <| .default rfl <| .default rfl <|
      .default rfl <| .default rfl <| .default rfl <| .default rfl <| .default rfl .nil⟩
  exact ⟨hclass, nodes_roundTrip.1.read_eq _ _ hclass⟩

end KotlinMeta
