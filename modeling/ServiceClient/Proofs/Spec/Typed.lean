import ServiceClient.Parameter
import ServiceClient.Proofs.Json.Typed

/-!
# Well-typed API specs

A spec is well-typed when its sections, operations, shapes and members are objects, and when the
names, locations and references that are looked up are strings or absent. Such a spec can be looked
into without failing: `membersOf` reads off the members of an operation's input or output, and the
parameters at a location are those of the members that are bound to it.
-/

namespace ServiceClient.Spec

/-- A member of a shape is an object whose location, and whose name there, are text. -/
structure IsTypedMember (member : Json) : Prop where
  /-- The member is an object. -/
  isObj : member.IsObj
  /-- The location is text. -/
  location : (member.valueAt "location").IsText
  /-- The name at the location is text. -/
  locationName : (member.valueAt "locationName").IsText

/-- A shape is an object with typed members. -/
structure IsTypedShape (shape : Json) : Prop where
  /-- The shape is an object. -/
  isObj : shape.IsObj
  /-- The members are the fields of an object. -/
  members_isObj : (shape.part "members").IsObj
  /-- The members are typed. -/
  members : ∀ field ∈ (shape.part "members").entries, IsTypedMember field.2

/-- What an operation says about its input or output is null, or an object that refers to a shape by
text. -/
def IsTypedReference : Json → Prop
  | .null => True
  | .obj fields => ((Json.obj fields).valueAt "shape").IsText
  | _ => False

/-- An operation is an object whose request is described by text. -/
structure IsTypedOperation (operation : Json) : Prop where
  /-- The operation is an object. -/
  isObj : operation.IsObj
  /-- The request is described by an object. -/
  http_isObj : (operation.part "http").IsObj
  /-- The method is text. -/
  method : ((operation.part "http").valueAt "method").IsText
  /-- The request URI is text. -/
  requestUri : ((operation.part "http").valueAt "requestUri").IsText
  /-- The input refers to a shape. -/
  input : IsTypedReference (operation.valueAt "input")
  /-- The output refers to a shape. -/
  output : IsTypedReference (operation.valueAt "output")

/-- An API spec whose parts are typed. -/
structure IsTyped (api : Json) : Prop where
  /-- The spec is an object. -/
  isObj : api.IsObj
  /-- The metadata are an object. -/
  metadata_isObj : (api.part "metadata").IsObj
  /-- The endpoint prefix is text. -/
  endpointPrefix : ((api.part "metadata").valueAt "endpointPrefix").IsText
  /-- The operations are the fields of an object. -/
  operations_isObj : (api.part "operations").IsObj
  /-- The operations are typed. -/
  operations : ∀ field ∈ (api.part "operations").entries, IsTypedOperation field.2
  /-- The shapes are the fields of an object. -/
  shapes_isObj : (api.part "shapes").IsObj
  /-- The shapes are typed. -/
  shapes : ∀ field ∈ (api.part "shapes").entries, IsTypedShape field.2

/-! ### The endpoint prefix -/

theorem endpointPrefix_eq_valueAt {api : Json} (hapi : api.IsObj)
    (hmetadata : (api.part "metadata").IsObj) :
    endpointPrefix api = .ok ((api.part "metadata").valueAt "endpointPrefix") := by
  rw [endpointPrefix, metadata, hapi.fieldOrEmpty_eq, ok_bind, hmetadata.field_eq]

/-- Metadata that are no object have no endpoint prefix to look for. -/
theorem endpointPrefix_eq_wanting {api : Json} (hapi : api.IsObj)
    (hmetadata : ¬(api.part "metadata").IsObj) : endpointPrefix api = .error .wanting := by
  rw [endpointPrefix, metadata, hapi.fieldOrEmpty_eq, ok_bind, Json.field_eq_wanting hmetadata]

/-! ### Members -/

/-- The shape that an operation's input or output refers to, if the spec has it. -/
def shape? (api operation : Json) (direction : String) : Option Json :=
  match (operation.valueAt direction).valueAt "shape" with
  | .str name => if name = "" then none else (api.part "shapes").entries.lookup name
  | _ => none

/-- The members of an operation's input or output. -/
def membersOf (api operation : Json) (direction : String) : Fields :=
  match shape? api operation direction with
  | some shape => (shape.part "members").entries
  | none => []

variable {api operation : Json} {direction : String}

theorem IsTypedReference.cases {reference : Json} (h : IsTypedReference reference) :
    reference = .null ∨ reference.IsObj ∧ (reference.valueAt "shape").IsText := by
  cases reference with
  | null => exact .inl rfl
  | obj fields => exact .inr ⟨trivial, h⟩
  | _ => cases h

/-- The shape that is referred to is typed. -/
theorem IsTyped.isTypedShape (h : IsTyped api) :
    ∀ shape ∈ shape? api operation direction, IsTypedShape shape := by
  intro shape hshape
  rw [Option.mem_def, shape?] at hshape
  split at hshape
  · next name _ =>
    split at hshape
    · cases hshape
    · obtain ⟨before, after, heq, -⟩ := List.lookup_eq_some_iff.1 hshape
      exact h.shapes (name, shape) (by simp [heq])
  · cases hshape

/-- The members of a shape that is typed are. -/
theorem isTypedMember_of_isTypedShape
    (h : ∀ shape ∈ shape? api operation direction, IsTypedShape shape) :
    ∀ field ∈ membersOf api operation direction, IsTypedMember field.2 := by
  intro field hfield
  rw [membersOf] at hfield
  split at hfield
  · next shape hshape => exact (h shape hshape).members field hfield
  · cases hfield

/-- What leads to the members of an operation's input or output is typed, and so are they. Nothing
is said of shapes that are not referred to. -/
structure HasTypedMembers (api operation : Json) (direction : String) : Prop where
  /-- The spec is an object. -/
  isObj : api.IsObj
  /-- The shapes are the fields of an object. -/
  shapes_isObj : (api.part "shapes").IsObj
  /-- The operation is an object. -/
  operation_isObj : operation.IsObj
  /-- The input or output refers to a shape. -/
  reference : IsTypedReference (operation.valueAt direction)
  /-- The shape that is referred to is typed. -/
  isTypedShape : ∀ shape ∈ shape? api operation direction, IsTypedShape shape

theorem IsTyped.hasTypedMembers (h : IsTyped api) (hoperation : operation.IsObj)
    (hreference : IsTypedReference (operation.valueAt direction)) :
    HasTypedMembers api operation direction :=
  ⟨h.isObj, h.shapes_isObj, hoperation, hreference, h.isTypedShape⟩

namespace HasTypedMembers

/-- The shape that is referred to is found, unless there is none. -/
theorem shape_eq (h : HasTypedMembers api operation direction) :
    Spec.shape api operation direction = .ok ((shape? api operation direction).getD .null) := by
  have hname : (((operation.valueAt direction).orElse .empty).field "shape") =
      .ok ((operation.valueAt direction).valueAt "shape") := by
    obtain hnull | ⟨hobj, -⟩ := h.reference.cases
    · rw [hnull]
      rfl
    · cases hv : operation.valueAt direction with
      | obj fields => cases fields <;> rfl
      | _ => simp [hv, Json.IsObj] at hobj
  have htext : ((operation.valueAt direction).valueAt "shape").IsText := by
    obtain hnull | ⟨-, htext⟩ := h.reference.cases
    · rw [hnull]
      trivial
    · exact htext
  rw [Spec.shape, h.operation_isObj.field_eq, ok_bind, hname, ok_bind, Spec.shapes, shape?]
  obtain hnull | ⟨name, hname⟩ := htext.cases
  · rw [hnull]
    rfl
  · rw [hname]
    by_cases hempty : name = ""
    · subst hempty
      rfl
    · have hgiven : (Json.str name).given = true := by simpa [Json.given] using hempty
      rw [if_pos hgiven, h.isObj.fieldOrEmpty_eq, ok_bind, h.shapes_isObj.find_str_eq]
      simp [Json.valueAt, hempty]

/-- The members are found. -/
theorem members_eq (h : HasTypedMembers api operation direction) :
    (Spec.shape api operation direction >>= Spec.members) =
      .ok (membersOf api operation direction) := by
  rw [h.shape_eq, ok_bind, membersOf]
  cases hshape : shape? api operation direction with
  | none => rfl
  | some shape =>
    have htyped := h.isTypedShape shape hshape
    show Spec.members shape = .ok _
    rw [Spec.members]
    split
    · rw [htyped.isObj.fieldOrEmpty_eq, ok_bind, htyped.members_isObj.fields_eq]
    · next hgiven =>
      -- an object that does not count as given has no fields
      cases shape with
      | obj fields =>
        cases fields with
        | nil => rfl
        | cons field fields => exact absurd rfl hgiven
      | _ => cases htyped.isObj

theorem isTypedMember (h : HasTypedMembers api operation direction) :
    ∀ field ∈ membersOf api operation direction, IsTypedMember field.2 :=
  isTypedMember_of_isTypedShape h.isTypedShape

end HasTypedMembers

theorem IsTyped.isTypedMember (h : IsTyped api) :
    ∀ field ∈ membersOf api operation direction, IsTypedMember field.2 :=
  isTypedMember_of_isTypedShape h.isTypedShape

end ServiceClient.Spec
