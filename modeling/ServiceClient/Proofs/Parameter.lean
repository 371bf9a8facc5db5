import ServiceClient.Proofs.Spec.Found
import ServiceClient.Proofs.Uri.Binding

/-!
# Parameters of typed members

The members of a typed spec can be classified without failing: the parameters of a location kind are
those of the members that are bound to it, in order, and each goes by the location name of its
member, or by the name of the member where there is none. Members that are not typed have the same
parameters, if they can be classified.
-/

namespace ServiceClient.Parameter

variable {language : Language} {kind : LocationKind} {api operation : Json} {direction : String}

/-- Whether a member is bound to a location of the given kind, for a location that is text. -/
def isBoundTo (kind : LocationKind) (member : Json) : Bool :=
  match member.valueAt "location" with
  | .str word => decide (word ∈ kind.words)
  | _ => false

/-- What the parameter for a member goes by at its location. -/
def locationNameOf (name : String) (member : Json) : Json :=
  (member.valueAt "locationName").orElse (.str name)

/-- The parameter for a member of an object that is typed. -/
def ofField (language : Language) (field : String × Json) : Parameter where
  codeName := Identifier.ofName language field.1
  name := field.1
  locationName := locationNameOf field.1 field.2

theorem isBound_eq {member : Json} (h : Spec.IsTypedMember member) :
    isBound kind member = .ok (isBoundTo kind member) := by
  rw [isBound, h.isObj.field_eq, ok_bind, isBoundTo]
  obtain hnull | ⟨word, hword⟩ := h.location.cases
  · rw [hnull]
    rfl
  · rw [hword]
    rfl

theorem ofMember_eq {name : String} {member : Json} (h : Spec.IsTypedMember member) :
    ofMember language (.str name) member = .ok (ofField language (name, member)) := by
  rw [ofMember, nameText, ok_bind, h.isObj.field_eq, ok_bind]
  rfl

theorem ofBound?_eq {name : String} {member : Json} (h : Spec.IsTypedMember member) :
    ofBound? language kind (.str name) member =
      .ok (if isBoundTo kind member then some (ofField language (name, member)) else none) := by
  rw [ofBound?, isBound_eq h, ok_bind, ofMember_eq h]
  cases isBoundTo kind member <;> rfl

/-- The parameters that are found one by one are those of the bound members, in order. -/
theorem filterMap_id_found (members : Fields) :
    ((members.map fun field ↦
        if isBoundTo kind field.2 then some (ofField language field) else none).filterMap id) =
      (members.filter (isBoundTo kind ·.2)).map (ofField language) := by
  induction members with
  | nil => rfl
  | cons field members ih =>
    cases hbound : isBoundTo kind field.2 with
    | true => simpa [hbound] using ih
    | false => simpa [hbound] using ih

/-- The parameters of a location kind are those of the members that are bound to it. -/
theorem ofMembers_eq {members : Fields} (h : ∀ field ∈ members, Spec.IsTypedMember field.2) :
    ofMembers language kind members =
      .ok ((members.filter (isBoundTo kind ·.2)).map (ofField language)) := by
  rw [ofMembers, mapM_eq_ok_map fun field hfield ↦ ofBound?_eq (h field hfield), ok_bind,
    pure_eq_ok, filterMap_id_found]

/-- The parameters of an operation's input or output, where they can be classified. -/
def boundOf (language : Language) (api operation : Json) (direction : String)
    (kind : LocationKind) : List Parameter :=
  ((Spec.membersOf api operation direction).filter (isBoundTo kind ·.2)).map (ofField language)

theorem ofOperation_eq (h : Spec.HasTypedMembers api operation direction) :
    ofOperation language api operation direction kind =
      .ok (boundOf language api operation direction kind) := by
  obtain ⟨shape, hshape, hmembers⟩ := bind_eq_ok_iff.1 h.members_eq
  rw [ofOperation, hshape, ok_bind, hmembers, ok_bind, ofMembers_eq h.isTypedMember, boundOf]

/-- The parameters for members can be looked up by their location names. -/
theorem keyable_boundOf (hapi : Spec.IsTyped api) :
    Uri.Path.Keyable (boundOf language api operation direction kind) := by
  intro p hp
  obtain ⟨field, hfield, rfl⟩ := List.mem_map.1 hp
  have htext := (hapi.isTypedMember field (List.mem_filter.1 hfield).1).locationName
  show ∃ key, (locationNameOf field.1 field.2).key? = .ok key
  rw [locationNameOf, Json.orElse]
  split
  · exact htext.exists_key
  · exact ⟨some field.1, rfl⟩

/-- A parameter goes by a name exactly when a bound member does. -/
theorem exists_mem_boundOf_iff {name : String} :
    (∃ p ∈ boundOf language api operation direction kind, p.locationName = .str name) ↔
      ∃ field ∈ Spec.membersOf api operation direction,
        isBoundTo kind field.2 = true ∧ locationNameOf field.1 field.2 = .str name := by
  simp only [boundOf, List.mem_map, List.mem_filter]
  constructor
  · rintro ⟨_, ⟨field, ⟨hfield, hbound⟩, rfl⟩, hname⟩
    exact ⟨field, hfield, hbound, hname⟩
  · rintro ⟨field, hfield, hbound, hname⟩
    exact ⟨_, ⟨field, ⟨hfield, hbound⟩, rfl⟩, hname⟩

/-! ### Members that need not be typed -/

theorem eq_isBoundTo_of_isBound {member : Json} {bound : Bool}
    (h : isBound kind member = .ok bound) : bound = isBoundTo kind member := by
  obtain ⟨location, hlocation, h⟩ := bind_eq_ok_iff.1 h
  obtain rfl := Json.eq_valueAt_of_field hlocation
  obtain ⟨word?, hword, h⟩ := bind_eq_ok_iff.1 h
  rw [isBoundTo]
  obtain ⟨word, hvalue, rfl⟩ | ⟨hvalue, rfl⟩ := Json.cases_of_key? hword
  · rw [hvalue]
    exact (Except.ok.inj h).symm
  · obtain rfl := Except.ok.inj h
    split
    · next word hword => exact absurd hword (hvalue word)
    · rfl

theorem eq_ofField_of_ofMember {name : String} {member : Json} {p : Parameter}
    (h : ofMember language (.str name) member = .ok p) : p = ofField language (name, member) := by
  rw [ofMember, nameText, ok_bind] at h
  obtain ⟨locationName, hlocationName, h⟩ := bind_eq_ok_iff.1 h
  obtain rfl := Json.eq_valueAt_of_field hlocationName
  exact (Except.ok.inj h).symm

theorem eq_of_ofBound? {name : String} {member : Json} {found : Option Parameter}
    (h : ofBound? language kind (.str name) member = .ok found) :
    found = if isBoundTo kind member then some (ofField language (name, member)) else none := by
  obtain ⟨bound, hbound, h⟩ := bind_eq_ok_iff.1 h
  rw [← eq_isBoundTo_of_isBound hbound]
  cases bound with
  | false => exact (Except.ok.inj h).symm
  | true =>
    obtain ⟨p, hp, h⟩ := bind_eq_ok_iff.1 h
    rw [← eq_ofField_of_ofMember hp]
    exact (Except.ok.inj h).symm

/-- The parameters that an operation's input or output has are those of the bound members. -/
theorem eq_boundOf_of_ofOperation {ps : List Parameter}
    (h : ofOperation language api operation direction kind = .ok ps) :
    ps = boundOf language api operation direction kind := by
  rw [ofOperation, ← bind_assoc] at h
  obtain ⟨members, hmembers, h⟩ := bind_eq_ok_iff.1 h
  obtain rfl := Spec.members_eq_ok hmembers
  obtain ⟨found, hfound, h⟩ := bind_eq_ok_iff.1 h
  obtain rfl := eq_map_of_mapM (fun _ _ ↦ eq_of_ofBound?) hfound
  rw [boundOf, ← filterMap_id_found]
  exact (Except.ok.inj h).symm

end ServiceClient.Parameter
