import StaticSite.Settings.Sources

/-! Setting attributes of settings once they are there. Settings do not change, but not all that
hangs on them is a setting. -/

namespace StaticSite

inductive AttributeError where
  | frozen (r : Rejection)
  | notClass (kind : Text)
  | notMembers (kind : Text)
  | notWritable (name : Text)
  | noSetter (name : Text)
  | ofClass (name : Text)

def AttributeError.message : AttributeError → Text
  | frozen r => r.fault.message
  | notClass kind => "__class__ must be set to a class, not '".toList ++ kind ++ "' object".toList
  | notMembers kind =>
      "__dict__ must be set to a dictionary, not a '".toList ++ kind ++ ['\'']
  | notWritable name =>
      "attribute '".toList ++ name ++ "' of 'BaseSettings' objects is not writable".toList
  | noSetter name => "property '".toList ++ name ++ "' of 'Settings' object has no setter".toList
  | ofClass name =>
      name.quoted ++ " is a ClassVar of `Settings` and cannot be set on an instance. ".toList ++
        "If you want to set a value on the class, use `Settings.".toList ++ name ++
        " = value`.".toList

namespace Attribute

/-- The attribute for the kind of settings. -/
def kindName : Text := "__class__".toList

/-- The attribute for all members at once. -/
def membersName : Text := "__dict__".toList

/-- The attribute by which others refer to settings. -/
def referenceName : Text := "__weakref__".toList

/-- Attributes that are computed. -/
def computed : List Text :=
  ["__fields__", "__fields_set__"].map String.toList

/-- Attributes that all settings have in common. -/
def common : List Text :=
  ["__class_vars__", "__private_attributes__", "__signature__", "__pydantic_complete__",
    "__pydantic_core_schema__", "__pydantic_custom_init__", "__pydantic_decorators__",
    "__pydantic_generic_metadata__", "__pydantic_parent_namespace__", "__pydantic_post_init__",
    "__pydantic_root_model__", "__pydantic_serializer__", "__pydantic_validator__",
    "__pydantic_fields__", "__pydantic_setattr_handlers__",
    "__pydantic_computed_fields__"].map String.toList

/-- Why an attribute cannot be set to a value, if it cannot. A name that does not begin with an
underscore is taken for a setting; any other that is not known can be set and means nothing. -/
def refusal? (name : Text) (v : Value) : Option AttributeError :=
  if common.contains name then some (.ofClass name)
  else if name = kindName then some (.notClass v.kindName)
  else if name = membersName then
    match v with
    | .object _ => none
    | v => some (.notMembers v.kindName)
  else if name = referenceName then some (.notWritable name)
  else if computed.contains name then some (.noSetter name)
  else if name.head? = some '_' then none
  else some (.frozen ⟨name, .frozen, v⟩)

/-- The members that settings hold, by the names of fields. -/
def members (s : Settings) : List (Text × Value) :=
  [(Field.host.name, .text s.host), (Field.port.name, .int s.port),
    (Field.rootDir.name, .text s.rootDir), (Field.urlPrefix.name, .text s.urlPrefix),
    (Field.htmlIndex.name, .bool s.htmlIndex), (Field.logLevel.name, .text s.logLevel)]

/-- The members after one attribute has been set. Only that for all of them changes any. -/
def assign (held : List (Text × Value)) (name : Text) (v : Value) : List (Text × Value) :=
  match v with
  | .object replaced => if name = membersName then replaced else held
  | _ => held

/-- The values that are held for fields after attributes have been set, in the order of fields. -/
def heldAfter (s : Settings) (assigned : List (Text × Value)) : List (Field × Value) :=
  let held := assigned.foldl (fun held (name, v) => assign held name v) (members s)
  Field.all.filterMap fun f => (held.lookup f.name).map (f, ·)

end Attribute
end StaticSite
