import Mathlib.Data.List.AList
import Mathlib.Data.List.Dedup
import Xlorm.Sql.Table

/-!
# Struct data (`structmapper.go`, `StructMapper.StructToMap`)

`Insert` and `Update` take struct data through `extractFieldsAndValues`, which hands it to
`StructMapper.StructToMap`: the value is looked through one pointer, must be a struct, and its
fields are walked in declaration order. Each field's `db` tag gives its metadata
(`parseFieldMeta`); an ignored field is skipped, a field of a struct type other than `time.Time`
is mapped recursively and its entries merged over the result, and any other field is stored
under its `db` name, its default converted in when `isEmptyValue` holds and a `default=` option
is given. Storing a field reads it through `field.Interface()`, which panics on a field that is
not exported; the recursion reads the nested struct the same way.

Go values are modelled as `reflect` walks them: a struct value lists its fields with their
values, a pointer its target, and any other value is a leaf with the kind `isBasicType` and
`isEmptyValue` read. `unicode.IsUpper` (which decides `IsExported`) and the `strconv` parsers
behind the converters are parameters; `getStructMeta`'s cache returns what it stored for the
type, and Go's field names of one struct are distinct, so `FieldByName` finds the field the
walk is at.

**The law** (`structToMap_keys`, `structToMap_exported_noPanic`): a map `StructToMap` returns
has for keys exactly the `db` names of the leaf fields the walk reaches, each once, and a struct
whose fields are all exported is mapped without a panic.
-/

namespace Xlorm

/-- The `reflect.Kind` of a value the mapper does not walk into; `other` stands for the kinds
the source never names (`Uintptr`, `Complex64`, `Complex128`, `Chan`, `Func`,
`UnsafePointer`). -/
inductive ScalarKind where
  | bool | int | int8 | int16 | int32 | int64 | uint | uint8 | uint16 | uint32 | uint64
  | float32 | float64 | string | interface | slice | map | array | other
  deriving Repr, DecidableEq

/-- `reflect.Kind`. -/
inductive Kind where
  | scalar (kind : ScalarKind)
  | struct
  | ptr
  deriving Repr, DecidableEq

/-- A `reflect.Type`: its kind and the name `String()` gives. -/
structure GoType where
  kind : Kind
  name : String
  deriving Repr, DecidableEq

/-- A field of a struct type: its name and `Tag.Get("db")`. -/
structure StructField where
  name : String
  dbTag : String
  deriving Repr, DecidableEq

/-- A Go value as `reflect` walks it. -/
inductive GoValue where
  /-- A value of a kind other than struct or pointer: its type's name, what `isEmptyValue`
  reads of it (`IsNil` of an interface, `Len() == 0` of a string, slice, map or array), and
  what the driver receives. -/
  | leaf (kind : ScalarKind) (typeName : String) (empty : Bool) (value : Value)
  /-- A pointer to a value of the named type; none is `nil`. -/
  | ptr (elemName : String) (target : Option GoValue)
  /-- A value of the named struct type, with its fields in declaration order. -/
  | struct (typeName : String) (fields : List (StructField × GoValue))
  deriving Repr

/-- `Type()` of a value. -/
def GoValue.type : GoValue → GoType
  | .leaf kind typeName _ _ => ⟨.scalar kind, typeName⟩
  | .ptr elemName _ => ⟨.ptr, "*" ++ elemName⟩
  | .struct typeName _ => ⟨.struct, typeName⟩

/-- `isBasicType`: booleans, integers, floats and strings, and the struct `time.Time`. -/
def isBasicType (t : GoType) : Bool :=
  match t.kind with
  | .scalar .interface | .scalar .slice | .scalar .map | .scalar .array | .scalar .other => false
  | .scalar _ => true
  | .struct => t.name == "time.Time"
  | .ptr => false

/-- `isEmptyValue`: a nil pointer or interface, an empty string, slice, map or array. -/
def isEmptyValue : GoValue → Bool
  | .ptr _ target => target.isNone
  | .leaf .interface _ empty _ | .leaf .string _ empty _ | .leaf .slice _ empty _
  | .leaf .map _ empty _ | .leaf .array _ empty _ => empty
  | _ => false

/-- The kinds `NewStructMapper` registers a converter for. -/
def converterKinds : List ScalarKind := [.string, .int, .int64, .bool, .float32, .float64]

/-- `fieldMeta`, without the callbacks (always none) and the prefix (always empty). -/
structure FieldMeta where
  dbName : String := ""
  sqlType : String := ""
  defaultVal : String := ""
  ignored : Bool := false
  required : Bool := false
  omitempty : Bool := false
  isPK : Bool := false
  hasDefault : Bool := false
  deriving Repr, DecidableEq

/-- One option of a `db` tag, after its name. -/
def FieldMeta.applyOption (fieldMeta : FieldMeta) (part : String) : FieldMeta :=
  if part = "pk" then { fieldMeta with isPK := true }
  else if part = "required" then { fieldMeta with required := true }
  else if part = "omitempty" then { fieldMeta with omitempty := true }
  else if hasPrefix part "type=" then { fieldMeta with sqlType := trimPrefix part "type=" }
  else if hasPrefix part "default=" then
    { fieldMeta with hasDefault := true, defaultVal := trimPrefix part "default=" }
  else if part = "ignore" then { fieldMeta with ignored := true }
  else fieldMeta

/-- `parseFieldMeta`, over the field's `db` tag: `-` ignores the field; otherwise the tag's
first comma-separated part is the name and the others are options. -/
def parseFieldMeta (dbTag : String) : FieldMeta :=
  if dbTag = "-" then { ignored := true }
  else
    match splitChar dbTag ',' with
    | [] => {}
    | dbName :: parts => parts.foldl FieldMeta.applyOption { dbName := dbName }

/-- `standardDialect.QuoteIdentifier`, the mapper's dialect: the name as it is. -/
def quoteIdentifier (s : String) : String := s

/-- How `StructToMap` fails: an error it returns, or a panic of `reflect`. -/
inductive MapFailure where
  | error (msg : String)
  | panic (msg : String)
  deriving Repr, DecidableEq

/-- What `Value.Interface` panics with on a field that is not exported. -/
def interfacePanic : String :=
  "reflect.Value.Interface: cannot return value obtained from unexported field or method"

/-- The `map[string]interface{}` `StructToMap` builds. -/
abbrev StructMap := AList fun _ : String => GoValue

section Mapper

variable (isUpper : Char → Bool) (convert : ScalarKind → String → Except String GoValue)
  (convertTime : String → Except String GoValue)

/-- `StructField.IsExported`: the name starts with an upper-case letter. -/
def isExported (name : String) : Bool :=
  match name.data with
  | c :: _ => isUpper c
  | [] => false

/-- `convertValue`: the registered converter of the kind, else `convertTime` for `time.Time`. -/
def convertValue (defaultVal : String) (fieldType : GoType) : Except String GoValue :=
  match fieldType.kind with
  | .scalar kind =>
    if converterKinds.contains kind then convert kind defaultVal
    else .error ("unsupported type conversion for " ++ fieldType.name)
  | _ =>
    if fieldType = ⟨.struct, "time.Time"⟩ then convertTime defaultVal
    else .error ("unsupported type conversion for " ++ fieldType.name)

/-- A field stored under its `db` name: the converted default when the value is empty and
a default is given, else the value itself through `Interface()`. -/
def storeField (field : StructField) (fieldMeta : FieldMeta) (v : GoValue) (result : StructMap) :
    Except MapFailure StructMap :=
  if isEmptyValue v && fieldMeta.hasDefault then
    match convertValue convert convertTime fieldMeta.defaultVal v.type with
    | .ok defaultVal => .ok (result.insert (quoteIdentifier fieldMeta.dbName) defaultVal)
    | .error msg => .error (.error msg)
  else if !isExported isUpper field.name then .error (.panic interfacePanic)
  else .ok (result.insert (quoteIdentifier fieldMeta.dbName) v)

mutual

/-- `StructToMap`'s loop over a struct's fields, from the map built so far. -/
def fieldsToMap : List (StructField × GoValue) → StructMap → Except MapFailure StructMap
  | [], result => .ok result
  | (field, v) :: fields, result =>
    match fieldToMap field v result with
    | .ok result => fieldsToMap fields result
    | .error e => .error e

/-- One field of `StructToMap`'s loop: skipped when ignored; a nested struct other than
`time.Time` read through `Interface()`, mapped, and its entries written over the result; any
other field stored. -/
def fieldToMap (field : StructField) (v : GoValue) (result : StructMap) :
    Except MapFailure StructMap :=
  if (parseFieldMeta field.dbTag).ignored then .ok result
  else
    match v with
    | .struct typeName fields =>
      if !isBasicType ⟨.struct, typeName⟩ then
        if !isExported isUpper field.name then .error (.panic interfacePanic)
        else
          match fieldsToMap fields ∅ with
          | .ok nestedMap => .ok (nestedMap ∪ result)
          | .error e => .error e
      else storeField isUpper convert convertTime field (parseFieldMeta field.dbTag) v result
    | v => storeField isUpper convert convertTime field (parseFieldMeta field.dbTag) v result

end

/-- `StructToMap`: the value, looked through one pointer, must be a struct. -/
def structToMap (s : GoValue) : Except MapFailure StructMap :=
  match s with
  | .struct _ fields | .ptr _ (some (.struct _ fields)) =>
    fieldsToMap isUpper convert convertTime fields ∅
  | _ => .error (.error "input must be a struct")

/-! ## What the walk reaches -/

mutual

/-- The `db` names of the leaf fields `StructToMap`'s walk reaches, in walk order. -/
def leafDbNames : List (StructField × GoValue) → List String
  | [] => []
  | (field, v) :: fields => fieldLeafDbNames field v ++ leafDbNames fields

/-- The `db` names one field contributes: none when ignored, the nested struct's when it is
walked into, its own otherwise. -/
def fieldLeafDbNames (field : StructField) (v : GoValue) : List String :=
  if (parseFieldMeta field.dbTag).ignored then []
  else
    match v with
    | .struct typeName fields =>
      if !isBasicType ⟨.struct, typeName⟩ then leafDbNames fields
      else [quoteIdentifier (parseFieldMeta field.dbTag).dbName]
    | _ => [quoteIdentifier (parseFieldMeta field.dbTag).dbName]

end

mutual

/-- Every field, at every depth of nested structs, is exported. -/
def fieldsExported : List (StructField × GoValue) → Bool
  | [] => true
  | (field, v) :: fields => isExported isUpper field.name && valueExported v && fieldsExported fields

/-- Every field of a struct value, at every depth, is exported. -/
def valueExported : GoValue → Bool
  | .struct _ fields => fieldsExported fields
  | _ => true

end

/-! ## The keys of the map -/

theorem storeField_keys {field : StructField} {fieldMeta : FieldMeta} {v : GoValue}
    {result m : StructMap} (h : storeField isUpper convert convertTime field fieldMeta v result = .ok m)
    (k : String) : k ∈ m ↔ k = quoteIdentifier fieldMeta.dbName ∨ k ∈ result := by
  unfold storeField at h
  split_ifs at h
  · split at h
    · cases h; rw [AList.mem_insert]
    · cases h
  · cases h; rw [AList.mem_insert]

mutual

theorem fieldsToMap_keys : ∀ (fields : List (StructField × GoValue)) (result m : StructMap),
    fieldsToMap isUpper convert convertTime fields result = .ok m →
      ∀ k, k ∈ m ↔ k ∈ leafDbNames fields ∨ k ∈ result
  | [], result, m, h, k => by
    cases h; simp [leafDbNames]
  | (field, v) :: fields, result, m, h, k => by
    rw [fieldsToMap] at h
    split at h
    · rename_i r hr
      rw [fieldsToMap_keys fields r m h, fieldToMap_keys field v result r hr, leafDbNames,
        List.mem_append]
      tauto
    · cases h

theorem fieldToMap_keys : ∀ (field : StructField) (v : GoValue) (result m : StructMap),
    fieldToMap isUpper convert convertTime field v result = .ok m →
      ∀ k, k ∈ m ↔ k ∈ fieldLeafDbNames field v ∨ k ∈ result
  | field, .struct typeName fields, result, m, h, k => by
    rw [fieldToMap] at h
    rw [fieldLeafDbNames]
    split_ifs at h ⊢ with hig hb hx
    · cases h; simp
    · split at h
      · rename_i nested hn
        cases h
        rw [AList.mem_union, fieldsToMap_keys fields ∅ nested hn]
        simp
      · cases h
    · rw [storeField_keys isUpper convert convertTime h, List.mem_singleton]
  | field, .leaf _ _ _ _, result, m, h, k | field, .ptr _ _, result, m, h, k => by
    simp only [fieldToMap] at h
    simp only [fieldLeafDbNames]
    split_ifs at h ⊢
    · cases h; simp
    · rw [storeField_keys isUpper convert convertTime h, List.mem_singleton]

end

/-- A map `StructToMap` returns for a struct value has for keys exactly the distinct `db` names
of the leaf fields its walk reaches: one entry per such field exactly when those names are
distinct. -/
theorem structToMap_keys (typeName : String) (fields : List (StructField × GoValue))
    {m : StructMap} (h : structToMap isUpper convert convertTime (.struct typeName fields) = .ok m) :
    m.keys.Perm (leafDbNames fields).dedup ∧
      (m.keys.length = (leafDbNames fields).length ↔ (leafDbNames fields).Nodup) := by
  have hk := fieldsToMap_keys isUpper convert convertTime fields ∅ m h
  have hperm : m.keys.Perm (leafDbNames fields).dedup :=
    (List.perm_ext_iff_of_nodup m.keys_nodup (List.nodup_dedup _)).mpr fun k =>
      (hk k).trans (by simp [List.mem_dedup])
  refine ⟨hperm, ?_⟩
  rw [hperm.length_eq]
  exact ⟨fun hl => List.dedup_eq_self.mp ((List.dedup_sublist _).eq_of_length hl),
    fun hn => by rw [List.dedup_eq_self.mpr hn]⟩

/-- `structToMap_keys` at `{ID int "db:id,pk"; Name string "db:name"}`. -/
theorem structToMap_keys_user :
    let fields : List (StructField × GoValue) :=
      [(⟨"ID", "id,pk"⟩, .leaf .int "int" false (.int 1)),
        (⟨"Name", "name"⟩, .leaf .string "string" false (.str "ann"))]
    ∃ m, structToMap Char.isUpper (fun _ _ => .error "none") (fun _ => .error "none")
        (.struct "User" fields) = .ok m ∧
      m.keys.Perm (leafDbNames fields).dedup ∧
        (m.keys.length = (leafDbNames fields).length ↔ (leafDbNames fields).Nodup) :=
  by
  intro fields
  exact ⟨_, rfl, structToMap_keys Char.isUpper (fun _ _ => .error "none") (fun _ => .error "none")
    "User" fields rfl⟩

/-! ## Panics -/

theorem storeField_ne_panic {field : StructField} (hx : isExported isUpper field.name = true)
    (fieldMeta : FieldMeta) (v : GoValue) (result : StructMap) (msg : String) :
    storeField isUpper convert convertTime field fieldMeta v result ≠ .error (.panic msg) := by
  simp only [storeField, hx, Bool.not_true, Bool.false_eq_true, if_false]
  split_ifs
  · split <;> rintro ⟨⟩
  · rintro ⟨⟩

mutual

theorem fieldsToMap_ne_panic : ∀ (fields : List (StructField × GoValue)) (result : StructMap)
    (msg : String), fieldsExported isUpper fields = true →
      fieldsToMap isUpper convert convertTime fields result ≠ .error (.panic msg)
  | [], result, msg, _ => nofun
  | (field, v) :: fields, result, msg, hx => by
    simp only [fieldsExported, Bool.and_eq_true] at hx
    rw [fieldsToMap]
    split
    · exact fieldsToMap_ne_panic fields _ msg hx.2
    · rename_i e he
      rintro ⟨⟩
      exact fieldToMap_ne_panic field v result msg hx.1.1 hx.1.2 he

theorem fieldToMap_ne_panic : ∀ (field : StructField) (v : GoValue) (result : StructMap)
    (msg : String), isExported isUpper field.name = true → valueExported isUpper v = true →
      fieldToMap isUpper convert convertTime field v result ≠ .error (.panic msg)
  | field, .struct typeName fields, result, msg, hx, hv => by
    rw [fieldToMap]
    simp only [hx, Bool.not_true, Bool.false_eq_true, if_false]
    split_ifs
    · nofun
    · split
      · nofun
      · rename_i e he
        rintro ⟨⟩
        exact fieldsToMap_ne_panic fields ∅ msg hv he
    · exact storeField_ne_panic isUpper convert convertTime hx _ _ _ msg
  | field, .leaf _ _ _ _, result, msg, hx, _ | field, .ptr _ _, result, msg, hx, _ => by
    simp only [fieldToMap]
    split_ifs
    · nofun
    · exact storeField_ne_panic isUpper convert convertTime hx _ _ _ msg

end

/-- A struct value whose fields are all exported, at every depth, is mapped without a panic. -/
theorem structToMap_exported_noPanic (typeName : String) (fields : List (StructField × GoValue))
    (hx : fieldsExported isUpper fields = true) (msg : String) :
    structToMap isUpper convert convertTime (.struct typeName fields) ≠ .error (.panic msg) :=
  fieldsToMap_ne_panic isUpper convert convertTime fields ∅ msg hx

/-- `structToMap_exported_noPanic` at `{Name string "db:name"; Profile {Email string}}`. -/
theorem structToMap_exported_noPanic_nested :
    let fields : List (StructField × GoValue) :=
      [(⟨"Name", "name"⟩, .leaf .string "string" false (.str "ann")),
        (⟨"Profile", ""⟩, .struct "Profile" [(⟨"Email", "email"⟩, .leaf .string "string" true (.str ""))])]
    fieldsExported Char.isUpper fields = true ∧
      structToMap Char.isUpper (fun _ _ => .error "none") (fun _ => .error "none")
        (.struct "User" fields) ≠ .error (.panic interfacePanic) :=
  by
  intro fields
  exact ⟨rfl, structToMap_exported_noPanic Char.isUpper (fun _ _ => .error "none")
    (fun _ => .error "none") "User" fields rfl interfacePanic⟩

end Mapper

/-! ## Where the walk breaks the one-entry-per-field reading -/

/-- Three structs `Insert` may be handed: `{Name string "db:name"; secret string}` panics in
`Interface()` at `secret`; `{Name, Email string}`, untagged, maps both fields to the one key
`""`; and `{ID int "db:id"; Profile {ID int "db:id"}}` maps the outer and the nested `ID` to
the one key `id`. -/
theorem structToMap_panicsOrMerges (convert : ScalarKind → String → Except String GoValue)
    (convertTime : String → Except String GoValue) :
    let name : GoValue := .leaf .string "string" false (.str "ann")
    let email : GoValue := .leaf .string "string" false (.str "ann@example")
    structToMap Char.isUpper convert convertTime
        (.struct "User" [(⟨"Name", "name"⟩, name), (⟨"secret", ""⟩, email)]) =
        .error (.panic interfacePanic) ∧
      (structToMap Char.isUpper convert convertTime
        (.struct "User" [(⟨"Name", ""⟩, name), (⟨"Email", ""⟩, email)])).map AList.keys = .ok [""] ∧
      (structToMap Char.isUpper convert convertTime
        (.struct "User" [(⟨"ID", "id"⟩, .leaf .int "int" false (.int 1)),
          (⟨"Profile", ""⟩, .struct "Profile" [(⟨"ID", "id"⟩, .leaf .int "int" false (.int 2))])])).map
        AList.keys = .ok ["id"] :=
  ⟨rfl, rfl, rfl⟩

end Xlorm
