import Xlorm.Sql.StructMapper

/-!
# The option-taking mapper (`ToMap`, `ToMapWithOptions`, `processValue`)

`ToMap` and `ToMapWithOptions` build a `structConfig` from the mapper's defaults, apply the
options in turn, and hand the value to `processValue`. `processValue` looks through one pointer,
a nil one giving a nil map and no error, and requires a struct. It walks the fields
`getStructMeta` keeps: a field `CanInterface` refuses (an unexported one) is skipped, a nested
struct other than `time.Time` is walked into and its entries merged over the result, an empty
`omitempty` field without a default is skipped, an empty field with a default gets the converted
default, and every other field is stored under the dialect's quoting of its `db` name.

Of the configuration, `processValue` reads only the dialect. `SkipDefault` sets a flag nothing
reads; `SkipCallback` sets entries that only the loops over `fieldMeta.callbacks` read, and
`parseFieldMeta` leaves those empty. Both options are modelled as leaving the configuration as it
is, and the callback loops as absent.

The mapper's callbacks are a parameter, and `processValue` reads the one under `_global`. When
there is one, every struct it walks, nested ones included, goes through it: the callback is
called on the struct, its fields are read by name from what it returns (a panic of `reflect` when
that is not a struct or lacks one of them), and the callback is called again on the map, whose
result must be a map. Such callbacks can nest without bound, so that path is given fuel; running
out is a failure of the model only. Fuel above the structs' nesting is enough: a callback that
hands back what it is given then maps as no callback does (`toMap_idCallback`).

`GetPrimaryKeys` and `GetPrimaryKey` read the fields `getStructMeta` records as primary keys
(tagged `pk` and not ignored) through `Interface()`, under their Go names.

**The law** (`toMap_agreesWithStructToMap`): with no `_global` callback registered and no
`WithDialect` option, on a struct whose fields are, at every depth, exported and not skipped for
`omitempty`, `ToMap` returns what `StructToMap` returns, and its errors are `StructToMap`'s. On
every struct, whatever the fields, with no `_global` callback, its keys are the quoted `db` names
of the fields it stores (`toMap_keys`): an unexported field is dropped where `StructToMap`
panics.
-/

namespace Xlorm

/-- `structConfig`, as `processValue` reads it: the dialect's `QuoteIdentifier`. -/
structure StructConfig where
  dialect : String → String

/-- The options `SkipDefault`, `SkipCallback` and `WithDialect` return. -/
inductive StructOption where
  | skipDefault
  | skipCallback
  | withDialect (quoteIdentifier : String → String)

/-- Applying one option to the configuration. -/
def StructOption.apply (cfg : StructConfig) : StructOption → StructConfig
  | .skipDefault | .skipCallback => cfg
  | .withDialect d => { cfg with dialect := d }

/-- The configuration `ToMap` starts from: the mapper's `standardDialect`. -/
def defaultStructConfig : StructConfig := ⟨quoteIdentifier⟩

/-- Whether `processValue` skips a field for `omitempty`: so tagged, empty, and without a
default. -/
def FieldMeta.omits (fieldMeta : FieldMeta) (v : GoValue) : Bool :=
  fieldMeta.omitempty && isEmptyValue v && !fieldMeta.hasDefault

section Mapper

variable (isUpper : Char → Bool) (convert : ScalarKind → String → Except String GoValue)
  (convertTime : String → Except String GoValue)

/-- `processValue` storing a field it can read: skipped for `omitempty`, else the converted
default when the value is empty and a default is given, else the value. -/
def processStore (quote : String → String) (fieldMeta : FieldMeta) (v : GoValue)
    (result : StructMap) : Except String StructMap :=
  if fieldMeta.omits v then .ok result
  else if isEmptyValue v && fieldMeta.hasDefault then
    match convertValue convert convertTime fieldMeta.defaultVal v.type with
    | .ok defaultVal => .ok (result.insert (quote fieldMeta.dbName) defaultVal)
    | .error msg => .error msg
  else .ok (result.insert (quote fieldMeta.dbName) v)

mutual

/-- `processValue`'s loop over a struct's fields when no `_global` callback is registered, from
the map built so far. -/
def processFields (quote : String → String) :
    List (StructField × GoValue) → StructMap → Except String StructMap
  | [], result => .ok result
  | (field, v) :: fields, result =>
    match processField quote field v result with
    | .ok result => processFields quote fields result
    | .error e => .error e

/-- One field of that loop: skipped when ignored or unexported; a nested struct
other than `time.Time` (an unnamed struct type is never `time.Time`) processed and its entries
written over the result; any other field stored. -/
def processField (quote : String → String) (field : StructField) (v : GoValue)
    (result : StructMap) : Except String StructMap :=
  if (parseFieldMeta field.dbTag).ignored then .ok result
  else if !isExported isUpper field.name then .ok result
  else
    match v with
    | .struct typeName fields =>
      if !isBasicType ⟨.struct, typeName⟩ then
        match processFields quote fields ∅ with
        | .ok nestedMap => .ok (nestedMap ∪ result)
        | .error e => .error e
      else processStore convert convertTime quote (parseFieldMeta field.dbTag) v result
    | v => processStore convert convertTime quote (parseFieldMeta field.dbTag) v result

end

/-! ## The `_global` callback -/

/-- A value a callback returns for the map it was given, as `res.(map[string]interface{})` sees
it: a map (`none` for a nil one), or a value of another dynamic type, as the assertion's panic
names it (`nil` for a nil interface). -/
inductive CallbackMap where
  | map (m : Option StructMap)
  | other (typeName : String)

/-- A callback registered with `RegisterCallback`, a `func(interface{}) (interface{}, error)`, as
`processValue` applies the one under `_global`: `before` is what it returns for the struct about
to be walked, as `reflect.ValueOf(res)` gives it, and `after` what it returns for the map the
loop built; each may fail with the callback's error. -/
structure Callback where
  before : GoValue → Except String GoValue
  after : StructMap → Except String CallbackMap

/-- `stageGlobal`, the name `processValue` looks its callback up under. -/
def stageGlobal : String := "_global"

/-- `GetCallback`: the callback registered under the name. -/
def getCallback (callbacks : List (String × Callback)) (name : String) : Option Callback :=
  callbacks.lookup name

/-- How `processValue` ends short of a map: as `StructToMap` can fail, or, in the model only, out
of the fuel that bounds how deeply `_global` callbacks nest. Go's recursion has no bound: a
callback that returns a struct with a struct field, whatever it is given, recurses until the
stack overflows. -/
inductive WalkFailure where
  | failed (e : MapFailure)
  | outOfFuel
  deriving Repr, DecidableEq

/-- The panic of a type assertion to `map[string]interface{}` on a value of another type. -/
def assertionPanic (typeName : String) : String :=
  "interface conversion: interface {} is " ++ typeName ++ ", not map[string]interface {}"

/-- `val.FieldByName(name)` on the value a `_global` callback returned, then `CanInterface`:
`FieldByName` panics unless the value is a struct, and gives the zero `Value`, on which
`CanInterface` panics, when the struct has no field of the name. -/
def fieldByName (val : GoValue) (name : String) : Except MapFailure GoValue :=
  match val with
  | .struct _ fields =>
    match fields.find? (·.1.name = name) with
    | some (_, v) => .ok v
    | none => .error (.panic "reflect: call of reflect.Value.CanInterface on zero Value")
  | val => .error (.panic ("reflect: FieldByName of non-struct type " ++ val.type.name))

/-- One field of the loop once a `_global` callback has run: skipped when `getStructMeta` did
not record it (ignored); otherwise read by name from the callback's result, skipped when
unexported, a nested struct other than `time.Time` handed to `processValue` again (`nested`) and
its entries written over the result, and any other field stored. The field's metadata is the
original type's. -/
def callbackField (val : GoValue)
    (nested : String → List (StructField × GoValue) → Except WalkFailure (Option StructMap))
    (quote : String → String) (field : StructField) (result : StructMap) :
    Except WalkFailure StructMap :=
  if (parseFieldMeta field.dbTag).ignored then .ok result
  else
    match fieldByName val field.name with
    | .error e => .error (.failed e)
    | .ok v =>
      if !isExported isUpper field.name then .ok result
      else
        let store := (processStore convert convertTime quote (parseFieldMeta field.dbTag) v
          result).mapError (.failed ∘ .error)
        match v with
        | .struct typeName fields =>
          if !isBasicType ⟨.struct, typeName⟩ then
            match nested typeName fields with
            | .ok nestedMap => .ok (nestedMap.getD ∅ ∪ result)
            | .error e => .error e
          else store
        | _ => store

/-- The loop over the original type's fields once a `_global` callback has run. -/
def callbackFields (val : GoValue)
    (nested : String → List (StructField × GoValue) → Except WalkFailure (Option StructMap))
    (quote : String → String) : List (StructField × GoValue) → StructMap →
      Except WalkFailure StructMap
  | [], result => .ok result
  | (field, _) :: fields, result =>
    match callbackField isUpper convert convertTime val nested quote field result with
    | .ok result => callbackFields val nested quote fields result
    | .error e => .error e

/-- `processValue` on a struct when a `_global` callback is registered: the callback on the
struct, the loop over what it returns (each nested struct processed the same way, with one less
fuel), and the callback on the map, whose result must be a map. -/
def processWithCallback (cb : Callback) (quote : String → String) :
    Nat → String → List (StructField × GoValue) → Except WalkFailure (Option StructMap)
  | 0, _, _ => .error .outOfFuel
  | fuel + 1, typeName, fields =>
    match cb.before (.struct typeName fields) with
    | .error e => .error (.failed (.error e))
    | .ok val =>
      match callbackFields isUpper convert convertTime val (processWithCallback cb quote fuel)
          quote fields ∅ with
      | .error e => .error e
      | .ok result =>
        match cb.after result with
        | .error e => .error (.failed (.error e))
        | .ok (.map m) => .ok m
        | .ok (.other name) => .error (.failed (.panic (assertionPanic name)))

/-- `processValue`: a nil pointer gives a nil map (`none`); otherwise the value, looked through
one pointer, must be a struct, walked as the `_global` callback, if one is registered, has it. -/
def processValue (callbacks : List (String × Callback)) (fuel : Nat) (cfg : StructConfig)
    (val : GoValue) : Except WalkFailure (Option StructMap) :=
  match val with
  | .ptr _ none => .ok none
  | .struct typeName fields | .ptr _ (some (.struct typeName fields)) =>
    match getCallback callbacks stageGlobal with
    | none =>
      ((processFields isUpper convert convertTime cfg.dialect fields ∅).map some).mapError
        (.failed ∘ .error)
    | some cb => processWithCallback isUpper convert convertTime cb cfg.dialect fuel typeName fields
  | _ => .error (.failed (.error "input must be a struct"))

/-- With a `_global` callback that returns a string for the struct, the first field read panics;
with one that returns the struct as it is and a string for the map, the type assertion panics. -/
example :
    let fields : List (StructField × GoValue) :=
      [(⟨"Name", "name"⟩, .leaf .string "string" false (.str "ann"))]
    let run (cb : Callback) := processValue Char.isUpper (fun _ _ => .error "none")
      (fun _ => .error "none") [("_global", cb)] 1 defaultStructConfig (.struct "User" fields)
    run ⟨fun _ => .ok (.leaf .string "string" false (.str "")), fun m => .ok (.map (some m))⟩ =
        .error (.failed (.panic "reflect: FieldByName of non-struct type string")) ∧
      run ⟨.ok, fun _ => .ok (.other "string")⟩ =
        .error (.failed (.panic
          "interface conversion: interface {} is string, not map[string]interface {}")) :=
  ⟨rfl, rfl⟩

/-- `ToMap`: the options applied to the default configuration, then `processValue`, with the
mapper's callbacks. -/
def toMap (callbacks : List (String × Callback)) (fuel : Nat) (obj : GoValue)
    (options : List StructOption) : Except WalkFailure (Option StructMap) :=
  processValue isUpper convert convertTime callbacks fuel
    (options.foldl StructOption.apply defaultStructConfig) obj

/-- `ToMapWithOptions`, whose body is `ToMap`'s. -/
def toMapWithOptions (callbacks : List (String × Callback)) (fuel : Nat) (obj : GoValue)
    (options : List StructOption) : Except WalkFailure (Option StructMap) :=
  toMap isUpper convert convertTime callbacks fuel obj options

/-! ## A callback that hands back what it is given -/

mutual

/-- How deeply the fields nest structs, one inside another. -/
def fieldsDepth : List (StructField × GoValue) → Nat
  | [] => 0
  | (_, v) :: fields => max (valueDepth v) (fieldsDepth fields)

/-- How deeply a value nests structs. -/
def valueDepth : GoValue → Nat
  | .struct _ fields => fieldsDepth fields + 1
  | _ => 0

end

mutual

/-- Go's rule that the fields of a struct have distinct names, for every struct the fields'
values hold. -/
def nestedNamesDistinct : List (StructField × GoValue) → Bool
  | [] => true
  | (_, v) :: fields => valueNamesDistinct v && nestedNamesDistinct fields

/-- Go's rule that the fields of a struct have distinct names, for the value and every struct it
holds. -/
def valueNamesDistinct : GoValue → Bool
  | .struct _ fields => decide (fields.map (·.1.name)).Nodup && nestedNamesDistinct fields
  | _ => true

end

/-- A `_global` callback that hands back what it is given. -/
def idCallback : Callback := ⟨.ok, fun m => .ok (.map (some m))⟩

/-- Among fields of distinct names, `FieldByName` finds each field's own value. -/
theorem fieldByName_of_mem {typeName : String} {fields : List (StructField × GoValue)}
    (hnd : (fields.map (·.1.name)).Nodup) {field : StructField} {v : GoValue}
    (hm : (field, v) ∈ fields) : fieldByName (.struct typeName fields) field.name = .ok v := by
  have hfind : fields.find? (·.1.name = field.name) = some (field, v) := by
    induction fields with
    | nil => cases hm
    | cons a rest ih =>
      rw [List.map_cons, List.nodup_cons] at hnd
      rcases List.mem_cons.mp hm with rfl | hrest
      · simp
      · have hne : ¬a.1.name = field.name := fun h =>
          hnd.1 (List.mem_map.mpr ⟨(field, v), hrest, h.symm⟩)
        simp [hne, ih hnd.2 hrest]
  simp only [fieldByName, hfind]

section Identity

variable {quote : String → String} {fuel : Nat}
  (ih : ∀ typeName fields, fieldsDepth fields < fuel →
    valueNamesDistinct (.struct typeName fields) = true →
      processWithCallback isUpper convert convertTime idCallback quote fuel typeName fields =
        ((processFields isUpper convert convertTime quote fields ∅).map some).mapError
          (.failed ∘ .error))
  {typeName : String} {all : List (StructField × GoValue)} (hnd : (all.map (·.1.name)).Nodup)

include ih hnd in
theorem callbackField_id {field : StructField} {v : GoValue} (hm : (field, v) ∈ all)
    (hdepth : valueDepth v ≤ fuel) (hv : valueNamesDistinct v = true) (result : StructMap) :
    callbackField isUpper convert convertTime (.struct typeName all)
        (processWithCallback isUpper convert convertTime idCallback quote fuel) quote field result =
      (processField isUpper convert convertTime quote field v result).mapError
        (.failed ∘ .error) := by
  rw [callbackField, fieldByName_of_mem hnd hm]
  cases v with
  | struct name fields =>
    rw [processField]
    have hfields : fieldsDepth fields < fuel := by simp only [valueDepth] at hdepth; omega
    dsimp only
    split_ifs
    · rfl
    · rfl
    · rw [ih name fields hfields hv]
      cases processFields isUpper convert convertTime quote fields ∅ <;> rfl
    · rfl
  | leaf | ptr =>
    simp only [processField]
    split_ifs <;> rfl

include ih hnd in
theorem callbackFields_id : ∀ (fields : List (StructField × GoValue)) (result : StructMap),
    (∀ p ∈ fields, p ∈ all) → fieldsDepth fields ≤ fuel → nestedNamesDistinct fields = true →
      callbackFields isUpper convert convertTime (.struct typeName all)
          (processWithCallback isUpper convert convertTime idCallback quote fuel) quote fields
          result =
        (processFields isUpper convert convertTime quote fields result).mapError
          (.failed ∘ .error)
  | [], _, _, _, _ => rfl
  | (field, v) :: fields, result, hsub, hdepth, hnames => by
    simp only [fieldsDepth, Nat.max_le] at hdepth
    simp only [nestedNamesDistinct, Bool.and_eq_true] at hnames
    rw [callbackFields, processFields,
      callbackField_id isUpper convert convertTime ih hnd (hsub _ (.head _)) hdepth.1 hnames.1]
    cases processField isUpper convert convertTime quote field v result with
    | error e => rfl
    | ok r =>
      exact callbackFields_id fields r (fun p hp => hsub p (.tail _ hp)) hdepth.2 hnames.2

end Identity

/-- A `_global` callback that hands back what it is given, with fuel above the structs'
nesting, walks as no callback does. -/
theorem processWithCallback_id (quote : String → String) :
    ∀ fuel typeName fields, fieldsDepth fields < fuel →
      valueNamesDistinct (.struct typeName fields) = true →
        processWithCallback isUpper convert convertTime idCallback quote fuel typeName fields =
          ((processFields isUpper convert convertTime quote fields ∅).map some).mapError
            (.failed ∘ .error)
  | 0, _, _, h, _ => absurd h (Nat.not_lt_zero _)
  | fuel + 1, typeName, fields, hdepth, hnames => by
    simp only [valueNamesDistinct, Bool.and_eq_true, decide_eq_true_eq] at hnames
    rw [processWithCallback,
      show idCallback.before (.struct typeName fields) = .ok (.struct typeName fields) from rfl]
    dsimp only
    rw [callbackFields_id isUpper convert convertTime (processWithCallback_id quote fuel)
      hnames.1 fields ∅ (fun _ hp => hp) (by omega) hnames.2]
    cases processFields isUpper convert convertTime quote fields ∅ <;> rfl

/-- On a struct whose fields nest fewer structs than the fuel, a mapper whose `_global` callback
hands back what it is given maps as one with no callback. -/
theorem toMap_idCallback (fuel : Nat) (typeName : String) (fields : List (StructField × GoValue))
    (hdepth : fieldsDepth fields < fuel)
    (hnames : valueNamesDistinct (.struct typeName fields) = true) (options : List StructOption) :
    toMap isUpper convert convertTime [(stageGlobal, idCallback)] fuel (.struct typeName fields)
        options =
      toMap isUpper convert convertTime [] fuel (.struct typeName fields) options :=
  processWithCallback_id isUpper convert convertTime _ fuel typeName fields hdepth hnames

/-! ## Agreement with `StructToMap` -/

mutual

/-- Every field either walk reaches, at every depth, is exported and not skipped for
`omitempty`. -/
def fieldsMapAlike : List (StructField × GoValue) → Bool
  | [] => true
  | (field, v) :: fields => fieldMapsAlike field v && fieldsMapAlike fields

/-- One field both walks treat alike: ignored, or exported and, unless walked into, not skipped
for `omitempty`. -/
def fieldMapsAlike (field : StructField) (v : GoValue) : Bool :=
  (parseFieldMeta field.dbTag).ignored ||
    isExported isUpper field.name &&
      match v with
      | .struct typeName fields =>
        if !isBasicType ⟨.struct, typeName⟩ then fieldsMapAlike fields
        else !(parseFieldMeta field.dbTag).omits v
      | v => !(parseFieldMeta field.dbTag).omits v

end

theorem processStore_agree {field : StructField} (hx : isExported isUpper field.name = true)
    {fieldMeta : FieldMeta} {v : GoValue} (ho : fieldMeta.omits v = false) (result : StructMap) :
    (processStore convert convertTime quoteIdentifier fieldMeta v result).mapError .error =
      storeField isUpper convert convertTime field fieldMeta v result := by
  simp only [processStore, storeField, ho, hx, Bool.not_true, Bool.false_eq_true, if_false]
  split_ifs
  · cases convertValue convert convertTime fieldMeta.defaultVal v.type <;> rfl
  · rfl

mutual

theorem processFields_agree : ∀ (fields : List (StructField × GoValue)) (result : StructMap),
    fieldsMapAlike isUpper fields = true →
      (processFields isUpper convert convertTime quoteIdentifier fields result).mapError .error =
        fieldsToMap isUpper convert convertTime fields result
  | [], _, _ => rfl
  | (field, v) :: fields, result, h => by
    simp only [fieldsMapAlike, Bool.and_eq_true] at h
    rw [processFields, fieldsToMap, ← processField_agree field v result h.1]
    cases processField isUpper convert convertTime quoteIdentifier field v result with
    | error e => rfl
    | ok r => exact processFields_agree fields r h.2

theorem processField_agree : ∀ (field : StructField) (v : GoValue) (result : StructMap),
    fieldMapsAlike isUpper field v = true →
      (processField isUpper convert convertTime quoteIdentifier field v result).mapError .error =
        fieldToMap isUpper convert convertTime field v result
  | field, .struct typeName fields, result, h => by
    rw [processField, fieldToMap]
    by_cases hig : (parseFieldMeta field.dbTag).ignored = true
    · simp only [hig, if_true]
      rfl
    · simp only [fieldMapsAlike, hig, Bool.false_or, Bool.and_eq_true] at h
      simp only [hig, h.1, Bool.not_true, Bool.false_eq_true, if_false]
      split_ifs at h ⊢
      · rw [← processFields_agree fields ∅ h.2]
        cases processFields isUpper convert convertTime quoteIdentifier fields ∅ <;> rfl
      · exact processStore_agree isUpper convert convertTime h.1 (by simpa using h.2) result
  | field, .leaf kind typeName empty value, result, h
  | field, .ptr elemName target, result, h => by
    simp only [processField, fieldToMap]
    by_cases hig : (parseFieldMeta field.dbTag).ignored = true
    · simp only [hig, if_true]
      rfl
    · simp only [fieldMapsAlike, hig, Bool.false_or, Bool.and_eq_true, Bool.not_eq_true'] at h
      simp only [hig, h.1, Bool.not_true, Bool.false_eq_true, if_false]
      exact processStore_agree isUpper convert convertTime h.1 h.2 result

end

/-- Options other than `WithDialect` leave the configuration as it is. -/
theorem foldl_apply_of_skips {options : List StructOption}
    (hopts : ∀ o ∈ options, o = .skipDefault ∨ o = .skipCallback) (cfg : StructConfig) :
    options.foldl StructOption.apply cfg = cfg := by
  induction options with
  | nil => rfl
  | cons o options ih =>
    rcases hopts o (.head options) with rfl | rfl <;> exact ih fun o' h => hopts o' (.tail _ h)

/-- With no `_global` callback registered and no `WithDialect` option, on a struct whose fields
are, at every depth, exported and not skipped for `omitempty`: `ToMap` returns the map
`StructToMap` returns, or fails as it does, whatever the fuel. -/
theorem toMap_agreesWithStructToMap (callbacks : List (String × Callback))
    (hglobal : getCallback callbacks stageGlobal = none) (fuel : Nat) (typeName : String)
    (fields : List (StructField × GoValue)) (h : fieldsMapAlike isUpper fields = true)
    {options : List StructOption} (hopts : ∀ o ∈ options, o = .skipDefault ∨ o = .skipCallback) :
    toMap isUpper convert convertTime callbacks fuel (.struct typeName fields) options =
      ((structToMap isUpper convert convertTime (.struct typeName fields)).map some).mapError
        .failed := by
  rw [toMap, foldl_apply_of_skips hopts, processValue, hglobal, structToMap,
    ← processFields_agree isUpper convert convertTime fields ∅ h]
  show ((processFields isUpper convert convertTime quoteIdentifier fields ∅).map some).mapError _ = _
  cases processFields isUpper convert convertTime quoteIdentifier fields ∅ <;> rfl

/-- `toMap_agreesWithStructToMap` at `{Name string "db:name"; Profile {Email string
"db:email,omitempty,default=none"}}` with an empty `Email`, under `SkipDefault` and
`SkipCallback`, with a callback registered under another name. -/
theorem toMap_agreesWithStructToMap_nested :
    let fields : List (StructField × GoValue) :=
      [(⟨"Name", "name"⟩, .leaf .string "string" false (.str "ann")),
        (⟨"Profile", ""⟩, .struct "Profile"
          [(⟨"Email", "email,omitempty,default=none"⟩, .leaf .string "string" true (.str ""))])]
    let convert : ScalarKind → String → Except String GoValue :=
      fun _ s => .ok (.leaf .string "string" false (.str s))
    let callbacks : List (String × Callback) := [("audit", ⟨.ok, fun m => .ok (.map (some m))⟩)]
    (getCallback callbacks stageGlobal = none ∧ fieldsMapAlike Char.isUpper fields = true ∧
      ∀ o ∈ [StructOption.skipDefault, .skipCallback], o = .skipDefault ∨ o = .skipCallback) ∧
    toMap Char.isUpper convert (fun _ => .error "none") callbacks 0 (.struct "User" fields)
        [.skipDefault, .skipCallback] =
      ((structToMap Char.isUpper convert (fun _ => .error "none") (.struct "User" fields)).map
        some).mapError .failed :=
  by
  intro fields convert callbacks
  have hopts : ∀ o ∈ [StructOption.skipDefault, .skipCallback],
      o = .skipDefault ∨ o = .skipCallback := by
    simp
  exact ⟨⟨rfl, rfl, hopts⟩, toMap_agreesWithStructToMap Char.isUpper convert
    (fun _ => .error "none") callbacks rfl 0 "User" fields rfl hopts⟩

/-! ## The keys of the map -/

/-- The key `processStore` writes: none for a field skipped for `omitempty`. -/
def storedDbNames (quote : String → String) (fieldMeta : FieldMeta) (v : GoValue) : List String :=
  if fieldMeta.omits v then [] else [quote fieldMeta.dbName]

mutual

/-- The keys `processValue`'s walk writes, in walk order. -/
def processedDbNames (quote : String → String) : List (StructField × GoValue) → List String
  | [] => []
  | (field, v) :: fields => processedFieldDbNames quote field v ++ processedDbNames quote fields

/-- The keys one field contributes: none when ignored or unexported, the nested struct's when it
is walked into, what `processStore` writes otherwise. -/
def processedFieldDbNames (quote : String → String) (field : StructField) (v : GoValue) :
    List String :=
  if (parseFieldMeta field.dbTag).ignored then []
  else if !isExported isUpper field.name then []
  else
    match v with
    | .struct typeName fields =>
      if !isBasicType ⟨.struct, typeName⟩ then processedDbNames quote fields
      else storedDbNames quote (parseFieldMeta field.dbTag) v
    | v => storedDbNames quote (parseFieldMeta field.dbTag) v

end

theorem processStore_keys {quote : String → String} {fieldMeta : FieldMeta} {v : GoValue}
    {result m : StructMap} (h : processStore convert convertTime quote fieldMeta v result = .ok m)
    (k : String) : k ∈ m ↔ k ∈ storedDbNames quote fieldMeta v ∨ k ∈ result := by
  unfold processStore at h
  unfold storedDbNames
  split_ifs at h ⊢
  · cases h; simp
  · split at h
    · cases h; simp [AList.mem_insert]
    · cases h
  · cases h; simp [AList.mem_insert]

mutual

theorem processFields_keys (quote : String → String) :
    ∀ (fields : List (StructField × GoValue)) (result m : StructMap),
      processFields isUpper convert convertTime quote fields result = .ok m →
        ∀ k, k ∈ m ↔ k ∈ processedDbNames isUpper quote fields ∨ k ∈ result
  | [], result, m, h, k => by
    cases h; simp [processedDbNames]
  | (field, v) :: fields, result, m, h, k => by
    rw [processFields] at h
    split at h
    · rename_i r hr
      rw [processFields_keys quote fields r m h, processField_keys quote field v result r hr,
        processedDbNames, List.mem_append, or_assoc, or_left_comm]
    · cases h

theorem processField_keys (quote : String → String) :
    ∀ (field : StructField) (v : GoValue) (result m : StructMap),
      processField isUpper convert convertTime quote field v result = .ok m →
        ∀ k, k ∈ m ↔ k ∈ processedFieldDbNames isUpper quote field v ∨ k ∈ result
  | field, .struct typeName fields, result, m, h, k => by
    rw [processField] at h
    rw [processedFieldDbNames]
    split_ifs at h ⊢
    · cases h; simp
    · cases h; simp
    · split at h
      · rename_i nested hn
        cases h
        rw [AList.mem_union, processFields_keys quote fields ∅ nested hn]
        simp
      · cases h
    · exact processStore_keys convert convertTime h k
  | field, .leaf kind typeName empty value, result, m, h, k
  | field, .ptr elemName target, result, m, h, k => by
    simp only [processField] at h
    simp only [processedFieldDbNames]
    split_ifs at h ⊢
    · cases h; simp
    · cases h; simp
    · exact processStore_keys convert convertTime h k

end

theorem except_mapError_eq_ok {ε ε' α : Type} {f : ε → ε'} :
    ∀ {x : Except ε α} {a : α}, x.mapError f = .ok a → x = .ok a
  | .ok _, _, h => by cases h; rfl
  | .error _, _, h => by cases h

/-- With no `_global` callback registered, a map `ToMap` returns for a struct has for keys
exactly the distinct keys of the walk, under the dialect the options leave: the quoted `db` names
of the fields it reaches that are exported, not ignored and not skipped for `omitempty`. -/
theorem toMap_keys (callbacks : List (String × Callback))
    (hglobal : getCallback callbacks stageGlobal = none) (fuel : Nat) (typeName : String)
    (fields : List (StructField × GoValue)) (options : List StructOption) {m : StructMap}
    (h : toMap isUpper convert convertTime callbacks fuel (.struct typeName fields) options =
      .ok (some m)) :
    m.keys.Perm
      (processedDbNames isUpper (options.foldl StructOption.apply defaultStructConfig).dialect
        fields).dedup := by
  rw [toMap, processValue, hglobal] at h
  obtain ⟨m', hm', hsome⟩ := except_map_eq_ok (except_mapError_eq_ok h)
  cases hsome
  exact (List.perm_ext_iff_of_nodup m.keys_nodup (List.nodup_dedup _)).mpr fun k =>
    (processFields_keys isUpper convert convertTime _ fields ∅ m hm' k).trans (by simp [List.mem_dedup])

/-- `toMap_keys` at `{Name string "db:name"; secret string "db:secret"}` with no callback: the
unexported field gives no key. -/
theorem toMap_keys_unexported :
    let fields : List (StructField × GoValue) :=
      [(⟨"Name", "name"⟩, .leaf .string "string" false (.str "ann")),
        (⟨"secret", "secret"⟩, .leaf .string "string" false (.str "pw"))]
    getCallback [] stageGlobal = none ∧
      ∃ m, toMap Char.isUpper (fun _ _ => .error "none") (fun _ => .error "none") [] 0
          (.struct "User" fields) [] = .ok (some m) ∧
        m.keys.Perm (processedDbNames Char.isUpper quoteIdentifier fields).dedup :=
  by
  intro fields
  exact ⟨rfl, _, rfl, toMap_keys Char.isUpper (fun _ _ => .error "none") (fun _ => .error "none")
    [] rfl 0 "User" fields [] rfl⟩

/-! ## Primary keys (`GetPrimaryKeys`, `GetPrimaryKey`) -/

/-- The fields `getStructMeta` records in `pkFields`, with their values: tagged `pk` and not
ignored, in declaration order. -/
def pkFields (fields : List (StructField × GoValue)) : List (StructField × GoValue) :=
  fields.filter fun p => !(parseFieldMeta p.1.dbTag).ignored && (parseFieldMeta p.1.dbTag).isPK

/-- `GetPrimaryKeys`' loop: each primary-key field read through `Interface()` into the map under
its Go name. -/
def readPrimaryKeys : List (StructField × GoValue) → StructMap → Except MapFailure StructMap
  | [], result => .ok result
  | (field, v) :: fields, result =>
    if !isExported isUpper field.name then .error (.panic interfacePanic)
    else readPrimaryKeys fields (result.insert field.name v)

/-- `GetPrimaryKeys`: the value, looked through one pointer, must be a struct. -/
def getPrimaryKeys (obj : GoValue) : Except MapFailure StructMap :=
  match obj with
  | .struct _ fields | .ptr _ (some (.struct _ fields)) => readPrimaryKeys isUpper (pkFields fields) ∅
  | _ => .error (.error "input must be a struct")

/-- `GetPrimaryKey`: the first primary-key field's Go name and value. -/
def getPrimaryKey (obj : GoValue) : Except MapFailure (String × GoValue) :=
  match obj with
  | .struct _ fields | .ptr _ (some (.struct _ fields)) =>
    match pkFields fields with
    | [] => .error (.error "primary key not found")
    | (field, v) :: _ =>
      if !isExported isUpper field.name then .error (.panic interfacePanic) else .ok (field.name, v)
  | _ => .error (.error "input must be a struct")

end Mapper

end Xlorm
