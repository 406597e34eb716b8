import ApiProxy.Json.Reader

/-! Taking values out of trees. A decoder walks its tree in the order of the text and reports the first thing
that is wrong, be it a fault of the text or a value of the wrong form. -/

namespace ApiProxy.Json

/-- Why a sound document is not what it was read for. -/
inductive Mismatch where
  | wrongType (found : Found) (expected : String)
  | missingField (name : String)
  | duplicateField (name : String)
  | unknownVariant (name : String) (known : List String)
  | wrongLength (length : Nat) (expected : String)
  | noVariant (typeName : String)
deriving DecidableEq, Repr

def Mismatch.message : Mismatch → String
  | wrongType found expected => s!"invalid type: {found.describe}, expected {expected}"
  | missingField name => s!"missing field `{name}`"
  | duplicateField name => s!"duplicate field `{name}`"
  | unknownVariant name known =>
    s!"unknown variant `{name}`, expected one of " ++ ", ".intercalate (known.map fun k => s!"`{k}`")
  | wrongLength length expected => s!"invalid length {length}, expected {expected}"
  | noVariant typeName => s!"data did not match any variant of untagged enum {typeName}"

inductive ReadError where
  | fault (fault : Fault)
  | mismatch (mismatch : Mismatch)
deriving DecidableEq, Repr

abbrev Decoder (α : Type) := Tree → Except ReadError α

def fail (fault : Fault) {α : Type} : Except ReadError α := .error (.fault fault)

def objectTo (mismatch : Mismatch) {α : Type} : Except ReadError α := .error (.mismatch mismatch)

def unexpected (tree : Tree) (expected : String) {α : Type} : Except ReadError α :=
  match tree.found with
  | .ok found => objectTo (.wrongType found expected)
  | .error fault => fail fault

def Ending.check : Ending → Except ReadError Unit
  | .closed => .ok ()
  | .stopped fault => fail fault

def decodeText (expected : String) : Decoder String
  | .text (some value) => .ok value
  | tree => unexpected tree expected

def decodeBoolean : Decoder Bool
  | .boolean value => .ok value
  | tree => unexpected tree "a boolean"

/-- Null stands for absence. -/
def decodeOptional {α : Type} (decode : Decoder α) : Decoder (Option α)
  | .null => .ok none
  | tree => (decode tree).map some

def decodeList {α : Type} (decode : Decoder α) : Decoder (List α)
  | .array items ending => do
    let values ← items.mapM decode
    ending.check
    .ok values
  | tree => unexpected tree "a sequence"

def Key.decode : Key → Except ReadError String
  | .text (some key) => .ok key
  | .text none => fail .malformed
  | .broken whenRead _ => fail whenRead
  | .other fault _ => fail fault

/-! ### Values that are not taken over -/

mutual

/-- Checks a value that is skipped: strings need no sound surrogates, numbers no range. -/
def Tree.skip : Tree → Except ReadError Unit
  | .array items ending => do
    skipItems items
    ending.check
  | .object members ending => do
    skipMembers members
    ending.check
  | .broken _ _ whenSkipped => fail whenSkipped
  | _ => .ok ()

def skipItems : List Tree → Except ReadError Unit
  | [] => .ok ()
  | item :: items => do
    item.skip
    skipItems items

def skipMembers : List (Key × Tree) → Except ReadError Unit
  | [] => .ok ()
  | (key, value) :: members => do
    match key with
    | .text _ => value.skip
    | .broken _ whenSkipped => fail whenSkipped
    | .other fault _ => fail fault
    skipMembers members

end

mutual

/-- Checks a value that is kept aside to be looked at later: it must be sound in every part and may nest at
most `room` brackets. -/
def Tree.keep (room : Nat) : Tree → Except ReadError Unit
  | .array items ending => do
    if room = 0 then fail .malformed
    keepItems (room - 1) items
    ending.check
  | .object members ending => do
    if room = 0 then fail .malformed
    keepMembers (room - 1) members
    ending.check
  | tree =>
    match tree.found with
    | .ok _ => .ok ()
    | .error fault => fail fault

def keepItems (room : Nat) : List Tree → Except ReadError Unit
  | [] => .ok ()
  | item :: items => do
    item.keep room
    keepItems room items

def keepMembers (room : Nat) : List (Key × Tree) → Except ReadError Unit
  | [] => .ok ()
  | (key, value) :: members => do
    let _ ← key.decode
    value.keep room
    keepMembers room members

end

/-! ### Maps and records -/

def decodeEntries {α : Type} (decode : Decoder α) : List (Key × Tree) → Except ReadError (List (String × α))
  | [] => .ok []
  | (key, value) :: members => do
    let key ← key.decode
    let value ← decode value
    let entries ← decodeEntries decode members
    .ok ((key, value) :: entries)

/-- Whether a record is decoded while the text is read or from a value kept aside. An array with more items
than the record has fields is malformed in the first case and of the wrong length in the second. -/
inductive Mode where
  | streamed
  | kept
deriving DecidableEq, Repr

/-- How a record is put together: `take` adds the field of a given name to the fields found so far, and
`finish` closes the record or names the first field that is missing. -/
structure RecordForm (Parts α : Type) where
  title : String
  fields : List String
  start : Parts
  take : Parts → String → Tree → Except ReadError Parts
  finish : Parts → Except String α

def elements (count : Nat) : String := if count = 1 then "1 element" else s!"{count} elements"

namespace RecordForm

variable {Parts α : Type} (form : RecordForm Parts α)

def takeMembers (parts : Parts) : List (Key × Tree) → Except ReadError Parts
  | [] => .ok parts
  | (key, value) :: members => do
    let key ← key.decode
    let parts ← form.take parts key value
    takeMembers parts members

def takeItems (parts : Parts) : List (String × Tree) → Except ReadError Parts
  | [] => .ok parts
  | (name, value) :: items => do
    let parts ← form.take parts name value
    takeItems parts items

def ofMembers (members : List (Key × Tree)) (ending : Ending) : Except ReadError α := do
  let parts ← form.takeMembers form.start members
  ending.check
  match form.finish parts with
  | .ok value => .ok value
  | .error name => objectTo (.missingField name)

/-- A record written as the list of its fields in the order of their declaration. -/
def ofItems (mode : Mode) (items : List Tree) (ending : Ending) : Except ReadError α := do
  let parts ← form.takeItems form.start (form.fields.zip items)
  let count := form.fields.length
  if items.length > count then
    match mode with
    | .streamed => fail .malformed
    | .kept => objectTo (.wrongLength items.length (elements count ++ " in sequence"))
  ending.check
  match form.finish parts with
  | .ok value => .ok value
  | .error _ => objectTo (.wrongLength items.length (form.title ++ " with " ++ elements count))

def decode (mode : Mode) : Decoder α
  | .object members ending => form.ofMembers members ending
  | .array items ending => form.ofItems mode items ending
  | tree => unexpected tree form.title

end RecordForm

/-- A field may be given once. -/
def once {α : Type} (held : Option α) (name : String) (value : Except ReadError α) :
    Except ReadError (Option α) :=
  match held with
  | some _ => objectTo (.duplicateField name)
  | none => value.map some

/-! ### Choices -/

def decodeChoice {α : Type} (known : List String) (ofName? : String → Option α) (name : String) :
    Except ReadError α :=
  match ofName? name with
  | some value => .ok value
  | none => objectTo (.unknownVariant name known)

def decodeUnit : Decoder Unit
  | .null => .ok ()
  | tree => unexpected tree "unit"

/-- The name of a choice in the place of a key. -/
def Key.decodeChoice {α : Type} (known : List String) (ofName? : String → Option α) :
    Key → Except ReadError α
  | .text (some name) => Json.decodeChoice known ofName? name
  | .text none => fail .malformed
  | .broken whenRead _ => fail whenRead
  | .other _ (.ok found) => objectTo (.wrongType found "variant identifier")
  | .other _ (.error fault) => fail fault

/-- A choice without contents is written as its name, or as an object that gives null for its name. -/
def decodeEnumeration {α : Type} (known : List String) (ofName? : String → Option α) : Decoder α
  | .text (some name) => decodeChoice known ofName? name
  | .object [] .closed => fail .malformed
  | .object [] (.stopped fault) => fail fault
  | .object ((key, value) :: more) ending => do
    let choice ← key.decodeChoice known ofName?
    decodeUnit value
    unless more.isEmpty do fail .malformed
    ending.check
    .ok choice
  | .broken .quotation whenRead _ => fail whenRead
  | .broken .nothing whenRead _ => fail whenRead
  | _ => fail .malformed

end ApiProxy.Json
