import Attestation.Json.Reader

/-!
Reading records: objects with a fixed list of fields. A record may also be written as an array of
the values of its fields in order. Members of other names are skipped.
-/
namespace Attestation.Json.Tree

/-- When a field may be left out: never, in an object only, or also at the end of an array. -/
inductive Presence where
  | required
  | optional
  | defaulted
  deriving DecidableEq, Repr

structure Field where
  name : String
  presence : Presence

/-- The value under a name; a name may occur once. -/
def member? (members : List (Option String × Tree)) (name : String) : Option (Option Tree) :=
  match members.filter (·.1 == some name) with
  | [] => some none
  | [(_, value)] => some (some value)
  | _ => none

def ofMember? (members : List (Option String × Tree)) (f : Field) : Option (Option Tree) := do
  let value ← member? members f.name
  if value.isNone && f.presence == .required then none else some value

def aligned? : List Field → List Tree → Option (List (Option Tree))
  | [], [] => some []
  | [], _ :: _ => none
  | f :: fields, [] =>
    if f.presence = .defaulted then (aligned? fields []).map (none :: ·) else none
  | _ :: fields, item :: items => (aligned? fields items).map (some item :: ·)

/-- The values of the fields, in the order of the fields. -/
def record? (fields : List Field) : Tree → Option (List (Option Tree))
  | object members =>
    if members.all (·.1.isSome) then fields.mapM (ofMember? members) else none
  | array items => aligned? fields items
  | _ => none

/-- A value that may be absent or null. -/
def orAbsent? {α : Type} (read? : Tree → Option α) : Option Tree → Option (Option α)
  | none => some none
  | some null => some none
  | some value => (read? value).map some

/-- A value that has a default. -/
def orDefault? {α : Type} (default : α) (read? : Tree → Option α) : Option Tree → Option α
  | none => some default
  | some value => read? value

def asString? : Tree → Option String
  | string s => s
  | _ => none

def asBool? : Tree → Option Bool
  | bool b => some b
  | _ => none

def asItems? : Tree → Option (List Tree)
  | array items => some items
  | _ => none

def asStrings? (t : Tree) : Option (List String) := t.asItems? >>= (·.mapM asString?)

/-- One of a set of names: the name itself, or an object that maps it to null. -/
def asVariant? : Tree → Option String
  | string s => s
  | object [(name, null)] => name
  | _ => none

/-- One of a set of names, as in `asVariant?`; the object may also map it to an empty object. -/
def asOpenVariant? : Tree → Option String
  | object [(name, object [])] => name
  | t => t.asVariant?

end Attestation.Json.Tree
