import HWPanel.Library.SortedMap
import Mathlib.Data.String.Basic

/-!
# JSON documents

The values of the JSON library the store uses, and the two conversions it does
with files: writing a value as text and reading one from a stream. The library is
a parameter of the development, `JsonCodec`; what the store needs of it is that a
document of strings and objects is read back as it was written.
-/

namespace HWPanel.Platform

inductive Json where
  | null
  | boolean (value : Bool)
  | number (value : Float)
  | string (value : String)
  | array (elements : List Json)
  /-- The fields in the order the library iterates them. -/
  | object (fields : List (String × Json))

/-- A value does not have the type asked for (`json::type_error`). -/
inductive JsonTypeError where
  | typeError
  deriving DecidableEq

namespace Json

/-- `doc[key]` of an object that contains `key`. -/
def find? (fields : List (String × Json)) (key : String) : Option Json :=
  (fields.find? fun field => field.1 = key).map (·.2)

/-- `doc.value(key, default)` at type `std::string`; `doc` must be an object and the
value, if there, a string. -/
def value (doc : Json) (key : String) (default : String) : Except JsonTypeError String :=
  match doc with
  | .object fields =>
      match find? fields key with
      | none => .ok default
      | some (.string text) => .ok text
      | some _ => .error .typeError
  | _ => .error .typeError

/-- Documents made of strings and of objects with sorted keys. -/
inductive Textual : Json → Prop
  | string (text : String) : Textual (.string text)
  | object (fields : List (String × Json))
      (sorted : fields.Pairwise fun earlier later => earlier.1 < later.1)
      (values : ∀ field ∈ fields, Textual field.2) : Textual (.object fields)

end Json

/-- The JSON library: `doc.dump(2)`, and `in >> doc` from the bytes of a file, which
throws on malformed text. -/
structure JsonCodec where
  dump : Json → List UInt8
  parse : List UInt8 → Option Json

/-- Documents of strings survive a write and a read. -/
structure JsonCodec.Faithful (codec : JsonCodec) : Prop where
  parse_dump (doc : Json) : doc.Textual → codec.parse (codec.dump doc) = some doc

/-- The stream ends inside the document (`json::parse_error`). -/
structure JsonCodec.RejectsCut (codec : JsonCodec) : Prop where
  parse_take (doc : Json) : doc.Textual → ∀ n < (codec.dump doc).length,
    codec.parse ((codec.dump doc).take n) = none

end HWPanel.Platform
