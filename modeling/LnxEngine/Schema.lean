import Mathlib.Data.List.AList

/-!
# The engine data the reader handler works on

Tantivy's fields, schemas, terms, values and documents as far as `index/reader.rs` reads them,
the reader's errors, and how a closure on its rayon pool ends.
-/

namespace LnxEngine

/-- `tantivy::schema::Field`: the position of a field's entry in its schema. -/
structure Field where
  /-- Index of the field's entry in the schema. -/
  index : Nat
  deriving DecidableEq, Repr

/-- `tantivy::Score`, an `f32` used for relevance scores and search-field boosts. -/
abbrev Score := Float

/-- Fast-field cardinality of a numeric field. -/
inductive Cardinality where
  | singleValue
  | multiValues
  deriving DecidableEq, Repr

/-- The part of a numeric field's options that ordering depends on. -/
structure IntOptions where
  /-- Whether the field is a fast field, and with which cardinality. -/
  fast : Option Cardinality
  deriving DecidableEq, Repr

/-- `tantivy::schema::FieldType`, with the options of the numeric variants. -/
inductive FieldType where
  | str
  | u64 (options : IntOptions)
  | i64 (options : IntOptions)
  | f64 (options : IntOptions)
  | date (options : IntOptions)
  | facet
  | bytes
  deriving DecidableEq, Repr

/-- One declared field of a schema. -/
structure FieldEntry where
  /-- The field's name. -/
  name : String
  /-- The field's declared type. -/
  fieldType : FieldType
  deriving DecidableEq, Repr

/-- `tantivy::schema::Value`, a stored field value. -/
inductive Value where
  | str (text : String)
  | u64 (value : UInt64)
  | i64 (value : Int)
  | f64 (value : Float)
  | date (timestamp : Int)
  | bytes (data : List UInt8)
  deriving Repr

/-- A stored `tantivy::Document`: its field values in insertion order. -/
structure StoredDocument where
  /-- The stored field values. -/
  fieldValues : List (Field × Value)

/-- `NamedFieldDocument`, whose entries are non-empty as `Schema::to_named_doc` groups them. -/
@[ext]
structure NamedFieldDocument where
  /-- The field-name map of the underlying `BTreeMap`. -/
  entries : AList (fun _ : String => List Value)
  /-- Every entry holds at least one value. -/
  nonempty : ∀ name values, entries.lookup name = some values → values ≠ []

namespace NamedFieldDocument

theorem nonempty_erase (doc : NamedFieldDocument) (removed name : String) (values : List Value)
    (found : (doc.entries.erase removed).lookup name = some values) : values ≠ [] := by
  by_cases same : name = removed
  · subst same
    simp [AList.lookup_erase] at found
  · exact doc.nonempty name values (by rwa [AList.lookup_erase_ne same] at found)

/-- `BTreeMap::remove`: the values under `name`, if any, and the document without them. -/
def remove (doc : NamedFieldDocument) (name : String) :
    Option (List Value) × NamedFieldDocument :=
  (doc.entries.lookup name, ⟨doc.entries.erase name, doc.nonempty_erase name⟩)

theorem remove_fst_ne_nil {doc : NamedFieldDocument} {name : String} {values : List Value}
    (removed : (doc.remove name).1 = some values) : values ≠ [] :=
  doc.nonempty name values removed

end NamedFieldDocument

/-- A tantivy schema: its fields, `Field i` naming the `i`-th, and `to_named_doc`. -/
structure Schema where
  /-- The declared fields, in declaration order. -/
  fields : List FieldEntry
  /-- `Schema::to_named_doc`. -/
  toNamedDoc : StoredDocument → NamedFieldDocument

namespace Schema

/-- `Schema::get_field`: the field declared under a name. -/
def getField (schema : Schema) (name : String) : Option Field :=
  (schema.fields.findIdx? (·.name == name)).map Field.mk

/-- `Schema::get_field_entry`, which indexes the field list. -/
def getFieldEntry (schema : Schema) (field : Field) : Option FieldEntry :=
  schema.fields[field.index]?

/-- A field found by name has an entry, declared under that name. -/
theorem getFieldEntry_of_getField {schema : Schema} {name : String} {field : Field}
    (found : schema.getField name = some field) :
    ∃ entry, schema.getFieldEntry field = some entry ∧ entry.name = name := by
  simp only [getField, Option.map_eq_some', List.findIdx?_eq_some_iff_findIdx_eq] at found
  obtain ⟨index, ⟨inRange, first⟩, rfl⟩ := found
  subst first
  exact ⟨_, List.getElem?_eq_getElem inRange, beq_iff_eq.mp
    (@List.findIdx_getElem _ (·.name == name) schema.fields inRange)⟩

end Schema

/-- `tantivy::DocAddress`: a segment ordinal and a document id inside the segment. -/
structure DocAddress where
  /-- Ordinal of the segment holding the document. -/
  segmentOrd : Nat
  /-- Id of the document inside its segment. -/
  docId : Nat
  deriving DecidableEq, Repr

/-- The value of a `tantivy::Term`. -/
inductive TermValue where
  | text (text : String)
  | u64 (value : UInt64)
  deriving DecidableEq, Repr

/-- `tantivy::Term`: a field and a value to look up in its inverted index. -/
structure Term where
  /-- The field the term belongs to. -/
  field : Field
  /-- The term's value. -/
  value : TermValue
  deriving DecidableEq, Repr

/-- `Term::from_field_text`. -/
def Term.fromFieldText (field : Field) (text : String) : Term := ⟨field, .text text⟩

/-- `Term::from_field_u64`. -/
def Term.fromFieldU64 (field : Field) (value : UInt64) : Term := ⟨field, .u64 value⟩

/-- An error of the engine, the query parser or the stop-word provider. -/
structure EngineError where
  /-- The error's rendering. -/
  description : String
  deriving DecidableEq, Repr

/-- `anyhow::Error` as the reader builds it. -/
inductive Error where
  /-- `Error::msg` with its text. -/
  | msg (text : String)
  /-- An engine error converted by `Error::from`, `Error::new` or `?`. -/
  | engine (cause : EngineError)
  deriving DecidableEq, Repr

/-- How a closure on the rayon pool ends; a panic aborts, as the pool has no `panic_handler`. -/
inductive Outcome (α : Type) where
  | done (value : α)
  | panic (message : String)
  deriving DecidableEq, Repr

end LnxEngine
