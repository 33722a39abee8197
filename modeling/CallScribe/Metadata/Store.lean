import CallScribe.Json.Decode
import CallScribe.Json.Printer

/-!
# CallScribe.Metadata.Store

Metadata mappings that several owners share.

* `MetadataStore`: the mappings, each reached through a `MetadataHandle`.
* `MetadataStore.read`, `.insert`, `.add`: the content of a mapping, a change, a new mapping.
* `MetadataStore.setRawRequest`: a change of the one reserved key.
* `CallParams`: the parameters of a call, with the handle of its mapping.
-/

namespace CallScribe

/-- The number of a mapping in its store. Equal handles share one mapping. -/
structure MetadataHandle where
  index : Nat
deriving DecidableEq, Repr

/-- The mappings that handles lead to. -/
structure MetadataStore where
  mappings : List (Fields Json) := []

/-- The key under which a captured request is kept. -/
def rawRequestKey : String := "raw_request"

namespace MetadataStore

/-- The content of a mapping. -/
def read (s : MetadataStore) (h : MetadataHandle) : Fields Json := s.mappings.getD h.index []

/-- A new mapping with the given content. -/
def add (s : MetadataStore) (content : Fields Json) : MetadataHandle × MetadataStore :=
  (⟨s.mappings.length⟩, ⟨s.mappings ++ [content]⟩)

/-- Puts a value into a mapping, and tells which one it replaces. -/
def insert (s : MetadataStore) (h : MetadataHandle) (key : String) (value : Json) :
    Option Json × MetadataStore :=
  ((s.read h).get? key, ⟨s.mappings.set h.index ((s.read h).insert key value)⟩)

/-- Puts the text of a request under the reserved key, and tells which value it replaces. -/
def setRawRequest (s : MetadataStore) (h : MetadataHandle) (text : String) :
    Option Json × MetadataStore :=
  s.insert h rawRequestKey (.string text)

end MetadataStore

/-- The parameters of a call. -/
structure CallParams where
  metadata : Option MetadataHandle := none
  apiBase : Option String := none
  provider : Option String := none
deriving DecidableEq, Repr

namespace CallParams

def toJson (p : CallParams) (s : MetadataStore) : Json :=
  .object [
    ("api_base", Json.ofString? p.apiBase),
    ("custom_llm_provider", Json.ofString? p.provider),
    ("metadata", match p.metadata with
      | some h => .object (s.read h)
      | none => .null)]

/-- Reads parameters; a mapping that they contain becomes a new one of the store. -/
def decode (s : MetadataStore) (v : Json) : Option (CallParams × MetadataStore) := do
  match ← Decode.record ["metadata", "api_base", "custom_llm_provider"] v with
  | [metadata, base, provider] =>
    let content ← Decode.field (some none) (Decode.optional Decode.object) metadata
    let base ← Decode.field (some none) (Decode.optional Decode.string) base
    let provider ← Decode.field (some none) (Decode.optional Decode.string) provider
    match content with
    | some fs =>
      let (h, s) := s.add fs
      some (⟨some h, base, provider⟩, s)
    | none => some (⟨none, base, provider⟩, s)
  | _ => none

/-- The handle of the parameters, with a new empty mapping if they have none. -/
def ensureMetadata (p : CallParams) (s : MetadataStore) :
    MetadataHandle × CallParams × MetadataStore :=
  match p.metadata with
  | some h => (h, p, s)
  | none =>
    let (h, s) := s.add []
    (h, { p with metadata := some h }, s)

end CallParams
end CallScribe
