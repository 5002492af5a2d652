import Dossier.Proofs.Schema.Declaration
import Dossier.Schema.Default

/-!
# Default — the names in a default record

* `Schema.keys_defaultFields`: a default record holds the required properties, in the order of the
  declaration, whatever the registry and however their zeros are found.
-/

namespace Dossier

namespace Default

variable (entered : List String → String → Option (Fields Json)) (building : List String)

/-- A default record leaves the optional properties out, and only these. -/
theorem isSome_ofProperty (p : Property) :
    (ofProperty entered building p).isSome = ! p.isOptional := by
  obtain ⟨name, variants, isArray⟩ := p
  simp only [ofProperty, Property.isOptional, Property.variants]
  split
  · next h => simp [h]
  · next h =>
    split <;> simp [h]

theorem keys_ofProperties (properties : List Property) :
    Fields.keys (ofProperties entered building properties)
      = (properties.filter fun p => ! p.isOptional).map Property.name := by
  induction properties with
  | nil => rfl
  | cons p rest ih =>
      have given := isSome_ofProperty entered building p
      rw [List.filter_cons, ← given]
      cases h : ofProperty entered building p with
      | none => simpa [ofProperties, h] using ih
      | some v => simpa [ofProperties, h, Fields.keys] using ih

end Default

namespace Schema

/-- The names of the properties that no record may leave out, in order. -/
def requiredNames (s : Schema) : List String :=
  (s.properties.filter fun p => ! p.isOptional).map Property.name

theorem keys_defaultFields (registry : Registry) (s : Schema) :
    Fields.keys (s.defaultFields registry) = s.requiredNames := by
  obtain ⟨serial, name, properties⟩ := s
  exact Default.keys_ofProperties _ _ properties

theorem nodup_defaultFields (registry : Registry) {s : Schema} (h : s.propertyNames.Nodup) :
    Fields.Nodup (s.defaultFields registry) := by
  rw [Fields.Nodup, keys_defaultFields]
  exact (List.filter_sublist.map Property.name).nodup h

end Schema

end Dossier
