import CallScribe.Json.Printer

/-!
# CallScribe.Proofs.Json.Shape

Values that differ in their strings at most.

* `Json.SameShape`: the relation, with `Json.SameItems` and `Json.SameFields` for the members of
  arrays and objects.
* `Json.leafTexts`: the printed strings of a value, each in its place.
* `Json.SameShape.length_leafTexts`: values of one shape have as many.
-/

namespace CallScribe
namespace Json

mutual

/-- Two values that differ in their strings at most. -/
inductive SameShape : Json → Json → Prop
  | null : SameShape .null .null
  | bool (b : Bool) : SameShape (.bool b) (.bool b)
  | int (n : Int) : SameShape (.int n) (.int n)
  | real (d : Decimal) : SameShape (.real d) (.real d)
  | string (s t : String) : SameShape (.string s) (.string t)
  | array {vs ws : List Json} (h : SameItems vs ws) : SameShape (.array vs) (.array ws)
  | object {fs gs : List (String × Json)} (h : SameFields fs gs) :
    SameShape (.object fs) (.object gs)

inductive SameItems : List Json → List Json → Prop
  | nil : SameItems [] []
  | cons {v w : Json} {vs ws : List Json} (h : SameShape v w) (hs : SameItems vs ws) :
    SameItems (v :: vs) (w :: ws)

inductive SameFields : List (String × Json) → List (String × Json) → Prop
  | nil : SameFields [] []
  | cons (k : String) {v w : Json} {fs gs : List (String × Json)} (h : SameShape v w)
    (hs : SameFields fs gs) : SameFields ((k, v) :: fs) ((k, w) :: gs)

end

mutual

/-- The printed strings of a value. One that is the whole value stands between `front` and `back`,
and one that is the value of a key stands behind the key. -/
def leafTexts (front back : List Char) : Json → List (List Char)
  | .null | .bool _ | .int _ | .real _ => []
  | .string s => [front ++ quote s ++ back]
  | .array items => itemTexts items
  | .object fields => fieldTexts fields

def itemTexts : List Json → List (List Char)
  | [] => []
  | v :: rest => leafTexts [] [] v ++ itemTexts rest

def fieldTexts : List (String × Json) → List (List Char)
  | [] => []
  | (k, v) :: rest => leafTexts (quote k ++ [':']) [] v ++ fieldTexts rest

end

mutual

theorem SameShape.length_leafTexts {v w : Json} (h : SameShape v w) (front back : List Char) :
    (v.leafTexts front back).length = (w.leafTexts front back).length := by
  cases h with
  | null => rfl
  | bool b => rfl
  | int n => rfl
  | real d => rfl
  | string s t => rfl
  | array h => exact SameItems.length_itemTexts h
  | object h => exact SameFields.length_fieldTexts h

theorem SameItems.length_itemTexts {vs ws : List Json} (h : SameItems vs ws) :
    (itemTexts vs).length = (itemTexts ws).length := by
  cases h with
  | nil => rfl
  | cons h hs =>
    rw [itemTexts, itemTexts, List.length_append, List.length_append, h.length_leafTexts,
      hs.length_itemTexts]

theorem SameFields.length_fieldTexts {fs gs : List (String × Json)} (h : SameFields fs gs) :
    (fieldTexts fs).length = (fieldTexts gs).length := by
  cases h with
  | nil => rfl
  | cons k h hs =>
    rw [fieldTexts, fieldTexts, List.length_append, List.length_append, h.length_leafTexts,
      hs.length_fieldTexts]

end

theorem SameShape.isNull {v w : Json} (h : SameShape v w) : v.isNull = w.isNull := by
  cases h <;> rfl

end Json
end CallScribe
