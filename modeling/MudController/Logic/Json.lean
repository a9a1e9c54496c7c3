/-!
# `Logic.Json` — JSON values and derived encodings

The tree of a JSON text, and the conventions by which data types are derived to and from it: a record is
an object with its fields by name (unknown fields are ignored, a repeated field is refused), an absent
optional field and `null` both read as `none`, a list is an array. `Serde α` bundles the two directions
with their law, so that a type's encoding is an instance and composite instances reuse the parts'.
-/

namespace Logic

/-- A JSON value. -/
inductive Json where
  | null
  | bool (b : Bool)
  | num (n : Int)
  | str (s : String)
  | arr (xs : List Json)
  | obj (fields : List (String × Json))

/-- A derived encoding: writing, reading, and that reading undoes writing. No value is written as
    `null`, which is kept for an absent optional field. -/
class Serde (α : Type) where
  serialize : α → Json
  deserialize : Json → Option α
  deserialize_serialize : ∀ a, deserialize (serialize a) = some a
  serialize_ne_null : ∀ a, serialize a ≠ .null

export Serde (serialize deserialize)

attribute [simp] Serde.deserialize_serialize Serde.serialize_ne_null

variable {α : Type}

instance : Serde String where
  serialize s := .str s
  deserialize
    | .str s => some s
    | _ => none
  deserialize_serialize _ := rfl
  serialize_ne_null _ := nofun

/-- An unsigned 32-bit number; a number out of range is refused. -/
instance : Serde UInt32 where
  serialize n := .num n.toNat
  deserialize
    | .num n => if 0 ≤ n ∧ n.toNat < UInt32.size then some (UInt32.ofNat n.toNat) else none
    | _ => none
  deserialize_serialize n := by
    simp only [Int.toNat_natCast, UInt32.ofNat_toNat]
    rw [if_pos ⟨Int.natCast_nonneg _, n.toNat_lt⟩]
  serialize_ne_null _ := nofun

/-! ## Arrays -/

section
variable [Serde α]

/-- Read every element; one refused element refuses the list. -/
def deserializeAll : List Json → Option (List α)
  | [] => some []
  | j :: js => (deserialize j).bind fun a => (deserializeAll js).map (a :: ·)

theorem deserializeAll_map (as : List α) : deserializeAll (as.map serialize) = some as := by
  induction as with
  | nil => rfl
  | cons a as ih => simp only [List.map_cons, deserializeAll, Serde.deserialize_serialize,
      Option.bind_some, ih, Option.map_some]

instance : Serde (List α) where
  serialize as := .arr (as.map serialize)
  deserialize
    | .arr js => deserializeAll js
    | _ => none
  deserialize_serialize := deserializeAll_map
  serialize_ne_null _ := nofun

end

/-! ## Enumerations -/

/-- A variant without fields is written as its name. -/
def serializeName (name : α → String) (a : α) : Json := .str (name a)

/-- Read a variant by its name, among the variants of the type. -/
def deserializeName (name : α → String) (variants : List α) : Json → Option α
  | .str s => variants.find? (fun a => name a = s)
  | _ => none

/-! ## Objects -/

/-- The value of an object's field: `none` inside when it is absent; a repeated field is refused. -/
def field? (name : String) (fields : List (String × Json)) : Option (Option Json) :=
  match fields.filter (·.1 = name) with
  | [] => some none
  | [f] => some (some f.2)
  | _ => none

section
variable [Serde α]

/-- Read a required field's value. -/
def readRequired : Option Json → Option α
  | some j => deserialize j
  | none => none

/-- Read an optional field's value: absent and `null` are `none`. -/
def readOptional : Option Json → Option (Option α)
  | none => some none
  | some .null => some none
  | some j => (deserialize j).map some

/-- Read a required field. -/
def requiredField (α : Type) [Serde α] (name : String) (fields : List (String × Json)) : Option α :=
  (field? name fields).bind readRequired

/-- Read an optional field. -/
def optionalField (α : Type) [Serde α] (name : String) (fields : List (String × Json)) :
    Option (Option α) :=
  (field? name fields).bind readOptional

/-- Write an optional value. -/
def serializeOption : Option α → Json
  | none => .null
  | some a => serialize a

@[simp] theorem readRequired_serialize (a : α) : readRequired (some (serialize a)) = some a :=
  Serde.deserialize_serialize a

@[simp] theorem readOptional_none : readOptional (none : Option Json) = some (none : Option α) := rfl

@[simp] theorem readOptional_serializeOption (a : Option α) :
    readOptional (some (serializeOption a)) = some a := by
  cases a with
  | none => rfl
  | some a =>
      -- the written value is not `null`, so it is not taken for an absent field
      have hne : serialize a ≠ .null := Serde.serialize_ne_null a
      simp only [serializeOption, readOptional]
      rw [Serde.deserialize_serialize]
      rfl

end

end Logic
