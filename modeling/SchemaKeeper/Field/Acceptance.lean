import SchemaKeeper.Error

/-!
Contract: which values a field accepts.

Null is judged first, then lists, then the type of the value, then the bounds. A
timestamp accepts every scalar.

Owns: the first reason to refuse a value.
-/

namespace SchemaKeeper.Field

def kindRefusal? (kind : FieldKind) (value : Value) : Option ValueRefusal :=
  match kind with
  | .signedInt | .unsignedInt => if value.isWholeNumber then none else some .notInteger
  | .decimal =>
      match value.number? with
      | some number => if number.isFinite then none else some .notNumber
      | none => some .notNumber
  | .boolean =>
      match value with
      | .bool _ => none
      | _ => some .notBoolean
  | .string =>
      match value with
      | .text _ => none
      | _ => some .notString
  | .timestamp => none

/-- Why a number is out of a field's bounds. -/
def boundRefusal? (field : Field) (number : Binary64) : Option ValueRefusal :=
  if field.kind = .unsignedInt ∧ number.less (.zero false) then
    some .negative
  else
    let low := field.minSize.bind fun least =>
      if number.less least then some (.below least) else none
    let high := field.maxSize.bind fun greatest =>
      if greatest.less number then some (.above greatest) else none
    low.or high

theorem boundRefusal?_eq_none_iff (field : Field) (number : Binary64) :
    field.boundRefusal? number = none ↔
      (field.kind = .unsignedInt → number.less (.zero false) = false) ∧
        (∀ least ∈ field.minSize, number.less least = false) ∧
        ∀ greatest ∈ field.maxSize, greatest.less number = false := by
  unfold boundRefusal?
  by_cases negative : field.kind = .unsignedInt ∧ number.less (.zero false) = true
  · simp [negative]
  · rw [if_neg negative]
    have sign : field.kind = .unsignedInt → number.less (.zero false) = false :=
      fun unsigned => Bool.eq_false_iff.2 fun less => negative ⟨unsigned, less⟩
    rw [and_iff_right sign]
    cases field.minSize <;> cases field.maxSize <;> simp

/-- The first reason to refuse a value; null is refused only where a value is
required. -/
def refusal? (field : Field) (required : Bool) (value : Value) : Option ValueRefusal :=
  match value with
  | .null => if required then some .null else none
  | .list _ => some .list
  | scalar =>
      match kindRefusal? field.kind scalar with
      | some refusal => some refusal
      | none =>
          if field.kind = .timestamp then none
          else scalar.number?.bind (boundRefusal? field)

def checkValue (table name : String) (field : Field) (required : Bool) (value : Value) :
    Except ValidationError Unit :=
  match field.refusal? required value with
  | some refusal => .error (.refusedValue name table refusal value)
  | none => .ok ()

end SchemaKeeper.Field
