import ParserCombinators.Json.Number

/-!
# JSON values

Values of JSON. A number is an integer, or a floating point number if it has a fraction or an
exponent. The fields of an object keep the order in which they are listed; two objects are equal
when they list the same fields in the same order.
-/

namespace ParserCombinators

/-- A JSON value. -/
inductive Value where
  | null
  | bool (b : Bool)
  | int (n : Int)
  | float (x : DecimalFloat)
  | str (s : String)
  | arr (items : List Value)
  | obj (fields : List (String × Value))

namespace Value

mutual

/-- Whether two values are the same. -/
def same : Value → Value → Bool
  | null, null => true
  | bool a, bool b => a == b
  | int m, int n => m == n
  | float x, float y => x == y
  | str s, str t => s == t
  | arr vs, arr ws => sameItems vs ws
  | obj fs, obj gs => sameFields fs gs
  | _, _ => false

/-- Whether two lists hold the same values in the same order. -/
def sameItems : List Value → List Value → Bool
  | [], [] => true
  | v :: vs, w :: ws => same v w && sameItems vs ws
  | _, _ => false

/-- Whether two lists hold the same fields in the same order. -/
def sameFields : List (String × Value) → List (String × Value) → Bool
  | [], [] => true
  | (k, v) :: fs, (l, w) :: gs => k == l && same v w && sameFields fs gs
  | _, _ => false

end

mutual

/-- Values found the same are equal. -/
theorem eq_of_same : ∀ {v w : Value}, same v w = true → v = w
  | null, w, h => by
    cases w with
    | null => rfl
    | _ => simp [same] at h
  | bool _, w, h => by
    cases w with
    | bool _ => simpa [same] using h
    | _ => simp [same] at h
  | int _, w, h => by
    cases w with
    | int _ => simpa [same] using h
    | _ => simp [same] at h
  | float _, w, h => by
    cases w with
    | float _ => simpa [same] using h
    | _ => simp [same] at h
  | str _, w, h => by
    cases w with
    | str _ => simpa [same] using h
    | _ => simp [same] at h
  | arr _, w, h => by
    cases w with
    | arr _ => exact congrArg arr (eq_of_sameItems h)
    | _ => simp [same] at h
  | obj _, w, h => by
    cases w with
    | obj _ => exact congrArg obj (eq_of_sameFields h)
    | _ => simp [same] at h

/-- Lists of values found the same are equal. -/
theorem eq_of_sameItems : ∀ {vs ws : List Value}, sameItems vs ws = true → vs = ws
  | [], [], _ => rfl
  | v :: vs, w :: ws, h => by
    simp only [sameItems, Bool.and_eq_true] at h
    rw [eq_of_same h.1, eq_of_sameItems h.2]
  | [], _ :: _, h => by simp [sameItems] at h
  | _ :: _, [], h => by simp [sameItems] at h

/-- Lists of fields found the same are equal. -/
theorem eq_of_sameFields : ∀ {fs gs : List (String × Value)}, sameFields fs gs = true → fs = gs
  | [], [], _ => rfl
  | (k, v) :: fs, (l, w) :: gs, h => by
    simp only [sameFields, Bool.and_eq_true, beq_iff_eq] at h
    rw [h.1.1, eq_of_same h.1.2, eq_of_sameFields h.2]
  | [], _ :: _, h => by simp [sameFields] at h
  | _ :: _, [], h => by simp [sameFields] at h

end

mutual

/-- Every value is found the same as itself. -/
theorem same_self : ∀ v : Value, same v v = true
  | null => rfl
  | bool _ => by simp [same]
  | int _ => by simp [same]
  | float _ => by simp [same]
  | str _ => by simp [same]
  | arr vs => by simpa [same] using sameItems_self vs
  | obj fs => by simpa [same] using sameFields_self fs

/-- Every list of values is found the same as itself. -/
theorem sameItems_self : ∀ vs : List Value, sameItems vs vs = true
  | [] => rfl
  | v :: vs => by simp [sameItems, same_self v, sameItems_self vs]

/-- Every list of fields is found the same as itself. -/
theorem sameFields_self : ∀ fs : List (String × Value), sameFields fs fs = true
  | [] => rfl
  | (_, v) :: fs => by simp [sameFields, same_self v, sameFields_self fs]

end

instance : DecidableEq Value := fun v w =>
  if h : same v w = true then isTrue (eq_of_same h)
  else isFalse fun e => h (e ▸ same_self v)

end Value

end ParserCombinators
