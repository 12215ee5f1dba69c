import Aico.Json.Text

/-!
# JSON values

`Json` is the type of the JSON values a program holds: an object is the list of
its entries in enumeration order. A number is kept as the text JavaScript
serialises it to (`JsNumber`), which is how the program compares numbers.

`Json.induct` is the induction principle that gives a hypothesis for each
element of an array and each entry of an object.
-/

namespace JsString

/-- The code units that occur in the text of a number. -/
def isNumberUnit (u : UInt16) : Bool :=
  u ∈ js "0123456789-+.e"

end JsString

/-- A JavaScript number, as the text it is serialised to. -/
structure JsNumber where
  text : JsString
  ne_nil : text ≠ []
  isNumberUnit : ∀ u ∈ text, JsString.isNumberUnit u = true

namespace JsNumber

@[ext] theorem ext {m n : JsNumber} (h : m.text = n.text) : m = n := by
  cases m
  cases n
  cases h
  rfl

instance : DecidableEq JsNumber := fun m n =>
  decidable_of_iff (m.text = n.text) ⟨ext, congrArg text⟩

def ofNat (n : ℕ) : JsNumber where
  text := JsString.decimal n
  ne_nil := JsString.decimal_ne_nil n
  isNumberUnit := by
    intro u hu
    obtain ⟨d, hd, rfl⟩ := JsString.mem_decimal hu
    interval_cases d <;> decide

/-- The serialisation of an integer. -/
def ofInt : ℤ → JsNumber
  | .ofNat n => ofNat n
  | .negSucc n =>
      { text := js "-" ++ JsString.decimal (n + 1)
        ne_nil := by simp [JsString.decimal_ne_nil]
        isNumberUnit := by
          intro u hu
          rcases List.mem_append.mp hu with hu | hu
          · have hminus : js "-" = [45] := rfl
            rw [hminus] at hu
            rw [List.mem_singleton.mp hu]
            rfl
          · exact (ofNat (n + 1)).isNumberUnit u hu }

theorem ofInt_injective : Function.Injective ofInt := by
  have hne (m n : ℕ) : JsString.decimal m ≠ js "-" ++ JsString.decimal n := by
    intro h
    have hmem : (45 : UInt16) ∈ JsString.decimal m := by simp [h, js_eq, JsString.utf16]
    obtain ⟨d, hd, hunit⟩ := JsString.mem_decimal hmem
    interval_cases d <;> cases hunit
  intro m n h
  have htext := congrArg text h
  cases m with
  | ofNat m =>
      cases n with
      | ofNat n => exact congrArg Int.ofNat (JsString.decimal_injective htext)
      | negSucc n => exact absurd htext (hne _ _)
  | negSucc m =>
      cases n with
      | ofNat n => exact absurd htext.symm (hne _ _)
      | negSucc n =>
          have hdecimal := JsString.decimal_injective (List.append_cancel_left htext)
          exact congrArg Int.negSucc (Nat.succ.inj hdecimal)

end JsNumber

/-- A JSON value. The entries of an object stand in enumeration order. -/
inductive Json where
  | null
  | bool (b : Bool)
  | num (n : JsNumber)
  | str (s : JsString)
  | arr (elements : List Json)
  | obj (entries : List (JsString × Json))

namespace Json

def object (entries : List (String × Json)) : Json :=
  .obj (entries.map fun e => (js e.1, e.2))

def text (s : String) : Json := .str (js s)

/-- A nonnegative integer. -/
def nat (n : ℕ) : Json := .num (.ofNat n)

/-- An integer. -/
def int (n : ℤ) : Json := .num (.ofInt n)

/-- `value ?? null`. -/
def orNull {α : Type*} (f : α → Json) : Option α → Json
  | some a => f a
  | none => .null

/-- The value of a property, absent when the value is not an object or has no
such property. -/
def field (name : String) : Json → Option Json
  | .obj entries => (entries.find? fun e => e.1 = js name).map Prod.snd
  | _ => none

/-- Whether a value counts as true in a condition. -/
def truthy : Json → Bool
  | .null => false
  | .bool b => b
  | .num n => n.text ≠ js "0"
  | .str s => s ≠ []
  | .arr _ => true
  | .obj _ => true

def isObject : Json → Bool
  | .obj _ => true
  | _ => false

theorem induct {P : Json → Prop} (null : P .null) (bool : ∀ b, P (.bool b))
    (num : ∀ n, P (.num n)) (str : ∀ s, P (.str s))
    (arr : ∀ elements, (∀ v ∈ elements, P v) → P (.arr elements))
    (obj : ∀ entries, (∀ e ∈ entries, P e.2) → P (.obj entries)) :
    ∀ v, P v
  | .null => null
  | .bool b => bool b
  | .num n => num n
  | .str s => str s
  | .arr elements => arr elements fun v _ =>
      induct null bool num str arr obj v
  | .obj entries => obj entries fun e _ =>
      induct null bool num str arr obj e.2
decreasing_by
  · have := List.sizeOf_lt_of_mem ‹_ ∈ elements›
    simp only [Json.arr.sizeOf_spec]
    omega
  · have hmem := List.sizeOf_lt_of_mem ‹_ ∈ entries›
    have hsnd : sizeOf e.2 < sizeOf e := by
      cases e
      simp only [Prod.mk.sizeOf_spec]
      omega
    simp only [Json.obj.sizeOf_spec]
    omega

end Json
