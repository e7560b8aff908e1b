import Mathlib.Data.PNat.Notation
import ClassroomSuite.Library.Raises
import ClassroomSuite.Python.Json

/-!
# Reading texts into models

Output of tools is read as JSON and put into models, whose construction validates the fields. All
fields are validated, and a model with a problem in any of them raises one exception that lists the
problems. What the JSON reader, the number coercion and the rendering of the exception do is given
by a `ModelRuntime`, over which everything that uses them is stated.

## Main definitions

* `ModelRuntime`, `ModelRuntime.reading`, `pyStr`.
* `Problem`, `Checked`, `Checked.both`, `construct`.
* `textField`, `optionalTextField`, `sizeField`, `positiveField`: the fields of the models.

## Main results

* `both_eq_ok_iff`, `construct_eq_ok_iff`, `textField_ok`, `optionalTextField_ok`,
  `positiveField_ok`: what a construction that succeeds has validated.
* `construct_eq_error`: what one that fails raises.
* `textField_of_accepts`, `optionalTextField_of_accepts`, `positiveField_of_le`: what is validated.
* `not_raises_construct`: a construction raises value errors only.
* `not_unhandled_iff`.
-/

namespace ClassroomSuite.Python

open Library

/-- What is wrong with a field, or with a model as a whole. -/
inductive Problem where
  | notText
  | notInt (detail : String)
  | below (bound : ℤ)
  | invalid (message : String)
  deriving DecidableEq, Repr

/-- A problem and the field that has it; the name is empty for the model as a whole. -/
structure FieldProblem where
  field : String
  problem : Problem
  deriving DecidableEq, Repr

/-- The libraries that read texts into models, and the interpreter, in which the calls of a function
may be nested `recursionLimit` deep. -/
structure ModelRuntime where
  text : TextRuntime
  loads : String → Except String Json
  reprJson : Json → String
  acceptsText : String → Bool
  coerceInt : Json → Except String ℤ
  renderProblems : String → List FieldProblem → String
  recursionLimit : ℕ

/-- The runtime that can read one text, and no number but an integer. -/
def ModelRuntime.reading (source : String) (value : Json) : ModelRuntime where
  text := asciiText
  loads text := if text = source then .ok value
    else .error "Expecting value: line 1 column 1 (char 0)"
  reprJson value := value.typeName
  acceptsText _ := true
  coerceInt
    | .int i => .ok i
    | _ => .error "Input should be a valid integer"
  renderProblems model problems :=
    toString problems.length ++ " validation errors for " ++ model
  recursionLimit := 1000

variable (rt : ModelRuntime) {α β : Type}

/-- The text of a value: a text is its own. -/
def pyStr : Json → String
  | .str s => s
  | value => rt.reprJson value

/-- Fields that have been validated, or their problems. -/
abbrev Checked (α : Type) := Except (List FieldProblem) α

/-- Both fields are validated, and the problems of both are reported. -/
def Checked.both (a : Checked α) (b : Checked β) : Checked (α × β) :=
  match a, b with
  | .ok a, .ok b => .ok (a, b)
  | .ok _, .error ps => .error ps
  | .error ps, .ok _ => .error ps
  | .error ps, .error ps' => .error (ps ++ ps')

/-- The construction of a model. -/
def construct (model : String) (fields : Checked α) : Except PyError α :=
  match fields with
  | .ok a => .ok a
  | .error ps => .error (.validationError (rt.renderProblems model ps))

/-! ### Fields -/

/-- A field whose value is a text. -/
def textField (field : String) (s : String) : Checked String :=
  if rt.acceptsText s then .ok s else .error [⟨field, .notText⟩]

/-- A field whose value is a text or absent. -/
def optionalTextField (field : String) : Json → Checked (Option String)
  | .null => .ok none
  | .str s => (textField rt field s).map some
  | _ => .error [⟨field, .notText⟩]

/-- An absent text is null. -/
def optionalText : Option String → Json
  | none => .null
  | some s => .str s

/-- The integer that a value counts as. An integer is its own. -/
def countsAs : Json → Except String ℤ
  | .int i => .ok i
  | value => rt.coerceInt value

/-- A field whose value is a nonnegative integer or absent. -/
def sizeField (field : String) : Json → Checked (Option ℕ)
  | .null => .ok none
  | value =>
    match countsAs rt value with
    | .error detail => .error [⟨field, .notInt detail⟩]
    | .ok i => if 0 ≤ i then .ok (some i.toNat) else .error [⟨field, .below 0⟩]

/-- A field whose value is a positive integer. -/
def positiveField (field : String) (i : ℤ) : Checked ℕ+ :=
  if h : 1 ≤ i then .ok ⟨i.toNat, by omega⟩ else .error [⟨field, .below 1⟩]

/-! ### Validated fields -/

theorem both_eq_ok_iff {a : Checked α} {b : Checked β} {x : α × β} :
    a.both b = .ok x ↔ a = .ok x.1 ∧ b = .ok x.2 := by
  cases a <;> cases b <;> simp [Checked.both, Prod.ext_iff]

theorem construct_eq_ok_iff {model : String} {fields : Checked α} {a : α} :
    construct rt model fields = .ok a ↔ fields = .ok a := by
  cases fields <;> simp [construct]

theorem construct_eq_error {model : String} {fields : Checked α} {e : PyError}
    (h : construct rt model fields = .error e) : ∃ message, e = .validationError message := by
  cases fields with
  | ok a => cases h
  | error problems => exact ⟨_, (Except.error.inj h).symm⟩

/-- A text is not changed by its validation. -/
theorem textField_ok {field s t : String} (h : textField rt field s = .ok t) : t = s := by
  rw [textField] at h
  split_ifs at h
  exact (Except.ok.inj h).symm

/-- A text or its absence is not changed by its validation. -/
theorem optionalTextField_ok {field : String} {s t : Option String}
    (h : optionalTextField rt field (optionalText s) = .ok t) : t = s := by
  cases s with
  | none => exact (Except.ok.inj h).symm
  | some s =>
    rw [optionalText, optionalTextField] at h
    cases hs : textField rt field s with
    | error ps =>
      rw [hs] at h
      cases h
    | ok s' =>
      rw [hs] at h
      rw [← Except.ok.inj h, textField_ok rt hs]

/-- A text that is accepted is validated. -/
theorem textField_of_accepts {s : String} (h : rt.acceptsText s = true) (field : String) :
    textField rt field s = .ok s :=
  if_pos h

/-- A text that is accepted, or its absence, is validated. -/
theorem optionalTextField_of_accepts {s : Option String}
    (h : ∀ t, s = some t → rt.acceptsText t = true) (field : String) :
    optionalTextField rt field (optionalText s) = .ok s := by
  cases s with
  | none => rfl
  | some t =>
    rw [optionalText, optionalTextField, textField_of_accepts rt (h t rfl)]
    rfl

/-- An absent size stays absent. -/
theorem sizeField_null {field : String} {size : Option ℕ}
    (h : sizeField rt field .null = .ok size) : size = none :=
  (Except.ok.inj h).symm

/-- A size that is there is the integer that the value counts as. -/
theorem sizeField_ok {field : String} {value : Json} {size : Option ℕ} (hvalue : value ≠ .null)
    (h : sizeField rt field value = .ok size) :
    ∃ n : ℕ, countsAs rt value = .ok n ∧ size = some n := by
  rw [sizeField] at h
  · split at h
    · cases h
    · rename_i i hi
      split_ifs at h with hle
      exact ⟨i.toNat, by rw [hi, Int.toNat_of_nonneg hle], (Except.ok.inj h).symm⟩
  · exact hvalue

/-- A positive number is not changed by its validation. -/
theorem positiveField_ok {field : String} {i : ℤ} {n : ℕ+} (h : positiveField field i = .ok n) :
    (n : ℤ) = i := by
  rw [positiveField] at h
  split_ifs at h with hi
  rw [← Except.ok.inj h]
  exact Int.toNat_of_nonneg (by omega)

/-- A positive number is validated. -/
theorem positiveField_of_le {i : ℤ} (h : 1 ≤ i) (field : String) :
    ∃ n, positiveField field i = .ok n :=
  ⟨_, dif_pos h⟩

/-- A construction raises value errors only. -/
theorem not_raises_construct (model : String) (fields : Checked α) :
    ¬ Raises PyError.Unhandled (construct rt model fields) := by
  cases fields with
  | ok a => exact not_raises_ok _ a
  | error ps => simp [construct]

/-- A computation raises value errors only if it returns or raises one. -/
theorem not_unhandled_iff (m : Except PyError α) :
    ¬ Raises PyError.Unhandled m ↔
      (∃ a, m = .ok a) ∨ ∃ e, m = .error e ∧ e.isValueError = true := by
  simp only [not_raises_iff, PyError.Unhandled, Bool.not_eq_false]

end ClassroomSuite.Python
