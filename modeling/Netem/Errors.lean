/-
The error values the facade builds and inspects (`ErrDial`, `netem/net.go`), and the part of
package `errors` it leans on: `errors.Is`.

A Go `error` is an interface value, and `errors.Is` only ever asks three things of it: is it
`==` to the target, does its dynamic type have an `Is` method that says yes, and what does its
`Unwrap` return. `GoError` keeps exactly those shapes. A value of a type foreign to this
package with no `Unwrap` (`syscall.Errno`, the `context.Canceled` sentinel, `*net.AddrError`)
is a `leaf`, identified by its type and value; what its own `Is` method answers is not
written here but taken as the parameter `leafIs`, so every theorem below holds whatever those
methods do. Pointer types (`*fmt.wrapError`, `*ErrDial`) carry their address, because `==` on
them compares addresses: two wrappers with the same message are still two errors.

The one method this package defines on an error is `(*ErrDial).Is`, and the headline of the
file is what it buys: `errorsIs_errDial_iff` — an aggregate matches a target exactly when one of
its children does, unless the target is the aggregate itself. `(*ErrDial).Error` is written
twice: as the index-guarded loop of the source (`ErrDial.errorBuilder`) and as the recursion the
other files reason with (`GoError.error`), and `ErrDial.errorBuilder_eq_join` shows that both
are `strings.Join` with `"; "`.
-/
import Mathlib.Data.List.Basic

set_option autoImplicit false

namespace Netem

/-- A non-nil Go `error` value, as `errors.Is` and `Error()` see it. -/
inductive GoError where
  /-- A value of a foreign type without `Unwrap`: its dynamic type's name, its value (the
  address, for a pointer type), and its `Error()` text. -/
  | leaf (type : String) (val : Nat) (msg : String)
  /-- A value whose type has `Unwrap() error`; `fmt.Errorf` with one `%w` builds the
  `*fmt.wrapError` at `ptr`. -/
  | wrap (ptr : Nat) (msg : String) (err : GoError)
  /-- A value whose type has `Unwrap() []error` (`errors.Join`, several `%w`). -/
  | join (ptr : Nat) (msg : String) (errs : List GoError)
  /-- An `*ErrDial` at `ptr` with its field `Errors`. -/
  | errDial (ptr : Nat) (errors : List GoError)
  deriving Repr, Inhabited

namespace GoError

/-- `err == target` between two interface values: the same dynamic type and the same value,
that is the same address for every pointer type. -/
def same : GoError → GoError → Bool
  | leaf ty v _, leaf ty' v' _ => ty == ty' && v == v'
  | wrap p _ _, wrap p' _ _ => p == p'
  | join p _ _, join p' _ _ => p == p'
  | errDial p _, errDial p' _ => p == p'
  | _, _ => false

mutual
/-- `err.Error()`. An `*ErrDial` computes its text from its children, as
`(*ErrDial).Error` does. -/
def error : GoError → String
  | leaf _ _ msg => msg
  | wrap _ msg _ => msg
  | join _ msg _ => msg
  | errDial _ errs => "dial failed: " ++ errorList errs
/-- The loop of `(*ErrDial).Error`: each child's text, `"; "` between two of them. -/
def errorList : List GoError → String
  | [] => ""
  | [e] => error e
  | e :: es => error e ++ "; " ++ errorList es
end

end GoError

open GoError

/-- `(*ErrDial).Error`, on the field `Errors`. -/
def ErrDial.error (errors : List GoError) : String :=
  "dial failed: " ++ errorList errors

@[simp] theorem GoError.error_errDial (p : Nat) (es : List GoError) :
    (errDial p es).error = ErrDial.error es := by
  simp only [error, ErrDial.error]

theorem intercalate_go_append (sep acc x : String) (l : List String) :
    String.intercalate.go (acc ++ x) sep l = acc ++ String.intercalate.go x sep l := by
  induction l generalizing x with
  | nil => rfl
  | cons a l ih => simp only [String.intercalate.go, String.append_assoc, ← ih]

/-- The loop of `(*ErrDial).Error` is `strings.Join` with `"; "`. -/
theorem GoError.errorList_eq (es : List GoError) :
    errorList es = String.intercalate "; " (es.map error) := by
  induction es with
  | nil => rfl
  | cons e es ih =>
    cases es with
    | nil => rfl
    | cons e' es =>
      rw [errorList, ih]
      · simp only [List.map_cons, String.intercalate, String.intercalate.go]
        rw [intercalate_go_append]
      · exact List.cons_ne_nil _ _

/-- The loop of `(*ErrDial).Error` as the source writes it into the `strings.Builder`: each
child's text, then `"; "` when `index < len(e.Errors)-1` (`len` is `len(e.Errors)`). -/
def ErrDial.writeErrors (len : Nat) : Nat → List GoError → String
  | _, [] => ""
  | index, err :: rest =>
    err.error ++ (if index < len - 1 then "; " else "") ++ writeErrors len (index + 1) rest

/-- `(*ErrDial).Error` statement by statement: `"dial failed: "`, then the loop. -/
def ErrDial.errorBuilder (errors : List GoError) : String :=
  "dial failed: " ++ ErrDial.writeErrors errors.length 0 errors

/-- From index `index` on, with `rest` left of a slice of length `index + rest.length`, the
guarded loop writes what `errorList` does. -/
theorem ErrDial.writeErrors_eq (index : Nat) (rest : List GoError) :
    writeErrors (index + rest.length) index rest = errorList rest := by
  induction rest generalizing index with
  | nil => rfl
  | cons e rest ih =>
    cases rest with
    | nil => simp [writeErrors, errorList]
    | cons e' rest =>
      have hlen : index + (e :: e' :: rest).length = index + 1 + (e' :: rest).length := by
        simp only [List.length_cons]; omega
      have hsep : index < index + 1 + rest.length := by omega
      rw [hlen, writeErrors, ih]
      simp [errorList, hsep, String.append_assoc]

/-- **The separator rule of `(*ErrDial).Error`.** The index-guarded loop of the source is the
text the model gives every aggregate, and writes `"; "` between every two children and never
after the last: `"dial failed: "` followed by `strings.Join` of the children's texts with
`"; "`, for every slice of children, the empty one included. -/
theorem ErrDial.errorBuilder_eq_join (p : Nat) (errors : List GoError) :
    (GoError.errDial p errors).error = ErrDial.errorBuilder errors ∧
    ErrDial.errorBuilder errors =
      "dial failed: " ++ String.intercalate "; " (errors.map GoError.error) := by
  have hloop : ErrDial.errorBuilder errors = ErrDial.error errors := by
    rw [errorBuilder, ErrDial.error, ← writeErrors_eq 0 errors, Nat.zero_add]
  exact ⟨by rw [hloop, error_errDial], by rw [hloop, ErrDial.error, errorList_eq]⟩

/-- `fmt.Errorf("%s: %w", s, err)`, allocated at `ptr`: `%w` prints like `%v`, so the message
is `s + ": " + err.Error()`, and the wrapper unwraps to `err`. -/
def fmtErrorf (ptr : Nat) (s : String) (err : GoError) : GoError :=
  .wrap ptr (s ++ ": " ++ err.error) err

section Is

-- The `Is` methods of the foreign leaf types, by type name and value (`syscall.Errno.Is`
-- matches `os.ErrPermission` and a few others); `false` for a type without one.
variable (leafIs : String → Nat → GoError → Bool)

mutual
/-- `errors.Is(err, target)` for non-nil `err` and `target`: the loop `is` of package `errors`.
At each error it tries `==`, then the type's own `Is` method, then follows `Unwrap`. An
`*ErrDial` has an `Is` method (its children, through `errorsIsAny`) and no `Unwrap`. -/
def errorsIs (err target : GoError) : Bool :=
  match err with
  | leaf ty v _ => err.same target || leafIs ty v target
  | wrap _ _ e => err.same target || errorsIs e target
  | join _ _ es => err.same target || errorsIsAny es target
  | errDial _ es => err.same target || errorsIsAny es target
/-- `for _, child := range errs { if errors.Is(child, target) { return true } }; return false`:
the body of `(*ErrDial).Is`, and of the `Unwrap() []error` case of `errors.Is`. -/
def errorsIsAny : List GoError → GoError → Bool
  | [], _ => false
  | e :: es, target => errorsIs e target || errorsIsAny es target
end

/-- `(*ErrDial).Is(target)`, on the field `Errors`. -/
def ErrDial.is (errors : List GoError) (target : GoError) : Bool :=
  errorsIsAny leafIs errors target

theorem errorsIsAny_iff (es : List GoError) (t : GoError) :
    errorsIsAny leafIs es t = true ↔ ∃ e ∈ es, errorsIs leafIs e t = true := by
  induction es with
  | nil => simp [errorsIsAny]
  | cons e es ih => simp [errorsIsAny, ih]

@[simp] theorem errorsIs_errDial (p : Nat) (es : List GoError) (t : GoError) :
    errorsIs leafIs (errDial p es) t = ((errDial p es).same t || ErrDial.is leafIs es t) := by
  simp only [errorsIs, ErrDial.is]

/-- Unwrapping a wrapper that is not the target itself changes nothing. -/
theorem errorsIs_wrap_of_not_same {p : Nat} {m : String} {e t : GoError}
    (h : (wrap p m e).same t = false) : errorsIs leafIs (wrap p m e) t = errorsIs leafIs e t := by
  simp only [errorsIs, h, Bool.false_or]

theorem errorsIs_fmtErrorf {q : Nat} {s : String} {e t : GoError}
    (h : (fmtErrorf q s e).same t = false) :
    errorsIs leafIs (fmtErrorf q s e) t = errorsIs leafIs e t :=
  errorsIs_wrap_of_not_same leafIs h

/-- **`(*ErrDial).Is` exposes the children.** An aggregate that is not the target itself
matches it exactly when one of its children does. -/
theorem errorsIs_errDial_iff {p : Nat} {es : List GoError} {t : GoError}
    (h : (errDial p es).same t = false) :
    errorsIs leafIs (errDial p es) t = true ↔ ∃ e ∈ es, errorsIs leafIs e t = true := by
  rw [errorsIs_errDial, h, Bool.false_or, ErrDial.is, errorsIsAny_iff]

end Is

end Netem
