import DirectionField.Formula.Compile
import Mathlib

/-!
# Faults of compilation

A text that cannot be read or is no equation in `x` and `y` is rejected, and a flat field can take
its place. The one way to another fault is through an expression that passes all checks and has no
computation: for formulas, one with complex infinity or with a number of too many digits in it.
-/

namespace DirectionField.Proofs

lemma ok_of_isOk {ε β : Type} {x : Except ε β} (h : x.isOk = true) : ∃ b, x = .ok b := by
  cases x with
  | error e => cases h
  | ok b => exact ⟨b, rfl⟩

section Compile

variable {ε α : Type} {C : Calculus ε α} {raw : Option String}

/-- The empty equation, which a fresh session holds, is rejected. -/
lemma compile_empty : C.compile (some "") = .error (.rejected ⟨"", .empty⟩) := rfl

/-- The equation has a body that passes all checks, and the expression that it stands for has no
computation. -/
structure NotComputable (C : Calculus ε α) (raw : Option String) (e : ε) (fault : Fault) : Prop where
  body_ne : Equation.body raw ≠ ""
  checked : C.check (Equation.body raw) = .ok e
  computation : C.computation e = .error fault

lemma compile_of_empty (hbody : Equation.body raw = "") :
    C.compile raw = .error (.rejected ⟨raw.getD "", .empty⟩) := by
  simp [Calculus.compile, hbody]

lemma compile_of_rejected {reason : Rejection} (hbody : Equation.body raw ≠ "")
    (hcheck : C.check (Equation.body raw) = .error reason) :
    C.compile raw = .error (.rejected ⟨Equation.body raw, reason⟩) := by
  have hempty : (Equation.body raw).isEmpty = false := by simpa using hbody
  simp only [Calculus.compile, hempty, hcheck, Bool.false_eq_true, if_false]

lemma compile_of_checked {e : ε} (hbody : Equation.body raw ≠ "")
    (hcheck : C.check (Equation.body raw) = .ok e) :
    C.compile raw =
      match C.computation e with
      | .error fault => .error (.fault fault)
      | .ok compute =>
        .ok ⟨raw, Equation.body raw, Equation.plain (Equation.body raw), compute, none⟩ := by
  have hempty : (Equation.body raw).isEmpty = false := by simpa using hbody
  cases hcompute : C.computation e <;>
    simp only [Calculus.compile, hempty, hcheck, hcompute, Bool.false_eq_true, if_false]

/-- The slope functions of equations: the computation of a checked expression, with its body. -/
lemma compile_ok_iff {f : Slope α} :
    C.compile raw = .ok f ↔ Equation.body raw ≠ "" ∧ ∃ e compute,
      C.check (Equation.body raw) = .ok e ∧ C.computation e = .ok compute ∧
      f = ⟨raw, Equation.body raw, Equation.plain (Equation.body raw), compute, none⟩ := by
  by_cases hbody : Equation.body raw = ""
  · simp [compile_of_empty hbody, hbody]
  · cases hcheck : C.check (Equation.body raw) with
    | error reason => simp [compile_of_rejected hbody hcheck]
    | ok e =>
      rw [compile_of_checked hbody hcheck]
      cases hcompute : C.computation e with
      | error fault => simp [hcompute]
      | ok compute => simp [hcompute, hbody, eq_comm]

lemma isFallback_of_compile {f : Slope α} (h : C.compile raw = .ok f) : f.isFallback = false := by
  obtain ⟨-, e, compute, -, -, rfl⟩ := compile_ok_iff.mp h
  rfl

/-- Compilation meets a fault exactly where a checked expression has no computation. -/
lemma compile_fault_iff {fault : Fault} :
    C.compile raw = .error (.fault fault) ↔ ∃ e, NotComputable C raw e fault := by
  constructor
  · intro h
    by_cases hbody : Equation.body raw = ""
    · rw [compile_of_empty hbody] at h
      cases h
    · cases hcheck : C.check (Equation.body raw) with
      | error reason =>
        rw [compile_of_rejected hbody hcheck] at h
        cases h
      | ok e =>
        rw [compile_of_checked hbody hcheck] at h
        cases hcomp : C.computation e with
        | error fault' =>
          rw [hcomp] at h
          cases h
          exact ⟨e, hbody, hcheck, hcomp⟩
        | ok compute =>
          rw [hcomp] at h
          cases h
  · rintro ⟨e, hbody, hcheck, hcomp⟩
    rw [compile_of_checked hbody hcheck, hcomp]

section Flat

variable [Arithmetic α]

/-- A flat field stands in for an equation: it carries the message and has the same slope, zero,
everywhere. -/
structure IsFlat (f : Slope α) (message : String) : Prop where
  error : f.error = some message
  evaluate : ∀ x y, f.evaluate x y = Slope.flatSlope
  value : ∀ x y, f.value x y = Slope.flatSlope

lemma isFlat_flat (source : Option String) (message : String) :
    IsFlat (Slope.flat source message : Slope α) message := by
  have heval (x y : α) : (Slope.flat source message).evaluate x y = Slope.flatSlope := rfl
  refine ⟨rfl, heval, fun x y => ?_⟩
  unfold Slope.value
  simp only [heval, ite_self]

lemma compileOrFlat_of_ok {f : Slope α} (h : C.compile raw = .ok f) :
    C.compileOrFlat raw = .ok (f, none) := by
  rw [Calculus.compileOrFlat, h]

lemma compileOrFlat_of_rejected {e : EquationError} (h : C.compile raw = .error (.rejected e)) :
    C.compileOrFlat raw = .ok (.flat raw e.message, some e) := by
  rw [Calculus.compileOrFlat, h]

lemma compileOrFlat_ok {f : Slope α} {rejected : Option EquationError}
    (h : C.compileOrFlat raw = .ok (f, rejected)) :
    C.compile raw = .ok f ∨
      ∃ e, C.compile raw = .error (.rejected e) ∧ f = .flat raw e.message := by
  unfold Calculus.compileOrFlat at h
  split at h
  · rename_i g hc
    cases h
    exact .inl hc
  · rename_i e hc
    cases h
    exact .inr ⟨e, hc, rfl⟩
  · cases h

/-- A flat field takes the place of a rejected equation only: other faults get through. -/
lemma compileOrFlat_error_iff {fault : Fault} :
    C.compileOrFlat raw = .error fault ↔ C.compile raw = .error (.fault fault) := by
  cases h : C.compile raw with
  | ok f => simp [compileOrFlat_of_ok h]
  | error c =>
    cases c with
    | rejected e => simp [compileOrFlat_of_rejected h]
    | fault fault' => simp [Calculus.compileOrFlat, h]

end Flat

end Compile

/-! ## Formulas -/

open Formula (calculus hasHugeNumber)
open DirectionField.Algebra (Expr)

/-- The logarithm of zero is complex infinity, which has no computation. -/
lemma compile_logZero : calculus.compile (some "log(0)") = .error (.fault .notComputable) := by
  have hcheck : (match calculus.compile (some "log(0)") with
      | .error (.fault .notComputable) => true
      | _ => false) = true := by
    decide +kernel
  split at hcheck
  · assumption
  · cases hcheck

lemma compileOrFlat_logZero : calculus.compileOrFlat (some "log(0)") = .error .notComputable :=
  compileOrFlat_error_iff.mpr compile_logZero

lemma compile_x : ∃ f, calculus.compile (some "x") = .ok f := ok_of_isOk (by decide +kernel)

lemma compileOrFlat_x : ∃ r, calculus.compileOrFlat (some "x") = .ok r := by
  obtain ⟨f, hf⟩ := compile_x
  exact ⟨_, compileOrFlat_of_ok hf⟩

/-- Complex infinity comes before the digits of a number: it is the fault where both occur. -/
lemma computation_error_iff {e : Expr} {fault : Fault} :
    calculus.computation e = .error fault ↔
      (e.has Expr.isComplexInfinity = true ∧ fault = .notComputable) ∨
        (e.has Expr.isComplexInfinity = false ∧ hasHugeNumber e = true ∧ fault = .unreadable) := by
  have hdef : calculus.computation e = Formula.computation e := rfl
  rw [hdef, Formula.computation]
  cases e.has Expr.isComplexInfinity <;> cases hasHugeNumber e <;> simp [eq_comm]

/-- Compilation gives a function, rejects the equation or meets a fault. A fault is met exactly where
an expression that passes the checks has no computation; among formulas these are the ones with
complex infinity or a number of too many digits. In the place of an equation that is rejected, and
of no other, stands the flat field with the message. -/
theorem faults_are_of_computation {ε α : Type} [Arithmetic α] (C : Calculus ε α)
    (raw : Option String) :
    (∀ fault, C.compile raw = .error (.fault fault) ↔ ∃ e, NotComputable C raw e fault) ∧
    (∀ fault, C.compileOrFlat raw = .error fault ↔ C.compile raw = .error (.fault fault)) ∧
    (∀ f, C.compile raw = .ok f → C.compileOrFlat raw = .ok (f, none)) ∧
    (∀ e, C.compile raw = .error (.rejected e) →
      ∃ f, C.compileOrFlat raw = .ok (f, some e) ∧ IsFlat f e.message) ∧
    (∀ fault, calculus.compile raw = .error (.fault fault) ↔
      Equation.body raw ≠ "" ∧ ∃ e, calculus.check (Equation.body raw) = .ok e ∧
        ((e.has Expr.isComplexInfinity = true ∧ fault = .notComputable) ∨
          (e.has Expr.isComplexInfinity = false ∧ hasHugeNumber e = true ∧
            fault = .unreadable))) := by
  refine ⟨fun _ => compile_fault_iff, fun _ => compileOrFlat_error_iff,
    fun _ => compileOrFlat_of_ok, ?_, ?_⟩
  · intro e he
    exact ⟨_, compileOrFlat_of_rejected he, isFlat_flat raw e.message⟩
  · intro fault
    rw [compile_fault_iff]
    constructor
    · rintro ⟨e, hbody, hcheck, hcomp⟩
      exact ⟨hbody, e, hcheck, computation_error_iff.mp hcomp⟩
    · rintro ⟨hbody, e, hcheck, hcomp⟩
      exact ⟨e, hbody, hcheck, computation_error_iff.mpr hcomp⟩

/-- The logarithm of zero is complex infinity: a formula that is read and passes every check, for
which there is neither a function nor a rejection, nor a flat field. -/
theorem logZero_not_contained :
    calculus.compile (some "log(0)") = .error (.fault .notComputable) ∧
    (¬ ∃ f, calculus.compile (some "log(0)") = .ok f) ∧
    (¬ ∃ e, calculus.compile (some "log(0)") = .error (.rejected e)) ∧
    ¬ ∃ r, calculus.compileOrFlat (some "log(0)") = .ok r := by
  rw [compileOrFlat_logZero, compile_logZero]
  simp

end DirectionField.Proofs
