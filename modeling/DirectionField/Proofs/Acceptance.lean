import DirectionField.Proofs.CompileFaults

/-!
# Accepted equations

An equation has to meet five conditions, and the first one that it fails is the reason for which it
is rejected. One that compiles has no names but those of the two coordinates and of known functions:
whatever other names are taken to stand for, its slopes are computed by the same program.
-/

namespace DirectionField.Proofs

open DirectionField.Algebra (Expr Fn)
open DirectionField.Numeric (Program)

/-! ## Conditions -/

inductive Condition where
  | notEmpty
  | readable
  | algebraic
  | knownFunctions
  | knownIdentifiers
  deriving DecidableEq

namespace Condition

/-- The order in which the conditions are looked at. -/
def order : List Condition := [notEmpty, readable, algebraic, knownFunctions, knownIdentifiers]

/-- The equation meets the condition, as far as the reading of its body gets to it. -/
def Holds {ε α : Type} (C : Calculus ε α) (raw : Option String) : Condition → Prop
  | notEmpty => Equation.body raw ≠ ""
  | readable => ∀ fault, C.read (Equation.plain (Equation.body raw)) ≠ .fault fault
  | algebraic => C.read (Equation.plain (Equation.body raw)) ≠ .other
  | knownFunctions => ∀ e, C.read (Equation.plain (Equation.body raw)) = .expression e →
      C.applied e = []
  | knownIdentifiers => ∀ e, C.read (Equation.plain (Equation.body raw)) = .expression e →
      ∀ s ∈ C.symbols e, s = .x ∨ s = .y

/-- The condition that is not met where the reason is given. -/
def ofReason : Rejection → Condition
  | .empty => notEmpty
  | .unreadable _ => readable
  | .notAlgebraic => algebraic
  | .unknownFunctions _ => knownFunctions
  | .unknownIdentifiers _ => knownIdentifiers

/-- The equation fails the condition and meets all those before it. -/
structure FailsFirst {ε α : Type} (C : Calculus ε α) (raw : Option String) (c : Condition) :
    Prop where
  fails : ¬ c.Holds C raw
  earlier : ∀ d ∈ order.takeWhile (· ≠ c), d.Holds C raw

end Condition

/-- The equation has a body that is read as an algebraic expression with known names only. -/
structure IsAccepted {ε α : Type} (C : Calculus ε α) (raw : Option String) (e : ε) : Prop where
  body_ne : Equation.body raw ≠ ""
  read : C.read (Equation.plain (Equation.body raw)) = .expression e
  applied : C.applied e = []
  symbols : ∀ s ∈ C.symbols e, s = .x ∨ s = .y

section Checks

variable {ε α : Type} {C : Calculus ε α} {raw : Option String} {body : String} {e : ε}

lemma inOrder_eq_nil_iff {names : List String} : Calculus.inOrder names = [] ↔ names = [] := by
  rw [← List.length_eq_zero_iff, Calculus.inOrder, List.length_mergeSort, List.length_eq_zero_iff]

/-- The names of the symbols other than the coordinates. -/
lemma inOrder_others_eq_nil_iff {ss : List Symbol} :
    Calculus.inOrder ((ss.filter fun s => !Calculus.coordinates.contains s).map Symbol.name) = [] ↔
      ∀ s ∈ ss, s = .x ∨ s = .y := by
  rw [inOrder_eq_nil_iff, List.map_eq_nil_iff]
  simp [Calculus.coordinates, List.filter_eq_nil_iff, or_iff_not_imp_left]

lemma check_of_fault {fault : Formula.ReadFault}
    (hread : C.read (Equation.plain body) = .fault fault) :
    C.check body = .error (.unreadable fault) := by
  rw [Calculus.check, hread]

lemma check_of_other (hread : C.read (Equation.plain body) = .other) :
    C.check body = .error .notAlgebraic := by
  rw [Calculus.check, hread]

lemma check_of_applied (hread : C.read (Equation.plain body) = .expression e)
    (happlied : C.applied e ≠ []) :
    C.check body = .error (.unknownFunctions (Calculus.inOrder (C.applied e))) := by
  rw [Calculus.check, hread]
  dsimp only
  split
  case h_1 hnil => exact absurd (inOrder_eq_nil_iff.mp hnil) happlied
  case h_2 => rfl

lemma check_of_symbols (hread : C.read (Equation.plain body) = .expression e)
    (happlied : C.applied e = []) (hsymbols : ¬ ∀ s ∈ C.symbols e, s = .x ∨ s = .y) :
    C.check body = .error (.unknownIdentifiers (Calculus.inOrder
      (((C.symbols e).filter fun s => !Calculus.coordinates.contains s).map Symbol.name))) := by
  rw [Calculus.check, hread]
  simp only [inOrder_eq_nil_iff.mpr happlied]
  split
  case h_1 hnil => exact absurd (inOrder_others_eq_nil_iff.mp hnil) hsymbols
  case h_2 => rfl

lemma check_of_known (hread : C.read (Equation.plain body) = .expression e)
    (happlied : C.applied e = []) (hsymbols : ∀ s ∈ C.symbols e, s = .x ∨ s = .y) :
    C.check body = .ok e := by
  rw [Calculus.check, hread]
  simp only [inOrder_eq_nil_iff.mpr happlied, inOrder_others_eq_nil_iff.mpr hsymbols]

lemma IsAccepted.check (h : IsAccepted C raw e) : C.check (Equation.body raw) = .ok e :=
  check_of_known h.read h.applied h.symbols

lemma IsAccepted.holds (h : IsAccepted C raw e) (c : Condition) : c.Holds C raw := by
  have hread := h.read
  cases c with
  | notEmpty => exact h.body_ne
  | readable => simp [Condition.Holds, hread]
  | algebraic => simp [Condition.Holds, hread]
  | knownFunctions =>
    intro e' he'
    cases hread.symm.trans he'
    exact h.applied
  | knownIdentifiers =>
    intro e' he'
    cases hread.symm.trans he'
    exact h.symbols

/-- An equation is rejected for the first condition that it fails, unless it meets all of them. -/
lemma accepted_or_failsFirst (C : Calculus ε α) (raw : Option String) :
    (∃ e, IsAccepted C raw e) ∨ ∃ err, C.compile raw = .error (.rejected err) ∧
      Condition.FailsFirst C raw (.ofReason err.reason) := by
  by_cases hbody : Equation.body raw = ""
  · refine .inr ⟨_, compile_of_empty hbody, ?_, ?_⟩
    · exact fun h => h hbody
    · simp [Condition.ofReason, Condition.order]
  · cases hread : C.read (Equation.plain (Equation.body raw)) with
    | fault fault =>
      refine .inr ⟨_, compile_of_rejected hbody (check_of_fault hread), ?_, ?_⟩
      · exact fun h => h fault hread
      · simp [Condition.ofReason, Condition.order, Condition.Holds, hbody]
    | other =>
      refine .inr ⟨_, compile_of_rejected hbody (check_of_other hread), ?_, ?_⟩
      · exact fun h => h hread
      · simp [Condition.ofReason, Condition.order, Condition.Holds, hbody, hread]
    | expression e =>
      by_cases happlied : C.applied e = []
      · by_cases hsymbols : ∀ s ∈ C.symbols e, s = .x ∨ s = .y
        · exact .inl ⟨e, hbody, hread, happlied, hsymbols⟩
        · have hcheck := check_of_symbols hread happlied hsymbols
          refine .inr ⟨_, compile_of_rejected hbody hcheck, ?_, ?_⟩
          · exact fun h => hsymbols (h e hread)
          · simp [Condition.ofReason, Condition.order, Condition.Holds, hbody, hread, happlied]
      · have hcheck := check_of_applied hread happlied
        refine .inr ⟨_, compile_of_rejected hbody hcheck, ?_, ?_⟩
        · exact fun h => happlied (h e hread)
        · simp [Condition.ofReason, Condition.order, Condition.Holds, hbody, hread]

lemma IsAccepted.not_rejected (h : IsAccepted C raw e) (err : EquationError) :
    C.compile raw ≠ .error (.rejected err) := by
  rw [compile_of_checked h.body_ne h.check]
  cases C.computation e <;> simp

lemma exists_accepted_of_compile {f : Slope α} (h : C.compile raw = .ok f) :
    ∃ e, IsAccepted C raw e ∧ C.computation e = .ok f.compute := by
  rcases accepted_or_failsFirst C raw with ⟨e, he⟩ | ⟨err, hrejected, -⟩
  · obtain ⟨-, e', compute, hcheck, hcompute, rfl⟩ := compile_ok_iff.mp h
    cases he.check.symm.trans hcheck
    exact ⟨e, he, hcompute⟩
  · rw [h] at hrejected
    cases hrejected

end Checks

/-! ## Names in computations -/

/-- What names stand for in a computation: a symbol for a program, and a function without a
definition for a way to combine those of its arguments. -/
structure Scope where
  symbol : Symbol → Program
  function : String → List Program → Program

namespace Scope

/-- The symbols of the coordinates stand for these. -/
structure BindsCoordinates (σ : Scope) : Prop where
  x : σ.symbol .x = .x
  y : σ.symbol .y = .y

/-- The scope of slopes: nothing but the coordinates has a meaning. -/
def coordinates : Scope where
  symbol s := if s = .x then .x else if s = .y then .y else .refused
  function _ _ := .refused

open Algebra.Expr (rationalProgram ofReal constantProgram sumProgram inSummationOrder
  quotientProgram isNegativeNumber powerProgram callProgram divisorProgram Part)

/-- The program that computes an expression, names taken for what they stand for. -/
def program (σ : Scope) : Expr → Program
  | .rational q => rationalProgram q
  | .rounded r => ofReal r.toFloat
  | .constant c => constantProgram c
  | .symbol s => σ.symbol s
  | .sum ts => sumProgram (inSummationOrder (ts.zip (programs ts)))
  | .product fs => quotientProgram (fs.head?.any isNegativeNumber) (parts fs)
  | .power b n => powerProgram (σ.program b) n (σ.program n)
  | .call f args => callProgram f (programs args)
  | .unknown s args => σ.function s (programs args)
  | .abstraction .. => .refused
where
  programs : List Expr → List Program
    | [] => []
    | e :: r => σ.program e :: programs r
  parts : List Expr → List Part
    | [] => []
    | .power b (.rational q) :: r =>
      (if q < 0 then ⟨true, divisorProgram (σ.program b) q⟩
      else ⟨false, powerProgram (σ.program b) (.rational q) (rationalProgram q)⟩) :: parts r
    | .rational q :: r =>
      if q == -1 then parts r
      else ⟨false, rationalProgram (if q < 0 then -q else q)⟩ :: parts r
    | .rounded a :: r => ⟨false, ofReal a.abs.toFloat⟩ :: parts r
    | .constant .negInfinity :: r => ⟨false, constantProgram .infinity⟩ :: parts r
    | e :: r => ⟨false, σ.program e⟩ :: parts r

/-- These symbols and applications have in the scope the meaning that they have in slopes. -/
structure Agrees (σ : Scope) (symbols : List Symbol) (unknowns : List Expr) : Prop where
  symbol : ∀ s ∈ symbols, σ.symbol s = coordinates.symbol s
  function : unknowns ≠ [] → σ.function = coordinates.function

section Agreement

variable {σ : Scope} {ss ts : List Symbol} {us vs : List Expr}

lemma Agrees.left (h : σ.Agrees (ss ++ ts) (us ++ vs)) : σ.Agrees ss us where
  symbol s hs := h.symbol s (List.mem_append_left ts hs)
  function hu := h.function (List.append_ne_nil_of_left_ne_nil hu vs)

lemma Agrees.right (h : σ.Agrees (ss ++ ts) (us ++ vs)) : σ.Agrees ts vs where
  symbol s hs := h.symbol s (List.mem_append_right ss hs)
  function hv := h.function (List.append_ne_nil_of_right_ne_nil us hv)

/-- Factors over the line. -/
lemma cons_upper {p q : Program} {ps qs : List Part} (hp : p = q) (hps : ps = qs) :
    ⟨false, p⟩ :: ps = ⟨false, q⟩ :: qs := by
  rw [hp, hps]

mutual

/-- By induction on the expression: each of its parts has the same program in both scopes. -/
lemma program_eq : (e : Expr) → σ.Agrees e.symbols e.unknowns → σ.program e = e.program
  | .rational _, _ | .rounded _, _ | .constant _, _ | .abstraction _ _, _ => rfl
  | .symbol s, h => by
    rw [Expr.program]
    exact h.symbol s List.mem_cons_self
  | .sum ts, h => by rw [Scope.program, Expr.program, programs_eq ts h]
  | .product fs, h => by rw [Scope.program, Expr.program, parts_eq fs h]
  | .power b n, h => by rw [Scope.program, Expr.program, program_eq b h.left, program_eq n h.right]
  | .call f args, h => by rw [Scope.program, Expr.program, programs_eq args h]
  | .unknown s args, h => by
    rw [Scope.program, h.function (List.cons_ne_nil _ _)]
    rfl

lemma programs_eq : (es : List Expr) →
    σ.Agrees (Expr.symbols.allSymbols es) (Expr.unknowns.allUnknowns es) →
    Scope.program.programs σ es = Expr.program.programs es
  | [], _ => rfl
  | e :: r, h => by
    rw [program.programs, Expr.program.programs, program_eq e h.left, programs_eq r h.right]

lemma parts_eq : (es : List Expr) →
    σ.Agrees (Expr.symbols.allSymbols es) (Expr.unknowns.allUnknowns es) →
    Scope.program.parts σ es = Expr.program.parts es
  | [], _ => rfl
  | .power b n :: r, h => by
    have hbase := program_eq b h.left.left
    have hpower := program_eq (.power b n) h.left
    have hrest := parts_eq r h.right
    cases n with
    | rational q => rw [program.parts, Expr.program.parts, hbase, hrest]
    | _ => exact cons_upper hpower hrest
  | .rational q :: r, h => by rw [program.parts, Expr.program.parts, parts_eq r h.right]
  | .rounded a :: r, h => by rw [program.parts, Expr.program.parts, parts_eq r h.right]
  | .constant c :: r, h => by
    have hrest := parts_eq r h.right
    cases c <;> exact congrArg (_ :: ·) hrest
  | .symbol s :: r, h => cons_upper (program_eq (.symbol s) h.left) (parts_eq r h.right)
  | .sum ts :: r, h => cons_upper (program_eq (.sum ts) h.left) (parts_eq r h.right)
  | .product fs :: r, h => cons_upper (program_eq (.product fs) h.left) (parts_eq r h.right)
  | .call f args :: r, h => cons_upper (program_eq (.call f args) h.left) (parts_eq r h.right)
  | .unknown s args :: r, h =>
    cons_upper (program_eq (.unknown s args) h.left) (parts_eq r h.right)
  | .abstraction bound e :: r, h =>
    cons_upper (program_eq (.abstraction bound e) h.left) (parts_eq r h.right)

end

end Agreement

/-- The scope of slopes is the one that expressions are computed in. -/
lemma program_coordinates (e : Expr) : coordinates.program e = e.program :=
  program_eq e ⟨fun _ _ => rfl, fun _ => rfl⟩

/-- A symbol that is no coordinate and a function without a definition are met in a computation. -/
example (σ : Scope) : σ.program (.unknown "foo" [.symbol (.named "x")]) =
    σ.function "foo" [σ.symbol (.named "x")] :=
  rfl

end Scope

/-! ## Accepted expressions -/

section Formulas

open Formula (appliedNames)

mutual

lemma exists_name_of_mem_unknowns {u : Expr} :
    (e : Expr) → u ∈ e.unknowns → ∃ s args, u = .unknown s args
  | .rational _, h | .rounded _, h | .constant _, h | .symbol _, h => absurd h List.not_mem_nil
  | .sum ts, h => exists_name_of_mem_allUnknowns ts h
  | .product fs, h => exists_name_of_mem_allUnknowns fs h
  | .power b n, h => (List.mem_append.mp h).elim (exists_name_of_mem_unknowns b)
      (exists_name_of_mem_unknowns n)
  | .call _ args, h => exists_name_of_mem_allUnknowns args h
  | .unknown s args, h => (List.mem_cons.mp h).elim (fun hu => ⟨s, args, hu⟩)
      (exists_name_of_mem_allUnknowns args)
  | .abstraction _ e, h => exists_name_of_mem_unknowns e h

lemma exists_name_of_mem_allUnknowns {u : Expr} : (es : List Expr) →
    u ∈ Expr.unknowns.allUnknowns es → ∃ s args, u = .unknown s args
  | [], h => absurd h List.not_mem_nil
  | e :: r, h => (List.mem_append.mp h).elim (exists_name_of_mem_unknowns e)
      (exists_name_of_mem_allUnknowns r)

end

lemma unknowns_eq_nil {e : Expr} (h : appliedNames e = []) : e.unknowns = [] := by
  cases hu : e.unknowns with
  | nil => rfl
  | cons u us =>
    obtain ⟨s, args, rfl⟩ := exists_name_of_mem_unknowns e (hu ▸ List.mem_cons_self)
    rw [appliedNames, hu, List.eraseDups_cons] at h
    cases h

/-- Exact algebra over another way to read formulas. -/
def withReader (read : String → Reading Expr) : Calculus Expr Float :=
  { Formula.calculus with read := read }

variable {read : String → Reading Expr} {raw : Option String} {e : Expr}

lemma IsAccepted.agrees (h : IsAccepted (withReader read) raw e) {σ : Scope}
    (hσ : σ.BindsCoordinates) : σ.Agrees e.symbols e.unknowns where
  symbol s hs := by
    obtain rfl | rfl := h.symbols s (List.mem_eraseDups.mpr hs)
    · exact hσ.x
    · exact hσ.y
  function hne := absurd (unknowns_eq_nil h.applied) hne

lemma compute_of_formula {f : Slope Float} (h : Formula.computation e = .ok f.compute)
    (x y : Float) : f.compute x y = Formula.outcome (e.program.run x y) := by
  unfold Formula.computation at h
  split_ifs at h
  rw [← Except.ok.inj h]

end Formulas

/-- An equation compiles only if it meets all conditions. It is rejected exactly if it fails one,
and then for the first one that it fails. However formulas are read, the slopes of one that compiles
are computed by a program that is the same whatever names other than those of the coordinates stand
for. -/
theorem accepted_equations_are_scoped {ε α : Type} (C : Calculus ε α) (raw : Option String) :
    (∀ f, C.compile raw = .ok f →
      ∃ e, IsAccepted C raw e ∧ C.computation e = .ok f.compute) ∧
    ((∃ c, ¬ Condition.Holds C raw c) ↔ ∃ err, C.compile raw = .error (.rejected err)) ∧
    (∀ err, C.compile raw = .error (.rejected err) →
      Condition.FailsFirst C raw (.ofReason err.reason)) ∧
    ∀ (read : String → Reading Expr) (f : Slope Float), (withReader read).compile raw = .ok f →
      ∃ e, IsAccepted (withReader read) raw e ∧
        (∀ x y, f.compute x y = Formula.outcome (e.program.run x y)) ∧
        ∀ σ : Scope, σ.BindsCoordinates → σ.program e = e.program := by
  refine ⟨fun f hf => exists_accepted_of_compile hf, ⟨?_, ?_⟩, ?_, ?_⟩
  · rintro ⟨c, hc⟩
    rcases accepted_or_failsFirst C raw with ⟨e, he⟩ | ⟨err, hrejected, -⟩
    · exact absurd (he.holds c) hc
    · exact ⟨err, hrejected⟩
  · rintro ⟨err, hrejected⟩
    rcases accepted_or_failsFirst C raw with ⟨e, he⟩ | ⟨err', -, hfirst⟩
    · exact absurd hrejected (he.not_rejected err)
    · exact ⟨_, hfirst.fails⟩
  · intro err hrejected
    rcases accepted_or_failsFirst C raw with ⟨e, he⟩ | ⟨err', hrejected', hfirst⟩
    · exact absurd hrejected (he.not_rejected err)
    · cases hrejected.symm.trans hrejected'
      exact hfirst
  · intro read f hf
    obtain ⟨e, he, hcompute⟩ := exists_accepted_of_compile hf
    exact ⟨e, he, compute_of_formula hcompute, fun σ hσ => Scope.program_eq e (he.agrees hσ)⟩

/-- An unknown function of an unknown name is rejected for the function; a known one of a coordinate
compiles. -/
theorem accepted_equations_are_scoped_functions :
    (∃ err, Formula.calculus.compile (some "foo(q)") = .error (.rejected err) ∧
      Condition.ofReason err.reason = .knownFunctions ∧
      Condition.FailsFirst Formula.calculus (some "foo(q)") .knownFunctions) ∧
    ∃ f e, Formula.calculus.compile (some "dy/dx = sin(y)") = .ok f ∧
      IsAccepted Formula.calculus (some "dy/dx = sin(y)") e ∧
      (∀ x y, f.compute x y = Formula.outcome (e.program.run x y)) ∧
      ∀ σ : Scope, σ.BindsCoordinates → σ.program e = e.program := by
  constructor
  · have hunknown : (match Formula.calculus.compile (some "foo(q)") with
        | .error (.rejected err) => decide (.ofReason err.reason = Condition.knownFunctions)
        | _ => false) = true := by
      decide +kernel
    split at hunknown
    · rename_i err hrejected
      have hreason := of_decide_eq_true hunknown
      obtain ⟨-, -, hfirst, -⟩ :=
        accepted_equations_are_scoped Formula.calculus (some "foo(q)")
      exact ⟨err, hrejected, hreason, hreason ▸ hfirst err hrejected⟩
    · cases hunknown
  · obtain ⟨f, hf⟩ := ok_of_isOk (x := Formula.calculus.compile (some "dy/dx = sin(y)"))
      (by decide +kernel)
    obtain ⟨-, -, -, hscoped⟩ :=
      accepted_equations_are_scoped Formula.calculus (some "dy/dx = sin(y)")
    obtain ⟨e, he⟩ := hscoped Formula.calculus.read f hf
    exact ⟨f, e, hf, he⟩

end DirectionField.Proofs
