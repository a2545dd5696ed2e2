import DirectionField.Proofs.Acceptance

/-!
# The names in a rejection

An equation that is rejected for its names lists them in order, and all of them. There is a name for
each different application of a function without a definition, so that it comes again where a
function is applied to different arguments. If no function is without a definition there is a name
for each different symbol but the coordinates, and it comes again only where two symbols share it.
-/

namespace DirectionField.Proofs

open DirectionField.Algebra (Expr Rounded)
open DirectionField.Formula (appliedNames)

/-! ## Equality of expressions -/

section Equality

deriving instance ReflBEq, LawfulBEq for Rounded

mutual

lemma beq_iff_eq_expr : (a b : Expr) → (a.beq b = true ↔ a = b)
  | .rational _, b | .rounded _, b | .constant _, b | .symbol _, b => by
    cases b <;> simp [Expr.beq]
  | .sum ts, b => by cases b <;> simp [Expr.beq, beqAll_iff_eq ts]
  | .product fs, b => by cases b <;> simp [Expr.beq, beqAll_iff_eq fs]
  | .power c n, b => by cases b <;> simp [Expr.beq, beq_iff_eq_expr c, beq_iff_eq_expr n]
  | .call _ args, b => by cases b <;> simp [Expr.beq, beqAll_iff_eq args]
  | .unknown _ args, b => by cases b <;> simp [Expr.beq, beqAll_iff_eq args]
  | .abstraction _ e, b => by cases b <;> simp [Expr.beq, beq_iff_eq_expr e]

lemma beqAll_iff_eq : (as bs : List Expr) → (Expr.beq.beqAll as bs = true ↔ as = bs)
  | [], bs => by cases bs <;> simp [Expr.beq.beqAll]
  | a :: as, bs => by
    cases bs <;> simp [Expr.beq.beqAll, beq_iff_eq_expr a, beqAll_iff_eq as]

end

instance : LawfulBEq Expr where
  eq_of_beq {a b} h := (beq_iff_eq_expr a b).mp h
  rfl {a} := (beq_iff_eq_expr a a).mpr rfl

end Equality

/-! ## Parts of expressions -/

section Parts

/-- `u` is the expression or a part of it, at any depth. -/
inductive IsPartOf (u : Expr) : Expr → Prop
  | self : IsPartOf u u
  | term {e : Expr} {ts : List Expr} (he : e ∈ ts) (h : IsPartOf u e) : IsPartOf u (.sum ts)
  | factor {e : Expr} {fs : List Expr} (he : e ∈ fs) (h : IsPartOf u e) : IsPartOf u (.product fs)
  | base {b n : Expr} (h : IsPartOf u b) : IsPartOf u (.power b n)
  | exponent {b n : Expr} (h : IsPartOf u n) : IsPartOf u (.power b n)
  | argument {f : Algebra.Fn} {e : Expr} {args : List Expr} (he : e ∈ args) (h : IsPartOf u e) :
    IsPartOf u (.call f args)
  | unknownArgument {s : String} {e : Expr} {args : List Expr} (he : e ∈ args)
    (h : IsPartOf u e) : IsPartOf u (.unknown s args)
  | body {bound : List Symbol} {e : Expr} (h : IsPartOf u e) : IsPartOf u (.abstraction bound e)

/-- The symbol occurs in the expression where it is not bound. -/
inductive OccursFree (s : Symbol) : Expr → Prop
  | symbol : OccursFree s (.symbol s)
  | term {e : Expr} {ts : List Expr} (he : e ∈ ts) (h : OccursFree s e) : OccursFree s (.sum ts)
  | factor {e : Expr} {fs : List Expr} (he : e ∈ fs) (h : OccursFree s e) :
    OccursFree s (.product fs)
  | base {b n : Expr} (h : OccursFree s b) : OccursFree s (.power b n)
  | exponent {b n : Expr} (h : OccursFree s n) : OccursFree s (.power b n)
  | argument {f : Algebra.Fn} {e : Expr} {args : List Expr} (he : e ∈ args)
    (h : OccursFree s e) : OccursFree s (.call f args)
  | unknownArgument {t : String} {e : Expr} {args : List Expr} (he : e ∈ args)
    (h : OccursFree s e) : OccursFree s (.unknown t args)
  | body {bound : List Symbol} {e : Expr} (hbound : s ∉ bound) (h : OccursFree s e) :
    OccursFree s (.abstraction bound e)

variable {s : Symbol} {u : Expr} {f : String}

lemma allSymbols_eq_flatMap (es : List Expr) :
    Expr.symbols.allSymbols es = es.flatMap Expr.symbols := by
  induction es with
  | nil => rfl
  | cons e es ih => rw [Expr.symbols.allSymbols, ih, List.flatMap_cons]

lemma allUnknowns_eq_flatMap (es : List Expr) :
    Expr.unknowns.allUnknowns es = es.flatMap Expr.unknowns := by
  induction es with
  | nil => rfl
  | cons e es ih => rw [Expr.unknowns.allUnknowns, ih, List.flatMap_cons]

lemma OccursFree.mem_symbols {e : Expr} (h : OccursFree s e) : s ∈ e.symbols := by
  induction h with
  | symbol => exact List.mem_singleton_self s
  | term he _ ih | factor he _ ih | argument he _ ih | unknownArgument he _ ih =>
    rw [Expr.symbols, allSymbols_eq_flatMap]
    exact List.mem_flatMap_of_mem he ih
  | base _ ih => exact List.mem_append_left _ ih
  | exponent _ ih => exact List.mem_append_right _ ih
  | body hbound _ ih => simpa [Expr.symbols, hbound] using ih

mutual

/-- By recursion on the expression, and on the lists of its parts beside it. -/
lemma occursFree_of_mem : (e : Expr) → s ∈ e.symbols → OccursFree s e
  | .rational _, h | .rounded _, h | .constant _, h => absurd h List.not_mem_nil
  | .symbol t, h => List.mem_singleton.mp h ▸ .symbol
  | .sum ts, h =>
    have ⟨_, he, hfree⟩ := exists_occursFree_of_mem ts h
    .term he hfree
  | .product fs, h =>
    have ⟨_, he, hfree⟩ := exists_occursFree_of_mem fs h
    .factor he hfree
  | .power b n, h => (List.mem_append.mp h).elim (fun hb => .base (occursFree_of_mem b hb))
      fun hn => .exponent (occursFree_of_mem n hn)
  | .call _ args, h =>
    have ⟨_, he, hfree⟩ := exists_occursFree_of_mem args h
    .argument he hfree
  | .unknown _ args, h =>
    have ⟨_, he, hfree⟩ := exists_occursFree_of_mem args h
    .unknownArgument he hfree
  | .abstraction bound e, h =>
    have ⟨hmem, hbound⟩ := List.mem_filter.mp h
    .body (by simpa using hbound) (occursFree_of_mem e hmem)

lemma exists_occursFree_of_mem : (es : List Expr) → s ∈ Expr.symbols.allSymbols es →
    ∃ e ∈ es, OccursFree s e
  | [], h => absurd h List.not_mem_nil
  | e :: es, h => (List.mem_append.mp h).elim
      (fun he => ⟨e, List.mem_cons_self, occursFree_of_mem e he⟩)
      fun hes =>
        have ⟨e', he', hfree⟩ := exists_occursFree_of_mem es hes
        ⟨e', List.mem_cons_of_mem e he', hfree⟩

end

lemma mem_symbols_iff {e : Expr} : s ∈ e.symbols ↔ OccursFree s e :=
  ⟨occursFree_of_mem e, OccursFree.mem_symbols⟩

lemma IsPartOf.mem_unknowns {args : List Expr} {e : Expr} (h : IsPartOf (.unknown f args) e) :
    .unknown f args ∈ e.unknowns := by
  induction h with
  | self => exact List.mem_cons_self
  | term he _ ih | factor he _ ih | argument he _ ih =>
    rw [Expr.unknowns, allUnknowns_eq_flatMap]
    exact List.mem_flatMap_of_mem he ih
  | unknownArgument he _ ih =>
    rw [Expr.unknowns, allUnknowns_eq_flatMap]
    exact List.mem_cons_of_mem _ (List.mem_flatMap_of_mem he ih)
  | base _ ih => exact List.mem_append_left _ ih
  | exponent _ ih => exact List.mem_append_right _ ih
  | body _ ih => exact ih

mutual

lemma isPartOf_of_mem : (e : Expr) → u ∈ e.unknowns → IsPartOf u e
  | .rational _, h | .rounded _, h | .constant _, h | .symbol _, h => absurd h List.not_mem_nil
  | .sum ts, h =>
    have ⟨_, he, hpart⟩ := exists_isPartOf_of_mem ts h
    .term he hpart
  | .product fs, h =>
    have ⟨_, he, hpart⟩ := exists_isPartOf_of_mem fs h
    .factor he hpart
  | .power b n, h => (List.mem_append.mp h).elim (fun hb => .base (isPartOf_of_mem b hb))
      fun hn => .exponent (isPartOf_of_mem n hn)
  | .call _ args, h =>
    have ⟨_, he, hpart⟩ := exists_isPartOf_of_mem args h
    .argument he hpart
  | .unknown _ args, h => (List.mem_cons.mp h).elim (fun hu => hu ▸ .self) fun hargs =>
      have ⟨_, he, hpart⟩ := exists_isPartOf_of_mem args hargs
      .unknownArgument he hpart
  | .abstraction _ e, h => .body (isPartOf_of_mem e h)

lemma exists_isPartOf_of_mem : (es : List Expr) → u ∈ Expr.unknowns.allUnknowns es →
    ∃ e ∈ es, IsPartOf u e
  | [], h => absurd h List.not_mem_nil
  | e :: es, h => (List.mem_append.mp h).elim
      (fun he => ⟨e, List.mem_cons_self, isPartOf_of_mem e he⟩)
      fun hes =>
        have ⟨e', he', hpart⟩ := exists_isPartOf_of_mem es hes
        ⟨e', List.mem_cons_of_mem e he', hpart⟩

end

lemma mem_unknowns_iff {args : List Expr} {e : Expr} :
    .unknown f args ∈ e.unknowns ↔ IsPartOf (.unknown f args) e :=
  ⟨isPartOf_of_mem e, IsPartOf.mem_unknowns⟩

end Parts

/-! ## Names -/

section Names

lemma nodup_eraseDups {β : Type} [BEq β] [LawfulBEq β] : (bs : List β) → bs.eraseDups.Nodup
  | [] => List.nodup_nil
  | b :: bs => by
    rw [List.eraseDups_cons, List.nodup_cons, List.mem_eraseDups]
    exact ⟨by simp, nodup_eraseDups _⟩
termination_by bs => bs.length
decreasing_by exact Nat.lt_succ_of_le (List.length_filter_le _ _)

lemma inOrder_perm (names : List String) : (Calculus.inOrder names).Perm names :=
  List.mergeSort_perm names _

lemma inOrder_sorted (names : List String) : (Calculus.inOrder names).Pairwise (· ≤ ·) := by
  have hle {a b : String} : (!decide (b < a)) = true ↔ a ≤ b := by
    rw [Bool.not_eq_true', decide_eq_false_iff_not, not_lt]
  have htrans (a b c : String) (hab : (!decide (b < a)) = true) (hbc : (!decide (c < b)) = true) :
      (!decide (c < a)) = true :=
    hle.mpr ((hle.mp hab).trans (hle.mp hbc))
  have htotal (a b : String) : ((!decide (b < a)) || !decide (a < b)) = true := by
    rw [Bool.or_eq_true, hle, hle]
    exact le_total a b
  exact (List.pairwise_mergeSort htrans htotal names).imp hle.mp

lemma inOrder_pair (s : String) : Calculus.inOrder [s, s] = [s, s] :=
  List.mergeSort_of_pairwise <| List.pairwise_pair.mpr <| by
    rw [Bool.not_eq_true', decide_eq_false_iff_not]
    exact lt_irrefl s

/-- Names in order come once each exactly if they are different. -/
lemma increasing_iff_nodup {names : List String} (h : names.Pairwise (· ≤ ·)) :
    names.Pairwise (· < ·) ↔ names.Nodup :=
  ⟨fun hlt => hlt.imp ne_of_lt, fun hne => (h.and hne).imp fun hab => lt_of_le_of_ne hab.1 hab.2⟩

/-- The function and the arguments of an application of a function without a definition. -/
def application? : Expr → Option (String × List Expr)
  | .unknown s args => some (s, args)
  | _ => none

lemma application?_eq_some_iff {e : Expr} {s : String} {args : List Expr} :
    application? e = some (s, args) ↔ e = .unknown s args := by
  cases e <;> simp [application?]

/-- The different applications of functions without a definition. -/
def applications (e : Expr) : List (String × List Expr) :=
  e.unknowns.eraseDups.filterMap application?

variable {e : Expr}

lemma mem_applications_iff {s : String} {args : List Expr} :
    (s, args) ∈ applications e ↔ IsPartOf (.unknown s args) e := by
  simp only [applications, List.mem_filterMap, application?_eq_some_iff, exists_eq_right,
    List.mem_eraseDups, mem_unknowns_iff]

lemma nodup_applications (e : Expr) : (applications e).Nodup := by
  refine (nodup_eraseDups _).filterMap fun a b ⟨s, args⟩ ha hb => ?_
  rw [application?_eq_some_iff.mp ha, application?_eq_some_iff.mp hb]

lemma appliedNames_eq_map (e : Expr) : appliedNames e = (applications e).map (·.1) := by
  rw [applications, List.map_filterMap]
  refine List.filterMap_congr fun a _ => ?_
  cases a <;> rfl

/-- The names are those of the things with the property, one for each of these, in order. So none
comes twice exactly if no two of the things share a name. -/
structure NamesEach {β : Type} (P : β → Prop) (name : β → String) (names : List String) : Prop where
  sorted : names.Pairwise (· ≤ ·)
  each : ∃ bs : List β, bs.Nodup ∧ (∀ b, b ∈ bs ↔ P b) ∧ names.Perm (bs.map name)
  mem_iff : ∀ s, s ∈ names ↔ ∃ b, P b ∧ name b = s
  increasing_iff : names.Pairwise (· < ·) ↔ ∀ b c, P b → P c → name b = name c → b = c

/-- The names of the applications of functions without a definition. -/
def NamesApplications (e : Expr) : List String → Prop :=
  NamesEach (fun a : String × List Expr => IsPartOf (.unknown a.1 a.2) e) Prod.fst

/-- The names of the symbols that occur free, the coordinates apart. -/
def NamesSymbols (e : Expr) : List String → Prop :=
  NamesEach (fun s => OccursFree s e ∧ s ≠ .x ∧ s ≠ .y) Symbol.name

lemma namesEach_inOrder {β : Type} {P : β → Prop} (name : β → String) {bs : List β}
    (hnodup : bs.Nodup) (hmem : ∀ b, b ∈ bs ↔ P b) :
    NamesEach P name (Calculus.inOrder (bs.map name)) := by
  have hsorted := inOrder_sorted (bs.map name)
  have hperm := inOrder_perm (bs.map name)
  refine ⟨hsorted, ⟨bs, hnodup, hmem, hperm⟩, fun s => ?_, ?_⟩
  · simp only [hperm.mem_iff, List.mem_map, hmem]
  · rw [increasing_iff_nodup hsorted, hperm.nodup_iff, List.nodup_map_iff_inj_on hnodup]
    simp only [hmem]
    exact ⟨fun h b c hb hc => h b hb c hc, fun h b hb c hc => h b c hb hc⟩

lemma namesApplications_inOrder (e : Expr) :
    NamesApplications e (Calculus.inOrder (appliedNames e)) := by
  rw [appliedNames_eq_map]
  exact namesEach_inOrder _ (nodup_applications e) fun _ => mem_applications_iff

lemma namesSymbols_inOrder (e : Expr) :
    NamesSymbols e (Calculus.inOrder ((e.symbols.eraseDups.filter
      fun s => !Calculus.coordinates.contains s).map Symbol.name)) := by
  refine namesEach_inOrder _ ((nodup_eraseDups e.symbols).filter _) fun s => ?_
  rw [List.mem_filter, List.mem_eraseDups, mem_symbols_iff]
  simp [Calculus.coordinates]

end Names

/-! ## Rejections -/

section Rejections

lemma appliedNames_eq_nil_iff {e : Expr} :
    appliedNames e = [] ↔ ¬ ∃ s args, IsPartOf (.unknown s args) e := by
  constructor
  · rintro hnil ⟨s, args, hpart⟩
    rw [← mem_unknowns_iff, unknowns_eq_nil hnil] at hpart
    cases hpart
  · intro hnone
    rw [appliedNames_eq_map, List.map_eq_nil_iff, List.eq_nil_iff_forall_not_mem]
    rintro ⟨s, args⟩ hmem
    exact hnone ⟨s, args, mem_applications_iff.mp hmem⟩

variable {read : String → Reading Expr} {raw : Option String} {e : Expr} {err : EquationError}

/-- However formulas are read: an equation that is read as an expression and rejected is rejected
for all functions without a definition that occur in it, one name for each of their different
applications, and if there are none for all symbols but the coordinates, one name for each different
symbol. The names are in order. -/
theorem rejection_names_all_culprits (hbody : Equation.body raw ≠ "")
    (hread : read (Equation.plain (Equation.body raw)) = .expression e)
    (hrejected : (withReader read).compile raw = .error (.rejected err)) :
    ((∃ s args, IsPartOf (.unknown s args) e) →
      ∃ names, NamesApplications e names ∧ err.reason = .unknownFunctions names ∧
        err.message = "Cannot parse '" ++ Equation.body raw ++ "': " ++
          ("unknown function(s): " ++ ", ".intercalate names)) ∧
    ((¬ ∃ s args, IsPartOf (.unknown s args) e) →
      ∃ names, NamesSymbols e names ∧ err.reason = .unknownIdentifiers names ∧
        err.message = "Cannot parse '" ++ Equation.body raw ++ "': " ++
          ("unknown identifier(s): " ++ ", ".intercalate names)) := by
  have herr {reason : Rejection}
      (hcheck : (withReader read).check (Equation.body raw) = .error reason) :
      err = ⟨Equation.body raw, reason⟩ := by
    rw [compile_of_rejected hbody hcheck] at hrejected
    exact (CompileFault.rejected.inj (Except.error.inj hrejected)).symm
  constructor
  · intro hunknown
    have happlied : appliedNames e ≠ [] := fun hnil => appliedNames_eq_nil_iff.mp hnil hunknown
    have hcheck : (withReader read).check (Equation.body raw) =
        .error (.unknownFunctions (Calculus.inOrder (appliedNames e))) :=
      check_of_applied hread happlied
    rw [herr hcheck]
    exact ⟨_, namesApplications_inOrder e, rfl, rfl⟩
  · intro hnone
    have happlied : appliedNames e = [] := appliedNames_eq_nil_iff.mpr hnone
    have hsymbols : ¬ ∀ s ∈ e.symbols.eraseDups, s = .x ∨ s = .y := fun hknown =>
      IsAccepted.not_rejected (C := withReader read) ⟨hbody, hread, happlied, hknown⟩ err hrejected
    have hcheck : (withReader read).check (Equation.body raw) =
        .error (.unknownIdentifiers (Calculus.inOrder ((e.symbols.eraseDups.filter
          fun s => !Calculus.coordinates.contains s).map Symbol.name))) :=
      check_of_symbols hread happlied hsymbols
    rw [herr hcheck]
    exact ⟨_, namesSymbols_inOrder e, rfl, rfl⟩

/-! ### Names that come twice -/

lemma read_body_of_read {text : String} (hbody : Equation.body (some text) = text)
    (hplain : Equation.plain text = text) (hread : Formula.read text = .ok (.expr e)) :
    Formula.calculus.read (Equation.plain (Equation.body (some text))) = .expression e := by
  rw [hbody, hplain]
  simp only [Formula.calculus, hread]

/-- The expression `foo(x) + foo(y)`. -/
def twiceApplied : Expr :=
  .sum [.unknown "foo" [.symbol .x], .unknown "foo" [.symbol .y]]

lemma body_twiceApplied : Equation.body (some "foo(x)+foo(y)") = "foo(x)+foo(y)" := by
  decide

lemma read_twiceApplied :
    Formula.calculus.read (Equation.plain (Equation.body (some "foo(x)+foo(y)"))) =
      .expression twiceApplied :=
  read_body_of_read body_twiceApplied (by decide +kernel) (by cbv)

lemma compile_twiceApplied :
    Formula.calculus.compile (some "foo(x)+foo(y)") =
      .error (.rejected ⟨"foo(x)+foo(y)", .unknownFunctions ["foo", "foo"]⟩) := by
  have happlied : Formula.calculus.applied twiceApplied = ["foo", "foo"] := by decide +kernel
  have hcheck := check_of_applied read_twiceApplied (by rw [happlied]; decide)
  rw [happlied, inOrder_pair] at hcheck
  rw [compile_of_rejected (by rw [body_twiceApplied]; decide) hcheck, body_twiceApplied]

/-- The sum of two symbols that are called `z`, one of them real. -/
def namesakes : Expr :=
  .sum [.symbol ⟨"z", true⟩, .symbol (.named "z")]

lemma body_namesakes :
    Equation.body (some "Symbol('z', real=True)+z") = "Symbol('z', real=True)+z" := by
  decide

set_option maxRecDepth 2000 in
lemma read_namesakes :
    Formula.calculus.read (Equation.plain (Equation.body (some "Symbol('z', real=True)+z"))) =
      .expression namesakes :=
  read_body_of_read body_namesakes (by decide +kernel) (by cbv)

lemma compile_namesakes :
    Formula.calculus.compile (some "Symbol('z', real=True)+z") =
      .error (.rejected ⟨"Symbol('z', real=True)+z", .unknownIdentifiers ["z", "z"]⟩) := by
  have happlied : Formula.calculus.applied namesakes = [] := by decide +kernel
  have hsymbols : Formula.calculus.symbols namesakes = [⟨"z", true⟩, .named "z"] := by
    decide +kernel
  have hnames : ((Formula.calculus.symbols namesakes).filter
      fun s => !Calculus.coordinates.contains s).map Symbol.name = ["z", "z"] := by
    rw [hsymbols]
    decide
  have hcheck := check_of_symbols read_namesakes happlied (by rw [hsymbols]; decide)
  rw [hnames, inOrder_pair] at hcheck
  rw [compile_of_rejected (by rw [body_namesakes]; decide) hcheck, body_namesakes]

/-- Both applications are found, and the name stands for each of them; and so for two symbols of one
name. -/
theorem rejection_names_all_culprits_twice :
    (Equation.body (some "foo(x)+foo(y)") ≠ "" ∧
      Formula.calculus.read (Equation.plain (Equation.body (some "foo(x)+foo(y)"))) =
        .expression twiceApplied ∧
      Formula.calculus.compile (some "foo(x)+foo(y)") =
        .error (.rejected ⟨"foo(x)+foo(y)", .unknownFunctions ["foo", "foo"]⟩) ∧
      (∃ s args, IsPartOf (.unknown s args) twiceApplied) ∧
      NamesApplications twiceApplied ["foo", "foo"]) ∧
    Equation.body (some "Symbol('z', real=True)+z") ≠ "" ∧
      Formula.calculus.read (Equation.plain (Equation.body (some "Symbol('z', real=True)+z"))) =
        .expression namesakes ∧
      Formula.calculus.compile (some "Symbol('z', real=True)+z") =
        .error (.rejected ⟨"Symbol('z', real=True)+z", .unknownIdentifiers ["z", "z"]⟩) ∧
      (¬ ∃ s args, IsPartOf (.unknown s args) namesakes) ∧
      NamesSymbols namesakes ["z", "z"] := by
  constructor
  · have hbody : Equation.body (some "foo(x)+foo(y)") ≠ "" := by decide
    have hpart : IsPartOf (.unknown "foo" [.symbol .x]) twiceApplied :=
      .term List.mem_cons_self .self
    obtain ⟨hfunctions, -⟩ := rejection_names_all_culprits hbody read_twiceApplied
      compile_twiceApplied
    obtain ⟨names, hnames, hreason, -⟩ := hfunctions ⟨_, _, hpart⟩
    cases hreason
    exact ⟨hbody, read_twiceApplied, compile_twiceApplied, ⟨_, _, hpart⟩, hnames⟩
  · have hbody : Equation.body (some "Symbol('z', real=True)+z") ≠ "" := by decide
    have hnone : ¬ ∃ s args, IsPartOf (.unknown s args) namesakes :=
      appliedNames_eq_nil_iff.mp (by decide +kernel)
    obtain ⟨-, hidentifiers⟩ := rejection_names_all_culprits hbody read_namesakes compile_namesakes
    obtain ⟨names, hnames, hreason, -⟩ := hidentifiers hnone
    cases hreason
    exact ⟨hbody, read_namesakes, compile_namesakes, hnone, hnames⟩

theorem repeated_function_is_named_twice :
    Formula.calculus.compile (some "foo(x)+foo(y)") =
      .error (.rejected ⟨"foo(x)+foo(y)", .unknownFunctions ["foo", "foo"]⟩) ∧
    ¬ ["foo", "foo"].Pairwise (· < ·) :=
  ⟨compile_twiceApplied, by decide⟩

end Rejections

end DirectionField.Proofs
