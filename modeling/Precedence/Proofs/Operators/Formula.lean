import Precedence.Proofs.Parse.Reading

/-!
# Operator tables

Expressions of operands, signs before them and operators between them, over any table of binding powers.  A `Row` is
such an expression as a list of tokens; a `Formula` is one of the ways to group it.  `Formula.Fits` says which grouping
the powers ask for, by what stands on the two spines of the operands.

For every row there is a formula that fits (`Row.formula`): an operator and the operand on its right are attached on the
right spine of what is there already, as far up as the powers on the spine allow (`Formula.attach`).
-/

namespace Precedence.Operators

/-! ### Rows of operators and operands -/

/-- A token that stands for itself. -/
structure Atom where
  token : Token
  means : token.kind.null = .value

/-- A token before an operand, which is tagged by the label and parsed with the power. -/
structure Sign where
  token : Token
  label : String
  power : Int
  means : token.kind.null = .labelled label power
  nonneg : 0 ≤ power

/-- A token between two operands.  The power that the right one is parsed with is independent of the binding power. -/
structure Infix where
  token : Token
  label : String
  power : Int
  means : token.kind.infixOperator? = some (label, power)
  nonneg : 0 ≤ power
  binds : 1 ≤ token.kind.bindingPower

/-- How tightly the operator binds the operand on its left. -/
def Infix.binding (op : Infix) : Int := op.token.kind.bindingPower

/-- An atom with signs before it. -/
structure Operand where
  signs : List Sign
  atom : Atom

def Operand.tokens (x : Operand) : List Token := x.signs.map (·.token) ++ [x.atom.token]

/-- An operand, and further ones with operators before them. -/
structure Row where
  first : Operand
  others : List (Infix × Operand)

def Row.tokens (row : Row) : List Token :=
  row.first.tokens ++ row.others.flatMap fun (op, x) => op.token :: x.tokens

/-! ### Formulas -/

/-- A grouping of operators and operands. -/
inductive Formula where
  | atom (a : Atom)
  | signed (sign : Sign) (operand : Formula)
  | joined (op : Infix) (left right : Formula)

namespace Formula

/-- The tokens of a formula in the order in which they are written. -/
def tokens : Formula → List Token
  | atom a => [a.token]
  | signed sign x => sign.token :: x.tokens
  | joined op l r => l.tokens ++ op.token :: r.tokens

/-- The parse tree of a formula. -/
def tree : Formula → Tree
  | atom a => .atom a.token.value
  | signed sign x => .node [.atom sign.label, x.tree]
  | joined op l r => .node [.atom op.label, l.tree, r.tree]

/-- The operators that are reached from the top through left operands. -/
def leftSpine : Formula → List Infix
  | joined op l _ => op :: l.leftSpine
  | _ => []

/-- The powers of the operators and signs that are reached from the top through right operands. -/
def rightSpine : Formula → List Int
  | atom _ => []
  | signed sign x => sign.power :: x.rightSpine
  | joined op _ r => op.power :: r.rightSpine

/-- Each operator and sign binds less tightly, by the power for its right operand, than what is on the left spine of
that operand; and no power on the right spine of a left operand is less than the binding power of its operator. -/
def Fits : Formula → Prop
  | atom _ => True
  | signed sign x => (∀ op ∈ x.leftSpine, sign.power < op.binding) ∧ x.Fits
  | joined op l r => (∀ other ∈ r.leftSpine, op.power < other.binding) ∧
      (∀ power ∈ l.rightSpine, op.binding ≤ power) ∧ l.Fits ∧ r.Fits

instance decidableFits : (f : Formula) → Decidable f.Fits
  | atom _ => inferInstanceAs (Decidable True)
  | signed _ x =>
    have := decidableFits x
    inferInstanceAs (Decidable (_ ∧ _))
  | joined _ l r =>
    have := decidableFits l
    have := decidableFits r
    inferInstanceAs (Decidable (_ ∧ _ ∧ _ ∧ _))

/-! ### The formula of a row -/

/-- The formula with an operator and its right operand after it. -/
def attach : Formula → Infix → Formula → Formula
  | atom a, op, x => joined op (atom a) x
  | signed sign y, op, x =>
    if ∀ power ∈ sign.power :: y.rightSpine, op.binding ≤ power then joined op (signed sign y) x
    else signed sign (y.attach op x)
  | joined other l r, op, x =>
    if ∀ power ∈ other.power :: r.rightSpine, op.binding ≤ power then joined op (joined other l r) x
    else joined other l (r.attach op x)

theorem tokens_attach (f : Formula) (op : Infix) (x : Formula) :
    (f.attach op x).tokens = f.tokens ++ op.token :: x.tokens := by
  induction f with
  | atom a => rfl
  | signed sign y ih =>
    unfold attach
    split
    · rfl
    · simp [tokens, ih]
  | joined other l r _ ih =>
    unfold attach
    split
    · rfl
    · simp [tokens, ih]

/-- Where an operator is attached below the top, a power that was less than all binding powers on the left spine still
is. -/
private theorem lt_binding_attach {power : Int} {y x : Formula} {op : Infix}
    (hspine : ∀ other ∈ y.leftSpine, power < other.binding)
    (hbelow : ¬ ∀ p ∈ power :: y.rightSpine, op.binding ≤ p) :
    ∀ other ∈ (y.attach op x).leftSpine, power < other.binding := by
  -- only the power itself can have kept the operator from the place above
  have hop : (∀ p ∈ y.rightSpine, op.binding ≤ p) → power < op.binding := by
    intro hall
    exact Int.not_le.mp fun hle => hbelow (List.forall_mem_cons.mpr ⟨hle, hall⟩)
  cases y with
  | atom a =>
    simp only [attach, leftSpine, List.forall_mem_cons]
    exact ⟨hop (by simp [rightSpine]), by simp⟩
  | signed sign z =>
    unfold attach
    split
    · rename_i hall
      simp only [leftSpine, List.forall_mem_cons]
      exact ⟨hop hall, by simp⟩
    · simp [leftSpine]
  | joined other l r =>
    unfold attach
    split
    · rename_i hall
      exact List.forall_mem_cons.mpr ⟨hop hall, hspine⟩
    · exact hspine

theorem fits_attach {f x : Formula} (op : Infix) (hf : f.Fits) (hx : x.Fits) (hspine : x.leftSpine = []) :
    (f.attach op x).Fits := by
  have hjoined : ∀ g : Formula, g.Fits → (∀ power ∈ g.rightSpine, op.binding ≤ power) → (joined op g x).Fits :=
    fun g hg hright => ⟨by simp [hspine], hright, hg, hx⟩
  induction f with
  | atom a => exact hjoined _ hf (by simp [rightSpine])
  | signed sign y ih =>
    unfold attach
    split
    · rename_i hall
      exact hjoined _ hf hall
    · rename_i hbelow
      exact ⟨lt_binding_attach hf.1 hbelow, ih hf.2⟩
  | joined other l r _ ih =>
    unfold attach
    split
    · rename_i hall
      exact hjoined _ hf hall
    · rename_i hbelow
      obtain ⟨hright, hleft, hl, hr⟩ := hf
      exact ⟨lt_binding_attach hright hbelow, hleft, hl, ih hr⟩

end Formula

/-- The formula of an operand alone. -/
def Operand.formula (x : Operand) : Formula := x.signs.foldr .signed (.atom x.atom)

theorem Operand.leftSpine_formula (x : Operand) : x.formula.leftSpine = [] := by
  unfold formula
  cases x.signs <;> rfl

theorem Operand.tokens_formula (x : Operand) : x.formula.tokens = x.tokens := by
  obtain ⟨signs, a⟩ := x
  induction signs with
  | nil => rfl
  | cons sign signs ih => exact congrArg (sign.token :: ·) ih

theorem Operand.fits_formula (x : Operand) : x.formula.Fits := by
  obtain ⟨signs, a⟩ := x
  induction signs with
  | nil => trivial
  | cons sign signs ih =>
    have hspine := leftSpine_formula ⟨signs, a⟩
    exact ⟨fun op hmem => absurd (hspine ▸ hmem) (by simp), ih⟩

/-- The formula of a row. -/
def Row.formula (row : Row) : Formula :=
  row.others.foldl (fun f (op, x) => f.attach op x.formula) row.first.formula

private theorem foldl_attach (f : Formula) (others : List (Infix × Operand)) (hf : f.Fits) :
    (others.foldl (fun f (op, x) => f.attach op x.formula) f).Fits ∧
      (others.foldl (fun f (op, x) => f.attach op x.formula) f).tokens =
        f.tokens ++ others.flatMap fun (op, x) => op.token :: x.tokens := by
  induction others generalizing f with
  | nil => simp [hf]
  | cons other others ih =>
    obtain ⟨op, x⟩ := other
    obtain ⟨hfits, htokens⟩ :=
      ih (f.attach op x.formula) (Formula.fits_attach op hf x.fits_formula x.leftSpine_formula)
    refine ⟨hfits, ?_⟩
    rw [List.foldl_cons, htokens, Formula.tokens_attach, x.tokens_formula]
    simp

theorem Row.fits_formula (row : Row) : row.formula.Fits :=
  (foldl_attach _ row.others row.first.fits_formula).1

theorem Row.tokens_formula (row : Row) : row.formula.tokens = row.tokens := by
  rw [formula, (foldl_attach _ row.others row.first.fits_formula).2, row.first.tokens_formula]
  rfl

end Precedence.Operators
