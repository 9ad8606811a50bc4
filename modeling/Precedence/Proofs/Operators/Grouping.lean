import Precedence.Proofs.Operators.Formula

/-!
# How a parse groups operators

For any table of binding powers a parse reads a row of operators and operands whole, reports nothing, and gives the tree
of the one formula that fits (`expression_row`).

A formula that fits is read as its tree, with any power that is less than the binding powers on its left spine, in
front of any token that binds no more tightly than the powers on its right spine (`Formula.reads`).  Since readings are
unique, two formulas of the same tokens that fit have the same tree, and tokens and tree together determine a formula.
-/

namespace Precedence.Operators

/-! ### Formulas are read -/

namespace Formula

/-- A formula that fits is read, whatever follows it that does not go on with one of its right operands. -/
theorem reads {f : Formula} (hf : f.Fits) {power : Int} {c c' : Context} {v : List Token} {t : Tree}
    (hpower : 0 ≤ power) (hleft : ∀ op ∈ f.leftSpine, power < op.binding) (hrest : c.rest = f.tokens ++ v)
    (hright : ∀ p ∈ f.rightSpine, (v.headD .endOfInput).kind.bindingPower ≤ p)
    (hmore : Reads (.extension power f.tree) (c.drop f.tokens.length) t c') : Reads (.expression power) c t c' := by
  induction f generalizing power c c' v t with
  | atom a => exact .expression_of_rest hpower hrest (.value a.means) hmore
  | signed sign x ih =>
    have hrest' : (c.drop 1).rest = x.tokens ++ v := Context.drop_rest_of_cons hrest
    have hlength : (signed sign x).tokens.length = 1 + x.tokens.length := by
      simp [tokens]
      omega
    obtain ⟨hweak, hx⟩ := List.forall_mem_cons.mp hright
    -- the operand goes on to the end of the formula, where the next token is too weak for it
    have hinner : Reads (.expression sign.power) (c.drop 1) x.tree ((c.drop 1).drop x.tokens.length) :=
      ih hf.2 sign.nonneg hf.1 hrest' hx (.stop_of_rest (Context.drop_rest_of_append hrest') hweak)
    rw [hlength, ← Context.drop_drop] at hmore
    exact .expression_of_rest hpower hrest (.labelled sign.means hinner) hmore
  | joined op l r ihl ihr =>
    obtain ⟨hrightSpine, hleftSpine, hl, hr⟩ := hf
    obtain ⟨htight, hleft⟩ := List.forall_mem_cons.mp hleft
    obtain ⟨hweak, hright⟩ := List.forall_mem_cons.mp hright
    have hrest' : c.rest = l.tokens ++ op.token :: (r.tokens ++ v) := by simpa [tokens] using hrest
    have hcons : (c.drop l.tokens.length).rest = op.token :: (r.tokens ++ v) := Context.drop_rest_of_append hrest'
    have hrest'' : ((c.drop l.tokens.length).drop 1).rest = r.tokens ++ v := Context.drop_rest_of_cons hcons
    have hlength : (joined op l r).tokens.length = l.tokens.length + 1 + r.tokens.length := by
      simp [tokens]
      omega
    have hinner : Reads (.expression op.power) ((c.drop l.tokens.length).drop 1) r.tree
        (((c.drop l.tokens.length).drop 1).drop r.tokens.length) :=
      ihr hr op.nonneg hrightSpine hrest'' hright (.stop_of_rest (Context.drop_rest_of_append hrest'') hweak)
    rw [hlength, ← Context.drop_drop, ← Context.drop_drop] at hmore
    -- the left operand is read with the same power, and the loop goes on with the operator behind it
    exact ihl hl hpower hleft hrest' hleftSpine (.extend_of_rest hcons htight (.binary op.means hinner) hmore)

theorem one_le_binding (f : Formula) : ∀ op ∈ f.leftSpine, 0 < op.binding :=
  fun op _ => op.binds

end Formula

private theorem reads_initial {f : Formula} (hf : f.Fits) :
    Reads (.expression 0) (.initial f.tokens) f.tree ((Context.initial f.tokens).drop f.tokens.length) := by
  have hnonneg : ∀ p ∈ f.rightSpine, (0 : Int) ≤ p := by
    clear hf
    induction f with
    | atom a => simp [Formula.rightSpine]
    | signed sign x ih => exact List.forall_mem_cons.mpr ⟨sign.nonneg, ih⟩
    | joined op l r _ ih => exact List.forall_mem_cons.mpr ⟨op.nonneg, ih⟩
  refine Formula.reads hf (v := [.endOfInput]) (by decide) f.one_le_binding rfl hnonneg ?_
  exact .stop_of_rest (v := [.endOfInput]) (by simp [Context.initial]) (by decide)

/-! ### There is one formula -/

theorem Atom.eq_of_token {a b : Atom} (h : a.token = b.token) : a = b := by
  cases a
  cases b
  cases h
  rfl

theorem Sign.eq_of_token {a b : Sign} (h : a.token = b.token) : a = b := by
  obtain ⟨token, label, power, means, _⟩ := a
  obtain ⟨token', label', power', means', _⟩ := b
  cases h
  cases means.symm.trans means'
  rfl

theorem Infix.eq_of_token {a b : Infix} (h : a.token = b.token) : a = b := by
  obtain ⟨token, label, power, means, _, _⟩ := a
  obtain ⟨token', label', power', means', _, _⟩ := b
  cases h
  cases means.symm.trans means'
  rfl

/-- A formula is determined by its tokens and the shape of its tree. -/
theorem Formula.eq_of_tree {f g : Formula} {v w : List Token} (htree : f.tree = g.tree)
    (htokens : f.tokens ++ v = g.tokens ++ w) : f = g ∧ v = w := by
  induction f generalizing g v w with
  | atom a =>
    cases g with
    | atom b =>
      obtain ⟨htoken, hvw⟩ := List.cons.inj htokens
      exact ⟨congrArg atom (Atom.eq_of_token htoken), hvw⟩
    | signed | joined => cases htree
  | signed sign x ih =>
    cases g with
    | signed sign' y =>
      obtain ⟨htoken, hrest⟩ := List.cons.inj htokens
      simp only [tree, Tree.node.injEq, List.cons.injEq, Tree.atom.injEq, and_true] at htree
      obtain ⟨rfl, rfl⟩ := ih htree.2 hrest
      rw [Sign.eq_of_token htoken]
      exact ⟨rfl, rfl⟩
    | atom => cases htree
    | joined => simp [tree] at htree
  | joined op l r ihl ihr =>
    cases g with
    | joined op' l' r' =>
      simp only [tree, Tree.node.injEq, List.cons.injEq, Tree.atom.injEq, and_true] at htree
      simp only [tokens, List.append_assoc, List.cons_append] at htokens
      obtain ⟨rfl, hrest⟩ := ihl htree.2.1 htokens
      obtain ⟨htoken, hrest⟩ := List.cons.inj hrest
      obtain ⟨rfl, rfl⟩ := ihr htree.2.2 hrest
      rw [Infix.eq_of_token htoken]
      exact ⟨rfl, rfl⟩
    | atom => cases htree
    | signed => simp [tree] at htree

/-- Two groupings of the same tokens that fit are the same. -/
theorem Formula.eq_of_tokens {f g : Formula} (hf : f.Fits) (hg : g.Fits) (htokens : f.tokens = g.tokens) : f = g := by
  have hreads := reads_initial hg
  rw [← htokens] at hreads
  have htree := ((reads_initial hf).unique hreads).1
  exact (eq_of_tree (v := []) (w := []) htree (by rw [htokens])).1

/-! ### Rows are parsed -/

/-- A row is read whole, with nothing to report, as the one grouping of its tokens that fits, unless the nesting is too
deep, which it is not from some depth on. -/
theorem expression_row (row : Row) :
    ∃ f : Formula, f.tokens = row.tokens ∧ f.Fits ∧ (∀ g : Formula, g.tokens = row.tokens → g.Fits → g = f) ∧
      (∀ depth, (Parse.expression depth 0).run { rest := row.tokens ++ [.endOfInput] } =
          .ok f.tree { rest := [.endOfInput], consumed := row.tokens.length, diagnostics := [] } ∨
        ∃ context, (Parse.expression depth 0).run { rest := row.tokens ++ [.endOfInput] } = .error ⟨⟩ context) ∧
      ∃ bound, ∀ depth, bound ≤ depth →
        (Parse.expression depth 0).run { rest := row.tokens ++ [.endOfInput] } =
          .ok f.tree { rest := [.endOfInput], consumed := row.tokens.length, diagnostics := [] } := by
  have hsettles := ((reads_initial row.fits_formula).settles trivial).expression
  rw [row.tokens_formula] at hsettles
  have hend : (Context.initial row.tokens).drop row.tokens.length =
      { rest := [.endOfInput], consumed := row.tokens.length, diagnostics := [] } := by
    simp [Context.initial, Context.drop]
  rw [hend] at hsettles
  refine ⟨row.formula, row.tokens_formula, row.fits_formula, ?_, hsettles.ok_or_error, hsettles.eventually⟩
  intro g htokens hg
  exact Formula.eq_of_tokens hg row.fits_formula (htokens.trans row.tokens_formula.symm)

/-! ### A table with powers

Differences group to the left, since they take their right operand with their own binding power; powers take it with
less and group to the right.  A sign binds less tightly than a power and more tightly than a difference.
-/

/-- A sign, and the operator of a difference. -/
def minus : Kind :=
  { Kind.ofKey "minus" with name := "-", bindingPower := 50, null := .labelled "neg" 60, left := .operation }

/-- The operator of a power. -/
def raise : Kind := { Kind.ofKey "raise" with name := "^", bindingPower := 70, left := .binary "^" 69 }

def number (value : String) : Atom := ⟨⟨{ Kind.ofKey "number" with null := .value }, value⟩, rfl⟩

def negation : Sign := ⟨⟨minus, "-"⟩, "neg", 60, rfl, by decide⟩

def difference : Infix := ⟨⟨minus, "-"⟩, "-", 50, rfl, by decide, by decide⟩

def raising : Infix := ⟨⟨raise, "^"⟩, "^", 69, rfl, by decide, by decide⟩

/-- The row `-2 ^ 3 ^ 4 - 5 - 6`. -/
def mixedRow : Row where
  first := ⟨[negation], number "2"⟩
  others := [(raising, ⟨[], number "3"⟩), (raising, ⟨[], number "4"⟩), (difference, ⟨[], number "5"⟩),
    (difference, ⟨[], number "6"⟩)]

/-- The grouping `((-(2 ^ (3 ^ 4))) - 5) - 6`. -/
def mixedFormula : Formula :=
  let powers := Formula.joined raising (.atom (number "2")) (.joined raising (.atom (number "3")) (.atom (number "4")))
  .joined difference (.joined difference (.signed negation powers) (.atom (number "5"))) (.atom (number "6"))

theorem expression_row_mixed :
    mixedFormula.tokens = mixedRow.tokens ∧ mixedFormula.Fits ∧
      ∃ bound, ∀ depth, bound ≤ depth →
        (Parse.expression depth 0).run { rest := mixedRow.tokens ++ [.endOfInput] } =
          .ok mixedFormula.tree { rest := [.endOfInput], consumed := mixedRow.tokens.length, diagnostics := [] } := by
  have hfits : mixedFormula.Fits := by decide
  obtain ⟨f, -, -, hunique, -, hparses⟩ := expression_row mixedRow
  obtain rfl : mixedFormula = f := hunique mixedFormula rfl hfits
  exact ⟨rfl, hfits, hparses⟩

end Precedence.Operators
