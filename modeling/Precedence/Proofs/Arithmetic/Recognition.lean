import Precedence.Proofs.Arithmetic.Phrase
import Precedence.Proofs.Parse.Reading
import Precedence.Proofs.Parse.Result

/-!
# Recognizing arithmetic

The parser accepts the phrases of the grammar and gives their trees.

* (complete) A phrase in front of a token that cannot go on with it is read as its tree (`Phrase.reads`).  By induction
  on the phrase, for every way to go on after it: the rules of the grammar begin with a phrase of the same category,
  while the loop over operators ends with one.
* (sound) What is read with a power is a phrase of the category of that power (`accounts_of_reads`).  The invariant of
  the loop is a level: the operand so far is a phrase of the category just below it, and the next token does not bind
  more tightly than it.
-/

namespace Precedence.Arithmetic

/-! ### Completeness -/

namespace Category

/-- A bound on the powers that a phrase of the category is read with. -/
def strength : Category → Int
  | statements | sequence => 10
  | assignment => 20
  | sum => 50
  | term => 60
  | unary | call | primary => 80

/-- The token cannot go on with a phrase of the category. -/
def EndsBefore (next : Token) : Category → Prop
  | statements => (next.isEnd || next.is Kind.closeParen.delimiter) ∧ next.kind.bindingPower ≤ 0
  | sequence => next.kind.bindingPower ≤ 10
  | assignment => next.kind.bindingPower ≤ 20
  | sum => next.kind.bindingPower ≤ 50
  | term => next.kind.bindingPower ≤ 60
  | unary => next.kind.bindingPower ≤ 70
  | call | primary => True

theorem EndsBefore.of_looser {next : Token} {category : Category} (h : category.looser.EndsBefore next) :
    category.EndsBefore next := by
  cases category <;> simp only [looser, EndsBefore] at h ⊢ <;> omega

theorem strength_looser_le (category : Category) : category.looser.strength ≤ category.strength := by
  cases category <;> decide

end Category

theorem infixOperator?_kind (op : Operator) :
    op.kind.infixOperator? = some (op.symbol, op.kind.bindingPower) := by
  cases op <;> rfl

theorem is_closeParen {token : Token} (h : token.kind = .closeParen) : token.is Kind.closeParen.delimiter := by
  rw [Token.is, h]
  decide

/-- Phrases of the category are read, whatever follows them that cannot go on with them. -/
private def Readable (category : Category) (u : List Token) (t : Tree) : Prop :=
  ∀ ⦃power : Int⦄ ⦃c c' : Context⦄ ⦃v : List Token⦄ ⦃t' : Tree⦄, 0 ≤ power → power < category.strength →
    c.rest = u ++ v → category.EndsBefore (v.headD .endOfInput) →
      Reads (.extension power t) (c.drop u.length) t' c' → Reads (.expression power) c t' c'

/-- A phrase is read alone if the next token does not bind tightly enough. -/
private theorem Readable.alone {category : Category} {u v : List Token} {t : Tree} {power : Int} {c : Context}
    (h : Readable category u t) (hpower : 0 ≤ power) (hstrength : power < category.strength) (hrest : c.rest = u ++ v)
    (hends : category.EndsBefore (v.headD .endOfInput)) (hweak : (v.headD .endOfInput).kind.bindingPower ≤ power) :
    Reads (.expression power) c t (c.drop u.length) :=
  h hpower hstrength hrest hends (.stop_of_rest (Context.drop_rest_of_append hrest) hweak)

/-- A phrase of one token that stands for itself. -/
private theorem readable_value {token : Token} (h : token.kind.null = .value) :
    Readable .primary [token] (.atom token.value) :=
  fun _ _ _ _ _ hpower _ hrest _ hmore => .expression_of_rest hpower hrest (.value h) hmore

/-- An expression between parentheses, from behind the opening one. -/
private theorem Readable.enclosed {closing : Token} {u v : List Token} {t : Tree} {c : Context}
    (h : Readable .statements u t) (hclose : closing.kind = .closeParen) (hrest : c.rest = u ++ closing :: v) :
    Reads (.expression 0) c t (c.drop u.length) ∧
      (c.drop u.length).lookahead.is Kind.closeParen.delimiter := by
  have hpower : closing.kind.bindingPower ≤ 0 := by
    rw [hclose]
    decide
  constructor
  · refine h.alone (by omega) (by decide) hrest ⟨?_, hpower⟩ hpower
    simp [is_closeParen hclose]
  · have hnext : (c.drop u.length).rest = closing :: v := Context.drop_rest_of_append hrest
    rw [Context.lookahead_of_rest hnext]
    exact is_closeParen hclose

private theorem readable_group {opening closing : Token} {u : List Token} {t : Tree} (hopen : opening.kind = .openParen)
    (h : Readable .statements u t) (hclose : closing.kind = .closeParen) :
    Readable .primary (opening :: (u ++ [closing])) t := by
  intro power c c' v t' hpower _ hrest _ hmore
  have hrest' : c.rest = opening :: (u ++ closing :: v) := by simpa using hrest
  obtain ⟨hreads, hclosed⟩ := h.enclosed (c := c.drop 1) (v := v) hclose (Context.drop_rest_of_cons hrest')
  have hlength : (opening :: (u ++ [closing])).length = 1 + u.length + 1 := by
    simp
    omega
  rw [hlength, ← Context.drop_drop, ← Context.drop_drop, ← Context.skip_eq_drop] at hmore
  exact .expression_of_rest hpower hrest' (.group (by rw [hopen]; rfl) hreads hclosed) hmore

private theorem readable_call {opening closing : Token} {u v : List Token} {f a : Tree} (hcallee : Readable .call u f)
    (hopen : opening.kind = .openParen) (hargument : Readable .statements v a) (hclose : closing.kind = .closeParen) :
    Readable .call (u ++ opening :: (v ++ [closing])) (.node [f, a]) := by
  intro power c c' w t' hpower hstrength hrest _ hmore
  have hrest' : c.rest = u ++ opening :: (v ++ closing :: w) := by simpa using hrest
  refine hcallee hpower hstrength hrest' trivial ?_
  have hnext : (c.drop u.length).rest = opening :: (v ++ closing :: w) := Context.drop_rest_of_append hrest'
  obtain ⟨hreads, hclosed⟩ :=
    hargument.enclosed (c := (c.drop u.length).drop 1) (v := w) hclose (Context.drop_rest_of_cons hnext)
  have hlength : (u ++ opening :: (v ++ [closing])).length = u.length + 1 + v.length + 1 := by
    simp
    omega
  rw [hlength, ← Context.drop_drop, ← Context.drop_drop, ← Context.drop_drop, ← Context.skip_eq_drop _] at hmore
  exact .extend_of_rest hnext (by rw [hopen]; exact hstrength) (.call (by rw [hopen]; rfl) hreads hclosed) hmore

/-- A sign and its operand. -/
private theorem Readable.signed {sign : Token} {u v : List Token} {t : Tree} {c : Context} (h : Readable .unary u t)
    (hrest : c.rest = sign :: (u ++ v)) (hends : Category.unary.EndsBefore (v.headD .endOfInput)) :
    Reads (.expression Kind.signPower) (c.drop 1) t (c.drop (sign :: u).length) := by
  have hlength : (sign :: u).length = 1 + u.length := by
    simp
    omega
  rw [hlength, ← Context.drop_drop]
  exact h.alone (by decide) (by decide) (Context.drop_rest_of_cons hrest) hends hends

private theorem readable_positive {sign : Token} {u : List Token} {t : Tree} (hkind : sign.kind = .plus)
    (h : Readable .unary u t) : Readable .unary (sign :: u) t := by
  intro power c c' v t' hpower _ hrest hends hmore
  exact .expression_of_rest hpower hrest (.operand (by rw [hkind]; rfl) (h.signed hrest hends)) hmore

private theorem readable_negative {sign : Token} {u : List Token} {t : Tree} (hkind : sign.kind = .minus)
    (h : Readable .unary u t) : Readable .unary (sign :: u) t.negated := by
  intro power c c' v t' hpower _ hrest hends hmore
  exact .expression_of_rest hpower hrest (.negation (by rw [hkind]; rfl) (h.signed hrest hends)) hmore

/-- A token between two operands, once it is known what it means in front of the right one. -/
private theorem readable_infix {outer : Category} {token : Token} {u v : List Token} {l t : Tree}
    (hleft : Readable outer u l) (houter : outer.strength = token.kind.bindingPower) (hends : outer.EndsBefore token)
    (hnext : ∀ ⦃c : Context⦄ ⦃w : List Token⦄, c.rest = v ++ w → outer.EndsBefore (w.headD .endOfInput) →
      Reads (.left token l) c t (c.drop v.length)) :
    Readable outer (u ++ token :: v) t := by
  intro power c c' w t' hpower hstrength hrest hend hmore
  have hrest' : c.rest = u ++ token :: (v ++ w) := by simpa using hrest
  refine hleft hpower hstrength hrest' hends ?_
  have hcons : (c.drop u.length).rest = token :: (v ++ w) := Context.drop_rest_of_append hrest'
  have hlength : (u ++ token :: v).length = u.length + 1 + v.length := by
    simp
    omega
  rw [hlength, ← Context.drop_drop, ← Context.drop_drop] at hmore
  exact .extend_of_rest hcons (by omega) (hnext (Context.drop_rest_of_cons hcons) hend) hmore

/-- An operator between two operands that binds its right operand as it binds the left one. -/
private theorem readable_binary {outer tighter : Category} {label : String} {token : Token} {u v : List Token}
    {l r : Tree} (hleft : Readable outer u l) (hright : Readable tighter v r)
    (hmeans : token.kind.infixOperator? = some (label, token.kind.bindingPower))
    (hpositive : 0 ≤ token.kind.bindingPower) (houter : outer.strength = token.kind.bindingPower)
    (hends : outer.EndsBefore token) (htighter : token.kind.bindingPower < tighter.strength)
    (hfollow : ∀ next, outer.EndsBefore next → tighter.EndsBefore next ∧
      next.kind.bindingPower ≤ token.kind.bindingPower) :
    Readable outer (u ++ token :: v) (.node [.atom label, l, r]) := by
  refine readable_infix hleft houter hends fun c w hrest hend => ?_
  obtain ⟨htight, hweak⟩ := hfollow _ hend
  exact .binary hmeans (hright.alone hpositive htighter hrest htight hweak)

private theorem not_closing_of_phrase {category : Category} {u v : List Token} {t : Tree} {c : Context}
    (h : Phrase category u t) (hrest : c.rest = u ++ v) :
    ¬ (c.lookahead.isEnd || c.lookahead.is Kind.closeParen.delimiter) := by
  obtain ⟨token, rest, rfl, hkind⟩ := h.exists_cons
  rw [Context.lookahead_of_rest hrest]
  have hnone : ∀ kind ∈ [Kind.number, .symbol, .openParen, .plus, .minus],
      ¬ (kind.isEnd || kind.isA Kind.closeParen.delimiter.id) := by decide
  exact hnone _ hkind

private theorem readable_sequence {token : Token} {u v : List Token} {l r : Tree} (hleft : Readable .sequence u l)
    (hkind : token.kind = .sequence) (hphrase : Phrase .assignment v r) (hright : Readable .assignment v r)
    (hr : r.succeeded? = some r) :
    Readable .sequence (u ++ token :: v) (.node (.atom Tree.sequenceLabel :: (l.listed ++ [r]))) := by
  have hpower : token.kind.bindingPower = 10 := by
    rw [hkind]
    rfl
  refine readable_infix hleft hpower.symm (Int.le_of_eq hpower) fun c w hrest hend => ?_
  have hend : (w.headD .endOfInput).kind.bindingPower ≤ 10 := hend
  have hreads : Reads (.expression token.kind.bindingPower) c r (c.drop v.length) :=
    hright.alone (by omega) (by rw [hpower]; decide) hrest
      (show (w.headD .endOfInput).kind.bindingPower ≤ 20 by omega) (by omega)
  have hstatement := Reads.statement (t := l) (by rw [hkind]; rfl) (not_closing_of_phrase hphrase hrest) hreads
  rwa [hr, Tree.followedBy_eq, Option.toList_some] at hstatement

private theorem readable_trailing {token : Token} {u : List Token} {t : Tree} (hleft : Readable .sequence u t)
    (hkind : token.kind = .sequence) :
    Readable .statements (u ++ [token]) (.node (.atom Tree.sequenceLabel :: t.listed)) := by
  intro power c c' w t' hpower hstrength hrest hend hmore
  have hrest' : c.rest = u ++ token :: w := by simpa using hrest
  have hbinding : token.kind.bindingPower = 10 := by
    rw [hkind]
    rfl
  refine hleft hpower hstrength hrest' (Int.le_of_eq hbinding) ?_
  have hcons : (c.drop u.length).rest = token :: w := Context.drop_rest_of_append hrest'
  have hends : ((c.drop u.length).drop 1).lookahead.isEnd ||
      ((c.drop u.length).drop 1).lookahead.is Kind.closeParen.delimiter := by
    rw [Context.lookahead, Context.drop_rest, hcons]
    exact hend.1
  have htrailing : Reads (.left token t) ((c.drop u.length).drop 1) (t.followedBy none) ((c.drop u.length).drop 1) :=
    .trailing (by rw [hkind]; rfl) hends
  rw [Tree.followedBy_eq, Option.toList_none, List.append_nil] at htrailing
  rw [List.length_append, ← Context.drop_drop] at hmore
  exact .extend_of_rest hcons (by rw [hbinding]; exact hstrength) htrailing hmore

/-- No phrase stands for a failed tree. -/
theorem Phrase.succeeded? {category : Category} {u : List Token} {t : Tree} (h : Phrase category u t) :
    t.succeeded? = some t := by
  induction h with
  | group _ _ _ ih | positive _ _ ih | looser _ ih => exact ih
  | negative _ _ ih => exact Tree.succeeded?_negated _
  | _ => rfl

/-- A phrase is read as its tree, whatever follows it that cannot go on with it. -/
private theorem Phrase.readable {category : Category} {u : List Token} {t : Tree} (h : Phrase category u t) :
    Readable category u t := by
  induction h with
  | number kind | symbol kind => exact readable_value (by rw [kind]; rfl)
  | group opens _ closes ih => exact readable_group opens ih closes
  | call _ opens _ closes ihcallee ihargument => exact readable_call ihcallee opens ihargument closes
  | positive kind _ ih => exact readable_positive kind ih
  | negative kind _ ih => exact readable_negative kind ih
  | @term op token u v l r isFactor _ kind _ ihleft ihright =>
    have hpower : token.kind.bindingPower = 60 := by
      rw [kind]
      rcases isFactor with rfl | rfl <;> rfl
    refine readable_binary ihleft ihright (by rw [kind]; exact infixOperator?_kind op) (by omega) hpower.symm
      (Int.le_of_eq hpower) (by rw [hpower]; decide) ?_
    -- what cannot go on with a term cannot go on with its last operand either
    intro next hnext
    exact ⟨Int.le_trans hnext (by decide), by rw [hpower]; exact hnext⟩
  | @sum op token u v l r isSummand _ kind _ ihleft ihright =>
    have hpower : token.kind.bindingPower = 50 := by
      rw [kind]
      rcases isSummand with rfl | rfl <;> rfl
    refine readable_binary ihleft ihright (by rw [kind]; exact infixOperator?_kind op) (by omega) hpower.symm
      (Int.le_of_eq hpower) (by rw [hpower]; decide) ?_
    intro next hnext
    exact ⟨Int.le_trans hnext (by decide), by rw [hpower]; exact hnext⟩
  | @assignment token u v l r _ kind _ ihleft ihright =>
    have hpower : token.kind.bindingPower = 20 := by
      rw [kind]
      rfl
    refine readable_binary ihleft ihright (by rw [kind]; rfl) (by omega) hpower.symm (Int.le_of_eq hpower)
      (by rw [hpower]; decide) ?_
    intro next hnext
    exact ⟨Int.le_trans hnext (by decide), by rw [hpower]; exact hnext⟩
  | sequence _ kind right ihleft ihright => exact readable_sequence ihleft kind right ihright right.succeeded?
  | trailing _ kind ih => exact readable_trailing ih kind
  | @looser category u t _ ih =>
    intro power c c' v t' hpower hstrength hrest hend hmore
    exact ih hpower (Int.lt_of_lt_of_le hstrength category.strength_looser_le) hrest hend.of_looser hmore

/-- Statements up to the end or to a closing parenthesis are read as their tree. -/
theorem Phrase.reads {u v : List Token} {t : Tree} {c : Context} (h : Phrase .statements u t)
    (hrest : c.rest = u ++ v) (hends : Category.statements.EndsBefore (v.headD .endOfInput)) :
    Reads (.expression 0) c t (c.drop u.length) :=
  Readable.alone h.readable (by decide) (by decide) hrest hends hends.2

/-! ### Soundness -/

/-- The category of what is read with a power. -/
def Category.ofPower (power : Int) : Category :=
  if power < 1 then statements
  else if power < 10 then sequence
  else if power < 20 then assignment
  else if power < 50 then sum
  else if power < 60 then term
  else if power ≤ 70 then unary
  else call

theorem Category.rank_ofPower_le {p q : Int} (h : p ≤ q) : (ofPower p).rank ≤ (ofPower q).rank := by
  unfold ofPower
  repeat' split
  all_goals first | omega | decide

/-- The powers that expressions are read with. -/
def powers : List Int := [0, 10, 20, 50, 60, 70]

/-- The kinds of the tokens of a text. -/
def kinds : List Kind := .endOfInput :: Kind.arithmetic

theorem bindingPower_le {kind : Kind} (h : kind ∈ kinds) : kind.bindingPower ≤ 80 := by
  have hall : ∀ kind ∈ kinds, kind.bindingPower ≤ 80 := by decide
  exact hall kind h

/-- What the kinds mean at the start of an expression. -/
theorem null_cases {kind : Kind} (h : kind ∈ kinds) :
    kind.null = .unexpected ∨ ((kind = .number ∨ kind = .symbol) ∧ kind.null = .value) ∨
      (kind = .plus ∧ kind.null = .operand 70) ∨ (kind = .minus ∧ kind.null = .negation 70) ∨
      (kind = .openParen ∧
        kind.null = .group Kind.closeParen.delimiter "to close the group opened by '('") := by
  revert kind
  decide

/-- What the kinds mean after an expression. -/
theorem left_cases {kind : Kind} (h : kind ∈ kinds) :
    kind.left = .unexpected ∨ kind.left = .operation ∨ kind.left = .assignment ∨
      (kind = .sequence ∧ kind.left = .sequence Kind.closeParen.delimiter) ∨
      (kind = .openParen ∧
        kind.left = .call Kind.closeParen.delimiter "to close the argument opened by '('") := by
  revert kind
  decide

private theorem infixOperator?_cases {kind : Kind} (h : kind ∈ kinds) :
    kind.infixOperator? = none ∨
      (∃ op ∈ [Operator.add, .sub, .mul, .div], kind = op.kind ∧
        kind.infixOperator? = some (op.symbol, op.kind.bindingPower)) ∨
      (kind = .assign ∧ kind.infixOperator? = some (Tree.assignLabel, 20)) := by
  revert kind
  decide

theorem kind_of_value {kind : Kind} (h : kind ∈ kinds) (hnull : kind.null = .value) :
    kind = .number ∨ kind = .symbol := by
  simpa [hnull] using null_cases h

theorem kind_of_operand {kind : Kind} {power : Int} (h : kind ∈ kinds) (hnull : kind.null = .operand power) :
    kind = .plus ∧ power = 70 := by
  simpa [hnull] using null_cases h

theorem kind_of_negation {kind : Kind} {power : Int} (h : kind ∈ kinds) (hnull : kind.null = .negation power) :
    kind = .minus ∧ power = 70 := by
  simpa [hnull] using null_cases h

theorem null_ne_labelled {kind : Kind} {label : String} {power : Int} (h : kind ∈ kinds) :
    kind.null ≠ .labelled label power := by
  intro hnull
  simpa [hnull] using null_cases h

theorem kind_of_group {kind : Kind} {close : Delimiter} {note : String} (h : kind ∈ kinds)
    (hnull : kind.null = .group close note) : kind = .openParen ∧ close = Kind.closeParen.delimiter := by
  have := null_cases h
  simp only [hnull, reduceCtorEq, and_false, false_or, NullDenotation.group.injEq] at this
  exact ⟨this.1, this.2.1⟩

theorem kind_of_call {kind : Kind} {close : Delimiter} {note : String} (h : kind ∈ kinds)
    (hleft : kind.left = .call close note) : kind = .openParen ∧ close = Kind.closeParen.delimiter := by
  have := left_cases h
  simp only [hleft, reduceCtorEq, and_false, false_or, LeftDenotation.call.injEq] at this
  exact ⟨this.1, this.2.1⟩

theorem kind_of_sequence {kind : Kind} {close : Delimiter} (h : kind ∈ kinds)
    (hleft : kind.left = .sequence close) : kind = .sequence ∧ close = Kind.closeParen.delimiter := by
  simpa [hleft] using left_cases h

theorem kind_of_infixOperator? {kind : Kind} {label : String} {power : Int} (h : kind ∈ kinds)
    (hmeans : kind.infixOperator? = some (label, power)) :
    (∃ op : Operator, kind = op.kind ∧ label = op.symbol ∧ power = op.kind.bindingPower) ∨
      (kind = .assign ∧ label = Tree.assignLabel ∧ power = 20) := by
  rcases infixOperator?_cases h with hnone | ⟨op, -, hkind, hsome⟩ | ⟨hkind, hsome⟩
  · rw [hmeans] at hnone
    cases hnone
  · rw [hmeans] at hsome
    cases hsome
    exact .inl ⟨op, hkind, rfl, rfl⟩
  · rw [hmeans] at hsome
    cases hsome
    exact .inr ⟨hkind, rfl, rfl⟩

/-- All tokens that are left are of the kinds of a text. -/
def Tokenized (c : Context) : Prop := ∀ token ∈ c.rest, token.kind ∈ kinds

theorem Tokenized.lookahead {c : Context} (h : Tokenized c) : c.lookahead.kind ∈ kinds :=
  Context.lookahead_of_forall h List.mem_cons_self

theorem Tokenized.skip {c : Context} (h : Tokenized c) : Tokenized c.skip :=
  fun token hmem => h token (List.mem_of_mem_tail hmem)

theorem Tokenized.of_append {c c' : Context} {u : List Token} (h : Tokenized c) (hrest : c.rest = u ++ c'.rest) :
    Tokenized c' :=
  fun token hmem => h token (by simp [hrest, hmem])

/-- A closing parenthesis that comes next is a token that is left. -/
private theorem Tokenized.rest_of_is_closeParen {c : Context} (h : Tokenized c)
    (his : c.lookahead.is Kind.closeParen.delimiter) :
    ∃ closing, closing.kind = .closeParen ∧ c.rest = closing :: c.skip.rest := by
  have hall : ∀ kind ∈ kinds, kind.isA Kind.closeParen.delimiter.id → kind = .closeParen := by decide
  have hkind := hall _ h.lookahead his
  rcases hrest : c.rest with _ | ⟨token, rest⟩
  · rw [Context.lookahead_of_nil hrest] at hkind
    exact absurd hkind (by decide)
  · rw [Context.lookahead_of_rest hrest] at hkind
    exact ⟨token, hkind, by simp [hrest]⟩

/-- What is true of a part that has been read: its tokens are a phrase, together with those of the operand before it. -/
private def Accounts : Part → Context → Tree → Context → Prop
  | .expression power, c, t, c' => power ∈ powers →
    ∃ u, c.rest = u ++ c'.rest ∧ Phrase (.ofPower power) u t ∧ c'.lookahead.kind.bindingPower ≤ power
  | .null token, c, t, c' => token.kind ∈ kinds →
    ∃ u level, c.rest = u ++ c'.rest ∧ Phrase (.ofPower (level - 1)) (token :: u) t ∧
      c'.lookahead.kind.bindingPower ≤ level ∧ 70 < level
  | .left token operand, c, t, c' => token.kind ∈ kinds →
    ∀ v, Phrase (.ofPower (token.kind.bindingPower - 1)) v operand →
    ∃ u level, c.rest = u ++ c'.rest ∧ Phrase (.ofPower (level - 1)) (v ++ token :: u) t ∧
      c'.lookahead.kind.bindingPower ≤ level ∧ ∀ power ∈ powers, power < token.kind.bindingPower → power < level
  | .extension power operand, c, t, c' => power ∈ powers →
    ∀ v level, Phrase (.ofPower (level - 1)) v operand → power < level → c.lookahead.kind.bindingPower ≤ level →
    ∃ u, c.rest = u ++ c'.rest ∧ Phrase (.ofPower power) (v ++ u) t ∧ c'.lookahead.kind.bindingPower ≤ power

private theorem rest_eq_cons {c : Context} (h : c.rest ≠ []) : c.rest = c.lookahead :: c.skip.rest := by
  rcases hrest : c.rest with _ | ⟨token, rest⟩
  · exact absurd hrest h
  · rw [Context.lookahead_of_rest hrest, Context.skip_rest, hrest, List.tail_cons]

/-- The level behind a token is its binding power. -/
private theorem lt_bindingPower {token : Token} {kind : Kind} (h : token.kind = kind) :
    ∀ power ∈ powers, power < token.kind.bindingPower → power < kind.bindingPower := by
  rw [h]
  exact fun power _ hlt => hlt

private theorem accounts_expression {power : Int} {c c' c'' : Context} {t u : Tree} (hc : Tokenized c)
    (hne : c.rest ≠ []) (hfirst : Accounts (.null c.lookahead) c.skip t c')
    (hmore : Tokenized c' → Accounts (.extension power t) c' u c'') : Accounts (.expression power) c u c'' := by
  intro hpower
  -- signs take the tightest operands, so that the loop starts above each of the powers
  have hle : ∀ power ∈ powers, power ≤ 70 := by decide
  obtain ⟨v, level, hv, hphrase, hweak, hlevel⟩ := hfirst hc.lookahead
  have hlt : power < level := Int.lt_of_le_of_lt (hle power hpower) hlevel
  obtain ⟨w, hw, hall, hend⟩ := hmore (hc.skip.of_append hv) hpower _ level hphrase hlt hweak
  refine ⟨c.lookahead :: v ++ w, ?_, hall, hend⟩
  rw [rest_eq_cons hne, hv, hw]
  simp

private theorem accounts_extend {power : Int} {c c' c'' : Context} {operand t u : Tree} (hc : Tokenized c)
    (htight : power < c.lookahead.kind.bindingPower) (hnext : Accounts (.left c.lookahead operand) c.skip t c')
    (hmore : Tokenized c' → Accounts (.extension power t) c' u c'') :
    Accounts (.extension power operand) c u c'' := by
  intro hpower v level hphrase _ hweak
  have hnonneg : ∀ power ∈ powers, 0 ≤ power := by decide
  have hne : c.rest ≠ [] := List.length_pos_iff.mp (Parse.rest_length_pos (hnonneg power hpower) htight)
  -- the token binds at most at the level, so the operand is tight enough for it
  have hleft : Phrase (.ofPower (c.lookahead.kind.bindingPower - 1)) v operand :=
    hphrase.loosen (Category.rank_ofPower_le (by omega))
  obtain ⟨x, level', hx, hphrase', hweak', hlevel'⟩ := hnext hc.lookahead v hleft
  obtain ⟨w, hw, hall, hend⟩ :=
    hmore (hc.skip.of_append hx) hpower _ level' hphrase' (hlevel' power hpower htight) hweak'
  refine ⟨c.lookahead :: x ++ w, ?_, ?_, hend⟩
  · rw [rest_eq_cons hne, hx, hw]
    simp
  · simpa using hall

private theorem accounts_group {token : Token} {close : Delimiter} {note : String} {c c' : Context} {t : Tree}
    (hc : Tokenized c) (hmeans : token.kind.null = .group close note) (hinner : Accounts (.expression 0) c t c')
    (hclosed : c'.lookahead.is close) : Accounts (.null token) c t c'.skip := by
  intro hkind
  obtain ⟨hopen, rfl⟩ := kind_of_group hkind hmeans
  obtain ⟨u, hu, hphrase, -⟩ := hinner (by decide)
  obtain ⟨closing, hclose, hrest⟩ := (hc.of_append hu).rest_of_is_closeParen hclosed
  refine ⟨u ++ [closing], 80, ?_, (Phrase.group hopen hphrase hclose).looser, ?_, by decide⟩
  · rw [hu, hrest]
    simp
  · exact bindingPower_le (hc.of_append hu).skip.lookahead

private theorem accounts_call {token : Token} {close : Delimiter} {note : String} {c c' : Context} {operand t : Tree}
    (hc : Tokenized c) (hmeans : token.kind.left = .call close note) (hinner : Accounts (.expression 0) c t c')
    (hclosed : c'.lookahead.is close) : Accounts (.left token operand) c (.node [operand, t]) c'.skip := by
  intro hkind v hcallee
  obtain ⟨hopen, rfl⟩ := kind_of_call hkind hmeans
  obtain ⟨u, hu, hphrase, -⟩ := hinner (by decide)
  obtain ⟨closing, hclose, hrest⟩ := (hc.of_append hu).rest_of_is_closeParen hclosed
  rw [hopen] at hcallee
  refine ⟨u ++ [closing], 80, ?_, .call hcallee hopen hphrase hclose, ?_, lt_bindingPower hopen⟩
  · rw [hu, hrest]
    simp
  · exact bindingPower_le (hc.of_append hu).skip.lookahead

private theorem accounts_binary {token : Token} {label : String} {power : Int} {c c' : Context} {operand t : Tree}
    (hmeans : token.kind.infixOperator? = some (label, power)) (hinner : Accounts (.expression power) c t c') :
    Accounts (.left token operand) c (.node [.atom label, operand, t]) c' := by
  intro hkind v hleft
  rcases kind_of_infixOperator? hkind hmeans with ⟨op, htoken, rfl, rfl⟩ | ⟨htoken, rfl, rfl⟩
  · rw [htoken] at hleft
    cases op with
    | add | sub =>
      obtain ⟨u, hu, hphrase, hweak⟩ := hinner (by decide)
      exact ⟨u, 50, hu, .sum (by decide) hleft htoken hphrase, hweak, lt_bindingPower htoken⟩
    | mul | div =>
      obtain ⟨u, hu, hphrase, hweak⟩ := hinner (by decide)
      exact ⟨u, 60, hu, .term (by decide) hleft htoken hphrase, hweak, lt_bindingPower htoken⟩
  · rw [htoken] at hleft
    obtain ⟨u, hu, hphrase, hweak⟩ := hinner (by decide)
    exact ⟨u, 20, hu, .assignment hleft htoken hphrase, hweak, lt_bindingPower htoken⟩

private theorem accounts_trailing {token : Token} {close : Delimiter} {c : Context} {operand : Tree} (hc : Tokenized c)
    (hmeans : token.kind.left = .sequence close) (hends : c.lookahead.isEnd || c.lookahead.is close) :
    Accounts (.left token operand) c (operand.followedBy none) c := by
  intro hkind v hleft
  obtain ⟨htoken, rfl⟩ := kind_of_sequence hkind hmeans
  have hall : ∀ kind ∈ kinds, (kind.isEnd || kind.isA Kind.closeParen.delimiter.id) → kind.bindingPower ≤ 1 := by
    decide
  rw [htoken] at hleft
  rw [Tree.followedBy_eq, Option.toList_none, List.append_nil]
  -- behind a separator at the end there is nothing that binds
  refine ⟨[], 1, by simp, .trailing hleft htoken, hall _ hc.lookahead hends, ?_⟩
  rw [htoken]
  decide

private theorem accounts_statement {token : Token} {close : Delimiter} {c c' : Context} {operand t : Tree}
    (hmeans : token.kind.left = .sequence close)
    (hinner : Accounts (.expression token.kind.bindingPower) c t c') :
    Accounts (.left token operand) c (operand.followedBy t.succeeded?) c' := by
  intro hkind v hleft
  obtain ⟨htoken, rfl⟩ := kind_of_sequence hkind hmeans
  rw [htoken] at hleft hinner
  obtain ⟨u, hu, hphrase, hweak⟩ := hinner (by decide)
  rw [hphrase.succeeded?, Tree.followedBy_eq]
  exact ⟨u, 10, hu, .sequence hleft htoken hphrase, hweak, lt_bindingPower htoken⟩

/-- What has been read is a phrase. -/
private theorem accounts_of_reads {part : Part} {c c' : Context} {t : Tree} (h : Reads part c t c') (hc : Tokenized c) :
    Accounts part c t c' := by
  induction h with
  | expression nonneg first more ihfirst ihmore =>
    exact accounts_expression hc (Reads.expression nonneg first more).rest_ne_nil (ihfirst hc.skip) ihmore
  | stop weak =>
    intro hpower v level hphrase hlt _
    exact ⟨[], rfl, by simpa using hphrase.loosen (Category.rank_ofPower_le (by omega)), weak⟩
  | extend tight _ _ ihnext ihmore => exact accounts_extend hc tight (ihnext hc.skip) ihmore
  | @value token c means =>
    intro hkind
    refine ⟨[], 80, rfl, ?_, bindingPower_le hc.lookahead, by decide⟩
    rcases kind_of_value hkind means with hnumber | hsymbol
    · exact (Phrase.number hnumber).looser
    · exact (Phrase.symbol hsymbol).looser
  | operand means _ ih =>
    intro hkind
    obtain ⟨hplus, rfl⟩ := kind_of_operand hkind means
    obtain ⟨u, hu, hphrase, hweak⟩ := ih hc (by decide)
    exact ⟨u, 71, hu, .positive hplus hphrase, by omega, by decide⟩
  | negation means _ ih =>
    intro hkind
    obtain ⟨hminus, rfl⟩ := kind_of_negation hkind means
    obtain ⟨u, hu, hphrase, hweak⟩ := ih hc (by decide)
    exact ⟨u, 71, hu, .negative hminus hphrase, by omega, by decide⟩
  | labelled means => exact fun hkind => absurd means (null_ne_labelled hkind)
  | group means _ closed ih => exact accounts_group hc means (ih hc) closed
  | binary means _ ih => exact accounts_binary means (ih hc)
  | trailing means ends => exact accounts_trailing hc means ends
  | statement means _ _ ih => exact accounts_statement means (ih hc)
  | call means _ closed ih => exact accounts_call hc means (ih hc) closed

/-! ### Whole texts -/

theorem tokenized_initial {tokens : List Token} (h : ∀ token ∈ tokens, token.kind ∈ Kind.arithmetic) :
    Tokenized (Context.initial tokens) := by
  intro token hmem
  rcases List.mem_append.mp hmem with hmem | hmem
  · exact List.mem_cons_of_mem _ (h token hmem)
  · rw [List.mem_singleton.mp hmem]
    exact List.mem_cons_self

private theorem regular_initial {tokens : List Token} (h : ∀ token ∈ tokens, token.kind ∈ Kind.arithmetic) :
    (Context.initial tokens).Regular := by
  intro token hmem
  have hkind := tokenized_initial h token hmem
  constructor
  · rcases null_cases hkind with h | ⟨-, h⟩ | ⟨-, h⟩ | ⟨-, h⟩ | ⟨-, h⟩ <;> simp [h, NullDenotation.Regular]
  · have hnonneg : ∀ kind ∈ kinds, 0 ≤ kind.bindingPower := by decide
    rcases left_cases hkind with h | h | h | ⟨-, h⟩ | ⟨-, h⟩ <;>
      simp [h, LeftDenotation.Regular, hnonneg _ hkind]

/-- Statements that are the whole text are accepted, with nothing to report. -/
theorem Phrase.settles_wholeExpression {tokens : List Token} {t : Tree} (h : Phrase .statements tokens t) :
    Parse.Settles Parse.wholeExpression (Context.initial tokens) t ((Context.initial tokens).drop tokens.length) := by
  have hreads := h.reads (c := Context.initial tokens) (v := [.endOfInput]) rfl ⟨by decide, by decide⟩
  refine (hreads.settles trivial).expression.bind ?_
  refine (Parse.Settles.pure t _).congr fun depth => ?_
  have hend : ((Context.initial tokens).drop tokens.length).atEnd := by
    simp [Context.atEnd, Context.lookahead, Context.initial]
    decide
  show (if !((Context.initial tokens).drop tokens.length).atEnd then _ else _ : Parse Tree) _ = _
  rw [hend]
  rfl

/-- Tokens that are accepted with nothing to report are statements. -/
theorem phrase_of_wholeExpression {depth : Nat} {tokens : List Token} {value : Tree} {context : Context}
    (htokens : ∀ token ∈ tokens, token.kind ∈ Kind.arithmetic)
    (hrun : Parse.wholeExpression depth (.initial tokens) = .ok value context) (hclean : context.diagnostics = []) :
    Phrase .statements tokens value := by
  obtain ⟨hexpression, hatEnd⟩ := Parse.expression_of_wholeExpression hrun hclean
  have hreads := Parse.reads_of_expression (by decide) (regular_initial htokens) hexpression hclean
  obtain ⟨u, hu, hphrase, -⟩ := accounts_of_reads hreads (tokenized_initial htokens) (by decide)
  have hu : tokens ++ [Token.endOfInput] = u ++ context.rest := hu
  have hphrase : Phrase .statements u value := hphrase
  have hnotEnd : ∀ kind ∈ Kind.arithmetic, ¬ kind.isEnd := by decide
  -- the end is no part of the phrase, and no token of the text is an end
  rcases List.append_eq_append_iff.mp hu with ⟨v, rfl, hv⟩ | ⟨v, rfl, hv⟩
  · rcases v with _ | ⟨token, v⟩
    · simpa using hphrase
    · have htoken : token = .endOfInput := by simp_all
      have hkind := hphrase.kind_mem token (by simp)
      rw [htoken] at hkind
      exact absurd hkind (by decide)
  · rcases v with _ | ⟨token, v⟩
    · simpa using hphrase
    · have hlookahead : context.lookahead = token := Context.lookahead_of_rest hv
      rw [Context.atEnd, hlookahead] at hatEnd
      exact absurd hatEnd (hnotEnd _ (htokens token (by simp)))

/-- Tokens are accepted with nothing to report if and only if they are statements of the grammar, and then the value is
the tree of the statements. -/
theorem wholeExpression_recognizes {depth : Nat} {tokens : List Token} {value : Tree} {context : Context}
    (htokens : ∀ token ∈ tokens, token.kind ∈ Kind.arithmetic)
    (hrun : (Parse.wholeExpression depth).run { rest := tokens ++ [.endOfInput] } = .ok value context) :
    (context.diagnostics = [] ↔ ∃ t, Phrase .statements tokens t) ∧
      ∀ t, Phrase .statements tokens t → value = t := by
  have hunique : ∀ t, Phrase .statements tokens t →
      value = t ∧ context = (Context.initial tokens).drop tokens.length := by
    intro t ht
    rcases ht.settles_wholeExpression.ok_or_error depth with hok | ⟨c, herr⟩
    · have := hrun.symm.trans hok
      injection this with hvalue hcontext
      exact ⟨hvalue, hcontext⟩
    · cases hrun.symm.trans herr
  refine ⟨⟨fun hclean => ⟨value, phrase_of_wholeExpression htokens hrun hclean⟩, ?_⟩, fun t ht => (hunique t ht).1⟩
  rintro ⟨t, ht⟩
  rw [(hunique t ht).2]
  rfl

/-- The tokens of `-(b + 3) * f(2);`. -/
def signedProduct : List Token :=
  [⟨.minus, "-"⟩, ⟨.openParen, "("⟩, ⟨.symbol, "b"⟩, ⟨.plus, "+"⟩, ⟨.number, "3"⟩, ⟨.closeParen, ")"⟩, ⟨.times, "*"⟩,
   ⟨.symbol, "f"⟩, ⟨.openParen, "("⟩, ⟨.number, "2"⟩, ⟨.closeParen, ")"⟩, ⟨.sequence, ";"⟩]

/-- The tree of `signedProduct`. -/
def signedProductTree : Tree :=
  .node [.atom "sequence", .node [.atom "*",
    .node [.atom "-", .node [.atom "+", .atom "b", .atom "3"]], .node [.atom "f", .atom "2"]]]

theorem wholeExpression_recognizes_signedProduct :
    (∀ token ∈ signedProduct, token.kind ∈ Kind.arithmetic) ∧
      (Parse.wholeExpression 9).run { rest := signedProduct ++ [.endOfInput] } =
        .ok signedProductTree ⟨[.endOfInput], 12, []⟩ ∧
      ∃ t, Phrase .statements signedProduct t := by
  have hkinds : ∀ token ∈ signedProduct, token.kind ∈ Kind.arithmetic := by decide
  have hrun : (Parse.wholeExpression 9).run { rest := signedProduct ++ [.endOfInput] } =
      .ok signedProductTree ⟨[.endOfInput], 12, []⟩ := rfl
  exact ⟨hkinds, hrun, (wholeExpression_recognizes hkinds hrun).1.1 rfl⟩

end Precedence.Arithmetic
