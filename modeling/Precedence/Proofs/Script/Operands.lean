import Precedence.Proofs.Except
import Precedence.Proofs.Tree.Below
import Precedence.Script.Statement

/-!
# Operands of expressions

What the expression of a tree is in a script, by recursion on the tree: a tree that has no text is rejected, its
operands are written in order, each with the least precedence that it needs, and the text that they are joined to is put
between parentheses if it binds less tightly than required (`emission`).

The walk that writes trees of any depth gives the same text, or the same error (`expression_recursion`).  As for the
walk that evaluates, the recursion at one node is to write its operands and to join them (`emission_operands`), and a
node on top of the stack leaves its text behind the results that were there before (`emits`).
-/

namespace Precedence

/-- How tightly an operator binds in a script. -/
def Operator.precedence : Operator → Nat
  | add | sub => 1
  | mul | div => 2

namespace Script

/-! ### The recursion -/

/-- A text where a least precedence is required: by itself if it binds at least as tightly as that, and else between one
pair of parentheses. -/
def parenthesized (precedence least : Nat) (text : String) : String :=
  if least ≤ precedence then text else "(" ++ text ++ ")"

/-- The name on the left of an assignment. -/
def assignedName : Tree → Except ScriptError String
  | .atom text => if isIntegerLiteral text then .error (.badTarget (.atom text)) else atomText text
  | t => .error (.badTarget t)

/-- The text of a tree where a least precedence is required.  Sums have the precedence 1 and products 2, negations 3,
and all else 4. -/
def emission : Tree → Nat → Except ScriptError String
  | .failed, _ => .error .incomplete
  | .atom text, least => do
    let written ← atomText text
    return parenthesized 4 least written
  | .node (.atom label :: members), least =>
    if label = "sequence" then .error .sequenceAsValue
    else match members with
      | [operand] =>
        if label = "-" then do
          let text ← emission operand 3
          return parenthesized 3 least ("-" ++ text)
        else do
          let callee ← atomText label
          let argument ← emission operand 0
          return parenthesized 4 least (callee ++ "(" ++ argument ++ ")")
      | [left, right] =>
        if label = "assign" then do
          let name ← assignedName left
          let value ← emission right 0
          return parenthesized 4 least ("(" ++ name ++ " := " ++ value ++ ")")
        else if label = "+" ∨ label = "-" then do
          let first ← emission left 1
          let second ← emission right 2
          return parenthesized 1 least (first ++ " " ++ label ++ " " ++ second)
        else if label = "*" ∨ label = "/" then do
          let first ← emission left 2
          let second ← emission right 3
          return parenthesized 2 least (first ++ " " ++ label ++ " " ++ second)
        else .error (.unsupported (.node (.atom label :: members)))
      | _ => .error (.unsupported (.node (.atom label :: members)))
  | .node [callee, argument], least => do
    let calleeText ← emission callee 4
    let text ← emission argument 0
    return parenthesized 4 least (calleeText ++ "(" ++ text ++ ")")
  | .node members, _ => .error (.unsupported (.node members))

/-! ### Operands and forms -/

/-- The precedences of the tags are those of the operators that the tags stand for. -/
theorem operatorPrecedence?_atom (label : String) :
    operatorPrecedence? (.atom label) = (Operator.ofSymbol? label).map Operator.precedence := by
  have htable : operatorPrecedence? (.atom label) = binaryPrecedences.lookup label := rfl
  rw [htable, Operator.ofSymbol?]
  by_cases hadd : label = "+"
  · rw [hadd]; rfl
  by_cases hsub : label = "-"
  · rw [hsub]; rfl
  by_cases hmul : label = "*"
  · rw [hmul]; rfl
  by_cases hdiv : label = "/"
  · rw [hdiv]; rfl
  have hbeq : ∀ other, label ≠ other → (label == other) = false := fun _ => beq_eq_false_iff_ne.mpr
  simp [binaryPrecedences, List.lookup_cons, hbeq, hadd, hsub, hmul, hdiv]

theorem targetText_eq (t : Tree) : targetText t = assignedName t := by
  cases t <;> rfl

theorem operandsOf_of_meaningless {members : List Tree} (h : Tree.Meaningless members) :
    operandsOf (.node members) = .error (.unsupported (.node members)) := by
  simp only [operandsOf, h.isTagged_sequence]
  rcases members with _ | ⟨tag, _ | ⟨left, _ | ⟨right, _ | ⟨next, rest⟩⟩⟩⟩
  · rfl
  · rfl
  · exact absurd rfl (h.not_pair tag left)
  · have hoperator : operatorPrecedence? tag = none := by
      refine h.text?_bind_eq_none fun label hnone => ?_
      exact (operatorPrecedence?_atom label).trans (by rw [hnone]; rfl)
    simp [h.isTagged_assign, hoperator]
  · rfl

/-- The operands that are queued, read off the form of the node. -/
theorem operandsOf_form (t : Tree) :
    operandsOf t = match t.form with
    | .incomplete => .error .incomplete
    | .atom _ => .ok []
    | .sequence _ => .error .sequenceAsValue
    | .assign target value => (targetText target).map fun _ => [(value, 0)]
    | .binary op left right => .ok [(left, op.precedence), (right, op.precedence + 1)]
    | .negate operand => .ok [(operand, negationPrecedence)]
    | .call callee argument => .ok [(callee, primaryPrecedence), (argument, 0)]
    | .other => .error (.unsupported t) := by
  have hform := t.hasForm
  generalize t.form = form at hform ⊢
  cases hform with
  | incomplete | atom => rw [operandsOf]
  | sequence | negate => rfl
  | assign left right =>
    have hsequence : (Tree.node [.atom Tree.assignLabel, left, right]).isTagged Tree.sequenceLabel = false := rfl
    have hassign : (Tree.node [.atom Tree.assignLabel, left, right]).isTagged Tree.assignLabel = true := rfl
    cases htarget : targetText left <;> simp [operandsOf, hsequence, hassign, htarget, Except.map]
  | binary op => cases op <;> rfl
  | call hsequence hnegate =>
    simp [operandsOf, Tree.isTagged_pair_eq_false hsequence, Tree.isTagged_pair_eq_false hnegate]
  | other h => exact operandsOf_of_meaningless h

/-! ### The text of a node -/

theorem joined_assign (left right : Tree) (text : String) :
    joined (.node [.atom Tree.assignLabel, left, right]) [text] =
      (targetText left).map fun name => "(" ++ name ++ " := " ++ text ++ ")" := by
  have hassign : (Tree.node [.atom Tree.assignLabel, left, right]).isTagged Tree.assignLabel = true := rfl
  cases htarget : targetText left <;> simp [joined, hassign, htarget, Except.map]

theorem joined_binary (op : Operator) (left right : Tree) (first second : String) :
    joined (.node [.atom op.symbol, left, right]) [first, second] =
      .ok (first ++ " " ++ op.symbol ++ " " ++ second) := by
  cases op <;> rfl

theorem joined_negate (operand : Tree) (text : String) :
    joined (.node [.atom Tree.negateLabel, operand]) [text] = .ok ("-" ++ text) := rfl

theorem joined_call {callee : Tree} (h : callee ≠ .atom Tree.negateLabel) (argument : Tree) (first second : String) :
    joined (.node [callee, argument]) [first, second] = .ok (first ++ "(" ++ second ++ ")") := by
  simp [joined, Tree.isTagged_pair_eq_false h]

theorem precedenceOf_binary (op : Operator) (left right : Tree) :
    precedenceOf (.node [.atom op.symbol, left, right]) = op.precedence := by
  cases op <;> rfl

theorem precedenceOf_call {callee : Tree} (h : callee ≠ .atom Tree.negateLabel) (argument : Tree) :
    precedenceOf (.node [callee, argument]) = primaryPrecedence := by
  simp [precedenceOf, Tree.isTagged_pair_eq_false h]

theorem emission_call {callee : Tree} (hsequence : callee ≠ .atom Tree.sequenceLabel)
    (hnegate : callee ≠ .atom Tree.negateLabel) (argument : Tree) (least : Nat) :
    emission (.node [callee, argument]) least = do
      let calleeText ← emission callee 4
      let text ← emission argument 0
      return parenthesized 4 least (calleeText ++ "(" ++ text ++ ")") := by
  cases callee with
  | atom label =>
    have hlabel : label ≠ "sequence" := fun heq => hsequence (heq ▸ rfl)
    have hminus : label ≠ "-" := fun heq => hnegate (heq ▸ rfl)
    simp only [emission, hlabel, hminus, if_false]
    cases atomText label <;> rfl
  | failed | node => rfl

/-- A node without a meaning has no text. -/
theorem emission_of_meaningless {members : List Tree} (h : Tree.Meaningless members) (least : Nat) :
    emission (.node members) least = .error (.unsupported (.node members)) := by
  rcases members with _ | ⟨tag, members⟩
  · rfl
  cases tag with
  | failed | node =>
    rcases members with _ | ⟨second, _ | ⟨third, rest⟩⟩
    · rfl
    · exact absurd rfl (h.not_pair _ second)
    · rfl
  | atom label =>
    have hlabel : label ≠ "sequence" := fun heq => h.not_sequence members (heq ▸ rfl)
    rcases members with _ | ⟨second, _ | ⟨third, _ | ⟨fourth, rest⟩⟩⟩
    · simp [emission, hlabel]
    · exact absurd rfl (h.not_pair _ second)
    · have hassign : label ≠ "assign" := fun heq => h.not_assign second third (heq ▸ rfl)
      have hoperator : Operator.ofSymbol? label = none := h.no_operator label second third rfl
      have hlabels : label ≠ "+" ∧ label ≠ "-" ∧ label ≠ "*" ∧ label ≠ "/" := by
        unfold Operator.ofSymbol? at hoperator
        grind
      simp [emission, hlabel, hassign, hlabels]
    · simp [emission, hlabel]

/-- The emission of a tree, read off its form. -/
theorem emission_form (t : Tree) (least : Nat) :
    emission t least = match t.form with
    | .incomplete => .error .incomplete
    | .atom text => do
      let written ← atomText text
      return parenthesized 4 least written
    | .sequence _ => .error .sequenceAsValue
    | .assign left right => do
      let name ← assignedName left
      let value ← emission right 0
      return parenthesized 4 least ("(" ++ name ++ " := " ++ value ++ ")")
    | .binary op left right => do
      let first ← emission left op.precedence
      let second ← emission right (op.precedence + 1)
      return parenthesized op.precedence least (first ++ " " ++ op.symbol ++ " " ++ second)
    | .negate operand => do
      let text ← emission operand 3
      return parenthesized 3 least ("-" ++ text)
    | .call callee argument => do
      let calleeText ← emission callee 4
      let text ← emission argument 0
      return parenthesized 4 least (calleeText ++ "(" ++ text ++ ")")
    | .other => .error (.unsupported t) := by
  have hform := t.hasForm
  generalize t.form = form at hform ⊢
  cases hform with
  | incomplete | atom => rw [emission]
  | sequence =>
    unfold emission
    rfl
  | assign | negate =>
    rw [emission]
    rfl
  | binary op =>
    rw [emission]
    cases op <;> rfl
  | call hsequence hnegate => exact emission_call hsequence hnegate _ least
  | other h => exact emission_of_meaningless h least

/-- The recursion at one node: its operands are written in order and joined. -/
theorem emission_operands (t : Tree) (least : Nat) :
    emission t least = do
      let operands ← operandsOf t
      let texts ← operands.mapM fun operand => emission operand.1 operand.2
      let text ← joined t texts
      return parenthesized (precedenceOf t) least text := by
  rw [operandsOf_form, emission_form]
  have hform := t.hasForm
  generalize t.form = form at hform ⊢
  cases hform with
  | incomplete | atom | sequence | other => rfl
  | assign left right =>
    simp only [← targetText_eq]
    cases htarget : targetText left with
    | error error => rfl
    | ok name =>
      simp only [Except.map, ok_bind, mapM_singleton, bind_assoc, joined_assign, htarget]
      rfl
  | binary op left right =>
    simp only [ok_bind, mapM_pair, bind_assoc, joined_binary, precedenceOf_binary]
  | negate operand =>
    simp only [ok_bind, mapM_singleton, bind_assoc, joined_negate]
    rfl
  | call _ hnegate =>
    simp only [ok_bind, mapM_pair, bind_assoc, joined_call hnegate, precedenceOf_call hnegate]
    rfl

/-! ### The steps of the walk -/

theorem ite_eq_parenthesized (precedence least : Nat) (text : String) :
    (if precedence < least then "(" ++ text ++ ")" else text) = parenthesized precedence least text := by
  unfold parenthesized
  split <;> split <;> first | rfl | omega

/-- The operands of a node come on top of it. -/
theorem loop_expand (t : Tree) (least : Nat) (stack : List Pending) (results : List String) :
    loop (⟨t, least, none⟩ :: stack) results = operandsOf t >>= fun operands =>
      loop (operands.map (fun operand => ⟨operand.1, operand.2, none⟩) ++ ⟨t, least, some operands.length⟩ :: stack)
        results := by
  rw [loop]
  split <;> rename_i h <;> rw [h]
  · rfl
  · simp only [pushAll_eq, ← List.map_reverse, List.reverse_reverse]
    rfl

/-- The last results are joined and taken away, and the text is put in their place. -/
theorem loop_join (t : Tree) (least : Nat) (parts : List String) (stack : List Pending) (results : List String) :
    loop (⟨t, least, some parts.length⟩ :: stack) (results ++ parts) = joined t parts >>= fun text =>
      loop stack (results ++ [parenthesized (precedenceOf t) least text]) := by
  rw [loop]
  have hlength : (results ++ parts).length - parts.length = results.length := by simp
  simp only [hlength, List.drop_left, List.take_left]
  cases joined t parts with
  | error error => rfl
  | ok text =>
    simp only [ite_eq_parenthesized]
    rfl

/-- What the walk does with a node: it leaves the text behind the results that were there before, or the error. -/
def Emits (t : Tree) : Prop :=
  ∀ least stack results, loop (⟨t, least, none⟩ :: stack) results =
    emission t least >>= fun text => loop stack (results ++ [text])

/-- Nodes that are queued one on top of the other leave their texts in order. -/
theorem loop_operands {operands : List (Tree × Nat)} (h : ∀ operand ∈ operands, Emits operand.1) (stack : List Pending)
    (results : List String) :
    loop (operands.map (fun operand => ⟨operand.1, operand.2, none⟩) ++ stack) results =
      operands.mapM (fun operand => emission operand.1 operand.2) >>= fun texts => loop stack (results ++ texts) := by
  induction operands generalizing results with
  | nil => simp
  | cons operand operands ih =>
    obtain ⟨hfirst, hrest⟩ := List.forall_mem_cons.mp h
    rw [List.map_cons, List.cons_append, hfirst, List.mapM_cons]
    simp only [ih hrest, bind_assoc, pure_bind, List.append_assoc, List.singleton_append]

theorem emits (t : Tree) : Emits t := by
  induction t using Tree.weight_induction with
  | step t ih =>
    intro least stack results
    rw [loop_expand, emission_operands]
    cases hoperands : operandsOf t with
    | error error => rfl
    | ok operands =>
      have hless : Tree.weights (operands.map (·.1)) < t.weight := weights_lt_of_operandsOf hoperands
      have hmem : ∀ operand ∈ operands, Emits operand.1 := fun operand h =>
        ih operand.1 (Nat.lt_trans (Tree.weight_lt_weights (List.mem_map_of_mem h)) hless)
      simp only [ok_bind, loop_operands hmem]
      cases htexts : operands.mapM fun operand => emission operand.1 operand.2 with
      | error error => rfl
      | ok texts =>
        have hlength : texts.length = operands.length := (mapM_eq_ok_iff.mp htexts).length_eq.symm
        simp only [ok_bind, ← hlength, loop_join, bind_assoc]
        rfl

/-- The walk over a single node gives its text. -/
theorem loop_eq_emission (t : Tree) (least : Nat) : loop [⟨t, least, none⟩] [] = emission t least := by
  rw [emits]
  cases emission t least with
  | error error => rfl
  | ok text => rw [ok_bind, List.nil_append, loop, List.headD_cons]

/-- The text of an expression, or the error of it, is that of the recursion on the tree: a tree without a text is
rejected, its operands are written from left to right, each with the least precedence that it needs, and then they are
joined, with one pair of parentheses around them if the tree binds less tightly than required. -/
theorem expression_recursion (t : Tree) : expression t = emission t 0 := loop_eq_emission t 0

end Script

end Precedence
