import Precedence.Tree.Sexp

/-!
# Writing symbolic expressions

The writer keeps the trees and the closing parentheses that are still to be written in one list, with a flag for the
space before the next tree.  What it writes is what a recursion on the tree writes (`toSexp_eq_written`): an atom as it
is, and a node as its members between parentheses, separated by single spaces.

The invariant is about any pending items, also about parentheses that close nothing.  Each tree is written as a whole,
and there is a space before it unless it follows an opening parenthesis (`sexpChars_eq_pendingChars`).
-/

namespace Precedence.Tree

/-! ### What is still to be written -/

/-- To write a tree is to write its members and to close it, behind an opening parenthesis. -/
theorem sexpChars_tree (afterOpen : Bool) (t : Tree) (rest : List SexpItem) :
    sexpChars afterOpen (.tree t :: rest) = (if afterOpen then [] else [' ']) ++ match t with
      | failed => failedText.toList ++ sexpChars false rest
      | atom text => text.toList ++ sexpChars false rest
      | node members => '(' :: sexpChars true (members.map .tree ++ .close :: rest) := by
  rw [sexpChars.eq_def]
  cases afterOpen <;> cases t <;> rfl

/-- What is true of pending items if it is true behind the first of them, or in it if that is a node, is true of all
pending items. -/
@[elab_as_elim]
theorem items_induction {p : List SexpItem → Prop} (nil : p []) (close : ∀ rest, p rest → p (.close :: rest))
    (failed : ∀ rest, p rest → p (.tree .failed :: rest)) (atom : ∀ text rest, p rest → p (.tree (.atom text) :: rest))
    (node : ∀ members rest, p (members.map .tree ++ .close :: rest) → p (.tree (.node members) :: rest))
    (items : List SexpItem) : p items := by
  induction hweight : sexpWeight items using Nat.strongRecOn generalizing items with
  | ind weight ih =>
    subst hweight
    rcases items with _ | ⟨t | _, rest⟩
    · exact nil
    · have hrest : sexpWeight rest < sexpWeight (.tree t :: rest) := by
        simp only [sexpWeight, SexpItem.weight]
        omega
      cases t with
      | failed => exact failed rest (ih _ hrest rest rfl)
      | atom text => exact atom text rest (ih _ hrest rest rfl)
      | node members =>
        refine node members rest (ih _ ?_ _ rfl)
        simp only [sexpWeight_members, sexpWeight, SexpItem.weight, weight]
        omega
    · refine close rest (ih _ ?_ rest rfl)
      simp only [sexpWeight, SexpItem.weight]
      omega

/-! ### Writing by recursion -/

/-- The tree as a symbolic expression, by recursion on the tree. -/
def written : Tree → String
  | failed => "<error>"
  | atom text => text
  | node members => "(" ++ " ".intercalate (members.map written) ++ ")"

/-- The characters of the pending items, each tree written as a whole. -/
def pendingChars (afterOpen : Bool) : List SexpItem → List Char
  | [] => []
  | .close :: rest => ')' :: pendingChars false rest
  | .tree t :: rest => (if afterOpen then [] else [' ']) ++ (t.written.toList ++ pendingChars false rest)

/-- The members of a node that has been opened are separated by single spaces. -/
theorem pendingChars_members (members : List Tree) (rest : List SexpItem) :
    pendingChars true (members.map .tree ++ .close :: rest) =
      (" ".intercalate (members.map written)).toList ++ ')' :: pendingChars false rest := by
  induction members with
  | nil => rfl
  | cons t ts ih =>
    cases ts with
    | nil => simp [pendingChars]
    | cons u us =>
      -- only the first member follows the opening parenthesis, and the others follow a tree
      have hspace : pendingChars true ((t :: u :: us).map .tree ++ .close :: rest) =
          t.written.toList ++ ' ' :: pendingChars true ((u :: us).map .tree ++ .close :: rest) := rfl
      rw [hspace, ih]
      simp

/-- What the writer writes is what the pending items stand for, one after the other. -/
theorem sexpChars_eq_pendingChars (afterOpen : Bool) (items : List SexpItem) :
    sexpChars afterOpen items = pendingChars afterOpen items := by
  induction items using items_induction generalizing afterOpen with
  | nil => rw [sexpChars, pendingChars]
  | close rest ih => rw [sexpChars, pendingChars, ih]
  | failed rest ih => rw [sexpChars_tree, pendingChars, written, failedText, ih]
  | atom text rest ih => rw [sexpChars_tree, pendingChars, written, ih]
  | node members rest ih =>
    have hmembers : sexpChars true (members.map .tree ++ .close :: rest) =
        (" ".intercalate (members.map written)).toList ++ ')' :: pendingChars false rest := by
      rw [ih, pendingChars_members]
    simp [sexpChars_tree, pendingChars, written, hmembers]

/-- The writer, which goes through the tree with a list of pending items, writes what the recursion writes. -/
theorem toSexp_eq_written (t : Tree) : t.toSexp = t.written := by
  have hchars : sexpChars true [.tree t] = t.written.toList := by
    simp [sexpChars_eq_pendingChars, pendingChars]
  rw [toSexp, hchars, String.ofList_toList]

example : (node [atom "f", node [], failed, atom ""]).toSexp = "(f () <error> )" := by cbv

end Precedence.Tree
