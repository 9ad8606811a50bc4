import Precedence.Proofs.Tree.Below
import Precedence.Proofs.Tree.Writing

/-!
# Reading symbolic expressions

A reader goes through a symbolic expression character by character.  It keeps the characters of the atom that it is in
and the members of the nodes that are open (`SexpReader`): a space or a parenthesis ends an atom, and a closing
parenthesis makes a node of the innermost members.

The reader undoes the writer (`ofSexp?_of_readable`), for trees whose atoms can be told from what is around them.  What
the writer has still to write is what the reader has still to do (`read_sexpChars`), if an atom that is not ended yet is
taken as ended.
-/

namespace Precedence

/-! ### The reader -/

/-- What a reader of symbolic expressions has read. -/
structure SexpReader where
  /-- The characters of the atom that is being read, the latest first. -/
  word : List Char
  /-- The members of the innermost open node, the latest first. -/
  members : List Tree
  /-- The members of the other open nodes, from the inside out. -/
  outer : List (List Tree)

namespace SexpReader

/-- Nothing has been read. -/
def start : SexpReader := ⟨[], [], []⟩

/-- The reader with one more member. -/
def push (reader : SexpReader) (t : Tree) : SexpReader := { reader with members := t :: reader.members }

/-- The tree that a word stands for. -/
def wordTree (word : List Char) : Tree :=
  let text := String.ofList word.reverse
  if text = Tree.failedText then .failed else .atom text

/-- The reader behind the end of its word. -/
def endWord (reader : SexpReader) : SexpReader :=
  if reader.word = [] then reader else ⟨[], wordTree reader.word :: reader.members, reader.outer⟩

/-- The reader in a new node. -/
def openNode (reader : SexpReader) : SexpReader := ⟨[], [], reader.members :: reader.outer⟩

/-- The reader behind the end of the innermost node, if a node is open. -/
def closeNode? (reader : SexpReader) : Option SexpReader :=
  match reader.outer with
  | [] => none
  | members :: outer => some ⟨[], .node reader.members.reverse :: members, outer⟩

/-- The reader behind a character. -/
def step (reader : SexpReader) (c : Char) : Option SexpReader :=
  if c = '(' then some reader.endWord.openNode
  else if c = ')' then reader.endWord.closeNode?
  else if c = ' ' then some reader.endWord
  else some { reader with word := c :: reader.word }

/-- The only tree that has been read. -/
def tree? (reader : SexpReader) : Option Tree :=
  match reader.endWord with
  | ⟨_, [t], []⟩ => some t
  | _ => none

end SexpReader

namespace Tree

/-- The tree of a symbolic expression. -/
def ofSexp? (text : String) : Option Tree := do
  let reader ← text.toList.foldlM SexpReader.step .start
  reader.tree?

/-- Whether the character is neither a parenthesis nor a space. -/
def isAtomChar (c : Char) : Bool := c ≠ '(' && c ≠ ')' && c ≠ ' '

/-- An atom that can be told from what is around it, and from a failed subtree. -/
structure IsPlainText (text : String) : Prop where
  ne_empty : text ≠ ""
  ne_failedText : text ≠ failedText
  isAtomChar : ∀ c ∈ text.toList, isAtomChar c

/-- A text can be told from what is around it if all its characters have what neither a separator nor `<` has. -/
theorem isPlainText_of (p : Char → Prop) {text : String} (hne : text ≠ "") (h : ∀ c ∈ text.toList, p c)
    (hopen : ¬ p '(') (hclose : ¬ p ')') (hspace : ¬ p ' ') (hless : ¬ p '<') : IsPlainText text where
  ne_empty := hne
  ne_failedText := by
    rintro rfl
    exact hless (h '<' (by decide))
  isAtomChar := by
    intro c hc
    have hother : ∀ {d}, ¬ p d → c ≠ d := by
      rintro d hd rfl
      exact hd (h _ hc)
    simp [isAtomChar, hother hopen, hother hclose, hother hspace]

/-- All atoms of the tree can be told from what is around them. -/
def Readable (t : Tree) : Prop := ∀ text, (atom text).OccursIn t → IsPlainText text

theorem readable_atom {text : String} (h : IsPlainText text) : (atom text).Readable := by
  rintro other (hother | hbelow)
  · cases hother
    exact h
  · exact absurd hbelow not_below_atom

theorem readable_node {members : List Tree} (h : ∀ t ∈ members, t.Readable) : (node members).Readable := by
  rintro text (htext | hbelow)
  · cases htext
  · obtain ⟨t, hmem, hoccurs⟩ := below_node_iff.mp hbelow
    exact h t hmem text hoccurs

theorem Readable.of_mem {t : Tree} {members : List Tree} (h : (node members).Readable) (mem : t ∈ members) :
    t.Readable :=
  fun text hatom => h text (hatom.trans (occursIn_node mem))

end Tree

namespace SexpReader

open Precedence.Tree

theorem endWord_of_nil {reader : SexpReader} (h : reader.word = []) : reader.endWord = reader := if_pos h

@[simp] theorem word_endWord (reader : SexpReader) : reader.endWord.word = [] := by
  unfold endWord
  split
  · assumption
  · rfl

@[simp] theorem endWord_endWord (reader : SexpReader) : reader.endWord.endWord = reader.endWord :=
  endWord_of_nil reader.word_endWord

/-- A word is read, and what follows it ends it. -/
theorem read_word {word : List Char} (h : ∀ c ∈ word, isAtomChar c) (reader : SexpReader) (rest : List Char) :
    (word ++ rest).foldlM step reader = rest.foldlM step { reader with word := word.reverse ++ reader.word } := by
  induction word generalizing reader with
  | nil => rfl
  | cons c word ih =>
    obtain ⟨hc, hword⟩ := List.forall_mem_cons.mp h
    obtain ⟨⟨hopen, hclose⟩, hspace⟩ : (c ≠ '(' ∧ c ≠ ')') ∧ c ≠ ' ' := by simpa [isAtomChar] using hc
    have hstep : reader.step c = some { reader with word := c :: reader.word } := by
      simp only [step, hopen, hclose, hspace, if_false]
    rw [List.cons_append, List.foldlM_cons, hstep]
    show (word ++ rest).foldlM step _ = _
    rw [ih hword, List.reverse_cons, List.append_assoc]
    rfl

/-- What an item that is still to be written means to the reader of it. -/
def read? (reader : SexpReader) : SexpItem → Option SexpReader
  | .tree t => some (reader.push t)
  | .close => reader.closeNode?

theorem read_members (members : List Tree) (reader : SexpReader) : (members.map SexpItem.tree).foldlM read? reader =
    some { reader with members := members.reverse ++ reader.members } := by
  induction members generalizing reader with
  | nil => rfl
  | cons t members ih =>
    rw [List.map_cons, List.foldlM_cons]
    show (members.map SexpItem.tree).foldlM read? (reader.push t) = _
    rw [ih, List.reverse_cons, List.append_assoc]
    rfl

/-- The members of a node and its end are read as the node. -/
theorem read_node {reader : SexpReader} (h : reader.word = []) (members : List Tree) (rest : List SexpItem) :
    (members.map SexpItem.tree ++ .close :: rest).foldlM read? reader.openNode =
      rest.foldlM read? (reader.push (.node members)) := by
  rw [List.foldlM_append, read_members]
  show rest.foldlM read? ⟨[], .node (members.reverse ++ []).reverse :: reader.members, reader.outer⟩ = _
  rw [List.append_nil, List.reverse_reverse, push, h]

/-- What separates a tree from what is before it ends the atom before it. -/
theorem read_separator {afterOpen : Bool} {reader : SexpReader} (hword : afterOpen → reader.word = [])
    (rest : List Char) :
    ((if afterOpen then [] else [' ']) ++ rest).foldlM step reader = rest.foldlM step reader.endWord := by
  cases afterOpen with
  | true => rw [endWord_of_nil (hword rfl), if_pos rfl, List.nil_append]
  | false => rfl

/-- An atom that has been read is a member as soon as it is ended. -/
theorem endWord_of_text {text : String} (hne : text ≠ "") (reader : SexpReader) :
    endWord { reader.endWord with word := text.toList.reverse ++ reader.endWord.word } =
      reader.endWord.push (if text = failedText then .failed else .atom text) := by
  have hword : text.toList.reverse ≠ [] := by simpa using hne
  rw [word_endWord, List.append_nil, endWord, if_neg hword, wordTree, List.reverse_reverse, String.ofList_toList, push,
    word_endWord]

theorem word_closeNode? {reader next : SexpReader} (h : reader.closeNode? = some next) : next.word = [] := by
  unfold closeNode? at h
  split at h
  · cases h
  · cases h
    rfl

/-- All trees that are still to be written can be read back. -/
def AllReadable (items : List SexpItem) : Prop := ∀ t, .tree t ∈ items → t.Readable

theorem AllReadable.behind {item : SexpItem} {rest : List SexpItem} (h : AllReadable (item :: rest)) :
    AllReadable rest :=
  fun t ht => h t (List.mem_cons_of_mem item ht)

theorem AllReadable.inside {members : List Tree} {rest : List SexpItem}
    (h : AllReadable (.tree (.node members) :: rest)) : AllReadable (members.map .tree ++ .close :: rest) := by
  intro t ht
  rcases List.mem_append.mp ht with ht | ht
  · have hmem : t ∈ members := by simpa using ht
    exact (h _ List.mem_cons_self).of_mem hmem
  · have hmem : .tree t ∈ rest := by simpa using ht
    exact h t (List.mem_cons_of_mem _ hmem)

/-- To read what is still to be written is to take the items one after the other.  An atom that has been read may have
not been ended yet, unless an opening parenthesis is the last thing that was written. -/
theorem read_sexpChars {items : List SexpItem} (h : AllReadable items) {afterOpen : Bool} {reader : SexpReader}
    (hword : afterOpen → reader.word = []) :
    ((sexpChars afterOpen items).foldlM step reader).map endWord = items.foldlM read? reader.endWord := by
  induction items using items_induction generalizing afterOpen reader with
  | nil =>
    rw [sexpChars.eq_def]
    rfl
  | close rest ih =>
    rw [sexpChars.eq_def]
    show (reader.endWord.closeNode? >>= (sexpChars false rest).foldlM step).map endWord =
      (reader.endWord.closeNode? >>= rest.foldlM read?)
    cases hclose : reader.endWord.closeNode? with
    | none => rfl
    | some next =>
      have hnext : ((sexpChars false rest).foldlM step next).map endWord = rest.foldlM read? next.endWord :=
        ih h.behind nofun
      rwa [endWord_of_nil (word_closeNode? hclose)] at hnext
  | failed rest ih =>
    have hbehind : ∀ reader,
        ((sexpChars false rest).foldlM step reader).map endWord = rest.foldlM read? reader.endWord :=
      fun reader => ih h.behind nofun
    have hchars : ∀ c ∈ failedText.toList, isAtomChar c := List.all_eq_true.mp (by decide)
    rw [sexpChars_tree, read_separator hword, read_word hchars, hbehind, endWord_of_text (by decide), if_pos rfl]
    rfl
  | atom text rest ih =>
    have hbehind : ∀ reader,
        ((sexpChars false rest).foldlM step reader).map endWord = rest.foldlM read? reader.endWord :=
      fun reader => ih h.behind nofun
    have htext : IsPlainText text := h _ List.mem_cons_self text (.refl _)
    rw [sexpChars_tree, read_separator hword, read_word htext.isAtomChar, hbehind, endWord_of_text htext.ne_empty,
      if_neg htext.ne_failedText]
    rfl
  | node members rest ih =>
    rw [sexpChars_tree, read_separator hword]
    show ((sexpChars true _).foldlM step reader.endWord.endWord.openNode).map endWord = _
    rw [ih h.inside fun _ => rfl, endWord_endWord, endWord_of_nil rfl, read_node reader.word_endWord]
    rfl

end SexpReader

namespace Tree

/-- The reader undoes the writer. -/
theorem ofSexp?_of_readable {t : Tree} (h : t.Readable) : ofSexp? t.toSexp = some t := by
  have hread : ((sexpChars true [.tree t]).foldlM SexpReader.step .start).map SexpReader.endWord = some ⟨[], [t], []⟩ :=
    SexpReader.read_sexpChars (by simpa [SexpReader.AllReadable] using h) fun _ => rfl
  obtain ⟨reader, hreader, hend⟩ := Option.map_eq_some_iff.mp hread
  rw [ofSexp?, toSexp, String.toList_ofList, hreader]
  show reader.tree? = some t
  rw [SexpReader.tree?, hend]

example : ofSexp? "(f <error> ())" = some (.node [.atom "f", .failed, .node []]) := by rfl

end Tree

end Precedence
