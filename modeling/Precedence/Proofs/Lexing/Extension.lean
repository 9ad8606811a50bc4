import Precedence.Parser
import Precedence.Proofs.Lexing.Segmentation

/-!
# Further rules

Rules that are tried after all others make a difference only where no other rule matches.  The chunks that a text is
cut into are still the first ones (`Segmentation.append`), and a match that cannot be used remains one.  From the place
on where the cutting has ended it goes on as if the text began there (`Segmentation.lex_eq`).

So a parser with one more rule gives the tokens that it has given before, and then those of what was left over
(`lex_addRule`).
-/

namespace Precedence

/-- What is found in a text, behind other tokens. -/
def Lexed.behind (tokens : List Token) (lexed : Lexed) : Lexed := { lexed with tokens := tokens ++ lexed.tokens }

section

variable {rules : List Rule} {text : List Char} {source : String} {chunks : List Chunk} {left : List Char}

/-- To cut a source that has been cut into chunks is to cut what is left. -/
theorem Segmentation.lex_eq (h : Segmentation rules source.toList chunks left) :
    lex rules source = (lex rules (String.ofList left)).map (.behind (chunks.map Chunk.token)) := by
  unfold lex
  rw [h.tokensOf_eq, String.toList_ofList]
  cases tokensOf rules left with
  | error error => rfl
  | ok cut => simp only [Except.map, Lexed.behind, List.append_assoc]

theorem FirstMatch.append {rule : Rule} {found : Pattern.Match} (h : FirstMatch rules text rule found)
    (more : List Rule) : FirstMatch (rules ++ more) text rule found := by
  obtain ⟨earlier, later, rfl, hearlier, hmatch⟩ := h
  exact ⟨earlier, later ++ more, by rw [List.append_assoc, List.cons_append], hearlier, hmatch⟩

theorem Chunk.IsFirst.append {chunk : Chunk} (h : chunk.IsFirst rules) (more : List Rule) :
    chunk.IsFirst (rules ++ more) :=
  ⟨h.firstMatch.append more, h.notCrossed, h.length_pos⟩

/-- Chunks stay the first ones when rules follow. -/
theorem Segmentation.append (h : Segmentation rules text chunks left) (more : List Rule) :
    Segmentation (rules ++ more) text chunks left := by
  induction h with
  | stop => exact .stop _
  | cut hfirst _ ih => exact .cut (hfirst.append more) ih

/-- Further rules do not mend a match that cannot be used. -/
theorem lex_append_of_error {error : MatchError} (h : lex rules source = .error error) (more : List Rule) :
    lex (rules ++ more) source = .error error := by
  obtain ⟨chunks, left, rule, found, hcut, hne, hfirst, herror⟩ := lex_eq_error_iff.mp h
  exact (hcut.append more).lex_of_error hne (hfirst.append more) herror

/-- Further rules find nothing else where nothing is left over. -/
theorem lex_append_of_leftover {lexed : Lexed} (h : lex rules source = .ok lexed) (hempty : lexed.leftover = "")
    (more : List Rule) : lex (rules ++ more) source = .ok lexed := by
  obtain ⟨chunks, left, hcut, -, rfl⟩ := lex_eq_ok_iff.mp h
  obtain rfl : left = [] := by simpa [Lexed.ofChunks] using hempty
  exact (hcut.append more).lex_of_unmatched (absurd rfl)

end

/-- With one more rule a parser fails for a text as it has failed before, with the same error.  Else the tokens that it
has found are still the first ones, and those of what was left over follow, found by all of the rules.  If nothing was
left over, then the tokens of the text are the same, and so is the result of parsing it. -/
theorem lex_addRule [Runtime] (parser : Parser) (rule : Rule) (source : String) :
    (∀ error, parser.lex source = .error error → (parser.addRule rule).lex source = .error error) ∧
    ∀ lexed, parser.lex source = .ok lexed → ∃ tokens, lexed.tokens = tokens ++ [.endOfInput] ∧
      (parser.addRule rule).lex source = ((parser.addRule rule).lex lexed.leftover).map (.behind tokens) ∧
      (lexed.leftover = "" → (parser.addRule rule).lex source = .ok lexed ∧
        (parser.addRule rule).parseResult source = parser.parseResult source) := by
  refine ⟨fun error h => lex_append_of_error h [rule], fun lexed h => ?_⟩
  obtain ⟨chunks, left, hcut, -, hlexed⟩ := lex_eq_ok_iff.mp h
  refine ⟨chunks.map Chunk.token, by rw [hlexed]; rfl, ?_, fun hempty => ?_⟩
  · have hmore := (hcut.append [rule]).lex_eq
    rw [hlexed]
    exact hmore
  · have hsame : (parser.addRule rule).lex source = .ok lexed := lex_append_of_leftover h hempty [rule]
    refine ⟨hsame, ?_⟩
    unfold Parser.parseResult
    rw [hsame, h]

end Precedence
