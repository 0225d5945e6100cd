import GlobalSurvey.Source.Grammar
import GlobalSurvey.Source.Lexer
import GlobalSurvey.Source.Literal

/-!
# From text to tree

A text that the grammar refuses is read once more with the diagnoses switched on, which settles the kind of its fault.
-/
namespace GlobalSurvey.Source
open Grammar

/-- The fault of a text whose row of tokens breaks off. -/
def TokenFault.toSyntaxFault : TokenFault → SyntaxFault
  | .malformed => .malformed
  | .unfinished => .malformed
  | .indentation => .indentation
  | .tabs => .tabs

def machine (literal : List StringToken → Except SyntaxFault Expr) (row : TokenRow) (diagnosing : Bool) :
    Machine Token Rule.Result SyntaxFault where
  toGrammar := grammar literal
  tokens := row.tokens
  pastEnd := (row.fault.getD .malformed).toSyntaxFault
  diagnosing := diagnosing

/-- A layout token of an indentation. -/
def Token.isIndentation : Token → Bool
  | .indent | .dedent => true
  | _ => false

/-- The fault of a text that the grammar refuses after looking at `seen` tokens. A fault of the indentation gives way
to a malformed token further on. -/
def diagnose {α : Type} (literal : List StringToken → Except SyntaxFault Expr) (row : TokenRow) (p : Phrase α)
    (seen : Nat) : SyntaxFault :=
  match (machine literal row true).parse p with
  | .broken .indentation => if row.fault = some .malformed then .malformed else .indentation
  | .broken fault => fault
  | _ => if row.tokens[seen - 1]?.any Token.isIndentation then .indentation else .malformed

def read {α : Type} (literal : List StringToken → Except SyntaxFault Expr) (row : TokenRow) (p : Phrase α) :
    Except SyntaxFault α :=
  match (machine literal row false).parse p with
  | .matched a => .ok a
  | .broken fault => .error fault
  | .refused seen => .error (diagnose literal row p seen)

/-- Reads neighbouring string literals. The expressions of replacement fields are texts of their own, read as if in
brackets; they hold literals in turn, at most `depth` deep. -/
def readLiterals : (depth : Nat) → List StringToken → Except SyntaxFault Expr
  | 0, _ => .error .malformed
  | depth + 1, literals =>
    Literal.joined (fun text =>
      read (readLiterals depth) (Lexer.tokenize ('(' :: text ++ [')'])) (expr .starExpressions)) literals

def parseModule (text : List Char) : Except SyntaxFault Module :=
  if text.contains '\x00' then .error .nullCharacter
  else read (readLiterals (text.length + 1)) (Lexer.tokenize text) wholeModule

end GlobalSurvey.Source
