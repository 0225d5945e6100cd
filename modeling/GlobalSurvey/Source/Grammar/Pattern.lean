import GlobalSurvey.Source.Grammar.Expression

/-!
# Patterns of `case` clauses
-/
namespace GlobalSurvey.Source.Grammar

def isImaginary (text : String) : Bool := text.toList.getLast?.any fun c => c == 'j' || c == 'J'

/-- A number of one kind; one of the other kind breaks the parse off. -/
def numberThat (imaginary : Bool) : Phrase Expr :=
  .checked numberText fun text =>
    if isImaginary text = imaginary ∧ !Numeral.isTooLong text.toList then .ok (.other .constant [])
    else .error .malformed

def signed (p : Phrase Expr) : Phrase Expr := p <|> (fun e => .other .unary [e]) <$> (op "-" *> p)

/-- A literal other than a word: a number, a sum of a real and an imaginary number, or strings. -/
def literalValue : Phrase Expr :=
  signed number <* .notAhead (anyOp ["+", "-"])
  <|> (fun left right => .other .binary [left, right])
    <$> signed (numberThat false) <*> (anyOp ["+", "-"] *> numberThat true)
  <|> expr .strings

def literalWord : Phrase Unit := kw "None" <|> kw "True" <|> kw "False"

/-- A name with any number of members. -/
def dottedPath : Phrase Expr :=
  (fun first members => members.foldl (fun e m => .attribute e m) first) <$> nameExpr <*> .many (op "." *> name)

/-- Elements parted by commas, with an optional comma at the end. -/
def patternList (p : Phrase Expr) : Phrase (List Expr) := Peg.sepBy1 p (op ",") <* .optional (op ",")

/-- `name=pattern` among the arguments of a class pattern. -/
def keywordPattern : Phrase Expr := name *> op "=" *> pattern .pattern

def patternRules : (r : PatternRule) → Phrase r.Result
  | .patterns => Expr.other .sequencePattern <$> pattern .openSequence <|> pattern .pattern
  | .pattern =>
    (fun p _ => .other .asPattern [p]) <$> (pattern .orPattern <* kw "as") <*> pattern .captureTarget
    <|> pattern .orPattern
  | .orPattern =>
    (fun first rest => if rest.isEmpty then first else .other .orPattern (first :: rest))
      <$> pattern .closedPattern <*> .many (op "|" *> pattern .closedPattern)
  | .closedPattern =>
    Peg.firstOf (pattern .literalPattern)
      [pattern .captureTarget,
       (fun _ => .other .asPattern []) <$> softKw "_",
       (fun e => .other .valuePattern [e]) <$> pattern .attributeName <* .notAhead (anyOp [".", "(", "="]),
       between "(" (pattern .pattern) ")",
       pattern .sequencePattern, pattern .mappingPattern, pattern .classPattern]
  | .literalPattern =>
    (fun e => .other .valuePattern [e]) <$> literalValue
    <|> (fun _ => .other .singletonPattern []) <$> literalWord
  | .literalKey => literalValue <|> (fun _ => .other .constant []) <$> literalWord
  | .captureTarget =>
    (fun _ => .other .asPattern []) <$> (.notAhead (softKw "_") *> name <* .notAhead (anyOp [".", "(", "="]))
  | .attributeName =>
    (fun first members => members.foldl (fun e m => .attribute e m) first)
      <$> nameExpr <*> Peg.many1 (op "." *> name)
  | .sequencePattern =>
    (fun ps => .other .sequencePattern (ps.getD []))
      <$> (between "[" (.optional (pattern .elementPatterns)) "]"
        <|> between "(" (.optional (pattern .openSequence)) ")")
  | .openSequence =>
    (fun first rest => first :: rest.getD [])
      <$> (pattern .elementPattern <* op ",") <*> .optional (pattern .elementPatterns)
  | .elementPatterns => patternList (pattern .elementPattern)
  | .elementPattern => pattern .starPattern <|> pattern .pattern
  | .starPattern =>
    (fun _ => .other .starPattern []) <$> (op "*" *> (.skip (pattern .captureTarget) <|> softKw "_"))
  | .mappingPattern =>
    let rest := op "**" *> pattern .captureTarget *> .optional (op ",")
    between "\x7b"
      (Expr.other .mappingPattern
        <$> (pattern .keyedPatterns <* op "," <* rest
          <|> pattern .keyedPatterns <* .optional (op ",")
          <|> (fun _ => []) <$> .optional rest))
      "\x7d"
  | .keyedPatterns =>
    (fun (pairs : List (Expr × Expr)) => pairs.map Prod.fst ++ pairs.map Prod.snd)
      <$> Peg.sepBy1
        (Prod.mk <$> (pattern .literalKey <|> pattern .attributeName) <*> (op ":" *> pattern .pattern)) (op ",")
  | .classPattern =>
    let keywords := patternList keywordPattern
    (fun cls arguments => .other .classPattern (cls :: arguments))
      <$> dottedPath
      <*> between "("
        (List.append <$> (Peg.sepBy1 (pattern .pattern) (op ",") <* op ",") <*> keywords
          <|> patternList (pattern .pattern)
          <|> keywords
          <|> pure [])
        ")"

end GlobalSurvey.Source.Grammar
