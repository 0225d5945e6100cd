import Std.Data.TreeMap

/-!
# Parsing expression grammars

A grammar is data: an expression for each of its rules. `Machine.run` reads a row of tokens by a grammar. A choice
takes its first alternative that matches, the outcome of a rule at a place is found once and remembered, and the
machine keeps count of the tokens that it has looked at. Some alternatives only tell what is wrong with a text that the
grammar refuses; they match nothing unless the machine is diagnosing.
-/
namespace GlobalSurvey.Source

/-- Parsing expressions over tokens `τ` and rules `ρ`, where a match of rule `r` yields a `res r`. A parse may be
broken off with an error of type `ε`. -/
inductive Peg (τ : Type) {ρ : Type} (res : ρ → Type) (ε : Type) : Type → Type 1 where
  | done {α : Type} (a : α) : Peg τ res ε α
  | token {α : Type} (accept : τ → Option α) : Peg τ res ε α
  | rule (r : ρ) : Peg τ res ε (res r)
  | ap {α β : Type} (f : Peg τ res ε (α → β)) (x : Peg τ res ε α) : Peg τ res ε β
  /-- The first expression, or the second where the first does not match. -/
  | choice {α : Type} (p q : Peg τ res ε α) : Peg τ res ε α
  | many {α : Type} (p : Peg τ res ε α) : Peg τ res ε (List α)
  /-- Matches where the expression does, and reads nothing. -/
  | ahead {α : Type} (p : Peg τ res ε α) : Peg τ res ε Unit
  /-- Matches where the expression does not, and reads nothing. -/
  | notAhead {α : Type} (p : Peg τ res ε α) : Peg τ res ε Unit
  /-- Breaks the parse off where the match is refused. -/
  | checked {α β : Type} (p : Peg τ res ε α) (check : α → Except ε β) : Peg τ res ε β
  /-- An alternative that is tried only while diagnosing. -/
  | diagnosis {α : Type} (p : Peg τ res ε α) : Peg τ res ε α
  | reject {α : Type} (e : ε) : Peg τ res ε α

namespace Peg
variable {τ ρ ε : Type} {res : ρ → Type} {α β : Type}

instance : Applicative (Peg τ res ε) where
  pure := .done
  seq f x := .ap f (x ())

instance : OrElse (Peg τ res ε α) := ⟨fun p q => .choice p (q ())⟩

/-- The expression, or nothing. -/
def optional (p : Peg τ res ε α) : Peg τ res ε (Option α) := some <$> p <|> pure none
/-- Whether the expression matches; it is read if it does. -/
def present (p : Peg τ res ε α) : Peg τ res ε Bool := (fun _ => true) <$> p <|> pure false
/-- The expression once or more often. -/
def many1 (p : Peg τ res ε α) : Peg τ res ε (List α) := List.cons <$> p <*> .many p
/-- The expression once or more often, parted by a separator. -/
def sepBy1 (p : Peg τ res ε α) (sep : Peg τ res ε β) : Peg τ res ε (List α) :=
  List.cons <$> p <*> .many (sep *> p)
/-- The first of the alternatives that matches. -/
def firstOf (p : Peg τ res ε α) (alternatives : List (Peg τ res ε α)) : Peg τ res ε α :=
  match alternatives with
  | [] => p
  | q :: rest => .choice p (firstOf q rest)
/-- The expression, its match thrown away. -/
def skip (p : Peg τ res ε α) : Peg τ res ε Unit := (fun _ => ()) <$> p

end Peg

/-- A grammar: the expression of each rule, and a numbering of the rules below `count`. -/
structure Grammar (τ : Type) {ρ : Type} (res : ρ → Type) (ε : Type) where
  rules : (r : ρ) → Peg τ res ε (res r)
  index : ρ → Nat
  /-- A bound on the numbers. -/
  count : Nat

/-- A grammar set up to read a row of tokens. -/
structure Machine (τ : Type) {ρ : Type} (res : ρ → Type) (ε : Type) extends Grammar τ res ε where
  tokens : Array τ
  /-- The error for reading on past the row. -/
  pastEnd : ε
  /-- Alternatives marked as diagnoses are tried. -/
  diagnosing : Bool

/-- What a run has found out so far. -/
structure Progress {ρ : Type} (res : ρ → Type) where
  /-- The number of tokens looked at. -/
  seen : Nat
  /-- The outcome of rules at places. -/
  memo : Std.TreeMap Nat (Option ((r : ρ) × res r × Nat))

namespace Machine
variable {τ ρ ε : Type} {res : ρ → Type} [DecidableEq ρ]

/-- Matches an expression at a place, giving the value of the match and the place after it. -/
def run (m : Machine τ res ε) : {α : Type} → (fuel : Nat) → Peg τ res ε α → Nat →
    EStateM ε (Progress res) (Option (α × Nat))
  | _, 0, _, _ => pure none
  | _, fuel + 1, p, place => match p with
    | .done a => pure (some (a, place))
    | .token accept => do
      match m.tokens[place]? with
      | none => throw m.pastEnd
      | some t =>
        modify fun s => { s with seen := max s.seen (place + 1) }
        pure ((accept t).map fun a => (a, place + 1))
    | .rule r => do
      let key := place * m.count + m.index r
      match (← get).memo[key]? with
      | some none => pure none
      | some (some ⟨r', a, after⟩) =>
        if same : r' = r then pure (some (same ▸ a, after)) else pure none
      | none =>
        let outcome ← m.run fuel (m.rules r) place
        modify fun s => { s with memo := s.memo.insert key (outcome.map fun (a, after) => ⟨r, a, after⟩) }
        pure outcome
    | .ap f x => do
      match ← m.run fuel f place with
      | none => pure none
      | some (g, middle) =>
        match ← m.run fuel x middle with
        | none => pure none
        | some (a, after) => pure (some (g a, after))
    | .choice p q => do
      match ← m.run fuel p place with
      | some outcome => pure (some outcome)
      | none => m.run fuel q place
    | .many p => do
      match ← m.run fuel p place with
      | none => pure (some ([], place))
      | some (a, middle) =>
        match ← m.run fuel (.many p) middle with
        | none => pure none
        | some (as, after) => pure (some (a :: as, after))
    | .ahead p => do
      match ← m.run fuel p place with
      | none => pure none
      | some _ => pure (some ((), place))
    | .notAhead p => do
      match ← m.run fuel p place with
      | none => pure (some ((), place))
      | some _ => pure none
    | .checked p check => do
      match ← m.run fuel p place with
      | none => pure none
      | some (a, after) =>
        match check a with
        | .ok b => pure (some (b, after))
        | .error e => throw e
    | .diagnosis p => if m.diagnosing then m.run fuel p place else pure none
    | .reject e => throw e

/-- How a parse ends. -/
inductive Outcome (ε α : Type) where
  | matched (a : α)
  /-- The expression does not match; so many tokens have been looked at. -/
  | refused (seen : Nat)
  | broken (e : ε)

/-- The longest chain of steps between two tokens that a grammar may need. -/
def stepsPerToken : Nat := 2048

/-- Matches an expression at the start of the row. -/
def parse {α : Type} (m : Machine τ res ε) (p : Peg τ res ε α) : Outcome ε α :=
  match (m.run (stepsPerToken * (m.tokens.size + 1)) p 0).run ⟨0, ∅⟩ with
  | .ok (some (a, _)) _ => .matched a
  | .ok none progress => .refused progress.seen
  | .error e _ => .broken e

end Machine

end GlobalSurvey.Source
