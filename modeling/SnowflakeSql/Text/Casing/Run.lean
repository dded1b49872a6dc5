/-!
# Runs of case mappings

Case mappings come in runs: every `step`-th character from `first` to `last` is mapped to the
one `shift` code points further on.  `CaseRun.image?` is the mapping of one run, and
`mapByRuns` looks a character up in a list of runs and a list of expansions.
-/

namespace SnowflakeSql.Text

/-- Every `step`-th code point from `first` to `last`, mapped by adding `shift`. -/
structure CaseRun where
  first : Nat
  last : Nat
  step : Nat
  shift : Int
  deriving DecidableEq, Repr

/-- What the run maps the code point to, if it is one of the run's. -/
def CaseRun.image? (run : CaseRun) (n : Nat) : Option Nat :=
  if run.first ≤ n ∧ n ≤ run.last ∧ (n - run.first) % run.step = 0 then
    some ((n : Int) + run.shift).toNat
  else none

/-- The mapping of a character: its expansion, or its image under the first run that has it,
or the character itself. -/
def mapByRuns (expansions : List (Nat × List Nat)) (runs : List CaseRun) (c : Char) :
    List Char :=
  match expansions.lookup c.toNat with
  | some codes => codes.map Char.ofNat
  | none =>
    match runs.findSome? (·.image? c.toNat) with
    | some code => [Char.ofNat code]
    | none => [c]

end SnowflakeSql.Text
