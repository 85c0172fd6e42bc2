import CrossBuild.Machine

/-!
# Rehearsals

An executor that runs nothing and answers from a list: the first answer
whose pattern fits the displayed command, else a general answer, else a
failure.
-/
namespace CrossBuild

/-- Which commands an answer is for. -/
inductive CommandPattern where
  /-- One command. -/
  | exact (command : String)
  /-- Every command that starts with a text. -/
  | startsWith (text : String)
  /-- Every command that contains a text. -/
  | contains (text : String)
  /-- Every command. -/
  | any
  deriving DecidableEq, Repr

/-- Whether a displayed command fits a pattern. -/
def CommandPattern.fits (p : CommandPattern) (command : String) : Bool :=
  match p with
  | exact c => command == c
  | startsWith text => Text.startsWith command text
  | contains text => Text.contains command text
  | any => true

/-- Prepared answers to commands. -/
structure Rehearsal where
  /-- The answers, each with its pattern; the first that fits is given. -/
  answers : List (CommandPattern × Output) := []
  /-- The answer to every other command. -/
  otherwise : Option Output := none
  deriving Repr

namespace Rehearsal

/-- The answer to a displayed command. -/
def answer? (r : Rehearsal) (command : String) : Option Output :=
  ((r.answers.find? fun x => x.1.fits command).map Prod.snd) <|> r.otherwise

/-- The executor that gives the prepared answers. -/
def executor (r : Rehearsal) : Executor := fun m c =>
  { files := m.files
    outcome := match r.answer? c.display with
      | some output => .ok output
      | none => .error (.unexpectedCommand c.display) }

end Rehearsal

end CrossBuild
