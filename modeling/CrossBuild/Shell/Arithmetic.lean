import CrossBuild.Shell.Numeral
import CrossBuild.Shell.Script

/-!
# Expressions

Expressions of whole numbers of 64 bits, with the operators of the C
language.  An expression is evaluated while it is read, from the left, so that
of several faults the first one is reported; the parts whose value does not
matter are read all the same, but have no effect.
-/
namespace CrossBuild.Shell.Arithmetic

/-- An operator between two numbers. -/
inductive Operator where
  | times | divided | modulo | plus | minus | leftShift | rightShift
  | less | atMost | greater | atLeast | equal | unequal
  | bitAnd | bitXor | bitOr
  deriving DecidableEq

/-- How tightly an operator binds; the tightest is zero. -/
def Operator.rank : Operator → Nat
  | times | divided | modulo => 0
  | plus | minus => 1
  | leftShift | rightShift => 2
  | less | atMost | greater | atLeast => 3
  | equal | unequal => 4
  | bitAnd => 5
  | bitXor => 6
  | bitOr => 7

/-- A rank that no operator has. -/
def looseRank : Nat := 8

/-- A token of an expression. -/
inductive Token where
  | number (n : Int64)
  | name (s : String)
  | operator (o : Operator)
  /-- An assignment, perhaps with an operator. -/
  | assign (o : Option Operator)
  | and | or | not | complement | leftParen | rightParen | question | colon
  /-- A character that is none. -/
  | stray
  /-- The end. -/
  | finish
  deriving DecidableEq

/-- Why an expression has no value. -/
inductive Fault where
  /-- A fault of the expression itself, in words. -/
  | expression (message : String)
  /-- The value of a variable is no number. -/
  | illegalNumber (text : String)
  /-- A quotient that no number of 64 bits is. -/
  | overflow

/-- The state of an evaluation. -/
structure State where
  /-- The token that comes next. -/
  token : Token
  /-- What follows it. -/
  rest : List Char
  /-- The variables set so far, the last one first. -/
  settings : List (String × Int64) := []

/-- An operation on an expression that is evaluated. -/
abbrev EvaluationM := ExceptT Fault (StateM State)

/-- The token for an operator that an equals sign may follow. -/
def assignable (o : Operator) : List Char → Token × List Char
  | '=' :: rest => (.assign (some o), rest)
  | rest => (.operator o, rest)

/-- The first token of a text, and what follows it. -/
def scan : List Char → Token × List Char
  | [] => (.finish, [])
  | c :: cs =>
    if c == ' ' || c == '\t' || c == '\n' then scan cs
    else if c.isDigit then
      let n := Numeral.readSigned none (c :: cs)
      (.number (Int64.ofInt n.value), n.rest)
    else if isNameStart c then
      let name := leadingName (c :: cs)
      (.name (String.ofList name), (c :: cs).drop name.length)
    else
      match c, cs with
      | '=', '=' :: cs => (.operator .equal, cs)
      | '=', cs => (.assign none, cs)
      | '>', '=' :: cs => (.operator .atLeast, cs)
      | '>', '>' :: cs => assignable .rightShift cs
      | '>', cs => (.operator .greater, cs)
      | '<', '=' :: cs => (.operator .atMost, cs)
      | '<', '<' :: cs => assignable .leftShift cs
      | '<', cs => (.operator .less, cs)
      | '|', '|' :: cs => (.or, cs)
      | '|', cs => assignable .bitOr cs
      | '&', '&' :: cs => (.and, cs)
      | '&', cs => assignable .bitAnd cs
      | '!', '=' :: cs => (.operator .unequal, cs)
      | '!', cs => (.not, cs)
      | '(', cs => (.leftParen, cs)
      | ')', cs => (.rightParen, cs)
      | '*', cs => assignable .times cs
      | '/', cs => assignable .divided cs
      | '%', cs => assignable .modulo cs
      | '+', cs => assignable .plus cs
      | '-', cs => assignable .minus cs
      | '~', cs => (.complement, cs)
      | '^', cs => assignable .bitXor cs
      | '?', cs => (.question, cs)
      | ':', cs => (.colon, cs)
      | _, _ => (.stray, c :: cs)

/-- Goes on to the next token. -/
def advance : EvaluationM Unit :=
  modify fun s =>
    let (token, rest) := scan s.rest
    { s with token, rest }

/-- The truth of a statement as a number. -/
def ofBool (b : Bool) : Int64 :=
  if b then 1 else 0

/-- The value of an operator. -/
def apply (o : Operator) (a b : Int64) : EvaluationM Int64 := do
  match o with
  | .times => return a * b
  | .divided | .modulo =>
    if b = 0 then throw (.expression "division by zero")
    else if a = Int64.minValue && b = -1 then throw .overflow
    else return if o = .divided then a / b else a % b
  | .plus => return a + b
  | .minus => return a - b
  | .leftShift => return a <<< (b &&& 63)
  | .rightShift => return a >>> (b &&& 63)
  | .less => return ofBool (a < b)
  | .atMost => return ofBool (a ≤ b)
  | .greater => return ofBool (b < a)
  | .atLeast => return ofBool (b ≤ a)
  | .equal => return ofBool (a = b)
  | .unequal => return ofBool (a ≠ b)
  | .bitAnd => return a &&& b
  | .bitXor => return a ^^^ b
  | .bitOr => return a ||| b

/-- The value of a variable. -/
def valueOf (lookup : String → Option String) (name : String) : EvaluationM Int64 := do
  match (← get).settings.lookup name with
  | some n => return n
  | none =>
    let text := (lookup name).getD ""
    match Numeral.whole? none text with
    | some n => return Int64.ofInt n
    | none => throw (.illegalNumber text)

mutual

/-- Reads a number, a variable, or what stands in parentheses, with signs before it. -/
def primary (lookup : String → Option String) : Nat → (live : Bool) → EvaluationM Int64
  | 0, _ => throw (.expression "expecting primary")
  | n + 1, live => do
    match (← get).token with
    | .leftParen =>
      advance
      let a ← assignment lookup n live
      if (← get).token ≠ .rightParen then throw (.expression "expecting ')'")
      advance
      return a
    | .number a =>
      advance
      return a
    | .name x =>
      advance
      if live then valueOf lookup x else return 0
    | .operator .plus =>
      advance
      primary lookup n live
    | .operator .minus =>
      advance
      return -(← primary lookup n live)
    | .not =>
      advance
      return ofBool ((← primary lookup n live) = 0)
    | .complement =>
      advance
      return ~~~(← primary lookup n live)
    | _ => throw (.expression "expecting primary")

/-- Reads what follows a number and an operator, up to an operator that binds no tighter
than `rank`. -/
def operation (lookup : String → Option String) :
    Nat → (live : Bool) → Int64 → Operator → (rank : Nat) → EvaluationM Int64
  | 0, _, _, _, _ => throw (.expression "expecting primary")
  | n + 1, live, a, o, rank => do
    advance
    let b ← primary lookup n live
    let b ←
      match (← get).token with
      | .operator p => if p.rank < o.rank then operation lookup n live b p o.rank else pure b
      | _ => pure b
    let a ← if live then apply o a b else pure b
    match (← get).token with
    | .operator p => if p.rank < rank then operation lookup n live a p rank else return a
    | _ => return a

/-- Reads numbers with operators between them. -/
def operations (lookup : String → Option String) : Nat → (live : Bool) → EvaluationM Int64
  | 0, _ => throw (.expression "expecting primary")
  | n + 1, live => do
    let a ← primary lookup n live
    match (← get).token with
    | .operator o => operation lookup n live a o looseRank
    | _ => return a

/-- Reads a conjunction. -/
def conjunction (lookup : String → Option String) : Nat → (live : Bool) → EvaluationM Int64
  | 0, _ => throw (.expression "expecting primary")
  | n + 1, live => do
    let a ← operations lookup n live
    if (← get).token = .and then
      advance
      let b ← conjunction lookup n (live && a ≠ 0)
      return ofBool (a ≠ 0 && b ≠ 0)
    else return a

/-- Reads a disjunction. -/
def disjunction (lookup : String → Option String) : Nat → (live : Bool) → EvaluationM Int64
  | 0, _ => throw (.expression "expecting primary")
  | n + 1, live => do
    let a ← conjunction lookup n live
    if (← get).token = .or then
      advance
      let b ← disjunction lookup n (live && a = 0)
      return ofBool (a ≠ 0 || b ≠ 0)
    else return a

/-- Reads a choice. -/
def choice (lookup : String → Option String) : Nat → (live : Bool) → EvaluationM Int64
  | 0, _ => throw (.expression "expecting primary")
  | n + 1, live => do
    let a ← disjunction lookup n live
    if (← get).token = .question then
      advance
      let b ← assignment lookup n (live && a ≠ 0)
      if (← get).token ≠ .colon then throw (.expression "expecting ':'")
      advance
      let c ← choice lookup n (live && a = 0)
      return if a ≠ 0 then b else c
    else return a

/-- Reads an assignment, or any expression. -/
def assignment (lookup : String → Option String) : Nat → (live : Bool) → EvaluationM Int64
  | 0, _ => throw (.expression "expecting primary")
  | n + 1, live => do
    let s ← get
    match s.token, (scan s.rest).1 with
    | .name x, .assign o =>
      advance
      advance
      let b ← assignment lookup n live
      if live then
        let value ←
          match o with
          | none => pure b
          | some o => do apply o (← valueOf lookup x) b
        modify fun s => { s with settings := (x, value) :: s.settings }
        return value
      else return b
    | _, _ => choice lookup n live

end

/-- Evaluates an expression: its value or its fault, and the variables that it sets, in
order. -/
def evaluate (lookup : String → Option String) (text : String) :
    Except Fault Int64 × List (String × Int64) :=
  let cs := text.toList
  let (token, rest) := scan cs
  let whole : EvaluationM Int64 := do
    let a ← assignment lookup (16 * (cs.length + 2)) true
    if (← get).token ≠ .finish then throw (.expression "expecting EOF")
    return a
  let (value, s) := whole.run { token, rest }
  (value, s.settings.reverse)

end CrossBuild.Shell.Arithmetic
