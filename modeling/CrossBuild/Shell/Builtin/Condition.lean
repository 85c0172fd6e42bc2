import CrossBuild.Shell.Location
import CrossBuild.Shell.Numeral
import CrossBuild.Shell.Stream

/-!
# Conditions

The command `test`, which is also written with brackets.  What a word is,
an operator or an operand, depends on the words after it: an operator of one
operand that has none, or that stands before an operator of two operands, is
an operand itself.
-/
namespace CrossBuild.Shell

/-! ## 1. Operators -/

/-- What a word of a condition stands for, if it is no operand. -/
inductive Operator where
  /-- A property of one operand. -/
  | unary (holds : String → ShellM Bool)
  /-- A relation of two operands. -/
  | binary (holds : String → String → ShellM Bool)
  /-- The negation. -/
  | not
  /-- The conjunction. -/
  | and
  /-- The disjunction. -/
  | or
  /-- An opening parenthesis. -/
  | opening
  /-- A closing parenthesis. -/
  | closing

namespace Operator

/-- A property of the entry that a name leads to. -/
def ofEntry (holds : Entry → Bool) : Operator :=
  unary fun name => do
    match ← entryAt name with
    | .ok e => return holds e
    | .error _ => return false

/-- A property that no entry has. -/
def ofNothing : Operator :=
  ofEntry fun _ => false

/-- Whether a name leads to a link. -/
def ofLink : Operator :=
  unary fun name => do
    match ← unfollowed? name with
    | some (.link _) => return true
    | _ => return false

/-- Whether a name leads to a device for characters. -/
def ofDevice : Operator :=
  unary fun name => do
    match ← locate name with
    | .ok place => return place == nullPlace
    | .error _ => return false

/-- The number that a word is. -/
def numberIn (word : String) : ShellM Int := do
  match Numeral.whole? (some 10) word with
  | some n => return n
  | none => fail ("Illegal number: " ++ word)

/-- A relation of texts. -/
def ofTexts (holds : String → String → Bool) : Operator :=
  binary fun a b => return holds a b

/-- A relation of numbers. -/
def ofNumbers (holds : Int → Int → Bool) : Operator :=
  binary fun a b => do
    let m ← numberIn a
    return holds m (← numberIn b)

/-- Whether two names lead to the same entry. -/
def ofPlaces : Operator :=
  binary fun a b => do
    match ← entryAt a, ← entryAt b, ← locate a, ← locate b with
    | .ok _, .ok _, .ok p, .ok q => return p == q
    | _, _, _, _ => return false

/-- The operator that a word is. -/
def ofWord? (word : String) : Option Operator :=
  match word with
  | "-n" => some (unary fun s => return s != "")
  | "-z" => some (unary fun s => return s == "")
  | "-e" | "-r" | "-w" | "-O" | "-G" => some (ofEntry fun _ => true)
  | "-x" => some (ofEntry fun e =>
      match e with
      | .file _ executable => executable
      | _ => true)
  | "-f" => some (unary isFileAt)
  | "-d" => some (ofEntry Entry.isDirectory)
  | "-s" => some (ofEntry fun e =>
      match e with
      | .file data _ => !data.isEmpty
      | _ => true)
  | "-h" | "-L" => some ofLink
  | "-c" => some ofDevice
  | "-b" | "-p" | "-u" | "-g" | "-k" | "-S" => some ofNothing
  | "-t" => some (unary fun s => do
      let _ ← numberIn s
      return false)
  | "=" => some (ofTexts fun a b => a == b)
  | "!=" => some (ofTexts fun a b => a != b)
  | "<" => some (ofTexts fun a b => a < b)
  | ">" => some (ofTexts fun a b => b < a)
  | "-eq" => some (ofNumbers fun a b => a == b)
  | "-ne" => some (ofNumbers fun a b => a != b)
  | "-lt" => some (ofNumbers fun a b => a < b)
  | "-le" => some (ofNumbers fun a b => a ≤ b)
  | "-gt" => some (ofNumbers fun a b => b < a)
  | "-ge" => some (ofNumbers fun a b => b ≤ a)
  | "-nt" | "-ot" => some (binary fun _ _ => return false)
  | "-ef" => some ofPlaces
  | "!" => some not
  | "-a" => some and
  | "-o" => some or
  | "(" => some opening
  | ")" => some closing
  | _ => none

/-- Whether an operator has two operands. -/
def isBinary : Operator → Bool
  | binary _ => true
  | _ => false

end Operator

/-! ## 2. The words of a condition -/

/-- The part that a word plays where it stands. -/
inductive Role where
  /-- There is no word. -/
  | absent
  /-- An operand. -/
  | operand
  /-- An operator. -/
  | operator (o : Operator)

/-- Whether the word at a place is an operator of two operands. -/
def isBinaryAt (words : Array String) (i : Nat) : Bool :=
  (words[i]?.bind Operator.ofWord?).any Operator.isBinary

/-- The part that the word at a place plays. -/
def roleAt (words : Array String) (i : Nat) : Role :=
  match words[i]? with
  | none => .absent
  | some word =>
    match Operator.ofWord? word with
    | none => .operand
    | some (.unary holds) =>
      if i + 1 < words.size && !(i + 2 < words.size && isBinaryAt words (i + 1)) then
        .operator (.unary holds)
      else .operand
    | some .opening => if i + 1 < words.size then .operator .opening else .operand
    | some o => .operator o

/-- Fails because of a word. -/
def failAt {α : Type} (words : Array String) (i : Nat) (message : String) : ShellM α :=
  match words[i]? with
  | some word => fail (if word = "" then message else word ++ ": " ++ message)
  | none => fail message

/-! ## 3. Conditions

Each function reads from the place `i`, where a word of the role `r` stands,
and gives the truth and the place of the last word read.  The bound is more
than the number of words, four times. -/

mutual

/-- Conditions of which one has to hold, after one of the truth `before`. -/
def anyOf : Nat → Array String → Role → Nat → (before : Bool) → ShellM (Bool × Nat)
  | 0, _, _, i, before => return (before, i)
  | n + 1, words, r, i, before => do
    let (b, i) ← allOf n words r i true
    let truth := before || b
    match roleAt words (i + 1) with
    | .operator .or => anyOf n words (roleAt words (i + 2)) (i + 2) truth
    | _ => return (truth, i)

/-- Conditions all of which have to hold, after one of the truth `before`. -/
def allOf : Nat → Array String → Role → Nat → (before : Bool) → ShellM (Bool × Nat)
  | 0, _, _, i, before => return (before, i)
  | n + 1, words, r, i, before => do
    let (b, i) ← negatable n words r i
    let truth := before && b
    match roleAt words (i + 1) with
    | .operator .and => allOf n words (roleAt words (i + 2)) (i + 2) truth
    | _ => return (truth, i)

/-- A condition that may be negated. -/
def negatable : Nat → Array String → Role → Nat → ShellM (Bool × Nat)
  | 0, _, _, i => return (false, i)
  | n + 1, words, r, i => do
    match r with
    | .operator .not =>
      let next := roleAt words (i + 1)
      let (b, i) ← negatable n words next (if i + 1 < words.size then i + 1 else i)
      return (!b, i)
    | _ => simple n words r i

/-- A condition without connectives, or one in parentheses. -/
def simple : Nat → Array String → Role → Nat → ShellM (Bool × Nat)
  | 0, _, _, i => return (false, i)
  | n + 1, words, r, i => do
    match r with
    | .absent => return (false, i)
    | .operator .opening =>
      match roleAt words (i + 1) with
      | .operator .closing => return (false, i + 1)
      | inner =>
        let (b, i) ← anyOf n words inner (i + 1) false
        match roleAt words (i + 1) with
        | .operator .closing => return (b, i + 1)
        | _ => fail "closing paren expected"
    | .operator (.unary holds) =>
      match words[i + 1]? with
      | some operand => return (← holds operand, i + 1)
      | none => failAt words i "argument expected"
    | _ =>
      match roleAt words (i + 1) with
      | .operator (.binary holds) =>
        match words[i]?, words[i + 2]? with
        | some a, some b => return (← holds a b, i + 2)
        | _, _ => failAt words (i + 1) "argument expected"
      | _ => return (words[i]?.any (· != ""), i)

end

/-- The truth of words as one condition, of which the first has the role `r`. -/
def truthFrom (words : Array String) (r : Role) : ShellM Bool := do
  let (b, i) ← anyOf (4 * words.size + 4) words r 0 false
  if i + 1 < words.size then failAt words i "unexpected operator"
  else return b

/-- The truth of a condition.  Three and four words are looked at for a relation, for
parentheses and for a negation first; a second negation found so changes nothing.  The
bound is the number of words. -/
def truthOf : Nat → (isNegated : Bool) → List String → ShellM Bool
  | _, isNegated, [] => return isNegated
  | n, isNegated, first :: rest => do
    let words := (first :: rest).toArray
    let whole (r : Role) : ShellM Bool := do
      return isNegated != (← truthFrom words r)
    if words.size = 3 && isBinaryAt words 1 then whole .operand
    else
      match n with
      | 0 => whole (roleAt words 0)
      | n + 1 =>
        let isShort := words.size = 3 || words.size = 4
        if isShort && first = "(" && rest.getLast? == some ")" then
          truthOf n isNegated rest.dropLast
        else if isShort && first = "!" then truthOf n true rest
        else whole (roleAt words 0)

/-- The command `test`. -/
def test (arguments : List String) : ShellM Nat := do
  return if ← truthOf arguments.length false arguments then 0 else 1

/-- The command `test` written with brackets. -/
def bracketTest (arguments : List String) : ShellM Nat := do
  match arguments.getLast? with
  | some last => if last.toList.head? == some ']' then test arguments.dropLast else fail "missing ]"
  | none => fail "missing ]"

end CrossBuild.Shell
