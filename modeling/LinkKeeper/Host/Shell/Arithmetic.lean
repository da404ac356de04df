import LinkKeeper.Host.Raw

/-!
Arithmetic of the command language: whole numbers of 64 bits with a sign, with the operators of
programming languages.

* `Arithmetic.evaluate`: the value of an expression, with the variables that it has set.
-/

namespace LinkKeeper.Shell

/-- What an expression reads and sets. -/
structure Arithmetic where
  /-- The value of a variable as a text. -/
  value : Raw → Raw
  assigned : List (Raw × Raw)

namespace Arithmetic

open Text

inductive Token where
  | number (i : Int)
  | name (r : Raw)
  | sign (s : String)
  | ended
  deriving DecidableEq

/-- The signs, the longer ones first. -/
def signs : List String :=
  ["<<=", ">>=", "==", "!=", "<=", ">=", "&&", "||", "<<", ">>", "+=", "-=", "*=", "/=", "%=", "&=", "^=",
    "|=", "+", "-", "*", "/", "%", "<", ">", "&", "^", "|", "!", "~", "?", ":", "=", "(", ")"]

/-- The operators of two operands, from those that bind least. -/
def levels : List (List String) :=
  [["||"], ["&&"], ["|"], ["^"], ["&"], ["==", "!="], ["<", "<=", ">", ">="], ["<<", ">>"], ["+", "-"],
    ["*", "/", "%"]]

/-- The number of 64 bits with a sign that agrees with a number in its lowest bits. -/
def wrap (i : Int) : Int := Int.bmod i 0x10000000000000000

/-- The nearest number of 64 bits with a sign. -/
def saturate (i : Int) : Int := max (-0x8000000000000000) (min 0x7FFFFFFFFFFFFFFF i)

/-- The next token, and what follows it. -/
def token? (cs : Raw) : Option (Token × Raw) :=
  match cs.dropWhile Raw.isBlank with
  | [] => some (.ended, [])
  | c :: rest =>
    let cs := c :: rest
    if c.isDigit then
      let (i, rest) := Raw.readInteger cs
      some (.number (saturate i), rest)
    else if Raw.isNameChar c then some (.name (cs.takeWhile Raw.isNameChar), cs.dropWhile Raw.isNameChar)
    else (signs.find? fun s => s.toList.isPrefixOf cs).map fun s => (.sign s, cs.drop s.length)

/-- Why an expression has no value. -/
inductive Fault where
  | expecting (what : String)
  | divisionByZero
  | illegalNumber (text : Raw)

/-- Reading an expression and computing its value. -/
abbrev Reader := StateT (Raw × Arithmetic) (Except Fault)

/-- The next token, which is taken. -/
def next : Reader Token := do
  let (cs, a) ← get
  match token? cs with
  | some (t, rest) =>
    set (rest, a)
    return t
  | none => throw (.expecting "primary")

/-- The next token, which is left where it is. -/
def peek : Reader Token := do
  let s ← get
  let t ← next
  set s
  return t

/-- The number that is the value of a variable. -/
def valueOf (name : Raw) : Reader Int := do
  let a := (← get).2
  let text := (a.assigned.lookup name).getD (a.value name)
  let (i, rest) := Raw.readInteger text
  if (rest.dropWhile Raw.isBlank).isEmpty && i = saturate i then return i
  throw (.illegalNumber text)

/-- The value of an operation. Division goes toward zero. -/
def apply (sign : String) (x y : Int) : Reader Int := do
  let truth (b : Bool) : Int := if b then 1 else 0
  let bits (i : Int) : BitVec 64 := BitVec.ofInt 64 i
  match sign with
  | "+" => return wrap (x + y)
  | "-" => return wrap (x - y)
  | "*" => return wrap (x * y)
  | "/" => if y = 0 then throw .divisionByZero else return wrap (x.tdiv y)
  | "%" => if y = 0 then throw .divisionByZero else return x.tmod y
  | "<<" => return (bits x <<< (y % 64).toNat).toInt
  | ">>" => return ((bits x).sshiftRight (y % 64).toNat).toInt
  | "<" => return truth (x < y)
  | "<=" => return truth (x ≤ y)
  | ">" => return truth (y < x)
  | ">=" => return truth (y ≤ x)
  | "==" => return truth (x = y)
  | "!=" => return truth (x ≠ y)
  | "&" => return (bits x &&& bits y).toInt
  | "^" => return (bits x ^^^ bits y).toInt
  | "|" => return (bits x ||| bits y).toInt
  | "&&" => return truth (x ≠ 0 && y ≠ 0)
  | _ => return truth (x ≠ 0 || y ≠ 0)

/-- Runs a part of an expression whose value may not count: then nothing is set or divided. -/
def idle (noEffect : Bool) (part : Reader Int) : Reader Int := do
  if noEffect then
    let (cs, a) ← get
    set (cs, { a with value := fun _ => [] })
    let i ← part
    set ((← get).1, a)
    return i
  else part

mutual

/-- A number, a variable, or an expression between brackets, with the signs in front of it. -/
def primary : (fuel : Nat) → Reader Int
  | 0 => throw (.expecting "primary")
  | fuel + 1 => do
    match ← next with
    | .number i => return i
    | .name r => valueOf r
    | .sign "+" => primary fuel
    | .sign "-" => return wrap (-(← primary fuel))
    | .sign "!" => return if (← primary fuel) = 0 then 1 else 0
    | .sign "~" => return -(← primary fuel) - 1
    | .sign "(" =>
      let i ← assignment fuel
      if (← next) = .sign ")" then return i
      throw (.expecting "')'")
    | _ => throw (.expecting "primary")

/-- Operations with operators that bind at least as the first of some levels do. -/
def operations : (fuel : Nat) → List (List String) → Reader Int
  | 0, _ => throw (.expecting "primary")
  | fuel + 1, [] => primary fuel
  | fuel + 1, signs :: tighter => do
    let first ← operations fuel tighter
    further fuel signs tighter first

/-- The operands that follow at one level. -/
def further : (fuel : Nat) → List String → List (List String) → Int → Reader Int
  | 0, _, _, _ => throw (.expecting "primary")
  | fuel + 1, signs, tighter, first => do
    match ← peek with
    | .sign s =>
      if signs.contains s then
        let _ ← next
        let unused := (s = "&&" && first = 0) || (s = "||" && first ≠ 0)
        let second ← idle unused (operations fuel tighter)
        further fuel signs tighter (← apply s first second)
      else return first
    | _ => return first

/-- A value that may be chosen by a condition. -/
def choice : (fuel : Nat) → Reader Int
  | 0 => throw (.expecting "primary")
  | fuel + 1 => do
    let test ← operations fuel levels
    if (← peek) = .sign "?" then
      let _ ← next
      let yes ← idle (test = 0) (assignment fuel)
      if (← next) ≠ .sign ":" then throw (.expecting "':'")
      let no ← idle (test ≠ 0) (choice fuel)
      return if test = 0 then no else yes
    else return test

/-- A value that may be given to a variable. -/
def assignment : (fuel : Nat) → Reader Int
  | 0 => throw (.expecting "primary")
  | fuel + 1 => do
    let start ← get
    match ← peek with
    | .name r =>
      let _ ← next
      match ← peek with
      | .sign s =>
        if s.endsWith "=" && !(["==", "!=", "<=", ">="].contains s) then
          let _ ← next
          let i ← assignment fuel
          let i ← if s = "=" then pure i else apply (s.dropEnd 1).toString (← valueOf r) i
          modify fun (cs, a) => (cs, { a with assigned := (r, Raw.ofInt i) :: a.assigned })
          return i
        else
          set start
          choice fuel
      | _ =>
        set start
        choice fuel
    | _ => choice fuel

end

/-- How a fault in an expression is told of. -/
def Fault.message (expression : Raw) : Fault → Raw
  | .expecting what => "arithmetic expression: expecting ".toList ++ what.toList ++ shown
  | .divisionByZero => "arithmetic expression: division by zero".toList ++ shown
  | .illegalNumber text => "Illegal number: ".toList ++ text
where
  /-- The expression itself, as it is told of. -/
  shown : Raw := ": \"".toList ++ expression ++ ['"']

/-- The value of an expression, and the variables that it sets, the latest one first. -/
def evaluate (value : Raw → Raw) (expression : Raw) : Except Fault (Int × List (Raw × Raw)) := do
  let whole : Reader Int := do
    let i ← assignment (16 * (expression.length + 2))
    if (← next) = .ended then return i
    throw (.expecting "EOF")
  let (i, _, a) ← whole.run (expression, ⟨value, []⟩)
  return (i, a.assigned)

end Arithmetic

end LinkKeeper.Shell
