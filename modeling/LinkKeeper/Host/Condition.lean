import LinkKeeper.Host.Files
import LinkKeeper.Host.Raw

/-!
Conditions that programs are asked to test, given as words.

* `Condition.holds?`: whether the condition holds, or what is wrong with it.
-/

namespace LinkKeeper

namespace Condition

/-- What a word can be in a condition besides an operand. -/
inductive Operator where
  | unary (letter : Char)
  | binary (name : String)
  | negation
  | both
  | either
  | opening
  | closing
  deriving DecidableEq

/-- The letters of the operators of one operand. -/
def unaryLetters : Raw := "rwxefdcbpugkstznhOGLS".toList

/-- The operators of two operands. -/
def binaryNames : List String :=
  ["=", "!=", "<", ">", "-eq", "-ne", "-ge", "-gt", "-le", "-lt", "-nt", "-ot", "-ef"]

/-- The operator that a word is. -/
def operator? (w : Raw) : Option Operator :=
  if binaryNames.contains (String.ofList w) then some (.binary (String.ofList w))
  else
    match w with
    | ['!'] => some .negation
    | ['('] => some .opening
    | [')'] => some .closing
    | ['-', 'a'] => some .both
    | ['-', 'o'] => some .either
    | ['-', c] => if unaryLetters.contains c then some (.unary c) else none
    | _ => none

/-- The operator that the first of some words is where it stands. -/
def leading? (ws : List Raw) : Option Operator :=
  match ws with
  | [] => none
  | w :: rest =>
    match operator? w, rest with
    | some (.unary _), [] => none
    | some (.unary c), [_] => some (.unary c)
    | some (.unary c), x :: _ =>
      match operator? x with
      | some (.binary _) => none
      | _ => some (.unary c)
    | some .opening, [] => none
    | op, _ => op

/-- What is wrong with a condition. -/
abbrev Fault := Raw

def fault (w : Raw) (message : String) : Fault :=
  if w.isEmpty then message.toList else w ++ ": ".toList ++ message.toList

/-- The number that a word is, in decimal digits. -/
def number (w : Raw) : Except Fault Int :=
  let body := w.dropWhile Raw.isBlank
  let (negative, body) := match body with
    | '-' :: rest => (true, rest)
    | '+' :: rest => (false, rest)
    | rest => (false, rest)
  let (ds, rest) := Text.spanDigits 10 body
  let n : Int := Text.ofDigits 10 ds
  let i := if negative then -n else n
  if ds.isEmpty || !(rest.all Raw.isBlank) || i < -0x8000000000000000 || 0x7FFFFFFFFFFFFFFF < i then
    .error ("Illegal number: ".toList ++ w)
  else .ok i

/-- Whether something holds of one word. -/
def unary (letter : Char) (w : Raw) : Except Fault Bool :=
  let file := (HostFiles.open? (String.ofList w)).toOption
  match letter with
  | 'z' => .ok w.isEmpty
  | 'n' => .ok (!w.isEmpty)
  | 't' => (number w).map fun _ => false
  | 'e' | 'r' | 'w' => .ok file.isSome
  | 'd' => .ok (file = some .directory)
  | 'c' => .ok (file = some .void)
  | 'f' => .ok (file.any fun f => f ≠ .directory && f ≠ .void)
  | 's' => .ok (file.any (· ≠ .void))
  | 'x' => .ok (file.any fun
    | .directory | .program _ => true
    | _ => false)
  | _ => .ok false

/-- Whether something holds of two words. -/
def binary (name : String) (x y : Raw) : Except Fault Bool :=
  let compared (test : Int → Int → Bool) : Except Fault Bool := do
    let i ← number x
    return test i (← number y)
  match name with
  | "=" => .ok (x = y)
  | "!=" => .ok (x ≠ y)
  | "<" => .ok (x < y)
  | ">" => .ok (y < x)
  | "-eq" => compared fun i j => i = j
  | "-ne" => compared fun i j => i ≠ j
  | "-ge" => compared fun i j => j ≤ i
  | "-gt" => compared fun i j => j < i
  | "-le" => compared fun i j => i ≤ j
  | "-lt" => compared fun i j => i < j
  | "-ef" => .ok (x = y && (HostFiles.open? (String.ofList x)).toOption.isSome)
  | _ => .ok false

mutual

/-- Conditions of which one is to hold. What is left begins with the last word that was read. -/
def either : (fuel : Nat) → Option Operator → List Raw → Except Fault (Bool × List Raw)
  | 0, _, ws => .ok (false, ws)
  | fuel + 1, op, ws => do
    let (first, ws) ← all fuel op ws
    if leading? ws.tail = some .either then
      let rest := ws.drop 2
      let (second, ws) ← either fuel (leading? rest) rest
      return (first || second, ws)
    else return (first, ws)

/-- Conditions that are all to hold. -/
def all : (fuel : Nat) → Option Operator → List Raw → Except Fault (Bool × List Raw)
  | 0, _, ws => .ok (false, ws)
  | fuel + 1, op, ws => do
    let (first, ws) ← negated fuel op ws
    if leading? ws.tail = some .both then
      let rest := ws.drop 2
      let (second, ws) ← all fuel (leading? rest) rest
      return (first && second, ws)
    else return (first, ws)

/-- A condition that may be negated. -/
def negated : (fuel : Nat) → Option Operator → List Raw → Except Fault (Bool × List Raw)
  | 0, _, ws => .ok (false, ws)
  | fuel + 1, op, ws =>
    if op = some .negation then
      if ws.tail.isEmpty then .ok (true, ws)
      else (negated fuel (leading? ws.tail) ws.tail).map fun (b, ws) => (!b, ws)
    else single fuel op ws

/-- A condition on one word or two, or one between brackets. -/
def single : (fuel : Nat) → Option Operator → List Raw → Except Fault (Bool × List Raw)
  | 0, _, ws => .ok (false, ws)
  | _, _, [] => .ok (false, [])
  | fuel + 1, op, w :: rest =>
    match op, rest with
    | some .opening, _ =>
      if leading? rest = some .closing then .ok (false, rest)
      else do
        let (b, ws) ← either fuel (leading? rest) rest
        if leading? ws.tail = some .closing then return (b, ws.tail)
        else throw (fault [] "closing paren expected")
    | some (.unary _), [] => .error (fault w "argument expected")
    | some (.unary c), x :: more => (unary c x).map (·, x :: more)
    | _, x :: more =>
      match leading? (x :: more), more with
      | some (.binary _), [] => .error (fault x "argument expected")
      | some (.binary name), y :: more => (binary name w y).map (·, y :: more)
      | _, _ => .ok (!w.isEmpty, w :: x :: more)
    | _, [] => .ok (!w.isEmpty, [w])

end

/-- Whether a condition holds, or what is wrong with it. -/
def holds? (ws : List Raw) : Except Fault Bool :=
  match ws with
  | [] => .ok false
  | [x, y, z] =>
    match operator? y with
    | some (.binary name) => binary name x z
    | _ => bracketed ws
  | _ => bracketed ws
where
  /-- Reads a condition of three words or four in its own way. -/
  bracketed (ws : List Raw) : Except Fault Bool :=
    if (ws.length = 3 || ws.length = 4) && ws.head? = some ['('] && ws.getLast? = some [')'] then
      whole ws.tail.dropLast
    else if (ws.length = 3 || ws.length = 4) && ws.head? = some ['!'] then (whole ws.tail).map (!·)
    else whole ws
  /-- Reads a condition up to the last word. -/
  whole (ws : List Raw) : Except Fault Bool := do
    match ws with
    | [x, y, z] =>
      if let some (.binary name) := operator? y then return ← binary name x z
    | _ => pure ()
    let (b, left) ← either (8 * (ws.length + 2)) (leading? ws) ws
    match left with
    | w :: _ :: _ => throw (fault w "unexpected operator")
    | _ => return b

end Condition

end LinkKeeper
