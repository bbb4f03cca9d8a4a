import CallWire.Json.Quoted

/-!
# JSON values

Values are read strictly: no comments, no trailing commas, no leading zeros. Of a number only its
use as a count is kept. Members of an object stay in order, repeated names included.

* `ofDigits?_eq_some_iff`: a count is read up to a limit, and no number above it is ever worked out.
-/

namespace CallWire.Json

inductive Value where
  | null
  | bool (b : Bool)
  /-- A number; its digits if it is written as an unsigned integer. -/
  | number (digits? : Option (List Char))
  | text (s : Literal)
  | array (items : List Value)
  | object (members : List (Literal × Value))

/-- What follows the blanks in front. -/
def skipBlanks : List Char → List Char
  | c :: rest =>
      if c = ' ' ∨ c = '\n' ∨ c = '\t' ∨ c = '\r' then skipBlanks rest else c :: rest
  | [] => []

/-- The digits in front and what follows them. -/
def digits (cs : List Char) : List Char × List Char :=
  (cs.takeWhile Char.isDigit, cs.dropWhile Char.isDigit)

/-- Reads the digits of a fraction, if there is a point. -/
def fraction? : List Char → Option (Bool × List Char)
  | '.' :: rest =>
      match digits rest with
      | ([], _) => none
      | (_, rest) => some (true, rest)
  | cs => some (false, cs)

/-- Reads an exponent, if there is a mark of one. -/
def exponent? : List Char → Option (Bool × List Char)
  | c :: rest =>
      if c = 'e' ∨ c = 'E' then
        let rest := match rest with
          | '+' :: r => r
          | '-' :: r => r
          | r => r
        match digits rest with
        | ([], _) => none
        | (_, rest) => some (true, rest)
      else some (false, c :: rest)
  | [] => some (false, [])

/-- Reads a number; returns its digits if it has neither sign nor fraction nor exponent. -/
def number? (cs : List Char) : Option (Option (List Char) × List Char) := do
  let (signed, cs) := match cs with
    | '-' :: rest => (true, rest)
    | rest => (false, rest)
  let (ds, cs) := digits cs
  match ds with
  | [] => none
  | '0' :: _ :: _ => none
  | ds =>
      let (fractional, cs) ← fraction? cs
      let (scaled, cs) ← exponent? cs
      some (if signed || fractional || scaled then none else some ds, cs)

/-- The number that ends in the digit `d` and is `n` before it. -/
def appendDigit (n : Nat) (d : Char) : Nat := n * 10 + (d.toNat - 48)

/-- The number that decimal digits stand for. -/
def ofDigits (ds : List Char) : Nat := ds.foldl appendDigit 0

/-- The number that decimal digits stand for, if it is at most `limit`. -/
def ofDigits? (limit : Nat) (ds : List Char) : Option Nat :=
  ds.foldlM (fun n d => if appendDigit n d ≤ limit then some (appendDigit n d) else none) 0

theorem le_foldl_appendDigit (ds : List Char) (n : Nat) : n ≤ ds.foldl appendDigit n := by
  induction ds generalizing n with
  | nil => exact Nat.le_refl n
  | cons d ds ih =>
    refine Nat.le_trans ?_ (ih _)
    simp only [appendDigit]
    omega

theorem ofDigits?_eq_some_iff {limit n : Nat} {ds : List Char} :
    ofDigits? limit ds = some n ↔ n = ofDigits ds ∧ n ≤ limit := by
  have from_any (m : Nat) (start : m ≤ limit) :
      ds.foldlM (fun n d => if appendDigit n d ≤ limit then some (appendDigit n d) else none) m
        = some n ↔ n = ds.foldl appendDigit m ∧ n ≤ limit := by
    induction ds generalizing m with
    | nil =>
      simp only [List.foldlM_nil, List.foldl_nil, pure, Option.some.injEq]
      omega
    | cons d ds ih =>
      rw [List.foldlM_cons, List.foldl_cons]
      split
      · rename_i small
        exact ih _ small
      · rename_i large
        have := le_foldl_appendDigit ds (appendDigit m d)
        simp only [bind, Option.bind, reduceCtorEq, false_iff]
        omega
  exact from_any 0 (Nat.zero_le limit)

mutual

/-- Reads a value; returns it and what follows. The budget bounds how many values, items and
members are begun. -/
def value : Nat → List Char → Option (Value × List Char)
  | 0, _ => none
  | budget + 1, cs =>
      match skipBlanks cs with
      | 'n' :: 'u' :: 'l' :: 'l' :: rest => some (.null, rest)
      | 't' :: 'r' :: 'u' :: 'e' :: rest => some (.bool true, rest)
      | 'f' :: 'a' :: 'l' :: 's' :: 'e' :: rest => some (.bool false, rest)
      | '"' :: rest => do
          let (s, rest) ← unquote rest
          some (.text s, rest)
      | '[' :: rest =>
          match skipBlanks rest with
          | ']' :: rest => some (.array [], rest)
          | rest => do
              let (vs, rest) ← items budget rest
              some (.array vs, rest)
      | '{' :: rest =>
          match skipBlanks rest with
          | '}' :: rest => some (.object [], rest)
          | rest => do
              let (ms, rest) ← members budget rest
              some (.object ms, rest)
      | cs => do
          let (n, rest) ← number? cs
          some (.number n, rest)

/-- Reads the items of an array up to its end. -/
def items : Nat → List Char → Option (List Value × List Char)
  | 0, _ => none
  | budget + 1, cs => do
      let (v, cs) ← value budget cs
      match skipBlanks cs with
      | ',' :: rest => do
          let (vs, rest) ← items budget rest
          some (v :: vs, rest)
      | ']' :: rest => some ([v], rest)
      | _ => none

/-- Reads the members of an object up to its end. -/
def members : Nat → List Char → Option (List (Literal × Value) × List Char)
  | 0, _ => none
  | budget + 1, cs =>
      match skipBlanks cs with
      | '"' :: rest => do
          let (name, rest) ← unquote rest
          match skipBlanks rest with
          | ':' :: rest => do
              let (v, rest) ← value budget rest
              match skipBlanks rest with
              | ',' :: rest => do
                  let (ms, rest) ← members budget rest
                  some ((name, v) :: ms, rest)
              | '}' :: rest => some ([(name, v)], rest)
              | _ => none
          | _ => none
      | _ => none

end

/-- The value that a whole text stands for. Each step of reading is paid for by a character. -/
def parse? (s : String) : Option Value :=
  match value (2 * s.length + 1) s.toList with
  | some (v, rest) => if (skipBlanks rest).isEmpty then some v else none
  | none => none

/-- The members under their names, unless a name is no text. -/
def named? (members : List (Literal × Value)) : Option (List (String × Value)) :=
  members.mapM fun (name?, v) => name?.map (·, v)

/-- The value of the member with the given name, which may be missing but not repeated. -/
def single? (members : List (String × Value)) (name : String) : Option (Option Value) :=
  match members.filter (·.1 = name) with
  | [] => some none
  | [(_, v)] => some (some v)
  | _ => none

namespace Value

/-- The text that a value is. -/
def text? : Value → Option String
  | text s => s
  | _ => none

/-- The count that a value is, if it is at most `limit`. -/
def count? (limit : Nat) : Value → Option Nat
  | number (some ds) => ofDigits? limit ds
  | _ => none

/-- Nothing if the value is null, and otherwise what `read` makes of it. -/
def optional? {α : Type} (read : Value → Option α) : Value → Option (Option α)
  | null => some none
  | v => (read v).map some

end Value

/-- Values as a JSON array, from their texts. -/
def array (items : List String) : String := "[" ++ String.intercalate "," items ++ "]"

/-- Members as a JSON object, from their names and the texts of their values. -/
def object (members : List (String × String)) : String :=
  "\x7b" ++ String.intercalate "," (members.map fun (name, v) => quote name ++ ":" ++ v) ++ "\x7d"

end CallWire.Json
