import Requisite.Json.Basic

/-!
# Reading JSON

A text can end too early, break the grammar, or be JSON of the wrong shape. The fault that
comes first in the text is the one that is told.
-/

namespace Requisite.Json

inductive Fault where
  | eof
  | grammar
  /-- The text is JSON so far, but not of the form that is wanted. -/
  | shape
  deriving DecidableEq, Repr

def isBlank (c : Char) : Bool := c == ' ' || c == '\n' || c == '\t' || c == '\r'

def skipBlanks (cs : List Char) : List Char := cs.dropWhile isBlank

/-- The rest of a word after its first letter. -/
def word : List Char → List Char → Except Fault (List Char)
  | [], cs => .ok cs
  | _ :: _, [] => .error .eof
  | w :: ws, c :: cs => if w == c then word ws cs else .error .grammar

/-! ## Strings -/

def hexDigit? (c : Char) : Option Nat :=
  if c.isDigit then some (c.toNat - '0'.toNat)
  else if 'a' ≤ c && c ≤ 'f' then some (c.toNat - 'a'.toNat + 10)
  else if 'A' ≤ c && c ≤ 'F' then some (c.toNat - 'A'.toNat + 10)
  else none

/-- The code of four hexadecimal digits. A rest of four bytes or more has not ended early, even
if it has fewer characters. -/
def hexCode (cs : List Char) : Except Fault Nat :=
  if (String.ofList (cs.take 4)).utf8ByteSize < 4 then .error .eof
  else
    match (cs.take 4).mapM hexDigit? with
    | some ds => .ok (ds.foldl (fun n d => 16 * n + d) 0)
    | none => .error .grammar

/-- After the first of two surrogates there must be the second. -/
def trailCode (cs : List Char) : Except Fault Nat :=
  match cs with
  | [] => .error .eof
  | '\\' :: [] => .error .eof
  | '\\' :: 'u' :: cs => do
    let code ← hexCode cs
    if 0xdc00 ≤ code && code ≤ 0xdfff then .ok code else .error .grammar
  | _ => .error .grammar

/-- The character of an escape, and how many characters it takes after its backslash. -/
def escape (cs : List Char) : Except Fault (Char × Nat) :=
  match cs with
  | [] => .error .eof
  | '"' :: _ => .ok ('"', 1)
  | '\\' :: _ => .ok ('\\', 1)
  | '/' :: _ => .ok ('/', 1)
  | 'b' :: _ => .ok ('\x08', 1)
  | 'f' :: _ => .ok ('\x0c', 1)
  | 'n' :: _ => .ok ('\n', 1)
  | 'r' :: _ => .ok ('\r', 1)
  | 't' :: _ => .ok ('\t', 1)
  | 'u' :: cs => do
    let code ← hexCode cs
    if 0xdc00 ≤ code && code ≤ 0xdfff then .error .grammar
    else if 0xd800 ≤ code && code ≤ 0xdbff then
      let trail ← trailCode (cs.drop 4)
      .ok (Char.ofNat (0x10000 + (code - 0xd800) * 0x400 + (trail - 0xdc00)), 11)
    else .ok (Char.ofNat code, 5)
  | _ => .error .grammar

/-- A string up to its closing quote, last character first. The first `skip` characters belong
to an escape that has been read. -/
def stringFrom (acc : List Char) (skip : Nat) : List Char → Except Fault (String × List Char)
  | [] => .error .eof
  | c :: cs =>
    if 0 < skip then stringFrom acc (skip - 1) cs
    else if c == '"' then .ok (String.ofList acc.reverse, cs)
    else if c == '\\' then do
      let (d, size) ← escape cs
      stringFrom (d :: acc) size cs
    else if c.toNat < 0x20 then .error .grammar
    else stringFrom (c :: acc) 0 cs

/-! ## Numbers -/

def maxSignificand : Nat := Nat.pow 2 64 - 1

def digitValue (c : Char) : Nat := c.toNat - '0'.toNat

/-- Digits that fit into the significand. Those from the first on that do not are only
counted. -/
structure Significand where
  value : Nat
  taken : Nat
  dropped : Nat

def significand (start : Significand) (digits : List Char) : Significand :=
  digits.foldl (fun s c =>
    let value := 10 * s.value + digitValue c
    if 0 < s.dropped || maxSignificand < value then { s with dropped := s.dropped + 1 }
    else { s with value, taken := s.taken + 1 }) start

def decimal (negative : Bool) (value : Nat) (exponent : Int) (rest : List Char) :
    Except Fault (Json × List Char) :=
  match Double.ofDecimal? negative value exponent with
  | some x => .ok (.float x, rest)
  | none => .error .grammar

def maxDecimalExponent : Nat := Nat.pow 2 31 - 1

def exponentPart (negative : Bool) (value : Nat) (exponent : Int) (cs : List Char) :
    Except Fault (Json × List Char) :=
  let (below, cs) := match cs with
    | '+' :: cs => (false, cs)
    | '-' :: cs => (true, cs)
    | cs => (false, cs)
  match cs with
  | [] => .error .eof
  | c :: _ =>
    if c.isDigit then
      let digits := cs.takeWhile Char.isDigit
      let rest := cs.dropWhile Char.isDigit
      let e := digits.foldl (fun n c => 10 * n + digitValue c) 0
      if maxDecimalExponent < e then
        if value != 0 && !below then .error .grammar else .ok (.float (Double.zero negative), rest)
      else decimal negative value (if below then exponent - e else exponent + e) rest
    else .error .grammar

def afterDigits (negative : Bool) (value : Nat) (exponent : Int) (cs : List Char) :
    Except Fault (Json × List Char) :=
  match cs with
  | 'e' :: cs | 'E' :: cs => exponentPart negative value exponent cs
  | cs => decimal negative value exponent cs

/-- After the point of a number. `exponent` counts the digits left out before it. -/
def fractionPart (negative : Bool) (whole : Nat) (exponent : Int) (cs : List Char) :
    Except Fault (Json × List Char) :=
  let digits := cs.takeWhile Char.isDigit
  let rest := cs.dropWhile Char.isDigit
  match digits with
  | [] => if rest.isEmpty then .error .eof else .error .grammar
  | _ =>
    let s := significand ⟨whole, 0, 0⟩ digits
    afterDigits negative s.value (exponent - s.taken) rest

def integer (negative : Bool) (value : Nat) : Json :=
  if negative then
    if value == 0 || Nat.pow 2 63 < value then
      match Double.ofDecimal? true value 0 with
      | some x => .float x
      | none => .null
    else .int (-value)
  else .int value

def number (negative : Bool) (cs : List Char) : Except Fault (Json × List Char) :=
  let digits := cs.takeWhile Char.isDigit
  let rest := cs.dropWhile Char.isDigit
  match digits with
  | [] => if rest.isEmpty then .error .eof else .error .grammar
  | '0' :: _ :: _ => .error .grammar
  | _ =>
    let s := significand ⟨0, 0, 0⟩ digits
    match rest with
    | '.' :: rest => fractionPart negative s.value s.dropped rest
    | rest =>
      let isFloat := match rest with
        | 'e' :: _ | 'E' :: _ => true
        | _ => 0 < s.dropped
      if isFloat then afterDigits negative s.value s.dropped rest
      else .ok (integer negative s.value, rest)

/-! ## Arrays and objects -/

/-- The items of an array, last first. -/
def items (item : List Char → Except Fault (Json × List Char)) :
    Nat → Bool → List Json → List Char → Except Fault (List Json × List Char)
  | 0, _, _, _ => .error .eof
  | fuel + 1, first, acc, cs =>
    match skipBlanks cs with
    | [] => .error .eof
    | ']' :: rest => .ok (acc, rest)
    | c :: rest =>
      if first then do
        let (v, rest) ← item (c :: rest)
        items item fuel false (v :: acc) rest
      else if c == ',' then
        match skipBlanks rest with
        | [] => .error .eof
        | ']' :: _ => .error .grammar
        | rest => do
          let (v, rest) ← item rest
          items item fuel false (v :: acc) rest
      else .error .grammar

def key (cs : List Char) : Except Fault (String × List Char) :=
  match cs with
  | [] => .error .eof
  | '"' :: cs => do
    let (k, rest) ← stringFrom [] 0 cs
    match skipBlanks rest with
    | [] => .error .eof
    | ':' :: rest => .ok (k, rest)
    | _ => .error .grammar
  | _ => .error .grammar

/-- The entries of an object, each taken up by `entry` as it comes. -/
def entries (entry : σ → String → List Char → Except Fault (σ × List Char)) :
    Nat → Bool → σ → List Char → Except Fault (σ × List Char)
  | 0, _, _, _ => .error .eof
  | fuel + 1, first, acc, cs =>
    match skipBlanks cs with
    | [] => .error .eof
    | '\x7d' :: rest => .ok (acc, rest)
    | c :: rest =>
      if first then do
        let (k, rest) ← key (c :: rest)
        let (acc, rest) ← entry acc k rest
        entries entry fuel false acc rest
      else if c == ',' then do
        let (k, rest) ← key (skipBlanks rest)
        let (acc, rest) ← entry acc k rest
        entries entry fuel false acc rest
      else .error .grammar

/-- A value in which arrays and objects nest at most `depth` deep. -/
def value (depth : Nat) (cs : List Char) : Except Fault (Json × List Char) :=
  match skipBlanks cs with
  | [] => .error .eof
  | 'n' :: cs => do return (.null, ← word ['u', 'l', 'l'] cs)
  | 't' :: cs => do return (.bool true, ← word ['r', 'u', 'e'] cs)
  | 'f' :: cs => do return (.bool false, ← word ['a', 'l', 's', 'e'] cs)
  | '"' :: cs => do
    let (s, rest) ← stringFrom [] 0 cs
    return (.str s, rest)
  | '-' :: cs => number true cs
  | '[' :: cs =>
    match depth with
    | 0 => .error .grammar
    | depth + 1 => do
      let (vs, rest) ← items (value depth) (cs.length + 1) true [] cs
      return (.array vs.reverse, rest)
  | '\x7b' :: cs =>
    match depth with
    | 0 => .error .grammar
    | depth + 1 => do
      let (fields, rest) ← entries (fun acc k cs => do
        let (v, rest) ← value depth cs
        return ((k, v) :: acc, rest)) (cs.length + 1) true [] cs
      return (.object (ofEntries fields.reverse), rest)
  | c :: cs => if c.isDigit then number false (c :: cs) else .error .grammar

def maxDepth : Nat := 127

def finish (result : Except Fault (α × List Char)) : Except Fault α := do
  let (a, rest) ← result
  if (skipBlanks rest).isEmpty then return a else .error .grammar

def parse (text : String) : Except Fault Json := finish (value maxDepth text.toList)

/-- The fault of a value that is not of the wanted form. Arrays and objects are not looked
into. -/
def refuse (cs : List Char) : Except Fault (α × List Char) :=
  match skipBlanks cs with
  | '[' :: _ | '\x7b' :: _ => .error .shape
  | cs => do
    let _ ← value 0 cs
    .error .shape

end Requisite.Json
