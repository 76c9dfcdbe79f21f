import Requisite.Text.Identifier

/-!
# Tokens of scripts
-/

namespace Requisite.Script

inductive Sym where
  | lbrace | rbrace | lparen | rparen | lbracket | rbracket | semi | comma | colon | dot | ellipsis
  | arrow | question | questionDot | at | backtick
  | lt | gt | le | ge | eqEq | notEq | eqEqEq | notEqEq
  | plus | minus | star | slash | percent | starStar | shl | shr | ushr | amp | bar | caret
  | ampAmp | barBar | nullish | bang | tilde | plusPlus | minusMinus
  | eq | plusEq | minusEq | starEq | slashEq | percentEq | starStarEq | shlEq | shrEq | ushrEq
  | ampEq | barEq | caretEq | ampAmpEq | barBarEq | nullishEq
  deriving DecidableEq, Repr

/-- The spelling of a number that not every script may have. -/
inductive Spelling where
  | plain
  /-- `010` -/
  | octal
  /-- `09` -/
  | leadingZero
  deriving DecidableEq, Repr

inductive Token where
  | eof
  /-- No token starts here. Other readings of the text may still be tried. -/
  | bad
  /-- An identifier or a keyword. One with an escape is never a keyword. -/
  | word (name : String) (escaped : Bool)
  | privateName (name : String)
  | sym (s : Sym)
  | number (spelling : Spelling)
  | bigint
  /-- `octal` says that it has an octal escape, `directive` that it reads `use strict`. -/
  | str (value : Option String) (octal : Bool) (directive : Bool)
  deriving DecidableEq, Repr

/-! ## Character classes -/

def isLineEnd (c : Char) : Bool :=
  c == '\n' || c == '\r' || c == '\u2028' || c == '\u2029'

def isSpace (c : Char) : Bool :=
  c == ' ' || c == '\t' || c == '\x0b' || c == '\x0c' || c == '\u00a0' || c == '\ufeff'
    || c == '\u1680' || (0x2000 ≤ c.toNat && c.toNat ≤ 0x200a) || c == '\u202f'
    || c == '\u205f' || c == '\u3000'

def hexValue? (c : Char) : Option Nat :=
  if c.isDigit then some (c.toNat - '0'.toNat)
  else if 'a' ≤ c && c ≤ 'f' then some (c.toNat - 'a'.toNat + 10)
  else if 'A' ≤ c && c ≤ 'F' then some (c.toNat - 'A'.toNat + 10)
  else none

def octalValue? (c : Char) : Option Nat :=
  if '0' ≤ c && c ≤ '7' then some (c.toNat - '0'.toNat) else none

def hexNumber? (digits : List Char) : Option Nat :=
  digits.foldlM (fun n c => (hexValue? c).map (16 * n + ·)) 0

/-! ## Strings of code points -/

def isLead (code : Nat) : Bool := 0xd800 ≤ code && code ≤ 0xdbff

def isTrail (code : Nat) : Bool := 0xdc00 ≤ code && code ≤ 0xdfff

/-- Joins surrogate pairs. A surrogate that stands alone makes the whole no text. -/
def decodeUnits : List Nat → Option (List Char)
  | [] => some []
  | [a] => if isLead a || isTrail a then none else some [Char.ofNat a]
  | a :: b :: rest =>
    if isLead a && isTrail b then
      (decodeUnits rest).map (Char.ofNat (0x10000 + (a - 0xd800) * 0x400 + (b - 0xdc00)) :: ·)
    else if isLead a || isTrail a then none
    else (decodeUnits (b :: rest)).map (Char.ofNat a :: ·)

/-- The text of code points gathered last first. -/
def textOfReversed? (units : List Nat) : Option String :=
  (decodeUnits units.reverse).map String.ofList

/-! ## Blanks and comments -/

structure Gap where
  rest : List Char
  newline : Bool
  /-- It has a comment of the form that hides scripts from markup. -/
  markup : Bool
  /-- No comment in it is cut off by the end of the text. -/
  closed : Bool
  deriving Repr

inductive GapPart where
  | blank
  | lineComment
  | blockComment

def gapFrom (part : GapPart) (newline markup : Bool) : List Char → Gap
  | [] => ⟨[], newline, markup, match part with | .blockComment => false | _ => true⟩
  | '*' :: '/' :: rest =>
    match part with
    | .blank => ⟨'*' :: '/' :: rest, newline, markup, true⟩
    | .lineComment => gapFrom .lineComment newline markup rest
    | .blockComment => gapFrom .blank newline markup rest
  | '/' :: '/' :: rest =>
    match part with
    | .blank | .lineComment => gapFrom .lineComment newline markup rest
    -- The second slash may still close the comment's last star.
    | .blockComment => gapFrom .blockComment newline markup ('/' :: rest)
  | '/' :: '*' :: rest =>
    match part with
    | .blank => gapFrom .blockComment newline markup rest
    | .lineComment => gapFrom .lineComment newline markup rest
    | .blockComment => gapFrom .blockComment newline markup ('*' :: rest)
  | '<' :: '!' :: '-' :: '-' :: rest =>
    match part with
    | .blank => gapFrom .lineComment newline true rest
    | part => gapFrom part newline markup rest
  | '-' :: '-' :: '>' :: rest =>
    match part with
    -- Closes a markup comment only where a line starts.
    | .blank =>
      if newline then gapFrom .lineComment newline true rest
      else ⟨'-' :: '-' :: '>' :: rest, newline, markup, true⟩
    | part => gapFrom part newline markup rest
  | c :: cs =>
    match part with
    | .blank =>
      if isLineEnd c then gapFrom .blank true markup cs
      else if isSpace c then gapFrom .blank newline markup cs
      else ⟨c :: cs, newline, markup, true⟩
    | .lineComment =>
      if isLineEnd c then gapFrom .blank true markup cs else gapFrom .lineComment newline markup cs
    | .blockComment => gapFrom .blockComment (newline || isLineEnd c) markup cs

/-! ## Words -/

/-- A word, its characters last first. In `braced`, the digits of a `\u{…}` are being read. -/
def wordFrom (acc : List Char) (escaped : Bool) (braced : Option Nat) :
    List Char → Option (List Char × Bool × List Char)
  | [] => if braced.isSome then none else some (acc, escaped, [])
  | '\\' :: 'u' :: '\x7b' :: rest =>
    if braced.isSome then none else wordFrom acc true (some 0) rest
  | '\\' :: 'u' :: a :: b :: c :: d :: rest =>
    match braced, hexNumber? [a, b, c, d] with
    | none, some code =>
      if fits acc code then wordFrom (Char.ofNat code :: acc) true none rest else none
    | _, _ => none
  | c :: cs =>
    match braced with
    | some code =>
      if c == '\x7d' then
        if fits acc code then wordFrom (Char.ofNat code :: acc) true none cs else none
      else
        match hexValue? c with
        | some v => if code < 0x110000 then wordFrom acc escaped (some (16 * code + v)) cs else none
        | none => none
    | none =>
      if c == '\\' then none
      else if fits acc c.toNat then wordFrom (c :: acc) escaped none cs
      else some (acc, escaped, c :: cs)
where
  /-- The character may stand after those read so far. -/
  fits (acc : List Char) (code : Nat) : Bool :=
    if acc.isEmpty then Text.isIdentifierStart (Char.ofNat code)
    else Text.isIdentifierPart (Char.ofNat code)

def word? (cs : List Char) : Option (String × Bool × List Char) :=
  match wordFrom [] false none cs with
  | some (acc, escaped, rest) =>
    if acc.isEmpty then none else some (String.ofList acc.reverse, escaped, rest)
  | none => none

/-! ## Numbers -/

/-- Digits with single `_` between them. -/
def digitsFrom (isDigit : Char → Bool) (started : Bool) : List Char → Option (List Char × List Char)
  | [] => some ([], [])
  | c :: cs =>
    if isDigit c then (digitsFrom isDigit true cs).map fun (ds, rest) => (c :: ds, rest)
    else if c == '_' then
      match started, cs with
      | true, d :: _ => if isDigit d then digitsFrom isDigit false cs else none
      | _, _ => none
    else some ([], c :: cs)

/-- A number must not run into a word. -/
def numberEnd (token : Token) (rest : List Char) : Token × List Char :=
  match rest with
  | c :: _ =>
    if Text.isIdentifierStart c || c == '\\' || c.isDigit then (.bad, rest) else (token, rest)
  | [] => (token, rest)

def radixNumber (isDigit : Char → Bool) (cs : List Char) : Token × List Char :=
  match digitsFrom isDigit false cs with
  | some ([], rest) => (.bad, rest)
  | some (_, 'n' :: rest) => numberEnd .bigint rest
  | some (_, rest) => numberEnd (.number .plain) rest
  | none => (.bad, cs)

def exponentFrom (spelling : Spelling) (cs : List Char) : Token × List Char :=
  match cs with
  | e :: rest =>
    if e == 'e' || e == 'E' then
      let digits := match rest with | '+' :: r => r | '-' :: r => r | r => r
      match digitsFrom Char.isDigit false digits with
      | some (_ :: _, rest) => numberEnd (.number spelling) rest
      | _ => (.bad, cs)
    else numberEnd (.number spelling) cs
  | [] => (.number spelling, [])

def fractionFrom (spelling : Spelling) (cs : List Char) : Token × List Char :=
  match digitsFrom Char.isDigit false cs with
  | some (_, rest) => exponentFrom spelling rest
  | none => (.bad, cs)

def decimalNumber (cs : List Char) : Token × List Char :=
  match digitsFrom Char.isDigit false cs with
  | some (digits, rest) =>
    let leadingZero := digits.head? == some '0' && 2 ≤ digits.length
    if leadingZero && digits.all (fun d => (octalValue? d).isSome) then
      numberEnd (.number .octal) rest
    else
      let spelling := if leadingZero then Spelling.leadingZero else .plain
      match rest with
      | 'n' :: rest => if leadingZero then (.bad, rest) else numberEnd .bigint rest
      | '.' :: rest => fractionFrom spelling rest
      | rest => exponentFrom spelling rest
  | none => (.bad, cs)

def number (cs : List Char) : Token × List Char :=
  match cs with
  | '0' :: 'x' :: rest | '0' :: 'X' :: rest => radixNumber (fun c => (hexValue? c).isSome) rest
  | '0' :: 'o' :: rest | '0' :: 'O' :: rest => radixNumber (fun c => (octalValue? c).isSome) rest
  | '0' :: 'b' :: rest | '0' :: 'B' :: rest => radixNumber (fun c => c == '0' || c == '1') rest
  | '.' :: rest => fractionFrom .plain rest
  | _ => decimalNumber cs

/-! ## Strings and templates -/

/-- An escape: the code point it stands for, if any, and how many characters it takes after
its backslash. -/
structure Escape where
  unit : Option Nat
  octal : Bool
  size : Nat

/-- The code between the braces of `\u{…}`, and the number of characters up to the second. -/
def bracedCode (code size : Nat) : List Char → Option (Nat × Nat)
  | [] => none
  | c :: cs =>
    if c == '\x7d' then if size == 0 then none else some (code, size + 1)
    else
      match hexValue? c with
      | some v =>
        if 16 * code + v < 0x110000 then bracedCode (16 * code + v) (size + 1) cs else none
      | none => none

/-- Up to two further octal digits, while the code stays below 256. -/
def octalEscape (first : Nat) (cs : List Char) : Escape :=
  match cs.head?.bind octalValue?, (cs.drop 1).head?.bind octalValue? with
  | some v, some w =>
    if first ≤ 3 then ⟨some (64 * first + 8 * v + w), true, 3⟩ else ⟨some (8 * first + v), true, 2⟩
  | some v, none => ⟨some (8 * first + v), true, 2⟩
  | none, _ => ⟨some first, true, 1⟩

def escape? : List Char → Option Escape
  | [] => none
  | 'n' :: _ => some ⟨some 10, false, 1⟩
  | 't' :: _ => some ⟨some 9, false, 1⟩
  | 'r' :: _ => some ⟨some 13, false, 1⟩
  | 'b' :: _ => some ⟨some 8, false, 1⟩
  | 'f' :: _ => some ⟨some 12, false, 1⟩
  | 'v' :: _ => some ⟨some 11, false, 1⟩
  | '\r' :: '\n' :: _ => some ⟨none, false, 2⟩
  | 'x' :: a :: b :: _ => (hexNumber? [a, b]).map fun code => ⟨some code, false, 3⟩
  | 'u' :: '\x7b' :: cs => (bracedCode 0 0 cs).map fun (code, size) => ⟨some code, false, size + 2⟩
  | 'u' :: a :: b :: c :: d :: _ => (hexNumber? [a, b, c, d]).map fun code => ⟨some code, false, 5⟩
  | c :: cs =>
    if c == 'x' || c == 'u' then none
    else if isLineEnd c then some ⟨none, false, 1⟩
    else
      match octalValue? c with
      | some v =>
        if v == 0 && !(cs.head?.any Char.isDigit) then some ⟨some 0, false, 1⟩
        else some (octalEscape v cs)
      | none => some ⟨some c.toNat, false, 1⟩

/-- A string up to its closing quote, its code points last first. The first `skip` characters
belong to an escape that has been read. -/
def stringFrom (quote : Char) (acc : List Nat) (octal plain : Bool) (skip : Nat) :
    List Char → Option (List Nat × Bool × Bool × List Char)
  | [] => none
  | c :: cs =>
    if 0 < skip then stringFrom quote acc octal plain (skip - 1) cs
    else if c == quote then some (acc, octal, plain, cs)
    else if c == '\\' then
      match escape? cs with
      | some e => stringFrom quote (e.unit.toList ++ acc) (octal || e.octal) false e.size cs
      | none => none
    else if c == '\n' || c == '\r' then none
    else stringFrom quote (c.toNat :: acc) octal plain 0 cs

def useStrict : Option String := some "use strict"

def stringToken (quote : Char) (cs : List Char) : Token × List Char :=
  match stringFrom quote [] false true 0 cs with
  | some (acc, octal, plain, rest) =>
    let value := textOfReversed? acc
    (.str value octal (plain && value == useStrict), rest)
  | none => (.bad, cs)

structure Chunk where
  /-- The code points, or `none` after an escape that means nothing. -/
  units : Option (List Nat)
  /-- It ends the template, rather than opening a substitution. -/
  last : Bool
  rest : List Char

/-- What an escape adds to a stretch. An octal one spoils it. -/
def chunkUnits (units : Option (List Nat)) (e : Escape) : Option (List Nat) :=
  if e.octal then none else units.map (e.unit.toList ++ ·)

def chunkFrom (units : Option (List Nat)) (skip : Nat) : List Char → Option Chunk
  | [] => none
  | '$' :: '\x7b' :: rest =>
    match skip with
    | 0 => some ⟨units, false, rest⟩
    | 1 => chunkFrom units 0 ('\x7b' :: rest)
    | skip + 2 => chunkFrom units skip rest
  | '\r' :: '\n' :: rest =>
    match skip with
    | 0 => chunkFrom (units.map (10 :: ·)) 0 rest
    | skip + 1 => chunkFrom units skip ('\n' :: rest)
  | c :: cs =>
    if 0 < skip then chunkFrom units (skip - 1) cs
    else if c == '`' then some ⟨units, true, cs⟩
    else if c == '\\' then
      match escape? cs with
      | some e => chunkFrom (chunkUnits units e) e.size cs
      | none => chunkFrom none 1 cs
    else chunkFrom (units.map ((if c == '\r' then 10 else c.toNat) :: ·)) 0 cs

/-! ## Regular expressions -/

/-- The text after the closing slash of a regular expression. -/
def regexEnd? (inClass : Bool) : List Char → Option (List Char)
  | [] => none
  | '\\' :: c :: rest => if isLineEnd c then none else regexEnd? inClass rest
  | c :: cs =>
    if isLineEnd c then none
    else if c == '[' then regexEnd? true cs
    else if c == ']' then regexEnd? false cs
    else if c == '/' && !inClass then some cs
    else regexEnd? inClass cs

/-- Each flag is known and stands once. -/
def flagsOk (flags : List Char) : Bool :=
  flags.all (fun c => "dgimsuvy".toList.contains c) && flags.eraseDups.length == flags.length

/-- The text after a regular expression whose opening slash has been read. -/
def regex? (cs : List Char) : Option (List Char) :=
  match regexEnd? false cs with
  | some rest =>
    match word? rest with
    | some (flags, escaped, rest') => if flagsOk flags.toList && !escaped then some rest' else none
    | none => if rest.head? == some '\\' then none else some rest
  | none => none

/-! ## All tokens -/

/-- Words that mean something in certain places only. -/
def contextualWords : List String :=
  ["abstract", "accessor", "any", "as", "assert", "asserts", "async", "bigint", "boolean",
   "declare", "from", "get", "global", "infer", "intrinsic", "is", "keyof", "meta", "namespace",
   "never", "number", "object", "of", "out", "override", "readonly", "require", "set", "string",
   "symbol", "target", "type", "undefined", "unique", "unknown", "using"]

/-- A contextual word that has an escape after its first character is not that word, but a name
spelled like the text. -/
def wordName (cs : List Char) (name : String) (escaped : Bool) (rest : List Char) : String :=
  if escaped && cs.head? != some '\\' && contextualWords.contains name then
    String.ofList (cs.take (cs.length - rest.length))
  else name

def punctuator : List Char → Option (Sym × List Char)
  | '\x7b' :: cs => some (.lbrace, cs)
  | '\x7d' :: cs => some (.rbrace, cs)
  | '(' :: cs => some (.lparen, cs)
  | ')' :: cs => some (.rparen, cs)
  | '[' :: cs => some (.lbracket, cs)
  | ']' :: cs => some (.rbracket, cs)
  | ';' :: cs => some (.semi, cs)
  | ',' :: cs => some (.comma, cs)
  | ':' :: cs => some (.colon, cs)
  | '.' :: '.' :: '.' :: cs => some (.ellipsis, cs)
  | '.' :: cs => some (.dot, cs)
  | '~' :: cs => some (.tilde, cs)
  | '@' :: cs => some (.at, cs)
  | '`' :: cs => some (.backtick, cs)
  | '?' :: '?' :: '=' :: cs => some (.nullishEq, cs)
  | '?' :: '?' :: cs => some (.nullish, cs)
  | '?' :: '.' :: cs =>
    if cs.head?.any Char.isDigit then some (.question, '.' :: cs) else some (.questionDot, cs)
  | '?' :: cs => some (.question, cs)
  | '=' :: '=' :: '=' :: cs => some (.eqEqEq, cs)
  | '=' :: '=' :: cs => some (.eqEq, cs)
  | '=' :: '>' :: cs => some (.arrow, cs)
  | '=' :: cs => some (.eq, cs)
  | '!' :: '=' :: '=' :: cs => some (.notEqEq, cs)
  | '!' :: '=' :: cs => some (.notEq, cs)
  | '!' :: cs => some (.bang, cs)
  | '<' :: '<' :: '=' :: cs => some (.shlEq, cs)
  | '<' :: '<' :: cs => some (.shl, cs)
  | '<' :: '=' :: cs => some (.le, cs)
  | '<' :: cs => some (.lt, cs)
  | '>' :: '>' :: '>' :: '=' :: cs => some (.ushrEq, cs)
  | '>' :: '>' :: '>' :: cs => some (.ushr, cs)
  | '>' :: '>' :: '=' :: cs => some (.shrEq, cs)
  | '>' :: '>' :: cs => some (.shr, cs)
  | '>' :: '=' :: cs => some (.ge, cs)
  | '>' :: cs => some (.gt, cs)
  | '+' :: '+' :: cs => some (.plusPlus, cs)
  | '+' :: '=' :: cs => some (.plusEq, cs)
  | '+' :: cs => some (.plus, cs)
  | '-' :: '-' :: cs => some (.minusMinus, cs)
  | '-' :: '=' :: cs => some (.minusEq, cs)
  | '-' :: cs => some (.minus, cs)
  | '*' :: '*' :: '=' :: cs => some (.starStarEq, cs)
  | '*' :: '*' :: cs => some (.starStar, cs)
  | '*' :: '=' :: cs => some (.starEq, cs)
  | '*' :: cs => some (.star, cs)
  | '/' :: '=' :: cs => some (.slashEq, cs)
  | '/' :: cs => some (.slash, cs)
  | '%' :: '=' :: cs => some (.percentEq, cs)
  | '%' :: cs => some (.percent, cs)
  | '&' :: '&' :: '=' :: cs => some (.ampAmpEq, cs)
  | '&' :: '&' :: cs => some (.ampAmp, cs)
  | '&' :: '=' :: cs => some (.ampEq, cs)
  | '&' :: cs => some (.amp, cs)
  | '|' :: '|' :: '=' :: cs => some (.barBarEq, cs)
  | '|' :: '|' :: cs => some (.barBar, cs)
  | '|' :: '=' :: cs => some (.barEq, cs)
  | '|' :: cs => some (.bar, cs)
  | '^' :: '=' :: cs => some (.caretEq, cs)
  | '^' :: cs => some (.caret, cs)
  | _ => none

/-- The token at the start of a text that starts with no blank, and what follows it. -/
def scan (cs : List Char) : Token × List Char :=
  match cs with
  | [] => (.eof, [])
  | c :: rest =>
    if c == '"' || c == '\'' then stringToken c rest
    else if c.isDigit || (c == '.' && rest.head?.any Char.isDigit) then number cs
    else if c == '#' then
      match word? rest with
      | some (name, _, rest) => (.privateName name, rest)
      | none => (.bad, rest)
    else
      match punctuator cs with
      | some (s, rest) => (.sym s, rest)
      | none =>
        match word? cs with
        | some (name, escaped, rest) => (.word (wordName cs name escaped rest) escaped, rest)
        | none => (.bad, rest)

end Requisite.Script
