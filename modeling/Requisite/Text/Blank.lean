/-!
# White space

The Unicode property White_Space, and cutting it off both ends of a text.
-/

namespace Requisite.Text

def isBlank (c : Char) : Bool :=
  c == ' ' || (9 ≤ c.toNat && c.toNat ≤ 13) || c == '\u0085' || c == '\u00a0' || c == '\u1680'
    || (0x2000 ≤ c.toNat && c.toNat ≤ 0x200a) || c == '\u2028' || c == '\u2029'
    || c == '\u202f' || c == '\u205f' || c == '\u3000'

def trimStart (text : List Char) : List Char := text.dropWhile isBlank

def trimEnd (text : List Char) : List Char := (text.reverse.dropWhile isBlank).reverse

def trim (text : List Char) : List Char := trimEnd (trimStart text)

end Requisite.Text
