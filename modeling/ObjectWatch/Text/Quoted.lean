import ObjectWatch.Text.Printable

/-!
Quoted text, and octets in the same manner. The quote is `'` unless the text holds that and no `"`; the quote
and the backslash are escaped, three controls have a letter of their own, and every other hidden character is
written by its code point in two, four or eight hexadecimal digits.
-/

namespace ObjectWatch.Text

/-- The least number of lower-case hexadecimal digits, filled up with zeros to a width. -/
def hexDigits (width n : Nat) : List Char :=
  let ds := Nat.toDigits 16 n
  List.replicate (width - ds.length) '0' ++ ds

def singleQuote : Char := Char.ofNat 0x27

def doubleQuote : Char := Char.ofNat 0x22

def quoteOf (cs : List Char) : Char :=
  if cs.contains singleQuote && !cs.contains doubleQuote then doubleQuote else singleQuote

def escape (quote c : Char) : List Char :=
  if c = '\\' || c = quote then ['\\', c]
  else if c = '\n' then ['\\', 'n']
  else if c = '\r' then ['\\', 'r']
  else if c = '\t' then ['\\', 't']
  else if isPrintable c then [c]
  else if c.toNat < 0x100 then '\\' :: 'x' :: hexDigits 2 c.toNat
  else if c.toNat < 0x10000 then '\\' :: 'u' :: hexDigits 4 c.toNat
  else '\\' :: 'U' :: hexDigits 8 c.toNat

def quoted (s : String) : String :=
  let cs := s.toList
  let quote := quoteOf cs
  String.ofList (quote :: cs.flatMap (escape quote) ++ [quote])

def escapeOctet (quote : Char) (o : UInt8) : List Char :=
  if 0x20 ≤ o && o < 0x7f then escape quote (Char.ofNat o.toNat)
  else if o = 0x09 || o = 0x0a || o = 0x0d then escape quote (Char.ofNat o.toNat)
  else '\\' :: 'x' :: hexDigits 2 o.toNat

/-- Octets are marked with a `b`, and those that are no ASCII characters are written by their numbers. -/
def quotedOctets (os : List UInt8) : String :=
  let quote := quoteOf (os.map fun o => Char.ofNat o.toNat)
  String.ofList ('b' :: quote :: os.flatMap (escapeOctet quote) ++ [quote])

end ObjectWatch.Text
