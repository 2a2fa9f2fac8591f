/-!
Text from octets by UTF-8: no overlong forms, no halves of surrogate pairs, nothing past the last code
point. Also the normal form of line ends.
-/

namespace ObjectWatch.Text

def isContinuation (b : UInt8) : Bool :=
  0x80 ≤ b && b ≤ 0xbf

/-- The six bits that a continuing octet carries. -/
def payload (b : UInt8) : Nat :=
  b.toNat - 0x80

/-- The code point of a first octet with the octets that follow it, if these are a character. -/
def codePoint? (first : UInt8) (more : List UInt8) : Option Nat :=
  if !more.all isContinuation then none
  else match more with
    | [] => if first ≤ 0x7f then some first.toNat else none
    | [b] => if 0xc2 ≤ first && first ≤ 0xdf then some ((first.toNat - 0xc0) * 64 + payload b) else none
    | [b, c] =>
      let n := (first.toNat - 0xe0) * 4096 + payload b * 64 + payload c
      if 0xe0 ≤ first && first ≤ 0xef && 0x800 ≤ n && !(0xd800 ≤ n && n ≤ 0xdfff) then some n else none
    | [b, c, d] =>
      let n := (first.toNat - 0xf0) * 262144 + payload b * 4096 + payload c * 64 + payload d
      if 0xf0 ≤ first && first ≤ 0xf4 && 0x10000 ≤ n && n ≤ 0x10ffff then some n else none
    | _ => none

/-- The characters of a sequence of octets. The first octet of a character says how many follow. -/
def decodeUtf8? : List UInt8 → Option (List Char)
  | [] => some []
  | a :: rest =>
    let put (n : Option Nat) (cs : Option (List Char)) : Option (List Char) :=
      n.bind fun n => cs.map (Char.ofNat n :: ·)
    if a ≤ 0x7f then put (codePoint? a []) (decodeUtf8? rest)
    else match rest with
      | [] => none
      | b :: rest =>
        if a ≤ 0xdf then put (codePoint? a [b]) (decodeUtf8? rest)
        else match rest with
          | [] => none
          | c :: rest =>
            if a ≤ 0xef then put (codePoint? a [b, c]) (decodeUtf8? rest)
            else match rest with
              | [] => none
              | d :: rest => put (codePoint? a [b, c, d]) (decodeUtf8? rest)

/-- Every line end becomes a line feed: a carriage return, alone or before a line feed. -/
def normalizeLines : List Char → List Char
  | [] => []
  | '\r' :: '\n' :: rest => '\n' :: normalizeLines rest
  | '\r' :: rest => '\n' :: normalizeLines rest
  | c :: rest => c :: normalizeLines rest

end ObjectWatch.Text
