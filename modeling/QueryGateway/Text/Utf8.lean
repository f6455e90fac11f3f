/-!
UTF-8, with and without tolerance for malformed bytes.

Decoding takes the longest well-formed or malformed part at each place: a
character, or as many bytes as could have begun one.  Strict decoding refuses
malformed parts, and lenient decoding makes each of them one replacement
character.
-/

namespace QueryGateway.Text.Utf8

/-- The bytes of a character. -/
def encodeChar (c : Char) : List UInt8 :=
  let n := c.toNat
  if n < 0x80 then [UInt8.ofNat n]
  else if n < 0x800 then [UInt8.ofNat (0xc0 + n / 64), UInt8.ofNat (0x80 + n % 64)]
  else if n < 0x10000 then
    [UInt8.ofNat (0xe0 + n / 4096), UInt8.ofNat (0x80 + n / 64 % 64), UInt8.ofNat (0x80 + n % 64)]
  else
    [UInt8.ofNat (0xf0 + n / 262144), UInt8.ofNat (0x80 + n / 4096 % 64),
      UInt8.ofNat (0x80 + n / 64 % 64), UInt8.ofNat (0x80 + n % 64)]

/-- The bytes of a text. -/
def encode (s : List Char) : List UInt8 := s.flatMap encodeChar

/-- Whether a byte continues a character. -/
def isContinuation (b : UInt8) : Bool := 0x80 ≤ b.toNat && b.toNat ≤ 0xbf

/-- Whether a byte can follow the first byte of a longer character.  What is left
out would encode a character in more bytes than it needs, a surrogate, or a number
beyond the last character. -/
def isSecond (first second : UInt8) : Bool :=
  let f := first.toNat
  let s := second.toNat
  if f == 0xe0 then 0xa0 ≤ s && s ≤ 0xbf
  else if f == 0xed then 0x80 ≤ s && s ≤ 0x9f
  else if f == 0xf0 then 0x90 ≤ s && s ≤ 0xbf
  else if f == 0xf4 then 0x80 ≤ s && s ≤ 0x8f
  else isContinuation second

/-- The low six bits of a byte. -/
def low (b : UInt8) : Nat := b.toNat % 64

/-- The parts of a run of bytes: characters, and nothing for malformed parts. -/
def parts : List UInt8 → List (Option Char)
  | [] => []
  | a :: rest =>
    let n := a.toNat
    if n < 0x80 then some (Char.ofNat n) :: parts rest
    else if n < 0xc2 then none :: parts rest
    else if n < 0xe0 then
      match rest with
      | b :: rest' =>
        if isContinuation b then some (Char.ofNat (n % 32 * 64 + low b)) :: parts rest'
        else none :: parts (b :: rest')
      | [] => [none]
    else if n < 0xf0 then
      match rest with
      | b :: rest' =>
        if isSecond a b then
          match rest' with
          | c :: rest'' =>
            if isContinuation c then
              some (Char.ofNat ((n % 16 * 64 + low b) * 64 + low c)) :: parts rest''
            else none :: parts (c :: rest'')
          | [] => [none]
        else none :: parts (b :: rest')
      | [] => [none]
    else if n < 0xf5 then
      match rest with
      | b :: rest' =>
        if isSecond a b then
          match rest' with
          | c :: rest'' =>
            if isContinuation c then
              match rest'' with
              | d :: rest''' =>
                if isContinuation d then
                  some (Char.ofNat (((n % 8 * 64 + low b) * 64 + low c) * 64 + low d)) ::
                    parts rest'''
                else none :: parts (d :: rest''')
              | [] => [none]
            else none :: parts (c :: rest'')
          | [] => [none]
        else none :: parts (b :: rest')
      | [] => [none]
    else none :: parts rest

/-- Decodes bytes that are well-formed throughout. -/
def decode? (bytes : List UInt8) : Option (List Char) := (parts bytes).mapM id

/-- Decodes bytes, with a replacement character for each malformed part. -/
def decodeLossy (bytes : List UInt8) : List Char :=
  (parts bytes).map fun part => part.getD '\ufffd'

end QueryGateway.Text.Utf8
