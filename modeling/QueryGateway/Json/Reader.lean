import QueryGateway.Json.Numeral
import QueryGateway.Json.Source
import QueryGateway.Text.Hex
import QueryGateway.Text.Utf8

/-!
Reading JSON text.

A text is a list of characters, with gaps for bytes that belong to none.  A gap may only
stand inside a string, which then stands for no value; neither does a string with a
surrogate escape outside a pair, a numeral that is too large, or an array or object that
is nested deeper than `depthLimit`.
-/

namespace QueryGateway.Json.Reader

/-- Characters, with gaps for bytes that belong to none. -/
abbrev Chars := List (Option Char)

/-- How deep arrays and objects may be nested. -/
def depthLimit : Nat := 127

/-- The blanks of JSON: space, tab, line feed and carriage return. -/
def isBlank (c : Char) : Bool := c = ' ' ∨ c = '\t' ∨ c = '\n' ∨ c = '\r'

def skipBlanks (s : Chars) : Chars := s.dropWhile fun c => c.any isBlank

/-- The rest of `s` after `word`, if it starts with it. -/
def afterWord? : List Char → Chars → Option Chars
  | [], s => some s
  | c :: word, some d :: s => if c = d then afterWord? word s else none
  | _ :: _, _ => none

/-- Takes the four hexadecimal digits of a code unit. -/
def codeUnit? : Chars → Option (Nat × Chars)
  | some a :: some b :: some c :: some d :: rest => do
    let a ← Text.hexDigit? a
    let b ← Text.hexDigit? b
    let c ← Text.hexDigit? c
    let d ← Text.hexDigit? d
    some (((a * 16 + b) * 16 + c) * 16 + d, rest)
  | _ => none

def isHighSurrogate (unit : Nat) : Bool := 0xd800 ≤ unit && unit ≤ 0xdbff

def isLowSurrogate (unit : Nat) : Bool := 0xdc00 ≤ unit && unit ≤ 0xdfff

/-- Takes the low surrogate of a pair, with its `\u`. -/
def lowSurrogate? : Chars → Option (Nat × Chars)
  | some '\\' :: some 'u' :: rest => do
    let (unit, rest) ← codeUnit? rest
    if isLowSurrogate unit then some (unit, rest) else none
  | _ => none

/-- Takes the character of a `\u` escape, after the `u`; a high surrogate takes its low
one along.  A surrogate outside a pair is no character. -/
def escapedUnit? (s : Chars) : Option (Option Char × Chars) := do
  let (unit, rest) ← codeUnit? s
  if isHighSurrogate unit then
    match lowSurrogate? rest with
    | some (low, rest) =>
      some (some (Char.ofNat (0x10000 + (unit - 0xd800) * 0x400 + (low - 0xdc00))), rest)
    | none => some (none, rest)
  else some (if isLowSurrogate unit then none else some (Char.ofNat unit), rest)

/-- The character of a one-letter escape. -/
def escaped? : Char → Option Char
  | '\x22' => some '\x22'
  | '\\' => some '\\'
  | '/' => some '/'
  | 'b' => some '\x08'
  | 'f' => some '\x0c'
  | 'n' => some '\n'
  | 'r' => some '\r'
  | 't' => some '\t'
  | _ => none

/-- Takes the character of an escape, after its backslash. -/
def escape? : Chars → Option (Option Char × Chars)
  | some 'u' :: rest => escapedUnit? rest
  | some letter :: rest => (escaped? letter).map fun c => (some c, rest)
  | _ => none

/-- Takes the rest of a string, after its opening quote.  `fuel` bounds the characters
taken, and `taken` holds those before, last first; it is missing when the string stands
for no value. -/
def string? : (fuel : Nat) → (taken : Option (List Char)) → Chars →
    Option (Option String × Chars)
  | 0, _, _ => none
  | _ + 1, _, [] => none
  | fuel + 1, _, none :: rest => string? fuel none rest
  | fuel + 1, taken, some c :: rest =>
    if c = '\x22' then some (taken.map fun taken => String.ofList taken.reverse, rest)
    else if c = '\\' then do
      let (c, rest) ← escape? rest
      string? fuel (c.bind fun c => taken.map (c :: ·)) rest
    else if c.toNat < 0x20 then none
    else string? fuel (taken.map (c :: ·)) rest

/-- Takes a numeral. -/
def number? (s : Chars) : Option (Source × Chars) := do
  let isPart (c : Option Char) : Bool := c.any Numeral.isPart
  let numeral ← Numeral.read? ((s.takeWhile isPart).filterMap id)
  some (numeral.number?.elim .void .num, s.dropWhile isPart)

mutual
/-- Takes a value, after any blanks.  `fuel` bounds the steps and `depth` the levels of
nesting that are left. -/
def value? : (fuel : Nat) → (depth : Nat) → Chars → Option (Source × Chars)
  | 0, _, _ => none
  | fuel + 1, depth, s =>
    match skipBlanks s with
    | some '\x22' :: rest => do
      let (value, rest) ← string? fuel (some []) rest
      some (value.elim .void .str, rest)
    | some '[' :: rest => do
      let (items, rest) ← match skipBlanks rest with
        | some ']' :: rest => some ([], rest)
        | rest => items? fuel (depth - 1) rest
      some (if depth = 0 then .void else .arr items, rest)
    | some '\x7b' :: rest => do
      let (entries, rest) ← match skipBlanks rest with
        | some '\x7d' :: rest => some ([], rest)
        | rest => entries? fuel (depth - 1) rest
      some (if depth = 0 then .void else .obj entries, rest)
    | some 't' :: rest => (afterWord? ['r', 'u', 'e'] rest).map (.bool true, ·)
    | some 'f' :: rest => (afterWord? ['a', 'l', 's', 'e'] rest).map (.bool false, ·)
    | some 'n' :: rest => (afterWord? ['u', 'l', 'l'] rest).map (.null, ·)
    | rest => number? rest

/-- Takes the items of an array up to its bracket; there is at least one. -/
def items? : (fuel : Nat) → (depth : Nat) → Chars → Option (List Source × Chars)
  | 0, _, _ => none
  | fuel + 1, depth, s => do
    let (item, rest) ← value? fuel depth s
    match skipBlanks rest with
    | some ',' :: rest => do
      let (items, rest) ← items? fuel depth rest
      some (item :: items, rest)
    | some ']' :: rest => some ([item], rest)
    | _ => none

/-- Takes the entries of an object up to its brace; there is at least one. -/
def entries? : (fuel : Nat) → (depth : Nat) → Chars →
    Option (List (Option String × Source) × Chars)
  | 0, _, _ => none
  | fuel + 1, depth, s =>
    match skipBlanks s with
    | some '\x22' :: rest => do
      let (name, rest) ← string? fuel (some []) rest
      match skipBlanks rest with
      | some ':' :: rest => do
        let (value, rest) ← value? fuel depth rest
        match skipBlanks rest with
        | some ',' :: rest => do
          let (entries, rest) ← entries? fuel depth rest
          some ((name, value) :: entries, rest)
        | some '\x7d' :: rest => some ([(name, value)], rest)
        | _ => none
      | _ => none
    | _ => none
end

/-- Reads a text, one value with nothing but blanks around it.  Every call between two
characters taken is one step down, so twice the length is fuel enough. -/
def read? (chars : Chars) : Option Source := do
  let (value, rest) ← value? (2 * chars.length + 2) depthLimit chars
  if (skipBlanks rest).isEmpty then some value else none

end Reader

/-- Reads a JSON text. -/
def Source.read? (s : String) : Option Source := Reader.read? (s.toList.map some)

/-- Reads the bytes of a JSON text. -/
def Source.ofBytes? (bytes : List UInt8) : Option Source := Reader.read? (Text.Utf8.parts bytes)

/-- Reads a JSON text that stands for a value. -/
def read? (s : String) : Option Json := (Source.read? s).bind Source.value?

/-- Reads the bytes of a JSON text that stands for a value. -/
def ofBytes? (bytes : List UInt8) : Option Json := (Source.ofBytes? bytes).bind Source.value?

end QueryGateway.Json
