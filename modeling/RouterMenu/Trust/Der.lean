/-!
# The shape of certificates

A certificate is made of items that announce their kind and their length, some of which hold
items in turn. Only the shape is looked at here, not what the items say.
-/

namespace RouterMenu.Trust.Der

/-- An item and what follows it. -/
structure Item where
  tag : Nat
  content : List UInt8
  rest : List UInt8
deriving DecidableEq, Repr

/-- The number that bytes stand for, greatest first. -/
def number (bytes : List UInt8) : Nat := bytes.foldl (fun n b => n * 256 + b.toNat) 0

/-- Reads a length. One that fits into fewer bytes must be written in fewer. -/
def length? : List UInt8 → Option (Nat × List UInt8)
  | [] => none
  | first :: rest =>
    let n := first.toNat
    if n < 0x80 then some (n, rest)
    else
      let width := n - 0x80
      let digits := rest.take width
      let value := number digits
      if width = 0 ∨ 4 < width ∨ digits.length < width then none
      else if value < 0x80 ∨ value < Nat.pow 256 (width - 1) then none
      else some (value, rest.drop width)

/-- Reads an item. -/
def item? : List UInt8 → Option Item
  | [] => none
  | tag :: rest => do
    if tag.toNat % 32 = 31 then none
    let (length, rest) ← length? rest
    if rest.length < length then none
    some ⟨tag.toNat, rest.take length, rest.drop length⟩

/-- Reads an item that must be of a given kind. -/
def expect? (tag : Nat) (bytes : List UInt8) : Option (List UInt8 × List UInt8) := do
  let i ← item? bytes
  if i.tag = tag then some (i.content, i.rest) else none

/-- Reads an item that must be of a given kind and the last one. -/
def whole? (tag : Nat) (bytes : List UInt8) : Option (List UInt8) := do
  let (content, rest) ← expect? tag bytes
  if rest.isEmpty then some content else none

def boolean : Nat := 0x01
def integer : Nat := 0x02
def bits : Nat := 0x03
def octets : Nat := 0x04
def identifier : Nat := 0x06
def sequence : Nat := 0x30
def version : Nat := 0xA0
def extensions : Nat := 0xA3

/-- What is left behind items that must be of the given kinds. -/
def skip? : List Nat → List UInt8 → Option (List UInt8)
  | [], bytes => some bytes
  | tag :: tags, bytes => do
    let (_, rest) ← expect? tag bytes
    skip? tags rest

/-- Whether an extension names itself and has a value, perhaps with a mark that it matters. -/
def isExtension (bytes : List UInt8) : Bool :=
  match expect? identifier bytes with
  | none => false
  | some (_, rest) =>
    match expect? boolean rest with
    | some (_, rest) => (whole? octets rest).isSome
    | none => (whole? octets rest).isSome

/-- Whether the bytes are nothing but extensions. There are at most as many as there are bytes. -/
def areExtensions : Nat → List UInt8 → Bool
  | _, [] => true
  | 0, _ => false
  | fuel + 1, bytes =>
    match expect? sequence bytes with
    | some (content, rest) => isExtension content && areExtensions fuel rest
    | none => false

/-- Whether what follows the key is extensions or nothing. -/
def isEnd (bytes : List UInt8) : Bool :=
  bytes.isEmpty || match (whole? extensions bytes).bind (whole? sequence) with
    | some list => areExtensions list.length list
    | none => false

/-- The kinds of the items from the serial number to the key. -/
def body : List Nat := [integer, sequence, sequence, sequence, sequence, sequence]

/-- Whether the bytes are what is signed: of the third version with its extensions, or of the
first version, which has none. -/
def isSigned (bytes : List UInt8) : Bool :=
  match (expect? version bytes) with
  | some (content, rest) =>
    whole? integer content = some [2] && ((skip? body rest).map isEnd).getD false
  | none => skip? body bytes = some []

/-- Whether the bytes are a certificate: what is signed, how, and the signature. -/
def isCertificate (bytes : List UInt8) : Bool :=
  match (whole? sequence bytes).bind (expect? sequence) with
  | some (signed, rest) => isSigned signed && skip? [sequence, bits] rest = some []
  | none => false

end RouterMenu.Trust.Der
