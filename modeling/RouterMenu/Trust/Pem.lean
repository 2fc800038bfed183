import RouterMenu.Trust.Base64

/-!
# Sections of text

Keys and certificates are kept in sections of printable text, each between a line that begins it
and one that ends it. What stands outside the sections does not count, and neither do sections
of a kind nobody knows.
-/

namespace RouterMenu.Trust.Pem

/-- Why a file cannot be read to its end. -/
inductive Fault where
  /-- A line begins a section and is not closed as such a line is. -/
  | illegalStart (line : List UInt8)
  /-- The file ends within a section. -/
  | missingEnd (label : List UInt8)
  | base64 (fault : Base64.Fault)
deriving DecidableEq, Repr

/-- The bytes as a list of numbers. -/
def numbers (bytes : List UInt8) : String :=
  "[" ++ ", ".intercalate (bytes.map fun b => String.ofList (Text.ofNat b.toNat)) ++ "]"

/-- What is reported about it. -/
def Fault.message : Fault → String
  | .illegalStart line => "illegal section start: " ++ numbers line
  | .missingEnd label => "missing section end marker: " ++ numbers label
  | .base64 fault => "base64 decode error: " ++ fault.name

/-- The bytes of a text. -/
def ascii (s : String) : List UInt8 := s.toUTF8.toList

/-- How a line begins that begins a section. -/
def opening : List UInt8 := ascii "-----BEGIN "

/-- How a line begins that ends a section. -/
def closing : List UInt8 := ascii "-----END "

/-- How such lines end. -/
def dashes : List UInt8 := ascii "-----"

/-- The label of certificates. -/
def certificate : List UInt8 := ascii "CERTIFICATE"

/-- The labels of the kinds of section that are known. -/
def known : List (List UInt8) :=
  certificate :: ["PUBLIC KEY", "RSA PRIVATE KEY", "PRIVATE KEY", "EC PRIVATE KEY", "X509 CRL",
    "CERTIFICATE REQUEST", "ECHCONFIG"].map ascii

/-- The lines of a file; both characters that end lines do so on their own. -/
def lines : List UInt8 → List (List UInt8)
  | [] => []
  | byte :: rest =>
    if byte = 0x0A ∨ byte = 0x0D then [] :: lines rest
    else match lines rest with
      | [] => [[byte]]
      | line :: more => (byte :: line) :: more

/-- The label of a section that a line begins: what is left without the five dashes at its end,
and blanks among them. -/
def label? (line : List UInt8) : Option (List UInt8) :=
  let tail := line.reverse.takeWhile fun b => b = 0x2D || b = 0x20
  if tail.count 0x2D = 5 then
    let blanks := (tail.reverse.takeWhile (· = 0x20)).length
    some ((line.take (line.length - tail.length + blanks)).drop opening.length)
  else none

/-- Whether a line ends a section. -/
def ends (label line : List UInt8) : Bool := (closing ++ label ++ dashes).isPrefixOf line

/-- What is found in a file: the bytes of its certificates, and why it could not be read to its
end if it could not. -/
structure Found where
  certificates : List (List UInt8) := []
  fault? : Option Fault := none
deriving DecidableEq, Repr

/-- One certificate more. -/
def Found.add (bytes : List UInt8) (f : Found) : Found :=
  { f with certificates := bytes :: f.certificates }

/-- Reads lines, perhaps within a section of which the label and the text so far are given. -/
def scan : Option (List UInt8) → List UInt8 → List (List UInt8) → Found
  | none, _, [] => {}
  | some label, _, [] => { fault? := some (.missingEnd label) }
  | section?, text, line :: rest =>
    if opening.isPrefixOf line then
      match label? line with
      | some label => scan (some label) text rest
      | none => { fault? := some (.illegalStart line) }
    else match section? with
      | none => scan none text rest
      | some label =>
        if !ends label line then scan (some label) (text ++ line) rest
        else if !known.contains label then scan none [] rest
        else match Base64.decode text with
          | .error fault => { fault? := some (.base64 fault) }
          | .ok bytes =>
            let found := scan none [] rest
            if label = certificate then found.add bytes else found

/-- Reads a file. -/
def read (file : List UInt8) : Found := scan none [] (lines file)

end RouterMenu.Trust.Pem
