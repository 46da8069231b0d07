/-!
# Elements of binary structures

An element is a kind, a length in the shortest form, and so many bytes, which may be elements again.
Certificates and keys are known here by their outer form alone: which elements they consist of.
-/
namespace FleetSync.Tls

structure Element where
  kind : UInt8
  contents : List UInt8
  deriving DecidableEq, Repr, Inhabited

namespace Element

/-- The number that the bytes spell, the most significant one first. -/
def natOfBytes (bytes : List UInt8) : Nat := bytes.foldl (fun n b => n * 256 + b.toNat) 0

/-- A length, and the rest. Up to four bytes follow the first one if it is too small for it. -/
def length? : List UInt8 → Option (Nat × List UInt8)
  | [] => none
  | b :: rest =>
    if b < 0x80 then some (b.toNat, rest)
    else
      let count := b.toNat - 0x80
      let bytes := rest.take count
      let n := natOfBytes bytes
      if 1 ≤ count ∧ count ≤ 4 ∧ bytes.length = count ∧ bytes.head? ≠ some 0 ∧ 0x80 ≤ n then
        some (n, rest.drop count)
      else none

def first? : List UInt8 → Option (Element × List UInt8)
  | [] => none
  | kind :: rest => do
    let (n, rest) ← length? rest
    if kind.toNat % 32 ≠ 31 ∧ n ≤ rest.length then
      return (⟨kind, rest.take n⟩, rest.drop n)
    else none

def list? : Nat → List UInt8 → Option (List Element)
  | 0, _ => none
  | _, [] => some []
  | fuel + 1, bytes => do
    let (e, rest) ← first? bytes
    return e :: (← list? fuel rest)

def ofBytes? (bytes : List UInt8) : Option (List Element) := list? (bytes.length + 1) bytes

def integerKind : UInt8 := 0x02

def bitsKind : UInt8 := 0x03

def bytesKind : UInt8 := 0x04

def sequenceKind : UInt8 := 0x30

/-- The elements of the only element of the bytes, a sequence. -/
def sequence? (bytes : List UInt8) : Option (List Element) := do
  match ← ofBytes? bytes with
  | [e] => if e.kind = sequenceKind then ofBytes? e.contents else none
  | _ => none

/-- The first elements are of these kinds. -/
def haveKinds (kinds : List UInt8) (es : List Element) : Bool :=
  (es.take kinds.length).map kind == kinds

end Element

/-- The mark of a version, which comes before the other parts of a certificate. -/
def versionKind : UInt8 := 0xA0

/-- The bytes have the form of a certificate: what is certified, how it is signed, and the
signature. Certified are a serial number, the way it is signed, who did so, for how long, whom, and
with which key. -/
def isCertificate (bytes : List UInt8) : Bool :=
  (do
    let parts ← Element.sequence? bytes
    match parts with
    | [body, algorithm, signature] =>
      let fields ← Element.ofBytes? body.contents
      let fields := fields.dropWhile (·.kind = versionKind)
      let sequences := List.replicate 5 Element.sequenceKind
      return body.kind == Element.sequenceKind && algorithm.kind == Element.sequenceKind &&
        signature.kind == Element.bitsKind &&
        Element.haveKinds (Element.integerKind :: sequences) fields && fields[1]? == some algorithm
    | _ => none : Option Bool).getD false

def keyLabels : List String := ["PRIVATE KEY", "RSA PRIVATE KEY", "EC PRIVATE KEY"]

/-- The bytes have the form of a key with this label. -/
def isKey (label : String) (bytes : List UInt8) : Bool :=
  match Element.sequence? bytes with
  | none => false
  | some parts =>
    if label = "PRIVATE KEY" then
      Element.haveKinds [Element.integerKind, Element.sequenceKind, Element.bytesKind] parts
    else if label = "RSA PRIVATE KEY" then
      Element.haveKinds (List.replicate 9 Element.integerKind) parts
    else if label = "EC PRIVATE KEY" then
      Element.haveKinds [Element.integerKind, Element.bytesKind] parts
    else false

end FleetSync.Tls
