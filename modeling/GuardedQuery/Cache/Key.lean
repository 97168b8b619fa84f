import GuardedQuery.Digest
import GuardedQuery.Selection

/-! Keys of cached answers.
A key is the digest of a rendered selection, its parameters, the transaction and what else
distinguishes the answer. Each component is framed by its length, so that none can take bytes
of its neighbour. -/

namespace GuardedQuery.Cache.Key

def littleEndian (n : Nat) : Nat → List UInt8
  | 0 => []
  | width + 1 => UInt8.ofNat (n % 256) :: littleEndian (n / 256) width

def bytesOf (s : String) : List UInt8 := s.toUTF8.toList

def frame (component : String) : List UInt8 :=
  let bytes := bytesOf component
  littleEndian bytes.length 8 ++ bytes

/-- The bytes that are digested. -/
def frames (text params transaction context : String) : List UInt8 :=
  frame text ++ frame params ++ frame transaction ++ frame context

def scheme : String := "scopeql:query:"

def make (query : Selection.Rendered) (transaction context : String) : String :=
  scheme ++ Digest.hex (Digest.sha256 (frames query.text query.paramsText transaction context))

/-- Answers outside a transaction have no key. -/
def make? (query : Selection.Rendered) (transaction : Option String) (context : String) :
    Option String :=
  transaction.map fun id => make query id context

end GuardedQuery.Cache.Key
