import SwapWatch.Hash
import SwapWatch.Transaction
import SwapWatch.Wire.Field
import SwapWatch.Wire.Reader

/-!
# Blocks

A block is read from a header and counted transactions, and the header names it.
-/

set_option autoImplicit false

/-!
## Headers

A header is eighty bytes. The digest of these bytes names the block.
-/

namespace SwapWatch

open Wire

structure Header where
  version : Int
  /-- The hash of the block before, in the order of the wire. -/
  previous : Bytes
  merkleRoot : Bytes
  timestamp : Int
  bits : Int
  nonce : Int
deriving DecidableEq, Repr

namespace Header

def size : Nat := 80

/-- The bytes of a header. The first field that does not fit is reported. -/
def encode (header : Header) : Except RangeError Bytes := do
  let version ← unsigned 4 header.version
  let timestamp ← unsigned 4 header.timestamp
  let bits ← unsigned 4 header.bits
  let nonce ← unsigned 4 header.nonce
  return version ++ header.previous ++ header.merkleRoot ++ timestamp ++ bits ++ nonce

def read : Reader Header := do
  let version ← Reader.number 4
  let previous ← Reader.take 32
  let merkleRoot ← Reader.take 32
  let timestamp ← Reader.number 4
  let bits ← Reader.number 4
  let nonce ← Reader.number 4
  return ⟨version, previous, merkleRoot, timestamp, bits, nonce⟩

def ofBytes (data : Bytes) : Except DecodeError Header :=
  if data.length = size then (read.runAt data 0).map (·.1)
  else .error (.headerSize data.length)

/-- The hash of the block whose header these bytes are, as it is shown. -/
def hashOf (raw : Bytes) : String :=
  TxId.display (Hash.doubleSha256 raw)

def hash (header : Header) : Except RangeError String := do
  return hashOf (← header.encode)

end Header

/-!
## Blocks

A block is a header and counted transactions. Of the header only the hash is kept.
-/

open Wire

/-- A block, with its height if that is known. -/
structure Block where
  hash : String
  height : Option Int
  transactions : List Transaction
deriving DecidableEq, Repr

namespace Block

def read (height : Option Int) : Reader Block := do
  let header ← Reader.take Header.size
  let transactions ← readCounted Transaction.read
  return ⟨Header.hashOf header, height, transactions⟩

def ofBytes (data : Bytes) (height : Option Int) : Except DecodeError Block :=
  (read height).runAll .block data

def ofHex (text : String) (height : Option Int) : Except DecodeError Block :=
  (read height).runHex .block text

end Block

end SwapWatch
