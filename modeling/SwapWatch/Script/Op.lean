import SwapWatch.Bytes

/-!
# Operations of a script

The operations of which scripts are made, with their codes, names and bytes.
-/

set_option autoImplicit false

/-!
## Names

Every operation code has a name. Codes up to 75 push that many bytes and are named for the count.
-/

namespace SwapWatch.Script

/-- The codes with names of their own, in rising order. -/
def namedCodes : List (Int × String) :=
  [(0x50, "OP_RESERVED"), (0x61, "OP_NOP"), (0x62, "OP_VER"), (0x63, "OP_IF"), (0x64, "OP_NOTIF"),
   (0x65, "OP_VERIF"), (0x66, "OP_VERNOTIF"), (0x67, "OP_ELSE"), (0x68, "OP_ENDIF"),
   (0x69, "OP_VERIFY"), (0x6a, "OP_RETURN"), (0x6b, "OP_TOALTSTACK"), (0x6c, "OP_FROMALTSTACK"),
   (0x6d, "OP_2DROP"), (0x6e, "OP_2DUP"), (0x6f, "OP_3DUP"), (0x70, "OP_2OVER"), (0x71, "OP_2ROT"),
   (0x72, "OP_2SWAP"), (0x73, "OP_IFDUP"), (0x74, "OP_DEPTH"), (0x75, "OP_DROP"), (0x76, "OP_DUP"),
   (0x77, "OP_NIP"), (0x78, "OP_OVER"), (0x79, "OP_PICK"), (0x7a, "OP_ROLL"), (0x7b, "OP_ROT"),
   (0x7c, "OP_SWAP"), (0x7d, "OP_TUCK"), (0x7e, "OP_CAT"), (0x7f, "OP_SPLIT"), (0x80, "OP_NUM2BIN"),
   (0x81, "OP_BIN2NUM"), (0x82, "OP_SIZE"), (0x83, "OP_INVERT"), (0x84, "OP_AND"), (0x85, "OP_OR"),
   (0x86, "OP_XOR"), (0x87, "OP_EQUAL"), (0x88, "OP_EQUALVERIFY"), (0x89, "OP_RESERVED1"),
   (0x8a, "OP_RESERVED2"), (0x8b, "OP_1ADD"), (0x8c, "OP_1SUB"), (0x8d, "OP_2MUL"),
   (0x8e, "OP_2DIV"), (0x8f, "OP_NEGATE"), (0x90, "OP_ABS"), (0x91, "OP_NOT"),
   (0x92, "OP_0NOTEQUAL"), (0x93, "OP_ADD"), (0x94, "OP_SUB"), (0x95, "OP_MUL"), (0x96, "OP_DIV"),
   (0x97, "OP_MOD"), (0x98, "OP_LSHIFT"), (0x99, "OP_RSHIFT"), (0x9a, "OP_BOOLAND"),
   (0x9b, "OP_BOOLOR"), (0x9c, "OP_NUMEQUAL"), (0x9d, "OP_NUMEQUALVERIFY"),
   (0x9e, "OP_NUMNOTEQUAL"), (0x9f, "OP_LESSTHAN"), (0xa0, "OP_GREATERTHAN"),
   (0xa1, "OP_LESSTHANOREQUAL"), (0xa2, "OP_GREATERTHANOREQUAL"), (0xa3, "OP_MIN"),
   (0xa4, "OP_MAX"), (0xa5, "OP_WITHIN"), (0xa6, "OP_RIPEMD160"), (0xa7, "OP_SHA1"),
   (0xa8, "OP_SHA256"), (0xa9, "OP_HASH160"), (0xaa, "OP_HASH256"), (0xab, "OP_CODESEPARATOR"),
   (0xac, "OP_CHECKSIG"), (0xad, "OP_CHECKSIGVERIFY"), (0xae, "OP_CHECKMULTISIG"),
   (0xaf, "OP_CHECKMULTISIGVERIFY"), (0xb0, "OP_NOP1"), (0xb1, "OP_CHECKLOCKTIMEVERIFY"),
   (0xb2, "OP_CHECKSEQUENCEVERIFY"), (0xb3, "OP_NOP4"), (0xb4, "OP_NOP5"), (0xb5, "OP_NOP6"),
   (0xb6, "OP_NOP7"), (0xb7, "OP_NOP8"), (0xb8, "OP_NOP9"), (0xb9, "OP_NOP10"),
   (0xba, "OP_CHECKDATASIG"), (0xbb, "OP_CHECKDATASIGVERIFY"), (0xbc, "OP_REVERSEBYTES"),
   (0xc0, "OP_INPUTINDEX"), (0xc1, "OP_ACTIVEBYTECODE"), (0xc2, "OP_TXVERSION"),
   (0xc3, "OP_TXINPUTCOUNT"), (0xc4, "OP_TXOUTPUTCOUNT"), (0xc5, "OP_TXLOCKTIME"),
   (0xc6, "OP_UTXOVALUE"), (0xc7, "OP_UTXOBYTECODE"), (0xc8, "OP_OUTPOINTTXHASH"),
   (0xc9, "OP_OUTPOINTINDEX"), (0xca, "OP_INPUTBYTECODE"), (0xcb, "OP_INPUTSEQUENCENUMBER"),
   (0xcc, "OP_OUTPUTVALUE"), (0xcd, "OP_OUTPUTBYTECODE")]

def opName (code : Int) : String :=
  if code = 0 then "OP_0"
  else if code ≤ 75 then s!"OP_DATA_{code}"
  else if code = 0x4c then "OP_PUSHDATA1"
  else if code = 0x4d then "OP_PUSHDATA2"
  else if code = 0x4e then "OP_PUSHDATA4"
  else if code = 0x4f then "OP_1NEGATE"
  else if 0x51 ≤ code ∧ code ≤ 0x60 then s!"OP_{code - 0x50}"
  else (namedCodes.lookup code).getD s!"OP_UNKNOWN{code}"

/-!
## Operations

An operation pushes data or is a plain code. Data can be pushed in four forms: directly, with its
size as the code, or after a marker with the size in one, two or four bytes.
-/

inductive PushForm where
  /-- The code itself is the size. -/
  | direct
  | short
  | medium
  | long
deriving DecidableEq, Repr

namespace PushForm

def width : PushForm → Nat
  | direct => 0
  | short => 1
  | medium => 2
  | long => 4

def ofMarker? (code : UInt8) : Option PushForm :=
  if code = 0x4c then some short
  else if code = 0x4d then some medium
  else if code = 0x4e then some long
  else none

def code (size : Nat) : PushForm → UInt8
  | direct => UInt8.ofNat size
  | short => 0x4c
  | medium => 0x4d
  | long => 0x4e

def Admits (size : Nat) : PushForm → Prop
  | direct => size ≤ 75
  | short => size < 256
  | medium => size < 65536
  | long => size < 4294967296

instance (form : PushForm) (size : Nat) : Decidable (form.Admits size) := by
  cases form <;> unfold Admits <;> infer_instance

end PushForm

inductive Op where
  | push (form : PushForm) (data : Bytes)
  | plain (code : UInt8)
deriving DecidableEq, Repr

namespace Op

/-- The first byte of an operation. -/
def code : Op → UInt8
  | push form data => form.code data.length
  | plain code => code

/-- The data that an operation pushes from the script. -/
def data? : Op → Option Bytes
  | push _ data => some data
  | plain _ => none

def encode : Op → Bytes
  | push form data => form.code data.length :: Endian.ofNat form.width data.length ++ data
  | plain code => [code]

def size : Op → Nat
  | push form data => 1 + form.width + data.length
  | plain _ => 1

/-- Operations that a script can write: the form of a push has room for the size, and a plain code
is no push. -/
def WellFormed : Op → Prop
  | push form data => form.Admits data.length
  | plain code => 0x4f ≤ code

instance (op : Op) : Decidable op.WellFormed := by
  cases op <;> unfold WellFormed <;> infer_instance

@[simp]
theorem length_encode (op : Op) : op.encode.length = op.size := by
  cases op with
  | push form data => simp only [encode, size, List.length_cons, List.length_append,
      Endian.length_ofNat]; omega
  | plain code => rfl

end Op

def encode (ops : List Op) : Bytes :=
  ops.flatMap Op.encode

end SwapWatch.Script
