import ParamSql.Scalar.Basic

/-!
# Unique identifiers as scalars

A 128-bit identifier is bound in lower-case hexadecimal, hyphenated 8-4-4-4-12.
-/
namespace ParamSql

structure Uuid where
  bytes : List UInt8
  length_bytes : bytes.length = 16

namespace Uuid

def ofBytes? (bytes : List UInt8) : Option Uuid :=
  if sixteen : bytes.length = 16 then some ⟨bytes, sixteen⟩ else none

/-- The hexadecimal text of the bytes from `start` on, `count` of them. -/
def part (id : Uuid) (start count : Nat) : String :=
  String.ofList (((id.bytes.drop start).take count).flatMap fun byte => Text.hexPair byte.toNat)

def text (id : Uuid) : String :=
  "-".intercalate [id.part 0 4, id.part 4 2, id.part 6 2, id.part 8 2, id.part 10 6]

end Uuid

def Scalar.ofUuid (id : Uuid) : Scalar := .string id.text

end ParamSql
