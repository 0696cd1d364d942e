/-
This file writes identities of sixteen bytes as texts.
-/

namespace AssetSearch.Catalog

/-- The hexadecimal digits of identities are small letters. -/
def byteText (byte : Nat) : List Char :=
  [Nat.digitChar (byte / 16), Nat.digitChar (byte % 16)]

/-- The seventh byte says that the others are drawn, and the ninth one how they are laid out. -/
def markedByte (position byte : Nat) : Nat :=
  if position = 6 then 64 + byte % 16
  else if position = 8 then 128 + byte % 64
  else byte

/-- Hyphens stand before these bytes. -/
def hyphenPositions : List Nat := [4, 6, 8, 10]

def identityText (bytes : List UInt8) : String :=
  String.ofList (bytes.zipIdx.flatMap fun (byte, position) =>
    (if hyphenPositions.contains position then ['-'] else []) ++
      byteText (markedByte position byte.toNat))

end AssetSearch.Catalog
