/-
This file writes texts for diagnostics: in quotes, and with every character visible.
-/

import AssetSearch.Text.Blank

namespace AssetSearch.Text

/-- These characters cannot be seen, or join the character before them. -/
def hiddenIntervals : Intervals := [
  (0x0, 0x1F), (0x7F, 0xA0), (0xAD, 0xAD), (0x300, 0x36F), (0x61C, 0x61C), (0x1680, 0x1680),
  (0x180E, 0x180E), (0x2000, 0x200F), (0x2028, 0x202F), (0x205F, 0x206F), (0x20D0, 0x20F0),
  (0x3000, 0x3000), (0xE000, 0xF8FF), (0xFE00, 0xFE0F), (0xFE20, 0xFE2F), (0xFEFF, 0xFEFF),
  (0xFFF0, 0xFFFB), (0xE0000, 0x10FFFF)]

def isHidden (character : Char) : Bool :=
  hiddenIntervals.contains character.toNat

/-- The code point stands in braces, in base sixteen. -/
def codePointEscape (character : Char) : List Char :=
  "\\u\x7b".toList ++ Nat.toDigits 16 character.toNat ++ ['\x7d']

def escapeVisibly (character : Char) : List Char :=
  match character with
  | '"' => ['\\', '"']
  | '\\' => ['\\', '\\']
  | '\n' => ['\\', 'n']
  | '\r' => ['\\', 'r']
  | '\t' => ['\\', 't']
  | '\x00' => ['\\', '0']
  | _ => if isHidden character then codePointEscape character else [character]

def escapedText (text : String) : String :=
  String.ofList ('"' :: text.toList.flatMap escapeVisibly ++ ['"'])

end AssetSearch.Text
