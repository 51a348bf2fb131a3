import TenantSearch.Text.Basic
import TenantSearch.Text.Cased

/-! Lower case by Unicode 17.0. Each character has its own lower case, which for one character is
two characters; in a text there is one letter whose lower case depends on what stands around it. -/
namespace TenantSearch.Text

/-- The lower case of the characters of one row: one character each, in the order of the row; or the
next character for every other one, from the first, while those between are in lower case already;
or the same characters for all of them. -/
inductive Lowering where
  | moved (base : Nat)
  | paired
  | spelled (codes : List Nat)

namespace Lowering

def rows : List (CodeRange Lowering) := [
  ⟨0x41, 0x5A, .moved 0x61⟩, ⟨0xC0, 0xD6, .moved 0xE0⟩, ⟨0xD8, 0xDE, .moved 0xF8⟩,
  ⟨0x100, 0x12F, .paired⟩, ⟨0x130, 0x130, .spelled [0x69, 0x307]⟩, ⟨0x132, 0x137, .paired⟩,
  ⟨0x139, 0x148, .paired⟩, ⟨0x14A, 0x177, .paired⟩, ⟨0x178, 0x178, .moved 0xFF⟩,
  ⟨0x179, 0x17E, .paired⟩, ⟨0x181, 0x181, .moved 0x253⟩, ⟨0x182, 0x185, .paired⟩,
  ⟨0x186, 0x186, .moved 0x254⟩, ⟨0x187, 0x187, .moved 0x188⟩, ⟨0x189, 0x18A, .moved 0x256⟩,
  ⟨0x18B, 0x18B, .moved 0x18C⟩, ⟨0x18E, 0x18E, .moved 0x1DD⟩, ⟨0x18F, 0x18F, .moved 0x259⟩,
  ⟨0x190, 0x190, .moved 0x25B⟩, ⟨0x191, 0x191, .moved 0x192⟩, ⟨0x193, 0x193, .moved 0x260⟩,
  ⟨0x194, 0x194, .moved 0x263⟩, ⟨0x196, 0x196, .moved 0x269⟩, ⟨0x197, 0x197, .moved 0x268⟩,
  ⟨0x198, 0x198, .moved 0x199⟩, ⟨0x19C, 0x19C, .moved 0x26F⟩, ⟨0x19D, 0x19D, .moved 0x272⟩,
  ⟨0x19F, 0x19F, .moved 0x275⟩, ⟨0x1A0, 0x1A5, .paired⟩, ⟨0x1A6, 0x1A6, .moved 0x280⟩,
  ⟨0x1A7, 0x1A7, .moved 0x1A8⟩, ⟨0x1A9, 0x1A9, .moved 0x283⟩, ⟨0x1AC, 0x1AC, .moved 0x1AD⟩,
  ⟨0x1AE, 0x1AE, .moved 0x288⟩, ⟨0x1AF, 0x1AF, .moved 0x1B0⟩, ⟨0x1B1, 0x1B2, .moved 0x28A⟩,
  ⟨0x1B3, 0x1B6, .paired⟩, ⟨0x1B7, 0x1B7, .moved 0x292⟩, ⟨0x1B8, 0x1B8, .moved 0x1B9⟩,
  ⟨0x1BC, 0x1BC, .moved 0x1BD⟩, ⟨0x1C4, 0x1C4, .moved 0x1C6⟩, ⟨0x1C5, 0x1C5, .moved 0x1C6⟩,
  ⟨0x1C7, 0x1C7, .moved 0x1C9⟩, ⟨0x1C8, 0x1C8, .moved 0x1C9⟩, ⟨0x1CA, 0x1CA, .moved 0x1CC⟩,
  ⟨0x1CB, 0x1DC, .paired⟩, ⟨0x1DE, 0x1EF, .paired⟩, ⟨0x1F1, 0x1F1, .moved 0x1F3⟩,
  ⟨0x1F2, 0x1F5, .paired⟩, ⟨0x1F6, 0x1F6, .moved 0x195⟩, ⟨0x1F7, 0x1F7, .moved 0x1BF⟩,
  ⟨0x1F8, 0x21F, .paired⟩, ⟨0x220, 0x220, .moved 0x19E⟩, ⟨0x222, 0x233, .paired⟩,
  ⟨0x23A, 0x23A, .moved 0x2C65⟩, ⟨0x23B, 0x23B, .moved 0x23C⟩, ⟨0x23D, 0x23D, .moved 0x19A⟩,
  ⟨0x23E, 0x23E, .moved 0x2C66⟩, ⟨0x241, 0x241, .moved 0x242⟩, ⟨0x243, 0x243, .moved 0x180⟩,
  ⟨0x244, 0x244, .moved 0x289⟩, ⟨0x245, 0x245, .moved 0x28C⟩, ⟨0x246, 0x24F, .paired⟩,
  ⟨0x370, 0x373, .paired⟩, ⟨0x376, 0x376, .moved 0x377⟩, ⟨0x37F, 0x37F, .moved 0x3F3⟩,
  ⟨0x386, 0x386, .moved 0x3AC⟩, ⟨0x388, 0x38A, .moved 0x3AD⟩, ⟨0x38C, 0x38C, .moved 0x3CC⟩,
  ⟨0x38E, 0x38F, .moved 0x3CD⟩, ⟨0x391, 0x3A1, .moved 0x3B1⟩, ⟨0x3A3, 0x3AB, .moved 0x3C3⟩,
  ⟨0x3CF, 0x3CF, .moved 0x3D7⟩, ⟨0x3D8, 0x3EF, .paired⟩, ⟨0x3F4, 0x3F4, .moved 0x3B8⟩,
  ⟨0x3F7, 0x3F7, .moved 0x3F8⟩, ⟨0x3F9, 0x3F9, .moved 0x3F2⟩, ⟨0x3FA, 0x3FA, .moved 0x3FB⟩,
  ⟨0x3FD, 0x3FF, .moved 0x37B⟩, ⟨0x400, 0x40F, .moved 0x450⟩, ⟨0x410, 0x42F, .moved 0x430⟩,
  ⟨0x460, 0x481, .paired⟩, ⟨0x48A, 0x4BF, .paired⟩, ⟨0x4C0, 0x4C0, .moved 0x4CF⟩,
  ⟨0x4C1, 0x4CE, .paired⟩, ⟨0x4D0, 0x52F, .paired⟩, ⟨0x531, 0x556, .moved 0x561⟩,
  ⟨0x10A0, 0x10C5, .moved 0x2D00⟩, ⟨0x10C7, 0x10C7, .moved 0x2D27⟩, ⟨0x10CD, 0x10CD, .moved 0x2D2D⟩,
  ⟨0x13A0, 0x13EF, .moved 0xAB70⟩, ⟨0x13F0, 0x13F5, .moved 0x13F8⟩, ⟨0x1C89, 0x1C89, .moved 0x1C8A⟩,
  ⟨0x1C90, 0x1CBA, .moved 0x10D0⟩, ⟨0x1CBD, 0x1CBF, .moved 0x10FD⟩, ⟨0x1E00, 0x1E95, .paired⟩,
  ⟨0x1E9E, 0x1E9E, .moved 0xDF⟩, ⟨0x1EA0, 0x1EFF, .paired⟩, ⟨0x1F08, 0x1F0F, .moved 0x1F00⟩,
  ⟨0x1F18, 0x1F1D, .moved 0x1F10⟩, ⟨0x1F28, 0x1F2F, .moved 0x1F20⟩, ⟨0x1F38, 0x1F3F, .moved 0x1F30⟩,
  ⟨0x1F48, 0x1F4D, .moved 0x1F40⟩, ⟨0x1F59, 0x1F59, .moved 0x1F51⟩, ⟨0x1F5B, 0x1F5B, .moved 0x1F53⟩,
  ⟨0x1F5D, 0x1F5D, .moved 0x1F55⟩, ⟨0x1F5F, 0x1F5F, .moved 0x1F57⟩, ⟨0x1F68, 0x1F6F, .moved 0x1F60⟩,
  ⟨0x1F88, 0x1F8F, .moved 0x1F80⟩, ⟨0x1F98, 0x1F9F, .moved 0x1F90⟩, ⟨0x1FA8, 0x1FAF, .moved 0x1FA0⟩,
  ⟨0x1FB8, 0x1FB9, .moved 0x1FB0⟩, ⟨0x1FBA, 0x1FBB, .moved 0x1F70⟩, ⟨0x1FBC, 0x1FBC, .moved 0x1FB3⟩,
  ⟨0x1FC8, 0x1FCB, .moved 0x1F72⟩, ⟨0x1FCC, 0x1FCC, .moved 0x1FC3⟩, ⟨0x1FD8, 0x1FD9, .moved 0x1FD0⟩,
  ⟨0x1FDA, 0x1FDB, .moved 0x1F76⟩, ⟨0x1FE8, 0x1FE9, .moved 0x1FE0⟩, ⟨0x1FEA, 0x1FEB, .moved 0x1F7A⟩,
  ⟨0x1FEC, 0x1FEC, .moved 0x1FE5⟩, ⟨0x1FF8, 0x1FF9, .moved 0x1F78⟩, ⟨0x1FFA, 0x1FFB, .moved 0x1F7C⟩,
  ⟨0x1FFC, 0x1FFC, .moved 0x1FF3⟩, ⟨0x2126, 0x2126, .moved 0x3C9⟩, ⟨0x212A, 0x212A, .moved 0x6B⟩,
  ⟨0x212B, 0x212B, .moved 0xE5⟩, ⟨0x2132, 0x2132, .moved 0x214E⟩, ⟨0x2160, 0x216F, .moved 0x2170⟩,
  ⟨0x2183, 0x2183, .moved 0x2184⟩, ⟨0x24B6, 0x24CF, .moved 0x24D0⟩, ⟨0x2C00, 0x2C2F, .moved 0x2C30⟩,
  ⟨0x2C60, 0x2C60, .moved 0x2C61⟩, ⟨0x2C62, 0x2C62, .moved 0x26B⟩, ⟨0x2C63, 0x2C63, .moved 0x1D7D⟩,
  ⟨0x2C64, 0x2C64, .moved 0x27D⟩, ⟨0x2C67, 0x2C6C, .paired⟩, ⟨0x2C6D, 0x2C6D, .moved 0x251⟩,
  ⟨0x2C6E, 0x2C6E, .moved 0x271⟩, ⟨0x2C6F, 0x2C6F, .moved 0x250⟩, ⟨0x2C70, 0x2C70, .moved 0x252⟩,
  ⟨0x2C72, 0x2C72, .moved 0x2C73⟩, ⟨0x2C75, 0x2C75, .moved 0x2C76⟩, ⟨0x2C7E, 0x2C7F, .moved 0x23F⟩,
  ⟨0x2C80, 0x2CE3, .paired⟩, ⟨0x2CEB, 0x2CEE, .paired⟩, ⟨0x2CF2, 0x2CF2, .moved 0x2CF3⟩,
  ⟨0xA640, 0xA66D, .paired⟩, ⟨0xA680, 0xA69B, .paired⟩, ⟨0xA722, 0xA72F, .paired⟩,
  ⟨0xA732, 0xA76F, .paired⟩, ⟨0xA779, 0xA77C, .paired⟩, ⟨0xA77D, 0xA77D, .moved 0x1D79⟩,
  ⟨0xA77E, 0xA787, .paired⟩, ⟨0xA78B, 0xA78B, .moved 0xA78C⟩, ⟨0xA78D, 0xA78D, .moved 0x265⟩,
  ⟨0xA790, 0xA793, .paired⟩, ⟨0xA796, 0xA7A9, .paired⟩, ⟨0xA7AA, 0xA7AA, .moved 0x266⟩,
  ⟨0xA7AB, 0xA7AB, .moved 0x25C⟩, ⟨0xA7AC, 0xA7AC, .moved 0x261⟩, ⟨0xA7AD, 0xA7AD, .moved 0x26C⟩,
  ⟨0xA7AE, 0xA7AE, .moved 0x26A⟩, ⟨0xA7B0, 0xA7B0, .moved 0x29E⟩, ⟨0xA7B1, 0xA7B1, .moved 0x287⟩,
  ⟨0xA7B2, 0xA7B2, .moved 0x29D⟩, ⟨0xA7B3, 0xA7B3, .moved 0xAB53⟩, ⟨0xA7B4, 0xA7C3, .paired⟩,
  ⟨0xA7C4, 0xA7C4, .moved 0xA794⟩, ⟨0xA7C5, 0xA7C5, .moved 0x282⟩, ⟨0xA7C6, 0xA7C6, .moved 0x1D8E⟩,
  ⟨0xA7C7, 0xA7CA, .paired⟩, ⟨0xA7CB, 0xA7CB, .moved 0x264⟩, ⟨0xA7CC, 0xA7DB, .paired⟩,
  ⟨0xA7DC, 0xA7DC, .moved 0x19B⟩, ⟨0xA7F5, 0xA7F5, .moved 0xA7F6⟩, ⟨0xFF21, 0xFF3A, .moved 0xFF41⟩,
  ⟨0x10400, 0x10427, .moved 0x10428⟩, ⟨0x104B0, 0x104D3, .moved 0x104D8⟩,
  ⟨0x10570, 0x1057A, .moved 0x10597⟩, ⟨0x1057C, 0x1058A, .moved 0x105A3⟩,
  ⟨0x1058C, 0x10592, .moved 0x105B3⟩, ⟨0x10594, 0x10595, .moved 0x105BB⟩,
  ⟨0x10C80, 0x10CB2, .moved 0x10CC0⟩, ⟨0x10D50, 0x10D65, .moved 0x10D70⟩,
  ⟨0x118A0, 0x118BF, .moved 0x118C0⟩, ⟨0x16E40, 0x16E5F, .moved 0x16E60⟩,
  ⟨0x16EA0, 0x16EB8, .moved 0x16EBB⟩, ⟨0x1E900, 0x1E921, .moved 0x1E922⟩]

def tree : RangeTree Lowering := .ofRows rows

def apply (row : CodeRange Lowering) (code : Nat) : List Nat :=
  match row.value with
  | moved base => [base + (code - row.first)]
  | paired => [if (code - row.first) % 2 = 0 then code + 1 else code]
  | spelled codes => codes

end Lowering

def lowerChar (c : Char) : List Char :=
  match Lowering.tree.find? c.toNat with
  | some row => (Lowering.apply row c.toNat).map Char.ofNat
  | none => [c]

def meetsCase (text : Text) : Bool := (text.dropWhile isCaseIgnorable).head?.any isCased

/-- The lower case of a text that stands behind another one, which is given in reverse. A sigma that
ends a word takes its final form. -/
def lowerBehind (before : Text) : Text → Text
  | [] => []
  | c :: rest =>
    (if c = 'Σ' then [if meetsCase before && !meetsCase rest then 'ς' else 'σ'] else lowerChar c) ++
      lowerBehind (c :: before) rest

def lower (text : Text) : Text := lowerBehind [] text

end TenantSearch.Text
