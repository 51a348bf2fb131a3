import TenantSearch.Text.Fold.Rule

/-! Folded forms of Unicode 17.0: the Latin letters, the phonetic ones and the modifier letters.
A character without a row stands for itself. -/
namespace TenantSearch.Text.Folding

def latin : List (CodeRange Folding) := [
  ⟨0x41, 0x5A, .moved 0x61⟩, ⟨0xA0, 0xA0, .spelled [0x20]⟩, ⟨0xA8, 0xA8, .spelled [0x20]⟩,
  ⟨0xAA, 0xAA, .spelled [0x61]⟩, ⟨0xAF, 0xAF, .spelled [0x20]⟩, ⟨0xB2, 0xB3, .moved 0x32⟩,
  ⟨0xB4, 0xB4, .spelled [0x20]⟩, ⟨0xB5, 0xB5, .spelled [0x3BC]⟩, ⟨0xB8, 0xB8, .spelled [0x20]⟩,
  ⟨0xB9, 0xB9, .spelled [0x31]⟩, ⟨0xBA, 0xBA, .spelled [0x6F]⟩,
  ⟨0xBC, 0xBC, .spelled [0x31, 0x2044, 0x34]⟩, ⟨0xBD, 0xBD, .spelled [0x31, 0x2044, 0x32]⟩,
  ⟨0xBE, 0xBE, .spelled [0x33, 0x2044, 0x34]⟩, ⟨0xC0, 0xC5, .spelled [0x61]⟩,
  ⟨0xC6, 0xC6, .spelled [0xE6]⟩, ⟨0xC7, 0xC7, .spelled [0x63]⟩, ⟨0xC8, 0xCB, .spelled [0x65]⟩,
  ⟨0xCC, 0xCF, .spelled [0x69]⟩, ⟨0xD0, 0xD0, .spelled [0xF0]⟩, ⟨0xD1, 0xD2, .moved 0x6E⟩,
  ⟨0xD3, 0xD6, .spelled [0x6F]⟩, ⟨0xD8, 0xD8, .spelled [0xF8]⟩, ⟨0xD9, 0xDC, .spelled [0x75]⟩,
  ⟨0xDD, 0xDD, .spelled [0x79]⟩, ⟨0xDE, 0xDE, .spelled [0xFE]⟩, ⟨0xE0, 0xE5, .spelled [0x61]⟩,
  ⟨0xE7, 0xE7, .spelled [0x63]⟩, ⟨0xE8, 0xEB, .spelled [0x65]⟩, ⟨0xEC, 0xEF, .spelled [0x69]⟩,
  ⟨0xF1, 0xF2, .moved 0x6E⟩, ⟨0xF3, 0xF6, .spelled [0x6F]⟩, ⟨0xF9, 0xFC, .spelled [0x75]⟩,
  ⟨0xFD, 0xFD, .spelled [0x79]⟩, ⟨0xFF, 0xFF, .spelled [0x79]⟩, ⟨0x100, 0x105, .spelled [0x61]⟩,
  ⟨0x106, 0x10D, .spelled [0x63]⟩, ⟨0x10E, 0x10F, .spelled [0x64]⟩,
  ⟨0x110, 0x110, .spelled [0x111]⟩, ⟨0x112, 0x11B, .spelled [0x65]⟩,
  ⟨0x11C, 0x123, .spelled [0x67]⟩, ⟨0x124, 0x125, .spelled [0x68]⟩,
  ⟨0x126, 0x126, .spelled [0x127]⟩, ⟨0x128, 0x130, .spelled [0x69]⟩,
  ⟨0x132, 0x133, .spelled [0x69, 0x6A]⟩, ⟨0x134, 0x135, .spelled [0x6A]⟩,
  ⟨0x136, 0x137, .spelled [0x6B]⟩, ⟨0x139, 0x13E, .spelled [0x6C]⟩,
  ⟨0x13F, 0x140, .spelled [0x6C, 0xB7]⟩, ⟨0x141, 0x141, .spelled [0x142]⟩,
  ⟨0x143, 0x148, .spelled [0x6E]⟩, ⟨0x149, 0x149, .spelled [0x2BC, 0x6E]⟩,
  ⟨0x14A, 0x14A, .spelled [0x14B]⟩, ⟨0x14C, 0x151, .spelled [0x6F]⟩,
  ⟨0x152, 0x152, .spelled [0x153]⟩, ⟨0x154, 0x159, .spelled [0x72]⟩,
  ⟨0x15A, 0x161, .spelled [0x73]⟩, ⟨0x162, 0x165, .spelled [0x74]⟩,
  ⟨0x166, 0x166, .spelled [0x167]⟩, ⟨0x168, 0x173, .spelled [0x75]⟩,
  ⟨0x174, 0x175, .spelled [0x77]⟩, ⟨0x176, 0x178, .spelled [0x79]⟩, ⟨0x179, 0x17E, .spelled [0x7A]⟩,
  ⟨0x17F, 0x17F, .spelled [0x73]⟩, ⟨0x181, 0x181, .spelled [0x253]⟩,
  ⟨0x182, 0x182, .spelled [0x183]⟩, ⟨0x184, 0x184, .spelled [0x185]⟩,
  ⟨0x186, 0x186, .spelled [0x254]⟩, ⟨0x187, 0x187, .spelled [0x188]⟩, ⟨0x189, 0x18A, .moved 0x256⟩,
  ⟨0x18B, 0x18B, .spelled [0x18C]⟩, ⟨0x18E, 0x18E, .spelled [0x1DD]⟩,
  ⟨0x18F, 0x18F, .spelled [0x259]⟩, ⟨0x190, 0x190, .spelled [0x25B]⟩,
  ⟨0x191, 0x191, .spelled [0x192]⟩, ⟨0x193, 0x193, .spelled [0x260]⟩,
  ⟨0x194, 0x194, .spelled [0x263]⟩, ⟨0x196, 0x196, .spelled [0x269]⟩,
  ⟨0x197, 0x197, .spelled [0x268]⟩, ⟨0x198, 0x198, .spelled [0x199]⟩,
  ⟨0x19C, 0x19C, .spelled [0x26F]⟩, ⟨0x19D, 0x19D, .spelled [0x272]⟩,
  ⟨0x19F, 0x19F, .spelled [0x275]⟩, ⟨0x1A0, 0x1A1, .spelled [0x6F]⟩,
  ⟨0x1A2, 0x1A2, .spelled [0x1A3]⟩, ⟨0x1A4, 0x1A4, .spelled [0x1A5]⟩,
  ⟨0x1A6, 0x1A6, .spelled [0x280]⟩, ⟨0x1A7, 0x1A7, .spelled [0x1A8]⟩,
  ⟨0x1A9, 0x1A9, .spelled [0x283]⟩, ⟨0x1AC, 0x1AC, .spelled [0x1AD]⟩,
  ⟨0x1AE, 0x1AE, .spelled [0x288]⟩, ⟨0x1AF, 0x1B0, .spelled [0x75]⟩, ⟨0x1B1, 0x1B2, .moved 0x28A⟩,
  ⟨0x1B3, 0x1B3, .spelled [0x1B4]⟩, ⟨0x1B5, 0x1B5, .spelled [0x1B6]⟩,
  ⟨0x1B7, 0x1B7, .spelled [0x292]⟩, ⟨0x1B8, 0x1B8, .spelled [0x1B9]⟩,
  ⟨0x1BC, 0x1BC, .spelled [0x1BD]⟩, ⟨0x1C4, 0x1C6, .spelled [0x64, 0x7A]⟩,
  ⟨0x1C7, 0x1C9, .spelled [0x6C, 0x6A]⟩, ⟨0x1CA, 0x1CC, .spelled [0x6E, 0x6A]⟩,
  ⟨0x1CD, 0x1CE, .spelled [0x61]⟩, ⟨0x1CF, 0x1D0, .spelled [0x69]⟩, ⟨0x1D1, 0x1D2, .spelled [0x6F]⟩,
  ⟨0x1D3, 0x1DC, .spelled [0x75]⟩, ⟨0x1DE, 0x1E1, .spelled [0x61]⟩, ⟨0x1E2, 0x1E3, .spelled [0xE6]⟩,
  ⟨0x1E4, 0x1E4, .spelled [0x1E5]⟩, ⟨0x1E6, 0x1E7, .spelled [0x67]⟩,
  ⟨0x1E8, 0x1E9, .spelled [0x6B]⟩, ⟨0x1EA, 0x1ED, .spelled [0x6F]⟩,
  ⟨0x1EE, 0x1EF, .spelled [0x292]⟩, ⟨0x1F0, 0x1F0, .spelled [0x6A]⟩,
  ⟨0x1F1, 0x1F3, .spelled [0x64, 0x7A]⟩, ⟨0x1F4, 0x1F5, .spelled [0x67]⟩,
  ⟨0x1F6, 0x1F6, .spelled [0x195]⟩, ⟨0x1F7, 0x1F7, .spelled [0x1BF]⟩,
  ⟨0x1F8, 0x1F9, .spelled [0x6E]⟩, ⟨0x1FA, 0x1FB, .spelled [0x61]⟩, ⟨0x1FC, 0x1FD, .spelled [0xE6]⟩,
  ⟨0x1FE, 0x1FF, .spelled [0xF8]⟩, ⟨0x200, 0x203, .spelled [0x61]⟩, ⟨0x204, 0x207, .spelled [0x65]⟩,
  ⟨0x208, 0x20B, .spelled [0x69]⟩, ⟨0x20C, 0x20F, .spelled [0x6F]⟩, ⟨0x210, 0x213, .spelled [0x72]⟩,
  ⟨0x214, 0x217, .spelled [0x75]⟩, ⟨0x218, 0x219, .spelled [0x73]⟩, ⟨0x21A, 0x21B, .spelled [0x74]⟩,
  ⟨0x21C, 0x21C, .spelled [0x21D]⟩, ⟨0x21E, 0x21F, .spelled [0x68]⟩,
  ⟨0x220, 0x220, .spelled [0x19E]⟩, ⟨0x222, 0x222, .spelled [0x223]⟩,
  ⟨0x224, 0x224, .spelled [0x225]⟩, ⟨0x226, 0x227, .spelled [0x61]⟩,
  ⟨0x228, 0x229, .spelled [0x65]⟩, ⟨0x22A, 0x231, .spelled [0x6F]⟩, ⟨0x232, 0x233, .spelled [0x79]⟩,
  ⟨0x23A, 0x23A, .spelled [0x2C65]⟩, ⟨0x23B, 0x23B, .spelled [0x23C]⟩,
  ⟨0x23D, 0x23D, .spelled [0x19A]⟩, ⟨0x23E, 0x23E, .spelled [0x2C66]⟩,
  ⟨0x241, 0x241, .spelled [0x242]⟩, ⟨0x243, 0x243, .spelled [0x180]⟩,
  ⟨0x244, 0x244, .spelled [0x289]⟩, ⟨0x245, 0x245, .spelled [0x28C]⟩,
  ⟨0x246, 0x246, .spelled [0x247]⟩, ⟨0x248, 0x248, .spelled [0x249]⟩,
  ⟨0x24A, 0x24A, .spelled [0x24B]⟩, ⟨0x24C, 0x24C, .spelled [0x24D]⟩,
  ⟨0x24E, 0x24E, .spelled [0x24F]⟩, ⟨0x2B0, 0x2B0, .spelled [0x68]⟩,
  ⟨0x2B1, 0x2B1, .spelled [0x266]⟩, ⟨0x2B2, 0x2B2, .spelled [0x6A]⟩,
  ⟨0x2B3, 0x2B3, .spelled [0x72]⟩, ⟨0x2B4, 0x2B4, .spelled [0x279]⟩,
  ⟨0x2B5, 0x2B5, .spelled [0x27B]⟩, ⟨0x2B6, 0x2B6, .spelled [0x281]⟩,
  ⟨0x2B7, 0x2B7, .spelled [0x77]⟩, ⟨0x2B8, 0x2B8, .spelled [0x79]⟩, ⟨0x2D8, 0x2DD, .spelled [0x20]⟩,
  ⟨0x2E0, 0x2E0, .spelled [0x263]⟩, ⟨0x2E1, 0x2E1, .spelled [0x6C]⟩,
  ⟨0x2E2, 0x2E2, .spelled [0x73]⟩, ⟨0x2E3, 0x2E3, .spelled [0x78]⟩,
  ⟨0x2E4, 0x2E4, .spelled [0x295]⟩]

end TenantSearch.Text.Folding
