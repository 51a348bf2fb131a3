import TenantSearch.Text.Decomposition.Rule

/-! Compatibility decompositions of Unicode 17.0: mathematical alphabets and other supplementary
characters. A character without a row stands for itself. -/
namespace TenantSearch.Text.Decomposition

def supplementary : List (CodeRange Decomposition) := [
  ⟨0x105C9, 0x105C9, .listed [[0x105D2, 0x307]]⟩, ⟨0x105E4, 0x105E4, .listed [[0x105DA, 0x307]]⟩,
  ⟨0x10781, 0x10785, .each [0x2D0, 0x2D1, 0xE6, 0x299, 0x253]⟩,
  ⟨0x10787, 0x107A6, .each [0x2A3, 0xAB66, 0x2A5, 0x2A4, 0x256, 0x257, 0x1D91, 0x258, 0x25E, 0x2A9,
    0x264, 0x262, 0x260, 0x29B, 0x127, 0x29C, 0x267, 0x284, 0x2AA, 0x2AB, 0x26C, 0x1DF04, 0xA78E,
    0x26E, 0x1DF05, 0x28E, 0x1DF06, 0xF8, 0x276, 0x277, 0x71, 0x27A]⟩,
  ⟨0x107A7, 0x107B0, .each [0x1DF08, 0x27D, 0x27E, 0x280, 0x2A8, 0x2A6, 0xAB67, 0x2A7, 0x288,
    0x2C71]⟩,
  ⟨0x107B2, 0x107BA, .each [0x28F, 0x2A1, 0x2A2, 0x298, 0x1C0, 0x1C1, 0x1C2, 0x1DF0A, 0x1DF1E]⟩,
  ⟨0x1109A, 0x1109A, .listed [[0x11099, 0x110BA]]⟩,
  ⟨0x1109C, 0x1109C, .listed [[0x1109B, 0x110BA]]⟩,
  ⟨0x110AB, 0x110AB, .listed [[0x110A5, 0x110BA]]⟩,
  ⟨0x1112E, 0x1112F, .listed [[0x11131, 0x11127], [0x11132, 0x11127]]⟩,
  ⟨0x1134B, 0x1134C, .listed [[0x11347, 0x1133E], [0x11347, 0x11357]]⟩,
  ⟨0x11383, 0x11383, .listed [[0x11382, 0x113C9]]⟩,
  ⟨0x11385, 0x11385, .listed [[0x11384, 0x113BB]]⟩,
  ⟨0x1138E, 0x1138E, .listed [[0x1138B, 0x113C2]]⟩,
  ⟨0x11391, 0x11391, .listed [[0x11390, 0x113C9]]⟩,
  ⟨0x113C5, 0x113C5, .listed [[0x113C2, 0x113C2]]⟩,
  ⟨0x113C7, 0x113C8, .listed [[0x113C2, 0x113B8], [0x113C2, 0x113C9]]⟩,
  ⟨0x114BB, 0x114BC, .listed [[0x114B9, 0x114BA], [0x114B9, 0x114B0]]⟩,
  ⟨0x114BE, 0x114BE, .listed [[0x114B9, 0x114BD]]⟩,
  ⟨0x115BA, 0x115BB, .listed [[0x115B8, 0x115AF], [0x115B9, 0x115AF]]⟩,
  ⟨0x11938, 0x11938, .listed [[0x11935, 0x11930]]⟩,
  ⟨0x16121, 0x16128, .listed [[0x1611E, 0x1611E], [0x1611E, 0x16129], [0x1611E, 0x1611F],
    [0x16129, 0x1611F], [0x1611E, 0x16120], [0x1611E, 0x1611E, 0x1611F],
    [0x1611E, 0x16129, 0x1611F], [0x1611E, 0x1611E, 0x16120]]⟩,
  ⟨0x16D68, 0x16D6A, .listed [[0x16D67, 0x16D67], [0x16D63, 0x16D67], [0x16D63, 0x16D67, 0x16D67]]⟩,
  ⟨0x1CCD6, 0x1CCEF, .moved 0x41⟩, ⟨0x1CCF0, 0x1CCF9, .moved 0x30⟩,
  ⟨0x1D15E, 0x1D164, .listed [[0x1D157, 0x1D165], [0x1D158, 0x1D165], [0x1D158, 0x1D165, 0x1D16E],
    [0x1D158, 0x1D165, 0x1D16F], [0x1D158, 0x1D165, 0x1D170], [0x1D158, 0x1D165, 0x1D171],
    [0x1D158, 0x1D165, 0x1D172]]⟩,
  ⟨0x1D1BB, 0x1D1C0, .listed [[0x1D1B9, 0x1D165], [0x1D1BA, 0x1D165], [0x1D1B9, 0x1D165, 0x1D16E],
    [0x1D1BA, 0x1D165, 0x1D16E], [0x1D1B9, 0x1D165, 0x1D16F], [0x1D1BA, 0x1D165, 0x1D16F]]⟩,
  ⟨0x1D400, 0x1D419, .moved 0x41⟩, ⟨0x1D41A, 0x1D433, .moved 0x61⟩, ⟨0x1D434, 0x1D44D, .moved 0x41⟩,
  ⟨0x1D44E, 0x1D454, .moved 0x61⟩, ⟨0x1D456, 0x1D467, .moved 0x69⟩, ⟨0x1D468, 0x1D481, .moved 0x41⟩,
  ⟨0x1D482, 0x1D49B, .moved 0x61⟩, ⟨0x1D49C, 0x1D49C, .each [0x41]⟩,
  ⟨0x1D49E, 0x1D49F, .each [0x43, 0x44]⟩, ⟨0x1D4A2, 0x1D4A2, .each [0x47]⟩,
  ⟨0x1D4A5, 0x1D4A6, .each [0x4A, 0x4B]⟩, ⟨0x1D4A9, 0x1D4AC, .moved 0x4E⟩,
  ⟨0x1D4AE, 0x1D4B5, .moved 0x53⟩, ⟨0x1D4B6, 0x1D4B9, .moved 0x61⟩,
  ⟨0x1D4BB, 0x1D4BB, .each [0x66]⟩, ⟨0x1D4BD, 0x1D4C3, .moved 0x68⟩,
  ⟨0x1D4C5, 0x1D4CF, .moved 0x70⟩, ⟨0x1D4D0, 0x1D4E9, .moved 0x41⟩, ⟨0x1D4EA, 0x1D503, .moved 0x61⟩,
  ⟨0x1D504, 0x1D505, .each [0x41, 0x42]⟩, ⟨0x1D507, 0x1D50A, .moved 0x44⟩,
  ⟨0x1D50D, 0x1D514, .moved 0x4A⟩, ⟨0x1D516, 0x1D51C, .moved 0x53⟩, ⟨0x1D51E, 0x1D537, .moved 0x61⟩,
  ⟨0x1D538, 0x1D539, .each [0x41, 0x42]⟩, ⟨0x1D53B, 0x1D53E, .moved 0x44⟩,
  ⟨0x1D540, 0x1D544, .moved 0x49⟩, ⟨0x1D546, 0x1D546, .each [0x4F]⟩,
  ⟨0x1D54A, 0x1D550, .moved 0x53⟩, ⟨0x1D552, 0x1D56B, .moved 0x61⟩, ⟨0x1D56C, 0x1D585, .moved 0x41⟩,
  ⟨0x1D586, 0x1D59F, .moved 0x61⟩, ⟨0x1D5A0, 0x1D5B9, .moved 0x41⟩, ⟨0x1D5BA, 0x1D5D3, .moved 0x61⟩,
  ⟨0x1D5D4, 0x1D5ED, .moved 0x41⟩, ⟨0x1D5EE, 0x1D607, .moved 0x61⟩, ⟨0x1D608, 0x1D621, .moved 0x41⟩,
  ⟨0x1D622, 0x1D63B, .moved 0x61⟩, ⟨0x1D63C, 0x1D655, .moved 0x41⟩, ⟨0x1D656, 0x1D66F, .moved 0x61⟩,
  ⟨0x1D670, 0x1D689, .moved 0x41⟩, ⟨0x1D68A, 0x1D6A3, .moved 0x61⟩,
  ⟨0x1D6A4, 0x1D6A5, .each [0x131, 0x237]⟩, ⟨0x1D6A8, 0x1D6B8, .moved 0x391⟩,
  ⟨0x1D6B9, 0x1D6B9, .each [0x398]⟩, ⟨0x1D6BA, 0x1D6C0, .moved 0x3A3⟩,
  ⟨0x1D6C1, 0x1D6C1, .each [0x2207]⟩, ⟨0x1D6C2, 0x1D6DA, .moved 0x3B1⟩,
  ⟨0x1D6DB, 0x1D6E1, .each [0x2202, 0x3B5, 0x3B8, 0x3BA, 0x3C6, 0x3C1, 0x3C0]⟩,
  ⟨0x1D6E2, 0x1D6F2, .moved 0x391⟩, ⟨0x1D6F3, 0x1D6F3, .each [0x398]⟩,
  ⟨0x1D6F4, 0x1D6FA, .moved 0x3A3⟩, ⟨0x1D6FB, 0x1D6FB, .each [0x2207]⟩,
  ⟨0x1D6FC, 0x1D714, .moved 0x3B1⟩,
  ⟨0x1D715, 0x1D71B, .each [0x2202, 0x3B5, 0x3B8, 0x3BA, 0x3C6, 0x3C1, 0x3C0]⟩,
  ⟨0x1D71C, 0x1D72C, .moved 0x391⟩, ⟨0x1D72D, 0x1D72D, .each [0x398]⟩,
  ⟨0x1D72E, 0x1D734, .moved 0x3A3⟩, ⟨0x1D735, 0x1D735, .each [0x2207]⟩,
  ⟨0x1D736, 0x1D74E, .moved 0x3B1⟩,
  ⟨0x1D74F, 0x1D755, .each [0x2202, 0x3B5, 0x3B8, 0x3BA, 0x3C6, 0x3C1, 0x3C0]⟩,
  ⟨0x1D756, 0x1D766, .moved 0x391⟩, ⟨0x1D767, 0x1D767, .each [0x398]⟩,
  ⟨0x1D768, 0x1D76E, .moved 0x3A3⟩, ⟨0x1D76F, 0x1D76F, .each [0x2207]⟩,
  ⟨0x1D770, 0x1D788, .moved 0x3B1⟩,
  ⟨0x1D789, 0x1D78F, .each [0x2202, 0x3B5, 0x3B8, 0x3BA, 0x3C6, 0x3C1, 0x3C0]⟩,
  ⟨0x1D790, 0x1D7A0, .moved 0x391⟩, ⟨0x1D7A1, 0x1D7A1, .each [0x398]⟩,
  ⟨0x1D7A2, 0x1D7A8, .moved 0x3A3⟩, ⟨0x1D7A9, 0x1D7A9, .each [0x2207]⟩,
  ⟨0x1D7AA, 0x1D7C2, .moved 0x3B1⟩,
  ⟨0x1D7C3, 0x1D7CB, .each [0x2202, 0x3B5, 0x3B8, 0x3BA, 0x3C6, 0x3C1, 0x3C0, 0x3DC, 0x3DD]⟩,
  ⟨0x1D7CE, 0x1D7D7, .moved 0x30⟩, ⟨0x1D7D8, 0x1D7E1, .moved 0x30⟩, ⟨0x1D7E2, 0x1D7EB, .moved 0x30⟩,
  ⟨0x1D7EC, 0x1D7F5, .moved 0x30⟩, ⟨0x1D7F6, 0x1D7FF, .moved 0x30⟩,
  ⟨0x1E030, 0x1E038, .moved 0x430⟩, ⟨0x1E039, 0x1E03B, .each [0x43A, 0x43B, 0x43C]⟩,
  ⟨0x1E03C, 0x1E046, .moved 0x43E⟩,
  ⟨0x1E047, 0x1E050, .each [0x44B, 0x44D, 0x44E, 0xA689, 0x4D9, 0x456, 0x458, 0x4E9, 0x4AF, 0x4CF]⟩,
  ⟨0x1E051, 0x1E059, .moved 0x430⟩, ⟨0x1E05A, 0x1E05E, .each [0x43A, 0x43B, 0x43E, 0x43F, 0x441]⟩,
  ⟨0x1E05F, 0x1E064, .moved 0x443⟩,
  ⟨0x1E065, 0x1E06D, .each [0x44A, 0x44B, 0x491, 0x456, 0x455, 0x45F, 0x4AB, 0xA651, 0x4B1]⟩,
  ⟨0x1EE00, 0x1EE03, .each [0x627, 0x628, 0x62C, 0x62F]⟩,
  ⟨0x1EE05, 0x1EE09, .each [0x648, 0x632, 0x62D, 0x637, 0x64A]⟩, ⟨0x1EE0A, 0x1EE0D, .moved 0x643⟩,
  ⟨0x1EE0E, 0x1EE1F, .each [0x633, 0x639, 0x641, 0x635, 0x642, 0x631, 0x634, 0x62A, 0x62B, 0x62E,
    0x630, 0x636, 0x638, 0x63A, 0x66E, 0x6BA, 0x6A1, 0x66F]⟩,
  ⟨0x1EE21, 0x1EE22, .each [0x628, 0x62C]⟩, ⟨0x1EE24, 0x1EE24, .each [0x647]⟩,
  ⟨0x1EE27, 0x1EE27, .each [0x62D]⟩, ⟨0x1EE29, 0x1EE29, .each [0x64A]⟩,
  ⟨0x1EE2A, 0x1EE2D, .moved 0x643⟩, ⟨0x1EE2E, 0x1EE32, .each [0x633, 0x639, 0x641, 0x635, 0x642]⟩,
  ⟨0x1EE34, 0x1EE37, .each [0x634, 0x62A, 0x62B, 0x62E]⟩, ⟨0x1EE39, 0x1EE39, .each [0x636]⟩,
  ⟨0x1EE3B, 0x1EE3B, .each [0x63A]⟩, ⟨0x1EE42, 0x1EE42, .each [0x62C]⟩,
  ⟨0x1EE47, 0x1EE47, .each [0x62D]⟩, ⟨0x1EE49, 0x1EE49, .each [0x64A]⟩,
  ⟨0x1EE4B, 0x1EE4B, .each [0x644]⟩, ⟨0x1EE4D, 0x1EE4F, .each [0x646, 0x633, 0x639]⟩,
  ⟨0x1EE51, 0x1EE52, .each [0x635, 0x642]⟩, ⟨0x1EE54, 0x1EE54, .each [0x634]⟩,
  ⟨0x1EE57, 0x1EE57, .each [0x62E]⟩, ⟨0x1EE59, 0x1EE59, .each [0x636]⟩,
  ⟨0x1EE5B, 0x1EE5B, .each [0x63A]⟩, ⟨0x1EE5D, 0x1EE5D, .each [0x6BA]⟩,
  ⟨0x1EE5F, 0x1EE5F, .each [0x66F]⟩, ⟨0x1EE61, 0x1EE62, .each [0x628, 0x62C]⟩,
  ⟨0x1EE64, 0x1EE64, .each [0x647]⟩, ⟨0x1EE67, 0x1EE6A, .each [0x62D, 0x637, 0x64A, 0x643]⟩,
  ⟨0x1EE6C, 0x1EE72, .each [0x645, 0x646, 0x633, 0x639, 0x641, 0x635, 0x642]⟩,
  ⟨0x1EE74, 0x1EE77, .each [0x634, 0x62A, 0x62B, 0x62E]⟩,
  ⟨0x1EE79, 0x1EE7C, .each [0x636, 0x638, 0x63A, 0x66E]⟩, ⟨0x1EE7E, 0x1EE7E, .each [0x6A1]⟩,
  ⟨0x1EE80, 0x1EE89, .each [0x627, 0x628, 0x62C, 0x62F, 0x647, 0x648, 0x632, 0x62D, 0x637, 0x64A]⟩,
  ⟨0x1EE8B, 0x1EE9B, .each [0x644, 0x645, 0x646, 0x633, 0x639, 0x641, 0x635, 0x642, 0x631, 0x634,
    0x62A, 0x62B, 0x62E, 0x630, 0x636, 0x638, 0x63A]⟩,
  ⟨0x1EEA1, 0x1EEA3, .each [0x628, 0x62C, 0x62F]⟩,
  ⟨0x1EEA5, 0x1EEA9, .each [0x648, 0x632, 0x62D, 0x637, 0x64A]⟩,
  ⟨0x1EEAB, 0x1EEBB, .each [0x644, 0x645, 0x646, 0x633, 0x639, 0x641, 0x635, 0x642, 0x631, 0x634,
    0x62A, 0x62B, 0x62E, 0x630, 0x636, 0x638, 0x63A]⟩,
  ⟨0x1F100, 0x1F10A, .listed [[0x30, 0x2E], [0x30, 0x2C], [0x31, 0x2C], [0x32, 0x2C], [0x33, 0x2C],
    [0x34, 0x2C], [0x35, 0x2C], [0x36, 0x2C], [0x37, 0x2C], [0x38, 0x2C], [0x39, 0x2C]]⟩,
  ⟨0x1F110, 0x1F12E, .listed [[0x28, 0x41, 0x29], [0x28, 0x42, 0x29], [0x28, 0x43, 0x29],
    [0x28, 0x44, 0x29], [0x28, 0x45, 0x29], [0x28, 0x46, 0x29], [0x28, 0x47, 0x29],
    [0x28, 0x48, 0x29], [0x28, 0x49, 0x29], [0x28, 0x4A, 0x29], [0x28, 0x4B, 0x29],
    [0x28, 0x4C, 0x29], [0x28, 0x4D, 0x29], [0x28, 0x4E, 0x29], [0x28, 0x4F, 0x29],
    [0x28, 0x50, 0x29], [0x28, 0x51, 0x29], [0x28, 0x52, 0x29], [0x28, 0x53, 0x29],
    [0x28, 0x54, 0x29], [0x28, 0x55, 0x29], [0x28, 0x56, 0x29], [0x28, 0x57, 0x29],
    [0x28, 0x58, 0x29], [0x28, 0x59, 0x29], [0x28, 0x5A, 0x29], [0x3014, 0x53, 0x3015], [0x43],
    [0x52], [0x43, 0x44], [0x57, 0x5A]]⟩,
  ⟨0x1F130, 0x1F149, .moved 0x41⟩,
  ⟨0x1F14A, 0x1F14F, .listed [[0x48, 0x56], [0x4D, 0x56], [0x53, 0x44], [0x53, 0x53],
    [0x50, 0x50, 0x56], [0x57, 0x43]]⟩,
  ⟨0x1F16A, 0x1F16C, .listed [[0x4D, 0x43], [0x4D, 0x44], [0x4D, 0x52]]⟩,
  ⟨0x1F190, 0x1F190, .listed [[0x44, 0x4A]]⟩,
  ⟨0x1F200, 0x1F202, .listed [[0x307B, 0x304B], [0x30B3, 0x30B3], [0x30B5]]⟩,
  ⟨0x1F210, 0x1F22F, .listed [[0x624B], [0x5B57], [0x53CC], [0x30C6, 0x3099], [0x4E8C], [0x591A],
    [0x89E3], [0x5929], [0x4EA4], [0x6620], [0x7121], [0x6599], [0x524D], [0x5F8C], [0x518D],
    [0x65B0], [0x521D], [0x7D42], [0x751F], [0x8CA9], [0x58F0], [0x5439], [0x6F14], [0x6295],
    [0x6355], [0x4E00], [0x4E09], [0x904A], [0x5DE6], [0x4E2D], [0x53F3], [0x6307]]⟩,
  ⟨0x1F230, 0x1F23B, .each [0x8D70, 0x6253, 0x7981, 0x7A7A, 0x5408, 0x6E80, 0x6709, 0x6708, 0x7533,
    0x5272, 0x55B6, 0x914D]⟩,
  ⟨0x1F240, 0x1F248, .listed [[0x3014, 0x672C, 0x3015], [0x3014, 0x4E09, 0x3015],
    [0x3014, 0x4E8C, 0x3015], [0x3014, 0x5B89, 0x3015], [0x3014, 0x70B9, 0x3015],
    [0x3014, 0x6253, 0x3015], [0x3014, 0x76D7, 0x3015], [0x3014, 0x52DD, 0x3015],
    [0x3014, 0x6557, 0x3015]]⟩,
  ⟨0x1F250, 0x1F251, .each [0x5F97, 0x53EF]⟩, ⟨0x1FBF0, 0x1FBF9, .moved 0x30⟩]

end TenantSearch.Text.Decomposition
