import TenantSearch.Text.Fold.Rule

/-! Folded forms of Unicode 17.0: the historic scripts, mathematical letters and symbols of the
first supplementary plane. A character without a row stands for itself. -/
namespace TenantSearch.Text.Folding

private def supplementaryRows1 : List (CodeRange Folding) := [
  ⟨0x101FD, 0x101FD, .spelled []⟩, ⟨0x102E0, 0x102E0, .spelled []⟩, ⟨0x10376, 0x1037A, .spelled []⟩,
  ⟨0x10400, 0x10427, .moved 0x10428⟩, ⟨0x104B0, 0x104D3, .moved 0x104D8⟩,
  ⟨0x10570, 0x1057A, .moved 0x10597⟩, ⟨0x1057C, 0x1058A, .moved 0x105A3⟩,
  ⟨0x1058C, 0x10592, .moved 0x105B3⟩, ⟨0x10594, 0x10595, .moved 0x105BB⟩,
  ⟨0x105C9, 0x105C9, .spelled [0x105D2]⟩, ⟨0x105E4, 0x105E4, .spelled [0x105DA]⟩,
  ⟨0x10781, 0x10782, .moved 0x2D0⟩, ⟨0x10783, 0x10783, .spelled [0xE6]⟩,
  ⟨0x10784, 0x10784, .spelled [0x299]⟩, ⟨0x10785, 0x10785, .spelled [0x253]⟩,
  ⟨0x10787, 0x10787, .spelled [0x2A3]⟩, ⟨0x10788, 0x10788, .spelled [0xAB66]⟩,
  ⟨0x10789, 0x10789, .spelled [0x2A5]⟩, ⟨0x1078A, 0x1078A, .spelled [0x2A4]⟩,
  ⟨0x1078B, 0x1078C, .moved 0x256⟩, ⟨0x1078D, 0x1078D, .spelled [0x1D91]⟩,
  ⟨0x1078E, 0x1078E, .spelled [0x258]⟩, ⟨0x1078F, 0x1078F, .spelled [0x25E]⟩,
  ⟨0x10790, 0x10790, .spelled [0x2A9]⟩, ⟨0x10791, 0x10791, .spelled [0x264]⟩,
  ⟨0x10792, 0x10792, .spelled [0x262]⟩, ⟨0x10793, 0x10793, .spelled [0x260]⟩,
  ⟨0x10794, 0x10794, .spelled [0x29B]⟩, ⟨0x10795, 0x10795, .spelled [0x127]⟩,
  ⟨0x10796, 0x10796, .spelled [0x29C]⟩, ⟨0x10797, 0x10797, .spelled [0x267]⟩,
  ⟨0x10798, 0x10798, .spelled [0x284]⟩, ⟨0x10799, 0x1079A, .moved 0x2AA⟩,
  ⟨0x1079B, 0x1079B, .spelled [0x26C]⟩, ⟨0x1079C, 0x1079C, .spelled [0x1DF04]⟩,
  ⟨0x1079D, 0x1079D, .spelled [0xA78E]⟩, ⟨0x1079E, 0x1079E, .spelled [0x26E]⟩,
  ⟨0x1079F, 0x1079F, .spelled [0x1DF05]⟩, ⟨0x107A0, 0x107A0, .spelled [0x28E]⟩,
  ⟨0x107A1, 0x107A1, .spelled [0x1DF06]⟩, ⟨0x107A2, 0x107A2, .spelled [0xF8]⟩,
  ⟨0x107A3, 0x107A4, .moved 0x276⟩, ⟨0x107A5, 0x107A5, .spelled [0x71]⟩,
  ⟨0x107A6, 0x107A6, .spelled [0x27A]⟩, ⟨0x107A7, 0x107A7, .spelled [0x1DF08]⟩,
  ⟨0x107A8, 0x107A9, .moved 0x27D⟩, ⟨0x107AA, 0x107AA, .spelled [0x280]⟩,
  ⟨0x107AB, 0x107AB, .spelled [0x2A8]⟩, ⟨0x107AC, 0x107AC, .spelled [0x2A6]⟩,
  ⟨0x107AD, 0x107AD, .spelled [0xAB67]⟩, ⟨0x107AE, 0x107AE, .spelled [0x2A7]⟩,
  ⟨0x107AF, 0x107AF, .spelled [0x288]⟩, ⟨0x107B0, 0x107B0, .spelled [0x2C71]⟩,
  ⟨0x107B2, 0x107B2, .spelled [0x28F]⟩, ⟨0x107B3, 0x107B4, .moved 0x2A1⟩,
  ⟨0x107B5, 0x107B5, .spelled [0x298]⟩, ⟨0x107B6, 0x107B8, .moved 0x1C0⟩,
  ⟨0x107B9, 0x107B9, .spelled [0x1DF0A]⟩, ⟨0x107BA, 0x107BA, .spelled [0x1DF1E]⟩,
  ⟨0x10A01, 0x10A03, .spelled []⟩, ⟨0x10A05, 0x10A06, .spelled []⟩, ⟨0x10A0C, 0x10A0F, .spelled []⟩,
  ⟨0x10A38, 0x10A3A, .spelled []⟩, ⟨0x10A3F, 0x10A3F, .spelled []⟩, ⟨0x10AE5, 0x10AE6, .spelled []⟩,
  ⟨0x10C80, 0x10CB2, .moved 0x10CC0⟩, ⟨0x10D24, 0x10D27, .spelled []⟩,
  ⟨0x10D50, 0x10D65, .moved 0x10D70⟩, ⟨0x10D69, 0x10D6D, .spelled []⟩,
  ⟨0x10EAB, 0x10EAC, .spelled []⟩, ⟨0x10EFA, 0x10EFF, .spelled []⟩, ⟨0x10F46, 0x10F50, .spelled []⟩,
  ⟨0x10F82, 0x10F85, .spelled []⟩, ⟨0x11000, 0x11002, .spelled []⟩, ⟨0x11038, 0x11046, .spelled []⟩,
  ⟨0x11070, 0x11070, .spelled []⟩, ⟨0x11073, 0x11074, .spelled []⟩, ⟨0x1107F, 0x11082, .spelled []⟩,
  ⟨0x1109A, 0x1109A, .spelled [0x11099]⟩, ⟨0x1109C, 0x1109C, .spelled [0x1109B]⟩,
  ⟨0x110AB, 0x110AB, .spelled [0x110A5]⟩, ⟨0x110B0, 0x110BA, .spelled []⟩,
  ⟨0x110C2, 0x110C2, .spelled []⟩, ⟨0x11100, 0x11102, .spelled []⟩, ⟨0x11127, 0x11134, .spelled []⟩,
  ⟨0x11145, 0x11146, .spelled []⟩, ⟨0x11173, 0x11173, .spelled []⟩, ⟨0x11180, 0x11182, .spelled []⟩,
  ⟨0x111B3, 0x111C0, .spelled []⟩, ⟨0x111C9, 0x111CC, .spelled []⟩, ⟨0x111CE, 0x111CF, .spelled []⟩,
  ⟨0x1122C, 0x11237, .spelled []⟩, ⟨0x1123E, 0x1123E, .spelled []⟩, ⟨0x11241, 0x11241, .spelled []⟩,
  ⟨0x112DF, 0x112EA, .spelled []⟩, ⟨0x11300, 0x11303, .spelled []⟩, ⟨0x1133B, 0x1133C, .spelled []⟩,
  ⟨0x1133E, 0x11344, .spelled []⟩, ⟨0x11347, 0x11348, .spelled []⟩, ⟨0x1134B, 0x1134D, .spelled []⟩,
  ⟨0x11357, 0x11357, .spelled []⟩, ⟨0x11362, 0x11363, .spelled []⟩, ⟨0x11366, 0x1136C, .spelled []⟩,
  ⟨0x11370, 0x11374, .spelled []⟩, ⟨0x11383, 0x11383, .spelled [0x11382]⟩,
  ⟨0x11385, 0x11385, .spelled [0x11384]⟩, ⟨0x1138E, 0x1138E, .spelled [0x1138B]⟩,
  ⟨0x11391, 0x11391, .spelled [0x11390]⟩, ⟨0x113B8, 0x113C0, .spelled []⟩,
  ⟨0x113C2, 0x113C2, .spelled []⟩, ⟨0x113C5, 0x113C5, .spelled []⟩, ⟨0x113C7, 0x113CA, .spelled []⟩,
  ⟨0x113CC, 0x113D0, .spelled []⟩, ⟨0x113D2, 0x113D2, .spelled []⟩, ⟨0x113E1, 0x113E2, .spelled []⟩,
  ⟨0x11435, 0x11446, .spelled []⟩, ⟨0x1145E, 0x1145E, .spelled []⟩, ⟨0x114B0, 0x114C3, .spelled []⟩,
  ⟨0x115AF, 0x115B5, .spelled []⟩, ⟨0x115B8, 0x115C0, .spelled []⟩, ⟨0x115DC, 0x115DD, .spelled []⟩,
  ⟨0x11630, 0x11640, .spelled []⟩, ⟨0x116AB, 0x116B7, .spelled []⟩, ⟨0x1171D, 0x1172B, .spelled []⟩,
  ⟨0x1182C, 0x1183A, .spelled []⟩, ⟨0x118A0, 0x118BF, .moved 0x118C0⟩,
  ⟨0x11930, 0x11935, .spelled []⟩, ⟨0x11937, 0x11938, .spelled []⟩, ⟨0x1193B, 0x1193E, .spelled []⟩,
  ⟨0x11940, 0x11940, .spelled []⟩, ⟨0x11942, 0x11943, .spelled []⟩, ⟨0x119D1, 0x119D7, .spelled []⟩,
  ⟨0x119DA, 0x119E0, .spelled []⟩, ⟨0x119E4, 0x119E4, .spelled []⟩, ⟨0x11A01, 0x11A0A, .spelled []⟩,
  ⟨0x11A33, 0x11A39, .spelled []⟩, ⟨0x11A3B, 0x11A3E, .spelled []⟩, ⟨0x11A47, 0x11A47, .spelled []⟩,
  ⟨0x11A51, 0x11A5B, .spelled []⟩, ⟨0x11A8A, 0x11A99, .spelled []⟩, ⟨0x11B60, 0x11B67, .spelled []⟩,
  ⟨0x11C2F, 0x11C36, .spelled []⟩, ⟨0x11C38, 0x11C3F, .spelled []⟩, ⟨0x11C92, 0x11CA7, .spelled []⟩,
  ⟨0x11CA9, 0x11CB6, .spelled []⟩, ⟨0x11D31, 0x11D36, .spelled []⟩, ⟨0x11D3A, 0x11D3A, .spelled []⟩,
  ⟨0x11D3C, 0x11D3D, .spelled []⟩, ⟨0x11D3F, 0x11D45, .spelled []⟩, ⟨0x11D47, 0x11D47, .spelled []⟩,
  ⟨0x11D8A, 0x11D8E, .spelled []⟩, ⟨0x11D90, 0x11D91, .spelled []⟩, ⟨0x11D93, 0x11D97, .spelled []⟩,
  ⟨0x11EF3, 0x11EF6, .spelled []⟩, ⟨0x11F00, 0x11F01, .spelled []⟩, ⟨0x11F03, 0x11F03, .spelled []⟩,
  ⟨0x11F34, 0x11F3A, .spelled []⟩, ⟨0x11F3E, 0x11F42, .spelled []⟩, ⟨0x11F5A, 0x11F5A, .spelled []⟩,
  ⟨0x13440, 0x13440, .spelled []⟩, ⟨0x13447, 0x13455, .spelled []⟩, ⟨0x1611E, 0x1612F, .spelled []⟩,
  ⟨0x16AF0, 0x16AF4, .spelled []⟩, ⟨0x16B30, 0x16B36, .spelled []⟩,
  ⟨0x16D68, 0x16D68, .spelled [0x16D67, 0x16D67]⟩, ⟨0x16D69, 0x16D69, .spelled [0x16D63, 0x16D67]⟩,
  ⟨0x16D6A, 0x16D6A, .spelled [0x16D63, 0x16D67, 0x16D67]⟩, ⟨0x16E40, 0x16E5F, .moved 0x16E60⟩,
  ⟨0x16EA0, 0x16EB8, .moved 0x16EBB⟩, ⟨0x16F4F, 0x16F4F, .spelled []⟩,
  ⟨0x16F51, 0x16F87, .spelled []⟩, ⟨0x16F8F, 0x16F92, .spelled []⟩, ⟨0x16FE4, 0x16FE4, .spelled []⟩,
  ⟨0x16FF0, 0x16FF1, .spelled []⟩, ⟨0x1BC9D, 0x1BC9E, .spelled []⟩, ⟨0x1CCD6, 0x1CCEF, .moved 0x61⟩,
  ⟨0x1CCF0, 0x1CCF9, .moved 0x30⟩, ⟨0x1CF00, 0x1CF2D, .spelled []⟩, ⟨0x1CF30, 0x1CF46, .spelled []⟩,
  ⟨0x1D15E, 0x1D15F, .moved 0x1D157⟩, ⟨0x1D160, 0x1D164, .spelled [0x1D158]⟩,
  ⟨0x1D165, 0x1D169, .spelled []⟩, ⟨0x1D16D, 0x1D172, .spelled []⟩, ⟨0x1D17B, 0x1D182, .spelled []⟩,
  ⟨0x1D185, 0x1D18B, .spelled []⟩, ⟨0x1D1AA, 0x1D1AD, .spelled []⟩,
  ⟨0x1D1BB, 0x1D1BC, .moved 0x1D1B9⟩, ⟨0x1D1BD, 0x1D1BE, .moved 0x1D1B9⟩,
  ⟨0x1D1BF, 0x1D1C0, .moved 0x1D1B9⟩, ⟨0x1D242, 0x1D244, .spelled []⟩,
  ⟨0x1D400, 0x1D419, .moved 0x61⟩, ⟨0x1D41A, 0x1D433, .moved 0x61⟩, ⟨0x1D434, 0x1D44D, .moved 0x61⟩,
  ⟨0x1D44E, 0x1D454, .moved 0x61⟩, ⟨0x1D456, 0x1D467, .moved 0x69⟩, ⟨0x1D468, 0x1D481, .moved 0x61⟩,
  ⟨0x1D482, 0x1D49B, .moved 0x61⟩, ⟨0x1D49C, 0x1D49C, .spelled [0x61]⟩,
  ⟨0x1D49E, 0x1D49F, .moved 0x63⟩, ⟨0x1D4A2, 0x1D4A2, .spelled [0x67]⟩,
  ⟨0x1D4A5, 0x1D4A6, .moved 0x6A⟩, ⟨0x1D4A9, 0x1D4AC, .moved 0x6E⟩, ⟨0x1D4AE, 0x1D4B5, .moved 0x73⟩,
  ⟨0x1D4B6, 0x1D4B9, .moved 0x61⟩, ⟨0x1D4BB, 0x1D4BB, .spelled [0x66]⟩,
  ⟨0x1D4BD, 0x1D4C3, .moved 0x68⟩, ⟨0x1D4C5, 0x1D4CF, .moved 0x70⟩, ⟨0x1D4D0, 0x1D4E9, .moved 0x61⟩,
  ⟨0x1D4EA, 0x1D503, .moved 0x61⟩, ⟨0x1D504, 0x1D505, .moved 0x61⟩, ⟨0x1D507, 0x1D50A, .moved 0x64⟩,
  ⟨0x1D50D, 0x1D514, .moved 0x6A⟩, ⟨0x1D516, 0x1D51C, .moved 0x73⟩, ⟨0x1D51E, 0x1D537, .moved 0x61⟩,
  ⟨0x1D538, 0x1D539, .moved 0x61⟩, ⟨0x1D53B, 0x1D53E, .moved 0x64⟩, ⟨0x1D540, 0x1D544, .moved 0x69⟩,
  ⟨0x1D546, 0x1D546, .spelled [0x6F]⟩, ⟨0x1D54A, 0x1D550, .moved 0x73⟩,
  ⟨0x1D552, 0x1D56B, .moved 0x61⟩, ⟨0x1D56C, 0x1D585, .moved 0x61⟩, ⟨0x1D586, 0x1D59F, .moved 0x61⟩,
  ⟨0x1D5A0, 0x1D5B9, .moved 0x61⟩, ⟨0x1D5BA, 0x1D5D3, .moved 0x61⟩, ⟨0x1D5D4, 0x1D5ED, .moved 0x61⟩,
  ⟨0x1D5EE, 0x1D607, .moved 0x61⟩, ⟨0x1D608, 0x1D621, .moved 0x61⟩, ⟨0x1D622, 0x1D63B, .moved 0x61⟩,
  ⟨0x1D63C, 0x1D655, .moved 0x61⟩, ⟨0x1D656, 0x1D66F, .moved 0x61⟩, ⟨0x1D670, 0x1D689, .moved 0x61⟩,
  ⟨0x1D68A, 0x1D6A3, .moved 0x61⟩, ⟨0x1D6A4, 0x1D6A4, .spelled [0x131]⟩,
  ⟨0x1D6A5, 0x1D6A5, .spelled [0x237]⟩, ⟨0x1D6A8, 0x1D6B8, .moved 0x3B1⟩,
  ⟨0x1D6B9, 0x1D6B9, .spelled [0x3B8]⟩, ⟨0x1D6BA, 0x1D6C0, .moved 0x3C3⟩,
  ⟨0x1D6C1, 0x1D6C1, .spelled [0x2207]⟩, ⟨0x1D6C2, 0x1D6DA, .moved 0x3B1⟩,
  ⟨0x1D6DB, 0x1D6DB, .spelled [0x2202]⟩, ⟨0x1D6DC, 0x1D6DC, .spelled [0x3B5]⟩,
  ⟨0x1D6DD, 0x1D6DD, .spelled [0x3B8]⟩, ⟨0x1D6DE, 0x1D6DE, .spelled [0x3BA]⟩,
  ⟨0x1D6DF, 0x1D6DF, .spelled [0x3C6]⟩, ⟨0x1D6E0, 0x1D6E0, .spelled [0x3C1]⟩,
  ⟨0x1D6E1, 0x1D6E1, .spelled [0x3C0]⟩, ⟨0x1D6E2, 0x1D6F2, .moved 0x3B1⟩,
  ⟨0x1D6F3, 0x1D6F3, .spelled [0x3B8]⟩, ⟨0x1D6F4, 0x1D6FA, .moved 0x3C3⟩,
  ⟨0x1D6FB, 0x1D6FB, .spelled [0x2207]⟩, ⟨0x1D6FC, 0x1D714, .moved 0x3B1⟩,
  ⟨0x1D715, 0x1D715, .spelled [0x2202]⟩, ⟨0x1D716, 0x1D716, .spelled [0x3B5]⟩,
  ⟨0x1D717, 0x1D717, .spelled [0x3B8]⟩, ⟨0x1D718, 0x1D718, .spelled [0x3BA]⟩,
  ⟨0x1D719, 0x1D719, .spelled [0x3C6]⟩, ⟨0x1D71A, 0x1D71A, .spelled [0x3C1]⟩,
  ⟨0x1D71B, 0x1D71B, .spelled [0x3C0]⟩, ⟨0x1D71C, 0x1D72C, .moved 0x3B1⟩,
  ⟨0x1D72D, 0x1D72D, .spelled [0x3B8]⟩, ⟨0x1D72E, 0x1D734, .moved 0x3C3⟩,
  ⟨0x1D735, 0x1D735, .spelled [0x2207]⟩, ⟨0x1D736, 0x1D74E, .moved 0x3B1⟩,
  ⟨0x1D74F, 0x1D74F, .spelled [0x2202]⟩, ⟨0x1D750, 0x1D750, .spelled [0x3B5]⟩,
  ⟨0x1D751, 0x1D751, .spelled [0x3B8]⟩, ⟨0x1D752, 0x1D752, .spelled [0x3BA]⟩,
  ⟨0x1D753, 0x1D753, .spelled [0x3C6]⟩, ⟨0x1D754, 0x1D754, .spelled [0x3C1]⟩,
  ⟨0x1D755, 0x1D755, .spelled [0x3C0]⟩, ⟨0x1D756, 0x1D766, .moved 0x3B1⟩,
  ⟨0x1D767, 0x1D767, .spelled [0x3B8]⟩, ⟨0x1D768, 0x1D76E, .moved 0x3C3⟩,
  ⟨0x1D76F, 0x1D76F, .spelled [0x2207]⟩, ⟨0x1D770, 0x1D788, .moved 0x3B1⟩,
  ⟨0x1D789, 0x1D789, .spelled [0x2202]⟩, ⟨0x1D78A, 0x1D78A, .spelled [0x3B5]⟩,
  ⟨0x1D78B, 0x1D78B, .spelled [0x3B8]⟩, ⟨0x1D78C, 0x1D78C, .spelled [0x3BA]⟩,
  ⟨0x1D78D, 0x1D78D, .spelled [0x3C6]⟩]

private def supplementaryRows2 : List (CodeRange Folding) := [
  ⟨0x1D78E, 0x1D78E, .spelled [0x3C1]⟩, ⟨0x1D78F, 0x1D78F, .spelled [0x3C0]⟩,
  ⟨0x1D790, 0x1D7A0, .moved 0x3B1⟩, ⟨0x1D7A1, 0x1D7A1, .spelled [0x3B8]⟩,
  ⟨0x1D7A2, 0x1D7A8, .moved 0x3C3⟩, ⟨0x1D7A9, 0x1D7A9, .spelled [0x2207]⟩,
  ⟨0x1D7AA, 0x1D7C2, .moved 0x3B1⟩, ⟨0x1D7C3, 0x1D7C3, .spelled [0x2202]⟩,
  ⟨0x1D7C4, 0x1D7C4, .spelled [0x3B5]⟩, ⟨0x1D7C5, 0x1D7C5, .spelled [0x3B8]⟩,
  ⟨0x1D7C6, 0x1D7C6, .spelled [0x3BA]⟩, ⟨0x1D7C7, 0x1D7C7, .spelled [0x3C6]⟩,
  ⟨0x1D7C8, 0x1D7C8, .spelled [0x3C1]⟩, ⟨0x1D7C9, 0x1D7C9, .spelled [0x3C0]⟩,
  ⟨0x1D7CA, 0x1D7CB, .spelled [0x3DD]⟩, ⟨0x1D7CE, 0x1D7D7, .moved 0x30⟩,
  ⟨0x1D7D8, 0x1D7E1, .moved 0x30⟩, ⟨0x1D7E2, 0x1D7EB, .moved 0x30⟩, ⟨0x1D7EC, 0x1D7F5, .moved 0x30⟩,
  ⟨0x1D7F6, 0x1D7FF, .moved 0x30⟩, ⟨0x1DA00, 0x1DA36, .spelled []⟩, ⟨0x1DA3B, 0x1DA6C, .spelled []⟩,
  ⟨0x1DA75, 0x1DA75, .spelled []⟩, ⟨0x1DA84, 0x1DA84, .spelled []⟩, ⟨0x1DA9B, 0x1DA9F, .spelled []⟩,
  ⟨0x1DAA1, 0x1DAAF, .spelled []⟩, ⟨0x1E000, 0x1E006, .spelled []⟩, ⟨0x1E008, 0x1E018, .spelled []⟩,
  ⟨0x1E01B, 0x1E021, .spelled []⟩, ⟨0x1E023, 0x1E024, .spelled []⟩, ⟨0x1E026, 0x1E02A, .spelled []⟩,
  ⟨0x1E030, 0x1E038, .moved 0x430⟩, ⟨0x1E039, 0x1E03B, .moved 0x43A⟩,
  ⟨0x1E03C, 0x1E046, .moved 0x43E⟩, ⟨0x1E047, 0x1E047, .spelled [0x44B]⟩,
  ⟨0x1E048, 0x1E049, .moved 0x44D⟩, ⟨0x1E04A, 0x1E04A, .spelled [0xA689]⟩,
  ⟨0x1E04B, 0x1E04B, .spelled [0x4D9]⟩, ⟨0x1E04C, 0x1E04C, .spelled [0x456]⟩,
  ⟨0x1E04D, 0x1E04D, .spelled [0x458]⟩, ⟨0x1E04E, 0x1E04E, .spelled [0x4E9]⟩,
  ⟨0x1E04F, 0x1E04F, .spelled [0x4AF]⟩, ⟨0x1E050, 0x1E050, .spelled [0x4CF]⟩,
  ⟨0x1E051, 0x1E059, .moved 0x430⟩, ⟨0x1E05A, 0x1E05B, .moved 0x43A⟩,
  ⟨0x1E05C, 0x1E05D, .moved 0x43E⟩, ⟨0x1E05E, 0x1E05E, .spelled [0x441]⟩,
  ⟨0x1E05F, 0x1E064, .moved 0x443⟩, ⟨0x1E065, 0x1E066, .moved 0x44A⟩,
  ⟨0x1E067, 0x1E067, .spelled [0x491]⟩, ⟨0x1E068, 0x1E068, .spelled [0x456]⟩,
  ⟨0x1E069, 0x1E069, .spelled [0x455]⟩, ⟨0x1E06A, 0x1E06A, .spelled [0x45F]⟩,
  ⟨0x1E06B, 0x1E06B, .spelled [0x4AB]⟩, ⟨0x1E06C, 0x1E06C, .spelled [0xA651]⟩,
  ⟨0x1E06D, 0x1E06D, .spelled [0x4B1]⟩, ⟨0x1E08F, 0x1E08F, .spelled []⟩,
  ⟨0x1E130, 0x1E136, .spelled []⟩, ⟨0x1E2AE, 0x1E2AE, .spelled []⟩, ⟨0x1E2EC, 0x1E2EF, .spelled []⟩,
  ⟨0x1E4EC, 0x1E4EF, .spelled []⟩, ⟨0x1E5EE, 0x1E5EF, .spelled []⟩, ⟨0x1E6E3, 0x1E6E3, .spelled []⟩,
  ⟨0x1E6E6, 0x1E6E6, .spelled []⟩, ⟨0x1E6EE, 0x1E6EF, .spelled []⟩, ⟨0x1E6F5, 0x1E6F5, .spelled []⟩,
  ⟨0x1E8D0, 0x1E8D6, .spelled []⟩, ⟨0x1E900, 0x1E921, .moved 0x1E922⟩,
  ⟨0x1E944, 0x1E94A, .spelled []⟩, ⟨0x1EE00, 0x1EE01, .moved 0x627⟩,
  ⟨0x1EE02, 0x1EE02, .spelled [0x62C]⟩, ⟨0x1EE03, 0x1EE03, .spelled [0x62F]⟩,
  ⟨0x1EE05, 0x1EE05, .spelled [0x648]⟩, ⟨0x1EE06, 0x1EE06, .spelled [0x632]⟩,
  ⟨0x1EE07, 0x1EE07, .spelled [0x62D]⟩, ⟨0x1EE08, 0x1EE08, .spelled [0x637]⟩,
  ⟨0x1EE09, 0x1EE09, .spelled [0x64A]⟩, ⟨0x1EE0A, 0x1EE0D, .moved 0x643⟩,
  ⟨0x1EE0E, 0x1EE0E, .spelled [0x633]⟩, ⟨0x1EE0F, 0x1EE0F, .spelled [0x639]⟩,
  ⟨0x1EE10, 0x1EE10, .spelled [0x641]⟩, ⟨0x1EE11, 0x1EE11, .spelled [0x635]⟩,
  ⟨0x1EE12, 0x1EE12, .spelled [0x642]⟩, ⟨0x1EE13, 0x1EE13, .spelled [0x631]⟩,
  ⟨0x1EE14, 0x1EE14, .spelled [0x634]⟩, ⟨0x1EE15, 0x1EE16, .moved 0x62A⟩,
  ⟨0x1EE17, 0x1EE17, .spelled [0x62E]⟩, ⟨0x1EE18, 0x1EE18, .spelled [0x630]⟩,
  ⟨0x1EE19, 0x1EE19, .spelled [0x636]⟩, ⟨0x1EE1A, 0x1EE1A, .spelled [0x638]⟩,
  ⟨0x1EE1B, 0x1EE1B, .spelled [0x63A]⟩, ⟨0x1EE1C, 0x1EE1C, .spelled [0x66E]⟩,
  ⟨0x1EE1D, 0x1EE1D, .spelled [0x6BA]⟩, ⟨0x1EE1E, 0x1EE1E, .spelled [0x6A1]⟩,
  ⟨0x1EE1F, 0x1EE1F, .spelled [0x66F]⟩, ⟨0x1EE21, 0x1EE21, .spelled [0x628]⟩,
  ⟨0x1EE22, 0x1EE22, .spelled [0x62C]⟩, ⟨0x1EE24, 0x1EE24, .spelled [0x647]⟩,
  ⟨0x1EE27, 0x1EE27, .spelled [0x62D]⟩, ⟨0x1EE29, 0x1EE29, .spelled [0x64A]⟩,
  ⟨0x1EE2A, 0x1EE2D, .moved 0x643⟩, ⟨0x1EE2E, 0x1EE2E, .spelled [0x633]⟩,
  ⟨0x1EE2F, 0x1EE2F, .spelled [0x639]⟩, ⟨0x1EE30, 0x1EE30, .spelled [0x641]⟩,
  ⟨0x1EE31, 0x1EE31, .spelled [0x635]⟩, ⟨0x1EE32, 0x1EE32, .spelled [0x642]⟩,
  ⟨0x1EE34, 0x1EE34, .spelled [0x634]⟩, ⟨0x1EE35, 0x1EE36, .moved 0x62A⟩,
  ⟨0x1EE37, 0x1EE37, .spelled [0x62E]⟩, ⟨0x1EE39, 0x1EE39, .spelled [0x636]⟩,
  ⟨0x1EE3B, 0x1EE3B, .spelled [0x63A]⟩, ⟨0x1EE42, 0x1EE42, .spelled [0x62C]⟩,
  ⟨0x1EE47, 0x1EE47, .spelled [0x62D]⟩, ⟨0x1EE49, 0x1EE49, .spelled [0x64A]⟩,
  ⟨0x1EE4B, 0x1EE4B, .spelled [0x644]⟩, ⟨0x1EE4D, 0x1EE4D, .spelled [0x646]⟩,
  ⟨0x1EE4E, 0x1EE4E, .spelled [0x633]⟩, ⟨0x1EE4F, 0x1EE4F, .spelled [0x639]⟩,
  ⟨0x1EE51, 0x1EE51, .spelled [0x635]⟩, ⟨0x1EE52, 0x1EE52, .spelled [0x642]⟩,
  ⟨0x1EE54, 0x1EE54, .spelled [0x634]⟩, ⟨0x1EE57, 0x1EE57, .spelled [0x62E]⟩,
  ⟨0x1EE59, 0x1EE59, .spelled [0x636]⟩, ⟨0x1EE5B, 0x1EE5B, .spelled [0x63A]⟩,
  ⟨0x1EE5D, 0x1EE5D, .spelled [0x6BA]⟩, ⟨0x1EE5F, 0x1EE5F, .spelled [0x66F]⟩,
  ⟨0x1EE61, 0x1EE61, .spelled [0x628]⟩, ⟨0x1EE62, 0x1EE62, .spelled [0x62C]⟩,
  ⟨0x1EE64, 0x1EE64, .spelled [0x647]⟩, ⟨0x1EE67, 0x1EE67, .spelled [0x62D]⟩,
  ⟨0x1EE68, 0x1EE68, .spelled [0x637]⟩, ⟨0x1EE69, 0x1EE69, .spelled [0x64A]⟩,
  ⟨0x1EE6A, 0x1EE6A, .spelled [0x643]⟩, ⟨0x1EE6C, 0x1EE6D, .moved 0x645⟩,
  ⟨0x1EE6E, 0x1EE6E, .spelled [0x633]⟩, ⟨0x1EE6F, 0x1EE6F, .spelled [0x639]⟩,
  ⟨0x1EE70, 0x1EE70, .spelled [0x641]⟩, ⟨0x1EE71, 0x1EE71, .spelled [0x635]⟩,
  ⟨0x1EE72, 0x1EE72, .spelled [0x642]⟩, ⟨0x1EE74, 0x1EE74, .spelled [0x634]⟩,
  ⟨0x1EE75, 0x1EE76, .moved 0x62A⟩, ⟨0x1EE77, 0x1EE77, .spelled [0x62E]⟩,
  ⟨0x1EE79, 0x1EE79, .spelled [0x636]⟩, ⟨0x1EE7A, 0x1EE7A, .spelled [0x638]⟩,
  ⟨0x1EE7B, 0x1EE7B, .spelled [0x63A]⟩, ⟨0x1EE7C, 0x1EE7C, .spelled [0x66E]⟩,
  ⟨0x1EE7E, 0x1EE7E, .spelled [0x6A1]⟩, ⟨0x1EE80, 0x1EE81, .moved 0x627⟩,
  ⟨0x1EE82, 0x1EE82, .spelled [0x62C]⟩, ⟨0x1EE83, 0x1EE83, .spelled [0x62F]⟩,
  ⟨0x1EE84, 0x1EE85, .moved 0x647⟩, ⟨0x1EE86, 0x1EE86, .spelled [0x632]⟩,
  ⟨0x1EE87, 0x1EE87, .spelled [0x62D]⟩, ⟨0x1EE88, 0x1EE88, .spelled [0x637]⟩,
  ⟨0x1EE89, 0x1EE89, .spelled [0x64A]⟩, ⟨0x1EE8B, 0x1EE8D, .moved 0x644⟩,
  ⟨0x1EE8E, 0x1EE8E, .spelled [0x633]⟩, ⟨0x1EE8F, 0x1EE8F, .spelled [0x639]⟩,
  ⟨0x1EE90, 0x1EE90, .spelled [0x641]⟩, ⟨0x1EE91, 0x1EE91, .spelled [0x635]⟩,
  ⟨0x1EE92, 0x1EE92, .spelled [0x642]⟩, ⟨0x1EE93, 0x1EE93, .spelled [0x631]⟩,
  ⟨0x1EE94, 0x1EE94, .spelled [0x634]⟩, ⟨0x1EE95, 0x1EE96, .moved 0x62A⟩,
  ⟨0x1EE97, 0x1EE97, .spelled [0x62E]⟩, ⟨0x1EE98, 0x1EE98, .spelled [0x630]⟩,
  ⟨0x1EE99, 0x1EE99, .spelled [0x636]⟩, ⟨0x1EE9A, 0x1EE9A, .spelled [0x638]⟩,
  ⟨0x1EE9B, 0x1EE9B, .spelled [0x63A]⟩, ⟨0x1EEA1, 0x1EEA1, .spelled [0x628]⟩,
  ⟨0x1EEA2, 0x1EEA2, .spelled [0x62C]⟩, ⟨0x1EEA3, 0x1EEA3, .spelled [0x62F]⟩,
  ⟨0x1EEA5, 0x1EEA5, .spelled [0x648]⟩, ⟨0x1EEA6, 0x1EEA6, .spelled [0x632]⟩,
  ⟨0x1EEA7, 0x1EEA7, .spelled [0x62D]⟩, ⟨0x1EEA8, 0x1EEA8, .spelled [0x637]⟩,
  ⟨0x1EEA9, 0x1EEA9, .spelled [0x64A]⟩, ⟨0x1EEAB, 0x1EEAD, .moved 0x644⟩,
  ⟨0x1EEAE, 0x1EEAE, .spelled [0x633]⟩, ⟨0x1EEAF, 0x1EEAF, .spelled [0x639]⟩,
  ⟨0x1EEB0, 0x1EEB0, .spelled [0x641]⟩, ⟨0x1EEB1, 0x1EEB1, .spelled [0x635]⟩,
  ⟨0x1EEB2, 0x1EEB2, .spelled [0x642]⟩, ⟨0x1EEB3, 0x1EEB3, .spelled [0x631]⟩,
  ⟨0x1EEB4, 0x1EEB4, .spelled [0x634]⟩, ⟨0x1EEB5, 0x1EEB6, .moved 0x62A⟩,
  ⟨0x1EEB7, 0x1EEB7, .spelled [0x62E]⟩, ⟨0x1EEB8, 0x1EEB8, .spelled [0x630]⟩,
  ⟨0x1EEB9, 0x1EEB9, .spelled [0x636]⟩, ⟨0x1EEBA, 0x1EEBA, .spelled [0x638]⟩,
  ⟨0x1EEBB, 0x1EEBB, .spelled [0x63A]⟩, ⟨0x1F100, 0x1F100, .spelled [0x30, 0x2E]⟩,
  ⟨0x1F101, 0x1F101, .spelled [0x30, 0x2C]⟩, ⟨0x1F102, 0x1F102, .spelled [0x31, 0x2C]⟩,
  ⟨0x1F103, 0x1F103, .spelled [0x32, 0x2C]⟩, ⟨0x1F104, 0x1F104, .spelled [0x33, 0x2C]⟩,
  ⟨0x1F105, 0x1F105, .spelled [0x34, 0x2C]⟩, ⟨0x1F106, 0x1F106, .spelled [0x35, 0x2C]⟩,
  ⟨0x1F107, 0x1F107, .spelled [0x36, 0x2C]⟩, ⟨0x1F108, 0x1F108, .spelled [0x37, 0x2C]⟩,
  ⟨0x1F109, 0x1F109, .spelled [0x38, 0x2C]⟩, ⟨0x1F10A, 0x1F10A, .spelled [0x39, 0x2C]⟩,
  ⟨0x1F110, 0x1F110, .spelled [0x28, 0x61, 0x29]⟩, ⟨0x1F111, 0x1F111, .spelled [0x28, 0x62, 0x29]⟩,
  ⟨0x1F112, 0x1F112, .spelled [0x28, 0x63, 0x29]⟩, ⟨0x1F113, 0x1F113, .spelled [0x28, 0x64, 0x29]⟩,
  ⟨0x1F114, 0x1F114, .spelled [0x28, 0x65, 0x29]⟩, ⟨0x1F115, 0x1F115, .spelled [0x28, 0x66, 0x29]⟩,
  ⟨0x1F116, 0x1F116, .spelled [0x28, 0x67, 0x29]⟩, ⟨0x1F117, 0x1F117, .spelled [0x28, 0x68, 0x29]⟩,
  ⟨0x1F118, 0x1F118, .spelled [0x28, 0x69, 0x29]⟩, ⟨0x1F119, 0x1F119, .spelled [0x28, 0x6A, 0x29]⟩,
  ⟨0x1F11A, 0x1F11A, .spelled [0x28, 0x6B, 0x29]⟩, ⟨0x1F11B, 0x1F11B, .spelled [0x28, 0x6C, 0x29]⟩,
  ⟨0x1F11C, 0x1F11C, .spelled [0x28, 0x6D, 0x29]⟩, ⟨0x1F11D, 0x1F11D, .spelled [0x28, 0x6E, 0x29]⟩,
  ⟨0x1F11E, 0x1F11E, .spelled [0x28, 0x6F, 0x29]⟩, ⟨0x1F11F, 0x1F11F, .spelled [0x28, 0x70, 0x29]⟩,
  ⟨0x1F120, 0x1F120, .spelled [0x28, 0x71, 0x29]⟩, ⟨0x1F121, 0x1F121, .spelled [0x28, 0x72, 0x29]⟩,
  ⟨0x1F122, 0x1F122, .spelled [0x28, 0x73, 0x29]⟩, ⟨0x1F123, 0x1F123, .spelled [0x28, 0x74, 0x29]⟩,
  ⟨0x1F124, 0x1F124, .spelled [0x28, 0x75, 0x29]⟩, ⟨0x1F125, 0x1F125, .spelled [0x28, 0x76, 0x29]⟩,
  ⟨0x1F126, 0x1F126, .spelled [0x28, 0x77, 0x29]⟩, ⟨0x1F127, 0x1F127, .spelled [0x28, 0x78, 0x29]⟩,
  ⟨0x1F128, 0x1F128, .spelled [0x28, 0x79, 0x29]⟩, ⟨0x1F129, 0x1F129, .spelled [0x28, 0x7A, 0x29]⟩,
  ⟨0x1F12A, 0x1F12A, .spelled [0x3014, 0x73, 0x3015]⟩, ⟨0x1F12B, 0x1F12B, .spelled [0x63]⟩,
  ⟨0x1F12C, 0x1F12C, .spelled [0x72]⟩, ⟨0x1F12D, 0x1F12D, .spelled [0x63, 0x64]⟩,
  ⟨0x1F12E, 0x1F12E, .spelled [0x77, 0x7A]⟩, ⟨0x1F130, 0x1F149, .moved 0x61⟩,
  ⟨0x1F14A, 0x1F14A, .spelled [0x68, 0x76]⟩, ⟨0x1F14B, 0x1F14B, .spelled [0x6D, 0x76]⟩,
  ⟨0x1F14C, 0x1F14C, .spelled [0x73, 0x64]⟩, ⟨0x1F14D, 0x1F14D, .spelled [0x73, 0x73]⟩,
  ⟨0x1F14E, 0x1F14E, .spelled [0x70, 0x70, 0x76]⟩, ⟨0x1F14F, 0x1F14F, .spelled [0x77, 0x63]⟩,
  ⟨0x1F16A, 0x1F16A, .spelled [0x6D, 0x63]⟩, ⟨0x1F16B, 0x1F16B, .spelled [0x6D, 0x64]⟩,
  ⟨0x1F16C, 0x1F16C, .spelled [0x6D, 0x72]⟩, ⟨0x1F190, 0x1F190, .spelled [0x64, 0x6A]⟩,
  ⟨0x1F200, 0x1F200, .spelled [0x307B, 0x304B]⟩, ⟨0x1F201, 0x1F201, .spelled [0x30B3, 0x30B3]⟩,
  ⟨0x1F202, 0x1F202, .spelled [0x30B5]⟩, ⟨0x1F210, 0x1F210, .spelled [0x624B]⟩,
  ⟨0x1F211, 0x1F211, .spelled [0x5B57]⟩, ⟨0x1F212, 0x1F212, .spelled [0x53CC]⟩,
  ⟨0x1F213, 0x1F213, .spelled [0x30C6]⟩, ⟨0x1F214, 0x1F214, .spelled [0x4E8C]⟩,
  ⟨0x1F215, 0x1F215, .spelled [0x591A]⟩, ⟨0x1F216, 0x1F216, .spelled [0x89E3]⟩,
  ⟨0x1F217, 0x1F217, .spelled [0x5929]⟩, ⟨0x1F218, 0x1F218, .spelled [0x4EA4]⟩,
  ⟨0x1F219, 0x1F219, .spelled [0x6620]⟩, ⟨0x1F21A, 0x1F21A, .spelled [0x7121]⟩,
  ⟨0x1F21B, 0x1F21B, .spelled [0x6599]⟩, ⟨0x1F21C, 0x1F21C, .spelled [0x524D]⟩,
  ⟨0x1F21D, 0x1F21D, .spelled [0x5F8C]⟩]

private def supplementaryRows3 : List (CodeRange Folding) := [
  ⟨0x1F21E, 0x1F21E, .spelled [0x518D]⟩, ⟨0x1F21F, 0x1F21F, .spelled [0x65B0]⟩,
  ⟨0x1F220, 0x1F220, .spelled [0x521D]⟩, ⟨0x1F221, 0x1F221, .spelled [0x7D42]⟩,
  ⟨0x1F222, 0x1F222, .spelled [0x751F]⟩, ⟨0x1F223, 0x1F223, .spelled [0x8CA9]⟩,
  ⟨0x1F224, 0x1F224, .spelled [0x58F0]⟩, ⟨0x1F225, 0x1F225, .spelled [0x5439]⟩,
  ⟨0x1F226, 0x1F226, .spelled [0x6F14]⟩, ⟨0x1F227, 0x1F227, .spelled [0x6295]⟩,
  ⟨0x1F228, 0x1F228, .spelled [0x6355]⟩, ⟨0x1F229, 0x1F229, .spelled [0x4E00]⟩,
  ⟨0x1F22A, 0x1F22A, .spelled [0x4E09]⟩, ⟨0x1F22B, 0x1F22B, .spelled [0x904A]⟩,
  ⟨0x1F22C, 0x1F22C, .spelled [0x5DE6]⟩, ⟨0x1F22D, 0x1F22D, .spelled [0x4E2D]⟩,
  ⟨0x1F22E, 0x1F22E, .spelled [0x53F3]⟩, ⟨0x1F22F, 0x1F22F, .spelled [0x6307]⟩,
  ⟨0x1F230, 0x1F230, .spelled [0x8D70]⟩, ⟨0x1F231, 0x1F231, .spelled [0x6253]⟩,
  ⟨0x1F232, 0x1F232, .spelled [0x7981]⟩, ⟨0x1F233, 0x1F233, .spelled [0x7A7A]⟩,
  ⟨0x1F234, 0x1F234, .spelled [0x5408]⟩, ⟨0x1F235, 0x1F235, .spelled [0x6E80]⟩,
  ⟨0x1F236, 0x1F236, .spelled [0x6709]⟩, ⟨0x1F237, 0x1F237, .spelled [0x6708]⟩,
  ⟨0x1F238, 0x1F238, .spelled [0x7533]⟩, ⟨0x1F239, 0x1F239, .spelled [0x5272]⟩,
  ⟨0x1F23A, 0x1F23A, .spelled [0x55B6]⟩, ⟨0x1F23B, 0x1F23B, .spelled [0x914D]⟩,
  ⟨0x1F240, 0x1F240, .spelled [0x3014, 0x672C, 0x3015]⟩,
  ⟨0x1F241, 0x1F241, .spelled [0x3014, 0x4E09, 0x3015]⟩,
  ⟨0x1F242, 0x1F242, .spelled [0x3014, 0x4E8C, 0x3015]⟩,
  ⟨0x1F243, 0x1F243, .spelled [0x3014, 0x5B89, 0x3015]⟩,
  ⟨0x1F244, 0x1F244, .spelled [0x3014, 0x70B9, 0x3015]⟩,
  ⟨0x1F245, 0x1F245, .spelled [0x3014, 0x6253, 0x3015]⟩,
  ⟨0x1F246, 0x1F246, .spelled [0x3014, 0x76D7, 0x3015]⟩,
  ⟨0x1F247, 0x1F247, .spelled [0x3014, 0x52DD, 0x3015]⟩,
  ⟨0x1F248, 0x1F248, .spelled [0x3014, 0x6557, 0x3015]⟩, ⟨0x1F250, 0x1F250, .spelled [0x5F97]⟩,
  ⟨0x1F251, 0x1F251, .spelled [0x53EF]⟩, ⟨0x1FBF0, 0x1FBF9, .moved 0x30⟩]

def supplementary : List (CodeRange Folding) :=
  supplementaryRows1 ++ supplementaryRows2 ++ supplementaryRows3

end TenantSearch.Text.Folding
