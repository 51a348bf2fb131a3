import TenantSearch.Text.Fold.Rule

/-! Folded forms of Unicode 17.0: combining marks, Greek, Cyrillic, Armenian, Hebrew and Arabic.
A character without a row stands for itself. -/
namespace TenantSearch.Text.Folding

def alphabets : List (CodeRange Folding) := [
  ⟨0x300, 0x36F, .spelled []⟩, ⟨0x370, 0x370, .spelled [0x371]⟩, ⟨0x372, 0x372, .spelled [0x373]⟩,
  ⟨0x374, 0x374, .spelled [0x2B9]⟩, ⟨0x376, 0x376, .spelled [0x377]⟩,
  ⟨0x37A, 0x37A, .spelled [0x20]⟩, ⟨0x37E, 0x37E, .spelled [0x3B]⟩,
  ⟨0x37F, 0x37F, .spelled [0x3F3]⟩, ⟨0x384, 0x385, .spelled [0x20]⟩,
  ⟨0x386, 0x386, .spelled [0x3B1]⟩, ⟨0x387, 0x387, .spelled [0xB7]⟩,
  ⟨0x388, 0x388, .spelled [0x3B5]⟩, ⟨0x389, 0x389, .spelled [0x3B7]⟩,
  ⟨0x38A, 0x38A, .spelled [0x3B9]⟩, ⟨0x38C, 0x38C, .spelled [0x3BF]⟩,
  ⟨0x38E, 0x38E, .spelled [0x3C5]⟩, ⟨0x38F, 0x38F, .spelled [0x3C9]⟩,
  ⟨0x390, 0x390, .spelled [0x3B9]⟩, ⟨0x391, 0x3A1, .moved 0x3B1⟩, ⟨0x3A3, 0x3A9, .moved 0x3C3⟩,
  ⟨0x3AA, 0x3AA, .spelled [0x3B9]⟩, ⟨0x3AB, 0x3AB, .spelled [0x3C5]⟩,
  ⟨0x3AC, 0x3AC, .spelled [0x3B1]⟩, ⟨0x3AD, 0x3AD, .spelled [0x3B5]⟩,
  ⟨0x3AE, 0x3AE, .spelled [0x3B7]⟩, ⟨0x3AF, 0x3AF, .spelled [0x3B9]⟩,
  ⟨0x3B0, 0x3B0, .spelled [0x3C5]⟩, ⟨0x3CA, 0x3CA, .spelled [0x3B9]⟩,
  ⟨0x3CB, 0x3CB, .spelled [0x3C5]⟩, ⟨0x3CC, 0x3CC, .spelled [0x3BF]⟩,
  ⟨0x3CD, 0x3CD, .spelled [0x3C5]⟩, ⟨0x3CE, 0x3CE, .spelled [0x3C9]⟩,
  ⟨0x3CF, 0x3CF, .spelled [0x3D7]⟩, ⟨0x3D0, 0x3D0, .spelled [0x3B2]⟩,
  ⟨0x3D1, 0x3D1, .spelled [0x3B8]⟩, ⟨0x3D2, 0x3D4, .spelled [0x3C5]⟩,
  ⟨0x3D5, 0x3D5, .spelled [0x3C6]⟩, ⟨0x3D6, 0x3D6, .spelled [0x3C0]⟩,
  ⟨0x3D8, 0x3D8, .spelled [0x3D9]⟩, ⟨0x3DA, 0x3DA, .spelled [0x3DB]⟩,
  ⟨0x3DC, 0x3DC, .spelled [0x3DD]⟩, ⟨0x3DE, 0x3DE, .spelled [0x3DF]⟩,
  ⟨0x3E0, 0x3E0, .spelled [0x3E1]⟩, ⟨0x3E2, 0x3E2, .spelled [0x3E3]⟩,
  ⟨0x3E4, 0x3E4, .spelled [0x3E5]⟩, ⟨0x3E6, 0x3E6, .spelled [0x3E7]⟩,
  ⟨0x3E8, 0x3E8, .spelled [0x3E9]⟩, ⟨0x3EA, 0x3EA, .spelled [0x3EB]⟩,
  ⟨0x3EC, 0x3EC, .spelled [0x3ED]⟩, ⟨0x3EE, 0x3EE, .spelled [0x3EF]⟩,
  ⟨0x3F0, 0x3F0, .spelled [0x3BA]⟩, ⟨0x3F1, 0x3F2, .moved 0x3C1⟩, ⟨0x3F4, 0x3F4, .spelled [0x3B8]⟩,
  ⟨0x3F5, 0x3F5, .spelled [0x3B5]⟩, ⟨0x3F7, 0x3F7, .spelled [0x3F8]⟩,
  ⟨0x3F9, 0x3F9, .spelled [0x3C3]⟩, ⟨0x3FA, 0x3FA, .spelled [0x3FB]⟩, ⟨0x3FD, 0x3FF, .moved 0x37B⟩,
  ⟨0x400, 0x401, .spelled [0x435]⟩, ⟨0x402, 0x402, .spelled [0x452]⟩,
  ⟨0x403, 0x403, .spelled [0x433]⟩, ⟨0x404, 0x406, .moved 0x454⟩, ⟨0x407, 0x407, .spelled [0x456]⟩,
  ⟨0x408, 0x40B, .moved 0x458⟩, ⟨0x40C, 0x40C, .spelled [0x43A]⟩, ⟨0x40D, 0x40D, .spelled [0x438]⟩,
  ⟨0x40E, 0x40E, .spelled [0x443]⟩, ⟨0x40F, 0x40F, .spelled [0x45F]⟩, ⟨0x410, 0x418, .moved 0x430⟩,
  ⟨0x419, 0x419, .spelled [0x438]⟩, ⟨0x41A, 0x42F, .moved 0x43A⟩, ⟨0x439, 0x439, .spelled [0x438]⟩,
  ⟨0x450, 0x451, .spelled [0x435]⟩, ⟨0x453, 0x453, .spelled [0x433]⟩,
  ⟨0x457, 0x457, .spelled [0x456]⟩, ⟨0x45C, 0x45C, .spelled [0x43A]⟩,
  ⟨0x45D, 0x45D, .spelled [0x438]⟩, ⟨0x45E, 0x45E, .spelled [0x443]⟩,
  ⟨0x460, 0x460, .spelled [0x461]⟩, ⟨0x462, 0x462, .spelled [0x463]⟩,
  ⟨0x464, 0x464, .spelled [0x465]⟩, ⟨0x466, 0x466, .spelled [0x467]⟩,
  ⟨0x468, 0x468, .spelled [0x469]⟩, ⟨0x46A, 0x46A, .spelled [0x46B]⟩,
  ⟨0x46C, 0x46C, .spelled [0x46D]⟩, ⟨0x46E, 0x46E, .spelled [0x46F]⟩,
  ⟨0x470, 0x470, .spelled [0x471]⟩, ⟨0x472, 0x472, .spelled [0x473]⟩,
  ⟨0x474, 0x474, .spelled [0x475]⟩, ⟨0x476, 0x477, .spelled [0x475]⟩,
  ⟨0x478, 0x478, .spelled [0x479]⟩, ⟨0x47A, 0x47A, .spelled [0x47B]⟩,
  ⟨0x47C, 0x47C, .spelled [0x47D]⟩, ⟨0x47E, 0x47E, .spelled [0x47F]⟩,
  ⟨0x480, 0x480, .spelled [0x481]⟩, ⟨0x483, 0x489, .spelled []⟩, ⟨0x48A, 0x48A, .spelled [0x48B]⟩,
  ⟨0x48C, 0x48C, .spelled [0x48D]⟩, ⟨0x48E, 0x48E, .spelled [0x48F]⟩,
  ⟨0x490, 0x490, .spelled [0x491]⟩, ⟨0x492, 0x492, .spelled [0x493]⟩,
  ⟨0x494, 0x494, .spelled [0x495]⟩, ⟨0x496, 0x496, .spelled [0x497]⟩,
  ⟨0x498, 0x498, .spelled [0x499]⟩, ⟨0x49A, 0x49A, .spelled [0x49B]⟩,
  ⟨0x49C, 0x49C, .spelled [0x49D]⟩, ⟨0x49E, 0x49E, .spelled [0x49F]⟩,
  ⟨0x4A0, 0x4A0, .spelled [0x4A1]⟩, ⟨0x4A2, 0x4A2, .spelled [0x4A3]⟩,
  ⟨0x4A4, 0x4A4, .spelled [0x4A5]⟩, ⟨0x4A6, 0x4A6, .spelled [0x4A7]⟩,
  ⟨0x4A8, 0x4A8, .spelled [0x4A9]⟩, ⟨0x4AA, 0x4AA, .spelled [0x4AB]⟩,
  ⟨0x4AC, 0x4AC, .spelled [0x4AD]⟩, ⟨0x4AE, 0x4AE, .spelled [0x4AF]⟩,
  ⟨0x4B0, 0x4B0, .spelled [0x4B1]⟩, ⟨0x4B2, 0x4B2, .spelled [0x4B3]⟩,
  ⟨0x4B4, 0x4B4, .spelled [0x4B5]⟩, ⟨0x4B6, 0x4B6, .spelled [0x4B7]⟩,
  ⟨0x4B8, 0x4B8, .spelled [0x4B9]⟩, ⟨0x4BA, 0x4BA, .spelled [0x4BB]⟩,
  ⟨0x4BC, 0x4BC, .spelled [0x4BD]⟩, ⟨0x4BE, 0x4BE, .spelled [0x4BF]⟩,
  ⟨0x4C0, 0x4C0, .spelled [0x4CF]⟩, ⟨0x4C1, 0x4C2, .spelled [0x436]⟩,
  ⟨0x4C3, 0x4C3, .spelled [0x4C4]⟩, ⟨0x4C5, 0x4C5, .spelled [0x4C6]⟩,
  ⟨0x4C7, 0x4C7, .spelled [0x4C8]⟩, ⟨0x4C9, 0x4C9, .spelled [0x4CA]⟩,
  ⟨0x4CB, 0x4CB, .spelled [0x4CC]⟩, ⟨0x4CD, 0x4CD, .spelled [0x4CE]⟩,
  ⟨0x4D0, 0x4D3, .spelled [0x430]⟩, ⟨0x4D4, 0x4D4, .spelled [0x4D5]⟩,
  ⟨0x4D6, 0x4D7, .spelled [0x435]⟩, ⟨0x4D8, 0x4D8, .spelled [0x4D9]⟩,
  ⟨0x4DA, 0x4DB, .spelled [0x4D9]⟩, ⟨0x4DC, 0x4DD, .spelled [0x436]⟩,
  ⟨0x4DE, 0x4DF, .spelled [0x437]⟩, ⟨0x4E0, 0x4E0, .spelled [0x4E1]⟩,
  ⟨0x4E2, 0x4E5, .spelled [0x438]⟩, ⟨0x4E6, 0x4E7, .spelled [0x43E]⟩,
  ⟨0x4E8, 0x4E8, .spelled [0x4E9]⟩, ⟨0x4EA, 0x4EB, .spelled [0x4E9]⟩,
  ⟨0x4EC, 0x4ED, .spelled [0x44D]⟩, ⟨0x4EE, 0x4F3, .spelled [0x443]⟩,
  ⟨0x4F4, 0x4F5, .spelled [0x447]⟩, ⟨0x4F6, 0x4F6, .spelled [0x4F7]⟩,
  ⟨0x4F8, 0x4F9, .spelled [0x44B]⟩, ⟨0x4FA, 0x4FA, .spelled [0x4FB]⟩,
  ⟨0x4FC, 0x4FC, .spelled [0x4FD]⟩, ⟨0x4FE, 0x4FE, .spelled [0x4FF]⟩,
  ⟨0x500, 0x500, .spelled [0x501]⟩, ⟨0x502, 0x502, .spelled [0x503]⟩,
  ⟨0x504, 0x504, .spelled [0x505]⟩, ⟨0x506, 0x506, .spelled [0x507]⟩,
  ⟨0x508, 0x508, .spelled [0x509]⟩, ⟨0x50A, 0x50A, .spelled [0x50B]⟩,
  ⟨0x50C, 0x50C, .spelled [0x50D]⟩, ⟨0x50E, 0x50E, .spelled [0x50F]⟩,
  ⟨0x510, 0x510, .spelled [0x511]⟩, ⟨0x512, 0x512, .spelled [0x513]⟩,
  ⟨0x514, 0x514, .spelled [0x515]⟩, ⟨0x516, 0x516, .spelled [0x517]⟩,
  ⟨0x518, 0x518, .spelled [0x519]⟩, ⟨0x51A, 0x51A, .spelled [0x51B]⟩,
  ⟨0x51C, 0x51C, .spelled [0x51D]⟩, ⟨0x51E, 0x51E, .spelled [0x51F]⟩,
  ⟨0x520, 0x520, .spelled [0x521]⟩, ⟨0x522, 0x522, .spelled [0x523]⟩,
  ⟨0x524, 0x524, .spelled [0x525]⟩, ⟨0x526, 0x526, .spelled [0x527]⟩,
  ⟨0x528, 0x528, .spelled [0x529]⟩, ⟨0x52A, 0x52A, .spelled [0x52B]⟩,
  ⟨0x52C, 0x52C, .spelled [0x52D]⟩, ⟨0x52E, 0x52E, .spelled [0x52F]⟩, ⟨0x531, 0x556, .moved 0x561⟩,
  ⟨0x587, 0x587, .spelled [0x565, 0x582]⟩, ⟨0x591, 0x5BD, .spelled []⟩, ⟨0x5BF, 0x5BF, .spelled []⟩,
  ⟨0x5C1, 0x5C2, .spelled []⟩, ⟨0x5C4, 0x5C5, .spelled []⟩, ⟨0x5C7, 0x5C7, .spelled []⟩,
  ⟨0x610, 0x61A, .spelled []⟩, ⟨0x622, 0x623, .spelled [0x627]⟩, ⟨0x624, 0x624, .spelled [0x648]⟩,
  ⟨0x625, 0x625, .spelled [0x627]⟩, ⟨0x626, 0x626, .spelled [0x64A]⟩, ⟨0x64B, 0x65F, .spelled []⟩,
  ⟨0x670, 0x670, .spelled []⟩, ⟨0x675, 0x675, .spelled [0x627, 0x674]⟩,
  ⟨0x676, 0x676, .spelled [0x648, 0x674]⟩, ⟨0x677, 0x677, .spelled [0x6C7, 0x674]⟩,
  ⟨0x678, 0x678, .spelled [0x64A, 0x674]⟩, ⟨0x6C0, 0x6C0, .spelled [0x6D5]⟩,
  ⟨0x6C2, 0x6C2, .spelled [0x6C1]⟩, ⟨0x6D3, 0x6D3, .spelled [0x6D2]⟩, ⟨0x6D6, 0x6DC, .spelled []⟩,
  ⟨0x6DF, 0x6E4, .spelled []⟩, ⟨0x6E7, 0x6E8, .spelled []⟩, ⟨0x6EA, 0x6ED, .spelled []⟩,
  ⟨0x711, 0x711, .spelled []⟩, ⟨0x730, 0x74A, .spelled []⟩, ⟨0x7A6, 0x7B0, .spelled []⟩,
  ⟨0x7EB, 0x7F3, .spelled []⟩, ⟨0x7FD, 0x7FD, .spelled []⟩, ⟨0x816, 0x819, .spelled []⟩,
  ⟨0x81B, 0x823, .spelled []⟩, ⟨0x825, 0x827, .spelled []⟩, ⟨0x829, 0x82D, .spelled []⟩,
  ⟨0x859, 0x85B, .spelled []⟩, ⟨0x897, 0x89F, .spelled []⟩, ⟨0x8CA, 0x8E1, .spelled []⟩,
  ⟨0x8E3, 0x903, .spelled []⟩]

end TenantSearch.Text.Folding
