import TenantSearch.Text.Fold.Rule

/-! Folded forms of Unicode 17.0: phonetic extensions and the precomposed Latin and Greek letters.
A character without a row stands for itself. -/
namespace TenantSearch.Text.Folding

def extended : List (CodeRange Folding) := [
  ⟨0x1D2C, 0x1D2C, .spelled [0x61]⟩, ⟨0x1D2D, 0x1D2D, .spelled [0xE6]⟩,
  ⟨0x1D2E, 0x1D2E, .spelled [0x62]⟩, ⟨0x1D30, 0x1D31, .moved 0x64⟩,
  ⟨0x1D32, 0x1D32, .spelled [0x1DD]⟩, ⟨0x1D33, 0x1D3A, .moved 0x67⟩,
  ⟨0x1D3C, 0x1D3C, .spelled [0x6F]⟩, ⟨0x1D3D, 0x1D3D, .spelled [0x223]⟩,
  ⟨0x1D3E, 0x1D3E, .spelled [0x70]⟩, ⟨0x1D3F, 0x1D3F, .spelled [0x72]⟩,
  ⟨0x1D40, 0x1D41, .moved 0x74⟩, ⟨0x1D42, 0x1D42, .spelled [0x77]⟩,
  ⟨0x1D43, 0x1D43, .spelled [0x61]⟩, ⟨0x1D44, 0x1D45, .moved 0x250⟩,
  ⟨0x1D46, 0x1D46, .spelled [0x1D02]⟩, ⟨0x1D47, 0x1D47, .spelled [0x62]⟩,
  ⟨0x1D48, 0x1D49, .moved 0x64⟩, ⟨0x1D4A, 0x1D4A, .spelled [0x259]⟩, ⟨0x1D4B, 0x1D4C, .moved 0x25B⟩,
  ⟨0x1D4D, 0x1D4D, .spelled [0x67]⟩, ⟨0x1D4F, 0x1D4F, .spelled [0x6B]⟩,
  ⟨0x1D50, 0x1D50, .spelled [0x6D]⟩, ⟨0x1D51, 0x1D51, .spelled [0x14B]⟩,
  ⟨0x1D52, 0x1D52, .spelled [0x6F]⟩, ⟨0x1D53, 0x1D53, .spelled [0x254]⟩,
  ⟨0x1D54, 0x1D55, .moved 0x1D16⟩, ⟨0x1D56, 0x1D56, .spelled [0x70]⟩, ⟨0x1D57, 0x1D58, .moved 0x74⟩,
  ⟨0x1D59, 0x1D59, .spelled [0x1D1D]⟩, ⟨0x1D5A, 0x1D5A, .spelled [0x26F]⟩,
  ⟨0x1D5B, 0x1D5B, .spelled [0x76]⟩, ⟨0x1D5C, 0x1D5C, .spelled [0x1D25]⟩,
  ⟨0x1D5D, 0x1D5F, .moved 0x3B2⟩, ⟨0x1D60, 0x1D61, .moved 0x3C6⟩, ⟨0x1D62, 0x1D62, .spelled [0x69]⟩,
  ⟨0x1D63, 0x1D63, .spelled [0x72]⟩, ⟨0x1D64, 0x1D65, .moved 0x75⟩, ⟨0x1D66, 0x1D67, .moved 0x3B2⟩,
  ⟨0x1D68, 0x1D68, .spelled [0x3C1]⟩, ⟨0x1D69, 0x1D6A, .moved 0x3C6⟩,
  ⟨0x1D78, 0x1D78, .spelled [0x43D]⟩, ⟨0x1D9B, 0x1D9B, .spelled [0x252]⟩,
  ⟨0x1D9C, 0x1D9C, .spelled [0x63]⟩, ⟨0x1D9D, 0x1D9D, .spelled [0x255]⟩,
  ⟨0x1D9E, 0x1D9E, .spelled [0xF0]⟩, ⟨0x1D9F, 0x1D9F, .spelled [0x25C]⟩,
  ⟨0x1DA0, 0x1DA0, .spelled [0x66]⟩, ⟨0x1DA1, 0x1DA1, .spelled [0x25F]⟩,
  ⟨0x1DA2, 0x1DA2, .spelled [0x261]⟩, ⟨0x1DA3, 0x1DA3, .spelled [0x265]⟩,
  ⟨0x1DA4, 0x1DA6, .moved 0x268⟩, ⟨0x1DA7, 0x1DA7, .spelled [0x1D7B]⟩,
  ⟨0x1DA8, 0x1DA8, .spelled [0x29D]⟩, ⟨0x1DA9, 0x1DA9, .spelled [0x26D]⟩,
  ⟨0x1DAA, 0x1DAA, .spelled [0x1D85]⟩, ⟨0x1DAB, 0x1DAB, .spelled [0x29F]⟩,
  ⟨0x1DAC, 0x1DAC, .spelled [0x271]⟩, ⟨0x1DAD, 0x1DAD, .spelled [0x270]⟩,
  ⟨0x1DAE, 0x1DB1, .moved 0x272⟩, ⟨0x1DB2, 0x1DB2, .spelled [0x278]⟩,
  ⟨0x1DB3, 0x1DB4, .moved 0x282⟩, ⟨0x1DB5, 0x1DB5, .spelled [0x1AB]⟩,
  ⟨0x1DB6, 0x1DB7, .moved 0x289⟩, ⟨0x1DB8, 0x1DB8, .spelled [0x1D1C]⟩,
  ⟨0x1DB9, 0x1DBA, .moved 0x28B⟩, ⟨0x1DBB, 0x1DBB, .spelled [0x7A]⟩, ⟨0x1DBC, 0x1DBE, .moved 0x290⟩,
  ⟨0x1DBF, 0x1DBF, .spelled [0x3B8]⟩, ⟨0x1DC0, 0x1DFF, .spelled []⟩,
  ⟨0x1E00, 0x1E01, .spelled [0x61]⟩, ⟨0x1E02, 0x1E07, .spelled [0x62]⟩,
  ⟨0x1E08, 0x1E09, .spelled [0x63]⟩, ⟨0x1E0A, 0x1E13, .spelled [0x64]⟩,
  ⟨0x1E14, 0x1E1D, .spelled [0x65]⟩, ⟨0x1E1E, 0x1E1F, .spelled [0x66]⟩,
  ⟨0x1E20, 0x1E21, .spelled [0x67]⟩, ⟨0x1E22, 0x1E2B, .spelled [0x68]⟩,
  ⟨0x1E2C, 0x1E2F, .spelled [0x69]⟩, ⟨0x1E30, 0x1E35, .spelled [0x6B]⟩,
  ⟨0x1E36, 0x1E3D, .spelled [0x6C]⟩, ⟨0x1E3E, 0x1E43, .spelled [0x6D]⟩,
  ⟨0x1E44, 0x1E4B, .spelled [0x6E]⟩, ⟨0x1E4C, 0x1E53, .spelled [0x6F]⟩,
  ⟨0x1E54, 0x1E57, .spelled [0x70]⟩, ⟨0x1E58, 0x1E5F, .spelled [0x72]⟩,
  ⟨0x1E60, 0x1E69, .spelled [0x73]⟩, ⟨0x1E6A, 0x1E71, .spelled [0x74]⟩,
  ⟨0x1E72, 0x1E7B, .spelled [0x75]⟩, ⟨0x1E7C, 0x1E7F, .spelled [0x76]⟩,
  ⟨0x1E80, 0x1E89, .spelled [0x77]⟩, ⟨0x1E8A, 0x1E8D, .spelled [0x78]⟩,
  ⟨0x1E8E, 0x1E8F, .spelled [0x79]⟩, ⟨0x1E90, 0x1E95, .spelled [0x7A]⟩,
  ⟨0x1E96, 0x1E96, .spelled [0x68]⟩, ⟨0x1E97, 0x1E97, .spelled [0x74]⟩,
  ⟨0x1E98, 0x1E98, .spelled [0x77]⟩, ⟨0x1E99, 0x1E99, .spelled [0x79]⟩,
  ⟨0x1E9A, 0x1E9A, .spelled [0x61, 0x2BE]⟩, ⟨0x1E9B, 0x1E9B, .spelled [0x73]⟩,
  ⟨0x1E9E, 0x1E9E, .spelled [0xDF]⟩, ⟨0x1EA0, 0x1EB7, .spelled [0x61]⟩,
  ⟨0x1EB8, 0x1EC7, .spelled [0x65]⟩, ⟨0x1EC8, 0x1ECB, .spelled [0x69]⟩,
  ⟨0x1ECC, 0x1EE3, .spelled [0x6F]⟩, ⟨0x1EE4, 0x1EF1, .spelled [0x75]⟩,
  ⟨0x1EF2, 0x1EF9, .spelled [0x79]⟩, ⟨0x1EFA, 0x1EFA, .spelled [0x1EFB]⟩,
  ⟨0x1EFC, 0x1EFC, .spelled [0x1EFD]⟩, ⟨0x1EFE, 0x1EFE, .spelled [0x1EFF]⟩,
  ⟨0x1F00, 0x1F0F, .spelled [0x3B1]⟩, ⟨0x1F10, 0x1F15, .spelled [0x3B5]⟩,
  ⟨0x1F18, 0x1F1D, .spelled [0x3B5]⟩, ⟨0x1F20, 0x1F2F, .spelled [0x3B7]⟩,
  ⟨0x1F30, 0x1F3F, .spelled [0x3B9]⟩, ⟨0x1F40, 0x1F45, .spelled [0x3BF]⟩,
  ⟨0x1F48, 0x1F4D, .spelled [0x3BF]⟩, ⟨0x1F50, 0x1F57, .spelled [0x3C5]⟩,
  ⟨0x1F59, 0x1F59, .spelled [0x3C5]⟩, ⟨0x1F5B, 0x1F5B, .spelled [0x3C5]⟩,
  ⟨0x1F5D, 0x1F5D, .spelled [0x3C5]⟩, ⟨0x1F5F, 0x1F5F, .spelled [0x3C5]⟩,
  ⟨0x1F60, 0x1F6F, .spelled [0x3C9]⟩, ⟨0x1F70, 0x1F71, .spelled [0x3B1]⟩,
  ⟨0x1F72, 0x1F73, .spelled [0x3B5]⟩, ⟨0x1F74, 0x1F75, .spelled [0x3B7]⟩,
  ⟨0x1F76, 0x1F77, .spelled [0x3B9]⟩, ⟨0x1F78, 0x1F79, .spelled [0x3BF]⟩,
  ⟨0x1F7A, 0x1F7B, .spelled [0x3C5]⟩, ⟨0x1F7C, 0x1F7D, .spelled [0x3C9]⟩,
  ⟨0x1F80, 0x1F8F, .spelled [0x3B1]⟩, ⟨0x1F90, 0x1F9F, .spelled [0x3B7]⟩,
  ⟨0x1FA0, 0x1FAF, .spelled [0x3C9]⟩, ⟨0x1FB0, 0x1FB4, .spelled [0x3B1]⟩,
  ⟨0x1FB6, 0x1FBC, .spelled [0x3B1]⟩, ⟨0x1FBD, 0x1FBD, .spelled [0x20]⟩,
  ⟨0x1FBE, 0x1FBE, .spelled [0x3B9]⟩, ⟨0x1FBF, 0x1FC1, .spelled [0x20]⟩,
  ⟨0x1FC2, 0x1FC4, .spelled [0x3B7]⟩, ⟨0x1FC6, 0x1FC7, .spelled [0x3B7]⟩,
  ⟨0x1FC8, 0x1FC9, .spelled [0x3B5]⟩, ⟨0x1FCA, 0x1FCC, .spelled [0x3B7]⟩,
  ⟨0x1FCD, 0x1FCF, .spelled [0x20]⟩, ⟨0x1FD0, 0x1FD3, .spelled [0x3B9]⟩,
  ⟨0x1FD6, 0x1FDB, .spelled [0x3B9]⟩, ⟨0x1FDD, 0x1FDF, .spelled [0x20]⟩,
  ⟨0x1FE0, 0x1FE3, .spelled [0x3C5]⟩, ⟨0x1FE4, 0x1FE5, .spelled [0x3C1]⟩,
  ⟨0x1FE6, 0x1FEB, .spelled [0x3C5]⟩, ⟨0x1FEC, 0x1FEC, .spelled [0x3C1]⟩,
  ⟨0x1FED, 0x1FEE, .spelled [0x20]⟩, ⟨0x1FEF, 0x1FEF, .spelled [0x60]⟩,
  ⟨0x1FF2, 0x1FF4, .spelled [0x3C9]⟩, ⟨0x1FF6, 0x1FF7, .spelled [0x3C9]⟩,
  ⟨0x1FF8, 0x1FF9, .spelled [0x3BF]⟩, ⟨0x1FFA, 0x1FFC, .spelled [0x3C9]⟩,
  ⟨0x1FFD, 0x1FFE, .spelled [0x20]⟩]

end TenantSearch.Text.Folding
